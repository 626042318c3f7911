import UrbanFlow.Priority.CursorMoves

/-!
# What transit priority does in one tick

A tick either leaves the accounts of transit priority as they are, freezes the green
shown for one time step, or shortens it once. `TransitTick` lists these with the
guards the step has checked and what the tick does to the cursor.
-/

namespace UrbanFlow

open CarrySchedule CyclicOrder PhaseDriver

variable {plan : Plan}

namespace PriorityController

/-- The accounts of transit priority. -/
structure TransitLedger (plan : Plan) where
  key : Option (plan.Idx × Nat)
  extended : ℚ
  cutKey : Option (plan.Idx × Nat)
  lastAction : ℚ
  extensionTotal : ℚ
  earlyGreenTotal : ℚ

section

variable (s : PriorityController plan)

/-- The accounts of a controller. -/
def ledger : TransitLedger plan where
  key := s.tspKey
  extended := s.tspExtended
  cutKey := s.tspCutKey
  lastAction := s.tspLastAction
  extensionTotal := s.tspExtensionTotal
  earlyGreenTotal := s.tspEarlyGreenTotal

/-- The phase shown, and the cycle it is shown in. -/
def key : plan.Idx × Nat := (s.index, s.base.cycleNumber)

/-- How long the phase shown has been extended, as far as the accounts are about
it. -/
def extension : ℚ := if s.tspKey = some s.key then s.tspExtended else 0

end

/-- What a tick does to the cursor if transit priority does nothing to it. -/
inductive PlainMove
    (dt : ℚ)
    (before after : PriorityController plan) : Prop
  | frozen (same : after.base = before.base)
  | jumped (clearance : plan.Idx) (isGreen : plan.isGreen before.index = true)
      (notGreen : plan.isGreen clearance = false)
      (same : after.base = jump clearance before.base)
      (state : after.state = .clearing ∨ after.state = .recovering)
  | rolled (goal : Option plan.Idx) (goalGreen : ∀ idx, goal = some idx → plan.isGreen idx = true)
      (offGreen : goal ≠ none → plan.isGreen before.index = false)
      (same : after.base = advance dt (selectToward goal) before.base)

/-- The plan's own order is a move without transit priority. -/
theorem PlainMove.planned {dt : ℚ} {before after : PriorityController plan}
    (same : after.base = advance dt plan.next before.base) :
    PlainMove dt before after :=
  .rolled none nofun (fun present => absurd rfl present) same

/-- Only the cursors matter, and the state after the tick. -/
theorem PlainMove.of_same {dt : ℚ} {before other after : PriorityController plan}
    (move : PlainMove dt other after) (same : other.base = before.base) :
    PlainMove dt before after := by
  have sameIndex : other.index = before.index := by rw [index, same, index]
  cases move with
  | frozen isSame => exact .frozen (isSame.trans same)
  | jumped clearance isGreen notGreen isSame state =>
    exact .jumped clearance (sameIndex ▸ isGreen) notGreen (same ▸ isSame) state
  | rolled goal goalGreen offGreen isSame =>
    exact .rolled goal goalGreen (sameIndex ▸ offGreen) (same ▸ isSame)

/-- What a step of the pre-emption leaves: a tick that it has handled, or the cursor as
it was; the accounts of transit priority are not its own. -/
structure Preempted (dt : ℚ) (before : PriorityController plan)
    (stepped : Bool × PriorityController plan) : Prop where
  ledger : stepped.2.ledger = before.ledger
  handled : stepped.1 = true → PlainMove dt before stepped.2
  passed : stepped.1 = false → stepped.2.base = before.base ∧ stepped.2.state = .normal

section

variable {config : PreemptionConfig} {dt now : ℚ} {emergencies : List EmergencyView}
  {s : PriorityController plan}

section

variable (goalGreen : ∀ idx, s.goal = some idx → plan.isGreen idx = true)

include goalGreen

/-- A clearance under way rolls on towards the goal. -/
theorem clearingStep_plain (offGreen : plan.isGreen s.index = false) :
    PlainMove dt s (clearingStep dt now s) ∧ (clearingStep dt now s).ledger = s.ledger := by
  dsimp only [clearingStep]
  split
  · exact ⟨.rolled s.goal goalGreen (fun _ => offGreen) rfl, rfl⟩
  · exact ⟨.rolled s.goal goalGreen (fun _ => offGreen) rfl, rfl⟩

theorem clearingMinGreenStep_plain : Preempted dt s (clearingMinGreenStep config dt now s) := by
  unfold clearingMinGreenStep
  by_cases isGreen : plan.isGreen s.index = true
  · rw [if_pos isGreen]
    split
    · split
      · exact ⟨rfl, nofun, fun _ => ⟨rfl, rfl⟩⟩
      · next clearance found =>
          refine ⟨rfl, fun _ => ?_, nofun⟩
          exact .jumped clearance isGreen (clearanceStart_notGreen found) rfl (.inl rfl)
    · exact ⟨rfl, fun _ => .planned rfl, nofun⟩
  · rw [if_neg isGreen]
    have offGreen : plan.isGreen s.index = false := eq_false_of_ne_true isGreen
    have step : PlainMove dt { s with state := .clearing }
        (clearingStep dt now { s with state := .clearing }) ∧
          (clearingStep dt now { s with state := .clearing }).ledger = s.ledger :=
      clearingStep_plain goalGreen offGreen
    exact ⟨step.2, fun _ => step.1.of_same rfl, nofun⟩

/-- A hold freezes its green or ends it by its clearance. -/
theorem holdStep_plain (atGoal : s.goal = some s.index) :
    PlainMove dt s (holdStep config now emergencies s) ∧
      (holdStep config now emergencies s).ledger = s.ledger := by
  unfold holdStep
  rw [atGoal]
  dsimp only
  split
  · dsimp only [release]
    split
    · exact ⟨.frozen rfl, rfl⟩
    · next clearance found =>
        refine ⟨.jumped clearance (goalGreen _ atGoal)
          (clearanceStart_notGreen found) rfl (.inr rfl), rfl⟩
  · exact ⟨.frozen rfl, rfl⟩

end

theorem recoveringStep_plain (resumeGreen : ∀ idx, s.resume = some idx → plan.isGreen idx = true)
    (offGreen : plan.isGreen s.index = false) : PlainMove dt s (recoveringStep config dt now s) ∧
      (recoveringStep config dt now s).ledger = s.ledger := by
  dsimp only [recoveringStep]
  split
  · exact ⟨.rolled s.resume resumeGreen (fun _ => offGreen) rfl, rfl⟩
  · exact ⟨.rolled s.resume resumeGreen (fun _ => offGreen) rfl, rfl⟩

/-- A pre-emption under way does nothing for transit priority. -/
theorem preemptionBranch_plain (sound : s.core.Sound) :
    Preempted dt s (preemptionBranch config dt now emergencies s) := by
  have collected : (collectServed config emergencies s).core.Sound := sound
  unfold preemptionBranch
  split
  · next isNormal => exact ⟨rfl, nofun, fun _ => ⟨rfl, isNormal⟩⟩
  · next isMinGreen =>
      have step : Preempted dt (collectServed config emergencies s)
          (clearingMinGreenStep config dt now (collectServed config emergencies s)) :=
        clearingMinGreenStep_plain collected.goalGreen
      exact ⟨step.ledger, fun handled => (step.handled handled).of_same rfl, step.passed⟩
  · next isClearing =>
      have step : PlainMove dt (collectServed config emergencies s)
          (clearingStep dt now (collectServed config emergencies s)) ∧ _ :=
        clearingStep_plain collected.goalGreen (collected.offGreen (.inl isClearing))
      exact ⟨step.2, fun _ => step.1.of_same rfl, nofun⟩
  · next isHold =>
      have step : PlainMove dt (collectServed config emergencies s)
          (holdStep config now emergencies (collectServed config emergencies s)) ∧ _ :=
        holdStep_plain collected.goalGreen (collected.atGoal isHold)
      exact ⟨step.2, fun _ => step.1.of_same rfl, nofun⟩
  · next isRecovering =>
      have step : PlainMove dt s (recoveringStep config dt now s) ∧ _ :=
        recoveringStep_plain sound.resumeGreen (sound.offGreen (.inr isRecovering))
      exact ⟨step.2, fun _ => step.1, nofun⟩

/-- Beginning a pre-emption leaves the cursor and the accounts. -/
theorem begin_plain (ev : EmergencyView) (target : plan.Idx) :
    (begin now ev target s).base = s.base ∧ (begin now ev target s).ledger = s.ledger := by
  dsimp only [begin]
  split
  · exact ⟨rfl, rfl⟩
  · split
    · exact ⟨rfl, rfl⟩
    · exact ⟨rfl, rfl⟩

/-- The pre-emption does nothing for transit priority. -/
theorem preemptionStep_plain (sound : s.core.Sound) :
    Preempted dt s (preemptionStep config dt now emergencies s) := by
  unfold preemptionStep
  by_cases isNormal : s.state = .normal
  · rw [if_pos isNormal]
    split
    · exact ⟨rfl, nofun, fun _ => ⟨rfl, isNormal⟩⟩
    · split
      · exact ⟨rfl, nofun, fun _ => ⟨rfl, isNormal⟩⟩
      · next ev target requested =>
          have begins : (begin now ev target s).base = s.base ∧ _ := begin_plain ev target
          obtain ⟨sameBase, sameLedger⟩ := begins
          have begun : (begin now ev target s).core.Sound := by
            rw [core_begin]
            exact sound.begun now (request_isGreen requested)
          have step : Preempted dt (begin now ev target s)
              (preemptionBranch config dt now emergencies (begin now ev target s)) :=
            preemptionBranch_plain begun
          exact ⟨step.ledger.trans sameLedger,
            fun handled => (step.handled handled).of_same sameBase,
            fun passed => ⟨(step.passed passed).1.trans sameBase, (step.passed passed).2⟩⟩
  · rw [if_neg isNormal]
    exact preemptionBranch_plain sound

end

/-- What a tick does to the accounts of transit priority and to the cursor, with the
guards of an extension and of an early green. -/
inductive TransitTick
    (settings : PrioritySettings)
    (now : ℚ)
    (before after : PriorityController plan) : Prop
  /-- Transit priority does nothing, but may have looked at the phase. -/
  | quiet (ledger : after.ledger = before.ledger ∨ after.ledger =
        { before.ledger with key := some before.key, extended := before.extension })
      (move : PlainMove settings.dt before after)
  /-- The green shown is frozen for a bus. -/
  | extended (config : TransitPriorityConfig) (configured : settings.transit = some config)
      (isGreen : plan.isGreen before.index = true)
      (inBudget : before.extension < config.maxExtensionS)
      (spaced : 0 < before.extension ∨ config.minSpacingS ≤ now - before.tspLastAction)
      (ledger : after.ledger = { before.ledger with
          key := some before.key
          extended := before.extension + settings.dt
          lastAction := now
          extensionTotal := before.tspExtensionTotal + settings.dt })
      (same : after.base = before.base)
  /-- The green shown is shortened for a bus. -/
  | cuts (config : TransitPriorityConfig) (cut : ℚ) (configured : settings.transit = some config)
      (isGreen : plan.isGreen before.index = true)
      (isLong : 2 ≤ plan.phases.length)
      (uncut : before.tspCutKey ≠ some before.key)
      (spaced : config.minSpacingS ≤ now - before.tspLastAction)
      (inBudget : cut ≤ config.maxEarlyGreenS)
      (isEnough : 1 / 2 ≤ cut)
      (keeps : cut ≤ FixedTimeSignalController.phaseTimeRemaining before.base -
        max 0 (config.minGreenS - before.base.timeInCurrentState))
      (ledger : after.ledger = { before.ledger with
          key := some before.key
          extended := before.extension
          cutKey := some before.key
          lastAction := now
          earlyGreenTotal := before.tspEarlyGreenTotal + cut })
      (same : after.base = advance settings.dt plan.next
        (skipAhead cut before.base))

section

variable {settings : PrioritySettings} {now : ℚ} {s : PriorityController plan}

/-- A phase that has been looked at has its extension in the accounts. -/
theorem ledger_keyPhase (s : PriorityController plan) :
    s.keyPhase.ledger = { s.ledger with key := some s.key, extended := s.extension } := by
  unfold keyPhase extension
  by_cases isKey : s.tspKey = some s.key
  · have sameKey : s.tspKey = some (s.index, s.base.cycleNumber) := isKey
    rw [if_pos sameKey, if_pos isKey, ← isKey]
    rfl
  · have otherKey : ¬ s.tspKey = some (s.index, s.base.cycleNumber) := isKey
    rw [if_neg otherKey, if_neg isKey]
    rfl

section

variable (s : PriorityController plan)

@[simp] theorem tspKey_keyPhase : s.keyPhase.tspKey = some s.key :=
  congrArg TransitLedger.key (ledger_keyPhase s)

@[simp] theorem tspExtended_keyPhase : s.keyPhase.tspExtended = s.extension :=
  congrArg TransitLedger.extended (ledger_keyPhase s)

@[simp] theorem tspCutKey_keyPhase : s.keyPhase.tspCutKey = s.tspCutKey :=
  congrArg TransitLedger.cutKey (ledger_keyPhase s)

@[simp] theorem tspLastAction_keyPhase : s.keyPhase.tspLastAction = s.tspLastAction :=
  congrArg TransitLedger.lastAction (ledger_keyPhase s)

@[simp] theorem tspExtensionTotal_keyPhase : s.keyPhase.tspExtensionTotal = s.tspExtensionTotal :=
  congrArg TransitLedger.extensionTotal (ledger_keyPhase s)

@[simp] theorem tspEarlyGreenTotal_keyPhase :
    s.keyPhase.tspEarlyGreenTotal = s.tspEarlyGreenTotal :=
  congrArg TransitLedger.earlyGreenTotal (ledger_keyPhase s)

end

section

variable {config : TransitPriorityConfig} (configured : settings.transit = some config)

include configured

theorem extendGreen_tick (isGreen : plan.isGreen s.index = true) (eta : ℚ) :
    TransitTick settings now s
      (handOver settings.dt (extendGreen config settings.dt now eta s.keyPhase)) := by
  have sameBase := base_keyPhase s
  dsimp only [extendGreen]
  split
  · next guards =>
      obtain ⟨-, -, inBudget, spaced⟩ := guards
      rw [tspExtended_keyPhase] at inBudget spaced
      rw [tspLastAction_keyPhase] at spaced
      refine .extended config configured isGreen (by linarith) spaced ?_ sameBase
      simp only [handOver, if_true, ledger, tspKey_keyPhase, tspExtended_keyPhase,
        tspCutKey_keyPhase, tspExtensionTotal_keyPhase, tspEarlyGreenTotal_keyPhase]
  · refine .quiet (.inr (ledger_keyPhase s)) (.planned ?_)
    rw [advance_next, ← sameBase]
    rfl

theorem earlyGreen_tick (eta : ℚ) (bus : TransitView) : TransitTick settings now s
      (handOver settings.dt (false, earlyGreen config now eta bus s.keyPhase)) := by
  have sameBase := base_keyPhase s
  have nothing : TransitTick settings now s (handOver settings.dt (false, s.keyPhase)) := by
    refine .quiet (.inr (ledger_keyPhase s)) (.planned ?_)
    rw [advance_next, ← sameBase]
    rfl
  dsimp only [earlyGreen]
  split
  · exact nothing
  · next isOpen =>
      rw [not_or, not_or, not_lt] at isOpen
      obtain ⟨isGreen, uncut, spaced⟩ := isOpen
      split
      · exact nothing
      · split
        · exact nothing
        · next isNext =>
            rw [not_not, index_keyPhase] at isNext
            have isLong := two_le_of_nextGreen isNext
            split
            · exact nothing
            · split
              · exact nothing
              · next isEnough =>
                  rw [not_lt] at isEnough
                  rw [tspLastAction_keyPhase] at spaced
                  rw [tspCutKey_keyPhase, index_keyPhase, sameBase] at uncut
                  rw [index_keyPhase] at isGreen
                  refine .cuts config _ configured (by simpa using isGreen) isLong uncut
                    spaced ?_ isEnough ?_ ?_ ?_
                  · exact (min_le_left _ _).trans (min_le_left _ _)
                  · rw [sameBase]
                    exact (min_le_left _ _).trans (min_le_right _ _)
                  · simp only [handOver, Bool.false_eq_true, if_false, ledger,
                      tspKey_keyPhase, tspExtended_keyPhase,
                      tspExtensionTotal_keyPhase, tspEarlyGreenTotal_keyPhase,
                      index_keyPhase, sameBase, key]
                  · simp only [handOver, Bool.false_eq_true, if_false, sameBase,
                      advance_next]

end

theorem transitStep_tick (buses : List TransitView) :
    TransitTick settings now s (handOver settings.dt
        (transitStep settings.transit settings.dt now buses s)) := by
  have nothing : TransitTick settings now s (handOver settings.dt (false, s)) :=
    .quiet (.inl rfl) (.planned rfl)
  unfold transitStep
  cases configured : settings.transit with
  | none => exact nothing
  | some =>
    dsimp only
    split
    · split
      · exact nothing
      · split
        · next served => exact extendGreen_tick configured (serves_isGreen served) _
        · exact earlyGreen_tick configured _ _
    · exact nothing

/-- What transit priority does depends on the cursor and the accounts before. -/
theorem TransitTick.of_same {before other after : PriorityController plan}
    (tick : TransitTick settings now other after) (sameBase : other.base = before.base)
    (sameLedger : other.ledger = before.ledger) : TransitTick settings now before after := by
  have sameIndex : other.index = before.index := by rw [index, sameBase, index]
  have sameKey : other.key = before.key := by rw [key, sameIndex, sameBase, key]
  have sameExtension : other.extension = before.extension := by
    have isKey : other.tspKey = before.tspKey := congrArg TransitLedger.key sameLedger
    have isExtended : other.tspExtended = before.tspExtended :=
      congrArg TransitLedger.extended sameLedger
    rw [extension, isKey, isExtended, sameKey, extension]
  have sameCut : other.tspCutKey = before.tspCutKey := congrArg TransitLedger.cutKey sameLedger
  have sameAction : other.tspLastAction = before.tspLastAction :=
    congrArg TransitLedger.lastAction sameLedger
  have sameTotal : other.tspExtensionTotal = before.tspExtensionTotal :=
    congrArg TransitLedger.extensionTotal sameLedger
  have sameCuts : other.tspEarlyGreenTotal = before.tspEarlyGreenTotal :=
    congrArg TransitLedger.earlyGreenTotal sameLedger
  cases tick with
  | quiet ledger move =>
    rw [sameLedger, sameKey, sameExtension] at ledger
    exact .quiet ledger (move.of_same sameBase)
  | extended config configured isGreen inBudget spaced ledger same =>
    rw [sameExtension] at inBudget spaced
    rw [sameAction] at spaced
    rw [sameLedger, sameKey, sameExtension, sameTotal] at ledger
    exact .extended config configured (sameIndex ▸ isGreen) inBudget spaced ledger
      (same.trans sameBase)
  | cuts config cut configured isGreen isLong uncut spaced inBudget isEnough keeps ledger same =>
      rw [sameCut, sameKey] at uncut
      rw [sameAction] at spaced
      rw [sameBase] at keeps same
      rw [sameLedger, sameKey, sameExtension, sameCuts] at ledger
      exact .cuts config cut configured (sameIndex ▸ isGreen) isLong uncut spaced inBudget
        isEnough keeps ledger same

theorem TransitTick.afterStep {before after : PriorityController plan}
    (tick : TransitTick settings now before after) :
    TransitTick settings now before (PriorityController.afterStep now after) := by
  have sameCore := core_afterStep now after
  have sameBase : (PriorityController.afterStep now after).base = after.base :=
    congrArg SignalCore.base sameCore
  have sameState : (PriorityController.afterStep now after).state = after.state :=
    congrArg SignalCore.state sameCore
  have sameLedger : (PriorityController.afterStep now after).ledger = after.ledger := by
    unfold PriorityController.afterStep
    split <;> rfl
  cases tick with
  | quiet ledger move =>
    rw [← sameLedger] at ledger
    refine .quiet ledger ?_
    cases move with
    | frozen same => exact .frozen (sameBase.trans same)
    | jumped clearance isGreen notGreen same state =>
      exact .jumped clearance isGreen notGreen (sameBase.trans same) (sameState.symm ▸ state)
    | rolled goal goalGreen offGreen same =>
      exact .rolled goal goalGreen offGreen (sameBase.trans same)
  | extended config configured isGreen inBudget spaced ledger same =>
    exact .extended config configured isGreen inBudget spaced
      (sameLedger.trans ledger) (sameBase.trans same)
  | cuts config cut configured isGreen isLong uncut spaced inBudget isEnough keeps ledger same =>
      exact .cuts config cut configured isGreen isLong uncut spaced inBudget isEnough keeps
        (sameLedger.trans ledger) (sameBase.trans same)

/-- A tick that the pre-emption has handled or passed on. -/
theorem handOver_tick (buses : List TransitView) {stepped : Bool × PriorityController plan}
    (preempted : Preempted settings.dt s stepped) : TransitTick settings now s (handOver settings.dt
        (if stepped.1 = false ∧ stepped.2.state = .normal then
          transitStep settings.transit settings.dt now buses stepped.2 else stepped)) := by
  cases isHandled : stepped.1 with
  | false =>
    obtain ⟨passedBase, isNormal⟩ := preempted.passed isHandled
    rw [if_pos ⟨rfl, isNormal⟩]
    exact (transitStep_tick buses).of_same passedBase preempted.ledger
  | true =>
    have notPassed : ¬ (true = false ∧ stepped.2.state = .normal) := fun both => nomatch both.1
    rw [if_neg notPassed, handOver, if_pos isHandled]
    exact .quiet (.inl preempted.ledger) (preempted.handled isHandled)

/-- One tick does to the accounts and the cursor what `TransitTick` lists. -/
theorem update_transitTick (sound : s.Sound settings) (tick : Tick) :
    TransitTick settings now s (s.update settings now tick) := by
  apply TransitTick.afterStep
  unfold prioritySteps
  generalize isOpened : (if s.state = .normal then { s with reason := .plan } else s) = opened
  have sameCore : opened.core = s.core := by
    rw [← isOpened]
    split <;> rfl
  have sameLedger : opened.ledger = s.ledger := by
    rw [← isOpened]
    split <;> rfl
  have sameBase : opened.base = s.base := congrArg SignalCore.base sameCore
  have soundOpened : opened.core.Sound := sameCore ▸ sound.core
  have passes : (∀ config, settings.preemption = some config → config.enabled = false) →
      Preempted settings.dt opened (false, opened) := by
    intro unarmed
    refine ⟨rfl, nofun, fun _ => ⟨rfl, ?_⟩⟩
    by_contra busy
    have sameState : opened.state = s.state := congrArg SignalCore.state sameCore
    rw [sameState] at busy
    obtain ⟨config, configured, enabled⟩ := sound.armed busy
    rw [unarmed config configured] at enabled
    exact Bool.noConfusion enabled
  refine TransitTick.of_same ?_ sameBase sameLedger
  apply handOver_tick tick.buses
  cases configured : settings.preemption with
  | none => exact passes fun config isConfig => nomatch configured.symm.trans isConfig
  | some config =>
    dsimp only
    by_cases enabled : config.enabled = true
    · rw [if_pos enabled]
      exact preemptionStep_plain soundOpened
    · rw [if_neg enabled]
      refine passes fun other isOther => ?_
      cases configured.symm.trans isOther
      exact eq_false_of_ne_true enabled

end

end PriorityController
end UrbanFlow
