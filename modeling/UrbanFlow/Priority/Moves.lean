import UrbanFlow.Priority.Controller

/-!
# What one tick of the priority controller can do

`Ticked` lists every way a tick can change the part of the controller that
drives the signal: the cursor, the pre-emption state, its goal and resume
phase, the hold and lockout times and the pre-emption count. `update_ticked`
says the list is complete, so every invariant is a case analysis over it.
-/

namespace UrbanFlow

open CarrySchedule CyclicOrder PhaseDriver

/-- The part of a controller that drives the signal. -/
structure SignalCore (plan : Plan) where
  base : PlanCursor plan
  state : PriorityState
  goal : Option plan.Idx
  resume : Option plan.Idx
  holdStarted : ℚ
  lockout : ℚ
  preemptionCount : Nat

namespace SignalCore

variable {plan : Plan}

/-- The phase shown. -/
def index (c : SignalCore plan) : plan.Idx := c.base.currentPhaseIdx

end SignalCore

namespace PriorityController

variable {plan : Plan}

section

variable (s : PriorityController plan)

/-- The signal core of a controller. -/
def core : SignalCore plan where
  base := s.base
  state := s.state
  goal := s.goal
  resume := s.resume
  holdStarted := s.holdStarted
  lockout := s.lockout
  preemptionCount := s.preemptionCount

/-- What `_after_step` recorded last: the phase seen and since when green has
been shown. -/
def recorded : plan.Idx × Option ℚ := (s.lastIdx, s.greenSince)

@[simp] theorem core_base : s.core.base = s.base := rfl

@[simp] theorem core_state : s.core.state = s.state := rfl

@[simp] theorem core_resume : s.core.resume = s.resume := rfl

@[simp] theorem core_index : s.core.index = s.index := rfl

end

section

variable (config : PreemptionConfig) (emergencies : List EmergencyView)
  (s : PriorityController plan)

@[simp] theorem core_collectServed : (collectServed config emergencies s).core = s.core := rfl

end

theorem core_afterStep (now : ℚ) (s : PriorityController plan) :
    (afterStep now s).core = s.core := by
  unfold afterStep
  split <;> rfl

end PriorityController

open PriorityController

variable {plan : Plan}

/-- Cursor moves of a tick in which the plan, or transit priority, decides: the
plan's own update, the same after shortening the green showing, or a green
frozen for a bus. -/
inductive OwnMove (dt : ℚ) (before : PlanCursor plan) : PlanCursor plan → Prop
  | planned : OwnMove dt before (advance dt plan.next before)
  | shortened (seconds : ℚ) (isGreen : plan.isGreen before.currentPhaseIdx = true) :
      OwnMove dt before (advance dt plan.next (skipAhead seconds before))
  | frozen (isGreen : plan.isGreen before.currentPhaseIdx = true) : OwnMove dt before before

/-- Tick effects of a pre-emption under way. `age` is the age of the green
showing. -/
inductive Branch
    (config : PreemptionConfig)
    (dt now age : ℚ)
    (c : SignalCore plan) : SignalCore plan → Prop
  /-- The green showing has not had its minimum yet: the plan runs on. -/
  | waitMinGreen (state : c.state = .clearingMinGreen) (isGreen : plan.isGreen c.index = true)
      (young : age < config.minGreenS) :
      Branch config dt now age c { c with
          base := advance dt plan.next c.base }
  /-- The green showing has had its minimum: jump to its clearance. -/
  | cutGreen (clearance : plan.Idx) (state : c.state = .clearingMinGreen)
      (isGreen : plan.isGreen c.index = true)
      (old : config.minGreenS ≤ age)
      (found : clearanceStart plan c.index = some clearance) :
      Branch config dt now age c { c with
          base := jump clearance c.base
          state := .clearing }
  /-- The plan has no clearance after the green showing: give up. -/
  | abort (base : PlanCursor plan) (state : c.state = .clearingMinGreen)
      (isGreen : plan.isGreen c.index = true)
      (missing : clearanceStart plan c.index = none)
      (move : OwnMove dt c.base base) :
      Branch config dt now age c { c with
          base := base
          state := .normal
          lockout := config.minRecoveryS }
  /-- The clearance runs on towards the goal. -/
  | clear (state : c.state = .clearing ∨ c.state = .clearingMinGreen ∧ plan.isGreen c.index = false)
      (onWay : some (advance dt (selectToward c.goal)
        c.base).currentPhaseIdx ≠ c.goal) :
      Branch config dt now age c { c with
          base := advance dt (selectToward c.goal) c.base
          state := .clearing }
  /-- The goal is reached. -/
  | arrive (state : c.state = .clearing ∨
        c.state = .clearingMinGreen ∧ plan.isGreen c.index = false)
      (arrived : some (advance dt (selectToward c.goal)
        c.base).currentPhaseIdx = c.goal) :
      Branch config dt now age c { c with
          base := advance dt (selectToward c.goal) c.base
          state := .hold
          holdStarted := now }
  /-- The hold goes on. -/
  | keepHold (state : c.state = .hold)
      (inTime : c.goal ≠ none → now - c.holdStarted < config.maxHoldS) :
      Branch config dt now age c c
  /-- The hold ends through the plan's clearance. -/
  | releaseHold (goal clearance : plan.Idx) (state : c.state = .hold) (isGoal : c.goal = some goal)
      (due : config.minGreenS ≤ age ∨ config.maxHoldS ≤ now - c.holdStarted)
      (found : clearanceStart plan goal = some clearance) :
      Branch config dt now age c { c with
          base := jump clearance c.base
          state := .recovering }
  /-- The hold ends and the plan has no clearance after the held green. -/
  | dropHold (goal : plan.Idx) (state : c.state = .hold) (isGoal : c.goal = some goal)
      (missing : clearanceStart plan goal = none) :
      Branch config dt now age c { c with
          state := .normal
          lockout := config.minRecoveryS }
  /-- The clearance after the hold runs on. -/
  | recover (state : c.state = .recovering)
      (onWay : plan.isGreen (advance dt (selectToward c.resume)
        c.base).currentPhaseIdx = false) :
      Branch config dt now age c { c with
          base := advance dt (selectToward c.resume) c.base }
  /-- A green shows again: the plan is restored. -/
  | restore (state : c.state = .recovering)
      (arrived : plan.isGreen (advance dt (selectToward c.resume)
        c.base).currentPhaseIdx = true) :
      Branch config dt now age c { c with
          base := advance dt (selectToward c.resume) c.base
          state := .normal
          lockout := config.minRecoveryS }

/-- The core right after `_begin`. -/
def SignalCore.begun (now : ℚ) (target : plan.Idx) (c : SignalCore plan) : SignalCore plan :=
  { c with
    preemptionCount := c.preemptionCount + 1
    resume := resumeTarget c.base target
    goal := some target
    state := if c.index = target then .hold else if plan.isGreen c.index then .clearingMinGreen
      else .clearing
    holdStarted := if c.index = target then now else c.holdStarted }

/-- Tick effects. -/
inductive Ticked
    (settings : PrioritySettings)
    (now age : ℚ)
    (emergencies : List EmergencyView)
    (c : SignalCore plan) : SignalCore plan → Prop
  /-- No pre-emption is under way and none begins. -/
  | idle (base : PlanCursor plan) (lockout : ℚ) (state : c.state = .normal)
      (move : OwnMove settings.dt c.base base)
      (waited : lockout = max 0 (c.lockout - settings.dt) ∧ 0 < c.lockout ∨
        lockout = c.lockout ∧ (c.lockout ≤ 0 ∨ ∀ config, settings.preemption = some config →
            config.enabled = false)) :
      Ticked settings now age emergencies c { c with base := base, lockout := lockout }
  /-- A pre-emption begins and takes its first step. -/
  | begins (config : PreemptionConfig) (ev : EmergencyView) (target : plan.Idx)
      (after : SignalCore plan)
      (configured : settings.preemption = some config)
      (enabled : config.enabled = true)
      (state : c.state = .normal)
      (unlocked : c.lockout ≤ 0)
      (requested : request config c.base emergencies = some (ev, target))
      (branch : Branch config settings.dt now age (c.begun now target) after) :
      Ticked settings now age emergencies c after
  /-- A pre-emption under way takes a step. -/
  | busy (config : PreemptionConfig) (after : SignalCore plan)
      (configured : settings.preemption = some config)
      (enabled : config.enabled = true)
      (state : c.state ≠ .normal)
      (branch : Branch config settings.dt now age c after) :
      Ticked settings now age emergencies c after

namespace PriorityController

/-- Outcomes of the transit step: it does nothing, freezes the green showing,
or shortens it and leaves the tick to the plan. -/
inductive TransitOutcome
    (s : PriorityController plan) : Bool × PriorityController plan → Prop
  | nothing (after : PriorityController plan) (same : after.core = s.core)
      (ages : after.recorded = s.recorded) :
      TransitOutcome s (false, after)
  | froze (after : PriorityController plan) (same : after.core = s.core)
      (ages : after.recorded = s.recorded)
      (isGreen : plan.isGreen s.index = true) :
      TransitOutcome s (true, after)
  | shortened (after : PriorityController plan) (seconds : ℚ) (same : after.core =
        { s.core with base := skipAhead seconds s.base })
      (ages : after.recorded = s.recorded)
      (isGreen : plan.isGreen s.index = true) :
      TransitOutcome s (false, after)

section

variable (config : TransitPriorityConfig)

theorem extendGreen_outcome (dt now eta : ℚ) (s : PriorityController plan)
    (isGreen : plan.isGreen s.index = true) :
    TransitOutcome s (extendGreen config dt now eta s) := by
  dsimp only [extendGreen]
  split
  · exact .froze _ rfl rfl isGreen
  · exact .nothing _ rfl rfl

theorem earlyGreen_outcome (now eta : ℚ) (bus : TransitView)
    (s : PriorityController plan) : TransitOutcome s (false, earlyGreen config now eta bus s) := by
  dsimp only [earlyGreen]
  split
  · exact .nothing _ rfl rfl
  · next open_ =>
      have isGreen : plan.isGreen s.index = true := by
        by_contra notGreen
        exact open_ (.inl (by simpa using notGreen))
      split
      · exact .nothing _ rfl rfl
      · split
        · exact .nothing _ rfl rfl
        · split
          · exact .nothing _ rfl rfl
          · split
            · exact .nothing _ rfl rfl
            · exact .shortened _ _ rfl rfl isGreen

end

section

variable (s : PriorityController plan)

@[simp] theorem core_keyPhase : s.keyPhase.core = s.core := by
  unfold keyPhase
  split <;> rfl

@[simp] theorem recorded_keyPhase : s.keyPhase.recorded = s.recorded := by
  unfold keyPhase
  split <;> rfl

@[simp] theorem base_keyPhase : s.keyPhase.base = s.base :=
  congrArg SignalCore.base (core_keyPhase s)

@[simp] theorem index_keyPhase : s.keyPhase.index = s.index := by rw [index, index, base_keyPhase]

end

theorem TransitOutcome.of_keyPhase {s : PriorityController plan}
    {outcome : Bool × PriorityController plan} (happened : TransitOutcome s.keyPhase outcome) :
    TransitOutcome s outcome := by
  cases happened with
  | nothing _ same ages => exact .nothing _ (by simpa using same) (by simpa using ages)
  | froze _ same ages isGreen =>
    exact .froze _ (by simpa using same) (by simpa using ages) (by simpa using isGreen)
  | shortened _ seconds same ages isGreen =>
    exact .shortened _ seconds (by simpa using same) (by simpa using ages) (by simpa using isGreen)

section

variable (config : Option TransitPriorityConfig) (dt now : ℚ) (buses : List TransitView)
  (s : PriorityController plan)

theorem transitStep_outcome : TransitOutcome s (transitStep config dt now buses s) := by
  unfold transitStep
  cases config with
  | none => exact .nothing _ rfl rfl
  | some =>
    dsimp only
    split
    · split
      · exact .nothing _ rfl rfl
      · apply TransitOutcome.of_keyPhase
        split
        · next served =>
            apply extendGreen_outcome
            rw [index_keyPhase]
            exact serves_isGreen served
        · apply earlyGreen_outcome
    · exact .nothing _ rfl rfl

/-- A tick left to transit priority and the plan moves the cursor as one of
them decides and leaves the rest of the core alone. -/
theorem handOver_transitStep : ∃ base, OwnMove dt s.base base ∧
      (handOver dt (transitStep config dt now buses s)).core = { s.core with base := base } ∧
      (handOver dt (transitStep config dt now buses s)).recorded = s.recorded := by
  have outcome := transitStep_outcome config dt now buses s
  generalize transitStep config dt now buses s = stepped at outcome
  cases outcome with
  | nothing after same ages =>
    refine ⟨_, .planned, ?_, ages⟩
    have sameBase : after.base = s.base := congrArg SignalCore.base same
    rw [← sameBase, ← same]
    rfl
  | froze _ same ages isGreen =>
    refine ⟨s.base, .frozen isGreen, ?_, ages⟩
    exact same
  | shortened after seconds same ages isGreen =>
    refine ⟨_, .shortened seconds isGreen, ?_, ages⟩
    have sameBase : after.base = skipAhead seconds s.base :=
      congrArg SignalCore.base same
    rw [← sameBase]
    have cores : after.core = { s.core with base := after.base } := by
      rw [sameBase]
      exact same
    rw [show (handOver dt (false, after)).core = { after.core with
        base := FixedTimeSignalController.update dt after.base } from rfl,
      cores]
    rfl

end

/-- Outcomes of the pre-emption branches: a tick effect, or giving up and
leaving the tick to the plan. -/
inductive BranchOutcome
    (config : PreemptionConfig)
    (dt now : ℚ)
    (s : PriorityController plan) : Bool × PriorityController plan → Prop
  | handled (after : PriorityController plan)
      (branch : Branch config dt now (s.greenAge now) s.core after.core)
      (ages : after.recorded = s.recorded) :
      BranchOutcome config dt now s (true, after)
  | aborted (after : PriorityController plan) (same : after.core =
        { s.core with state := .normal, lockout := config.minRecoveryS })
      (ages : after.recorded = s.recorded)
      (state : s.state = .clearingMinGreen)
      (isGreen : plan.isGreen s.index = true)
      (missing : clearanceStart plan s.index = none) :
      BranchOutcome config dt now s (false, after)

section

variable (config : PreemptionConfig)

theorem clearingStep_branch (dt now age : ℚ) (c : SignalCore plan) (s : PriorityController plan)
    (cores : s.core = { c with state := .clearing })
    (state : c.state = .clearing ∨ c.state = .clearingMinGreen ∧ plan.isGreen c.index = false) :
    Branch config dt now age c (clearingStep dt now s).core := by
  obtain ⟨_, _, _, _, _, _, _⟩ := c
  simp only [core, SignalCore.mk.injEq] at cores
  obtain ⟨rfl, isClearing, rfl, rfl, rfl, rfl, rfl⟩ := cores
  dsimp only [clearingStep]
  split
  · next arrived => exact .arrive state arrived
  · next onWay =>
      have cleared : Branch config dt now age _ _ := .clear state onWay
      simpa only [core, isClearing] using cleared

theorem clearingMinGreenStep_outcome (dt now : ℚ) (s : PriorityController plan)
    (state : s.state = .clearingMinGreen) :
    BranchOutcome config dt now s (clearingMinGreenStep config dt now s) := by
  unfold clearingMinGreenStep
  split
  · next isGreen =>
      split
      · next old =>
          split
          · next missing => exact .aborted _ rfl rfl state isGreen missing
          · next clearance found =>
              exact .handled _ (.cutGreen clearance state isGreen old found) rfl
      · next young => exact .handled _ (.waitMinGreen state isGreen (not_le.mp young)) rfl
  · next notGreen =>
      refine .handled _ (clearingStep_branch config dt now _ s.core _ rfl
        (.inr ⟨state, by simpa using notGreen⟩)) ?_
      dsimp only [clearingStep]
      split <;> rfl

theorem holdStep_branch (dt now : ℚ) (emergencies : List EmergencyView)
    (s : PriorityController plan) (state : s.state = .hold) :
    Branch config dt now (s.greenAge now) s.core (holdStep config now emergencies s).core := by
  unfold holdStep
  split
  · next missing => exact .keepHold state fun present => absurd missing present
  · next goal isGoal =>
      dsimp only
      split
      · next due =>
          dsimp only [release]
          split
          · next missing => exact .dropHold goal state isGoal missing
          · next clearance found =>
              exact .releaseHold goal clearance state isGoal (due.imp And.right id) found
      · next early =>
          refine .keepHold state fun _ => ?_
          exact not_le.mp fun late => early (.inr late)

theorem recoveringStep_branch (dt now age : ℚ) (s : PriorityController plan)
    (state : s.state = .recovering) :
    Branch config dt now age s.core (recoveringStep config dt now s).core := by
  dsimp only [recoveringStep]
  split
  · next arrived => exact .restore state arrived
  · next onWay => exact .recover state (eq_false_of_ne_true onWay)

theorem preemptionBranch_outcome (dt now : ℚ) (emergencies : List EmergencyView)
    (s : PriorityController plan) (state : s.state ≠ .normal) :
    BranchOutcome config dt now s (preemptionBranch config dt now emergencies s) := by
  unfold preemptionBranch
  split
  · next isNormal => exact absurd isNormal state
  · next isMinGreen =>
      have outcome := clearingMinGreenStep_outcome config dt now
        (collectServed config emergencies s) isMinGreen
      generalize clearingMinGreenStep config dt now
        (collectServed config emergencies s) = result at outcome ⊢
      cases outcome with
      | handled _ branch ages => exact .handled _ branch ages
      | aborted _ same ages _ isGreen missing =>
        exact .aborted _ same ages isMinGreen isGreen missing
  · next isClearing =>
      refine .handled _ (clearingStep_branch config dt now _ s.core _ ?_ (.inl isClearing)) ?_
      · rw [core_collectServed, ← isClearing]
        rfl
      · dsimp only [clearingStep]
        split <;> rfl
  · next isHold =>
      refine .handled _ (holdStep_branch config dt now emergencies
        (collectServed config emergencies s) isHold) ?_
      unfold holdStep release
      dsimp only
      repeat' split
      all_goals rfl
  · next isRecovering =>
      refine .handled _ (recoveringStep_branch config dt now _ s isRecovering) ?_
      dsimp only [recoveringStep]
      split <;> rfl

end

section

variable (now : ℚ) (ev : EmergencyView) (target : plan.Idx) (s : PriorityController plan)

theorem core_begin : (begin now ev target s).core = s.core.begun now target := by
  unfold begin SignalCore.begun
  rw [core_index]
  by_cases there : s.index = target
  · simp only [there, if_true]
    rfl
  · by_cases isGreen : plan.isGreen s.index = true
    · simp only [there, isGreen, if_true, if_false]
      rfl
    · simp only [there, isGreen, if_false]
      rfl

theorem recorded_begin : (begin now ev target s).recorded = s.recorded := by
  dsimp only [begin]
  split
  · rfl
  · split <;> rfl

end

end PriorityController

theorem SignalCore.begun_state (now : ℚ) (target : plan.Idx) (c : SignalCore plan) :
    (c.begun now target).state ≠ .normal := by
  dsimp only [begun]
  split
  · simp
  · split <;> simp

namespace PriorityController

/-- A tick that starts inside a pre-emption takes one branch, and a branch that
gives up leaves the cursor to transit priority and the plan. -/
theorem handOver_preemptionBranch (config : PreemptionConfig)
    (transit : Option TransitPriorityConfig) (dt now : ℚ) (emergencies : List EmergencyView)
    (buses : List TransitView) (s : PriorityController plan) (state : s.state ≠ .normal)
    (stepped : Bool × PriorityController plan)
    (isBranch : preemptionBranch config dt now emergencies s = stepped) :
    Branch config dt now (s.greenAge now) s.core (handOver dt
          (if stepped.1 = false ∧ stepped.2.state = .normal then
            transitStep transit dt now buses stepped.2 else stepped)).core ∧
      (handOver dt (if stepped.1 = false ∧ stepped.2.state = .normal then
            transitStep transit dt now buses stepped.2 else stepped)).recorded = s.recorded := by
  have outcome := preemptionBranch_outcome config dt now emergencies s state
  rw [isBranch] at outcome
  cases outcome with
  | handled _ branch ages =>
    simp only [Bool.true_eq_false, false_and, if_false]
    exact ⟨branch, ages⟩
  | aborted after same ages state isGreen missing =>
    have isNormal : after.state = .normal := congrArg SignalCore.state same
    have sameBase : after.base = s.base := congrArg SignalCore.base same
    simp only [isNormal, and_self, if_true]
    obtain ⟨base, move, cores, records⟩ := handOver_transitStep transit dt now buses after
    refine ⟨?_, records.trans ages⟩
    rw [cores, same]
    rw [sameBase] at move
    exact .abort base state isGreen missing move

theorem handOver_idle (settings : PrioritySettings) (now age : ℚ)
    (emergencies : List EmergencyView) (buses : List TransitView) (lockout : ℚ)
    (s : PriorityController plan) (state : s.state = .normal)
    (waited : lockout = max 0 (s.lockout - settings.dt) ∧ 0 < s.lockout ∨ lockout = s.lockout ∧
        (s.lockout ≤ 0 ∨ ∀ config, settings.preemption = some config → config.enabled = false)) :
    Ticked settings now age emergencies s.core
        (handOver settings.dt (transitStep settings.transit settings.dt now
          buses { s with lockout := lockout })).core ∧
      (handOver settings.dt (transitStep settings.transit settings.dt now
        buses { s with lockout := lockout })).recorded = s.recorded := by
  obtain ⟨base, move, cores, records⟩ := handOver_transitStep
    settings.transit settings.dt now buses { s with lockout := lockout }
  refine ⟨?_, records⟩
  rw [cores]
  exact .idle base lockout state move waited

theorem handOver_prioritySteps (settings : PrioritySettings) (now : ℚ) (tick : Tick)
    (s : PriorityController plan) (armed : s.state ≠ .normal →
      ∃ config, settings.preemption = some config ∧ config.enabled = true) :
    Ticked settings now (s.greenAge now)
        (tick.emergencies.filter fun ev => ev.state != .exited) s.core
        (handOver settings.dt (prioritySteps settings now tick s)).core ∧
      (handOver settings.dt (prioritySteps settings now tick s)).recorded = s.recorded := by
  unfold prioritySteps
  by_cases state : s.state = .normal
  · rw [if_pos state]
    generalize opens : ({ s with reason := .plan } : PriorityController plan) = opened
    have cores : opened.core = s.core := by rw [← opens]; rfl
    have records : opened.recorded = s.recorded := by rw [← opens]; rfl
    have ages : opened.greenAge now = s.greenAge now := by rw [← opens]; rfl
    have isNormal : opened.state = .normal := by rw [← opens]; exact state
    have idle : ∀ lockout, (lockout = max 0 (opened.lockout - settings.dt) ∧ 0 < opened.lockout ∨
          lockout = opened.lockout ∧ (opened.lockout ≤ 0 ∨
            ∀ config, settings.preemption = some config → config.enabled = false)) →
        _ :=
      fun lockout => handOver_idle settings now (opened.greenAge now)
        (tick.emergencies.filter fun ev => ev.state != .exited) tick.buses
        lockout opened isNormal
    rw [← cores, ← records, ← ages]
    dsimp only
    split
    · next missing =>
        rw [if_pos ⟨rfl, isNormal⟩]
        exact idle opened.lockout (.inr ⟨rfl, .inr (by simp [missing])⟩)
    · next config configured =>
        by_cases enabled : config.enabled = true
        · rw [if_pos enabled, preemptionStep, if_pos isNormal]
          by_cases locked : 0 < opened.lockout
          · rw [if_pos locked, if_pos ⟨rfl, isNormal⟩]
            exact idle _ (.inl ⟨rfl, locked⟩)
          · rw [if_neg locked]
            split
            · rw [if_pos ⟨rfl, isNormal⟩]
              exact idle opened.lockout (.inr ⟨rfl, .inl (not_lt.mp locked)⟩)
            · next ev target requested =>
                have began := core_begin now ev target opened
                have beganRecord := recorded_begin now ev target opened
                have beganAge : (begin now ev target opened).greenAge now =
                    opened.greenAge now := by
                  rw [greenAge, greenAge, (Prod.mk.inj beganRecord).2]
                obtain ⟨branch, recordsAfter⟩ := handOver_preemptionBranch
                  config settings.transit settings.dt now _ tick.buses
                  (begin now ev target opened)
                  (by
                    rw [← core_state, began]
                    exact SignalCore.begun_state now target opened.core)
                  _ rfl
                rw [began, beganAge] at branch
                exact ⟨.begins config ev target _ configured enabled isNormal
                  (not_lt.mp locked) requested branch,
                  recordsAfter.trans beganRecord⟩
        · rw [if_neg enabled]
          rw [if_pos ⟨rfl, isNormal⟩]
          refine idle opened.lockout (.inr ⟨rfl, .inr ?_⟩)
          intro other isOther
          rw [configured] at isOther
          cases isOther
          exact eq_false_of_ne_true enabled
  · obtain ⟨config, configured, enabled⟩ := armed state
    rw [if_neg state, configured]
    simp only [enabled, if_true]
    rw [preemptionStep, if_neg state]
    obtain ⟨branch, records⟩ := handOver_preemptionBranch config settings.transit settings.dt now
      (tick.emergencies.filter fun ev => ev.state != .exited) tick.buses s state
      _ rfl
    exact ⟨.busy config _ configured enabled state branch, records⟩

end PriorityController
end UrbanFlow
