import UrbanFlow.Metering.Guard
import UrbanFlow.Metering.PlanShape

/-!
# Runs of the signalised roundabout

What one tick does to the cursor, the guard and the holds, and the budget of the
holds over whole runs.
-/

namespace UrbanFlow

open CarrySchedule CyclicOrder MeteringPhaseCursor

variable {plan : MeteringPlan}

namespace SpillbackGuard

/-- What the guard's loop keeps of one arm. -/
structure ArmRecord where
  cycleHoldTime : ℚ
  exhausted : Bool
  recorded : Bool
  held : Bool

/-- What the loop has made of an arm so far. -/
def armRecord (arm : Direction) (loop : SpillbackGuard × List Direction) : ArmRecord where
  cycleHoldTime := loop.1.cycleHoldTime arm
  exhausted := decide (arm ∈ loop.1.exhaustedArms)
  recorded := decide (arm ∈ loop.1.exhaustedThisTick)
  held := decide (arm ∈ loop.2)

section

variable (maxHold deltaTime : ℚ) (blocked : Prop) [Decidable blocked] (record : ArmRecord)

/-- What the loop's pass for an arm makes of its record. -/
def ArmRecord.pass : ArmRecord := if blocked then if 0 < max 0 (maxHold - record.cycleHoldTime) then
      { record with
        cycleHoldTime := record.cycleHoldTime +
          min deltaTime (max 0 (maxHold - record.cycleHoldTime))
        held := true }
    else
      { record with
        exhausted := true
        recorded := record.recorded || !record.exhausted }
  else record

/-- A pass holds a blocked arm with budget left, finds its budget used, or finds
it free. -/
theorem ArmRecord.pass_cases :
    (blocked ∧ record.cycleHoldTime < maxHold ∧ record.pass maxHold deltaTime blocked =
        { record with
          cycleHoldTime := record.cycleHoldTime + min deltaTime (maxHold - record.cycleHoldTime)
          held := true }) ∨
    (blocked ∧ maxHold ≤ record.cycleHoldTime ∧ record.pass maxHold deltaTime blocked =
        { record with
          exhausted := true
          recorded := record.recorded || !record.exhausted }) ∨
    (¬ blocked ∧ record.pass maxHold deltaTime blocked = record) := by
  unfold pass
  by_cases isBlocked : blocked
  · rw [if_pos isBlocked]
    rcases lt_or_ge record.cycleHoldTime maxHold with left | used
    · have positive : 0 < maxHold - record.cycleHoldTime := sub_pos.mpr left
      rw [max_eq_right positive.le, if_pos positive]
      exact .inl ⟨isBlocked, left, rfl⟩
    · rw [max_eq_left (sub_nonpos.mpr used), if_neg (lt_irrefl 0)]
      exact .inr (.inl ⟨isBlocked, used, rfl⟩)
  · rw [if_neg isBlocked]
    exact .inr (.inr ⟨isBlocked, rfl⟩)

end

theorem ArmRecord.exhausted_of_recorded {maxHold deltaTime : ℚ} {blocked : Prop}
    [Decidable blocked] {record : ArmRecord} (fresh : record.recorded = false)
    (recorded : (record.pass maxHold deltaTime blocked).recorded = true) :
    (record.pass maxHold deltaTime blocked).exhausted = true := by
  rcases record.pass_cases maxHold deltaTime blocked with
    ⟨_, _, passed⟩ | ⟨_, _, passed⟩ | ⟨_, passed⟩
  · rw [passed] at recorded
    exact absurd (fresh.symm.trans recorded) nofun
  · rw [passed]
  · rw [passed] at recorded
    exact absurd (fresh.symm.trans recorded) nofun

section

variable (cursor : MeteringPhaseCursor plan) (deltaTime : ℚ) (stopped : Direction → Nat)

section

variable (loop : SpillbackGuard × List Direction)

theorem armRecord_updateArm (arm : Direction) :
    armRecord arm (updateArm cursor deltaTime stopped loop arm) =
      (armRecord arm loop).pass plan.spillbackGuard.maxHold deltaTime
        (Blocked cursor stopped arm) := by
  unfold updateArm ArmRecord.pass remainingBudget
  dsimp only
  split
  · dsimp only [armRecord]
    split
    · next left =>
        simp only [hold, Function.update_self, left, if_true, List.mem_append,
          List.mem_singleton, or_true, decide_true]
        rfl
    · next used =>
        unfold exhaust
        split
        · next already => simp [already, used]
        · next fresh => simp [fresh, used]
  · rfl

theorem armRecord_updateArm_of_ne {arm other : Direction} (different : arm ≠ other) :
    armRecord arm (updateArm cursor deltaTime stopped loop other) = armRecord arm loop := by
  dsimp only [updateArm]
  split
  · split
    · simp only [armRecord, hold, ne_eq, different, not_false_eq_true,
        Function.update_of_ne, List.mem_append, List.mem_singleton, or_false]
      rfl
    · unfold exhaust
      split
      · rfl
      · simp [armRecord, different]
  · rfl

end

theorem armRecord_foldl (arm : Direction) {arms : List Direction} (nodup : arms.Nodup)
    (loop : SpillbackGuard × List Direction) :
    armRecord arm (arms.foldl (updateArm cursor deltaTime stopped) loop) = if arm ∈ arms then
        (armRecord arm loop).pass plan.spillbackGuard.maxHold deltaTime (Blocked cursor stopped arm)
      else armRecord arm loop := by
  induction arms generalizing loop with
  | nil => rfl
  | cons first _ ih =>
    obtain ⟨absent, rest⟩ := List.nodup_cons.mp nodup
    rw [List.foldl_cons, ih rest]
    by_cases isFirst : arm = first
    · obtain rfl := isFirst
      rw [if_neg absent, if_pos List.mem_cons_self, armRecord_updateArm]
    · rw [armRecord_updateArm_of_ne _ _ _ _ isFirst]
      simp [isFirst]

theorem foldl_lastCycleNumber (arms : List Direction) (loop : SpillbackGuard × List Direction) :
    (arms.foldl (updateArm cursor deltaTime stopped) loop).1.lastCycleNumber =
      loop.1.lastCycleNumber := by
  induction arms generalizing loop with
  | nil => rfl
  | cons _ _ ih =>
    rw [List.foldl_cons, ih]
    dsimp only [updateArm]
    split
    · split
      · rfl
      · unfold exhaust
        split <;> rfl
    · rfl

end

/-- An arm's record when the loop begins: its budget is back where the cycle
number has changed. -/
def freshRecord (cycleNumber : Nat) (arm : Direction) (guard : SpillbackGuard) : ArmRecord where
  cycleHoldTime := if cycleNumber = guard.lastCycleNumber then guard.cycleHoldTime arm else 0
  exhausted := decide (cycleNumber = guard.lastCycleNumber) && decide (arm ∈ guard.exhaustedArms)
  recorded := false
  held := false

section

variable (enabled : plan.spillbackGuard.enabled = true) (cursor : MeteringPhaseCursor plan)
  (deltaTime : ℚ) (stopped : Direction → Nat)

include enabled

theorem update_record {arm : Direction} (metered : arm ∈ plan.meteredEntries)
    (guard : SpillbackGuard) : armRecord arm (guard.update cursor deltaTime stopped) =
      (guard.freshRecord cursor.cycleNumber arm).pass
        plan.spillbackGuard.maxHold deltaTime (Blocked cursor stopped arm) := by
  have loop := armRecord_foldl cursor deltaTime stopped arm plan.meteredEntries_nodup
    (({ guard with exhaustedThisTick := [] } : SpillbackGuard).startCycle cursor.cycleNumber, [])
  rw [if_pos metered] at loop
  have start : armRecord arm (({ guard with exhaustedThisTick := [] } : SpillbackGuard).startCycle
        cursor.cycleNumber, []) =
      guard.freshRecord cursor.cycleNumber arm := by
    unfold startCycle armRecord freshRecord
    by_cases same : cursor.cycleNumber = guard.lastCycleNumber <;> simp [same]
  rw [← start, ← loop]
  simp only [update, enabled, if_true]
  rfl

theorem update_lastCycleNumber (guard : SpillbackGuard) :
    (guard.update cursor deltaTime stopped).1.lastCycleNumber = cursor.cycleNumber := by
  simp only [update, enabled, if_true]
  rw [foldl_lastCycleNumber]
  unfold startCycle
  split
  · rfl
  · next same => exact (not_not.mp same).symm

end

theorem update_idle (cursor : MeteringPhaseCursor plan) (deltaTime : ℚ)
    (stopped : Direction → Nat) {arm : Direction} (guard : SpillbackGuard)
    (idle : ¬ (plan.spillbackGuard.enabled = true ∧ arm ∈ plan.meteredEntries)) :
    (armRecord arm (guard.update cursor deltaTime stopped)).held = false ∧
      (armRecord arm (guard.update cursor deltaTime stopped)).recorded = false := by
  have loop := armRecord_foldl cursor deltaTime stopped arm plan.meteredEntries_nodup
    (({ guard with exhaustedThisTick := [] } : SpillbackGuard).startCycle cursor.cycleNumber, [])
  have start : (({ guard with exhaustedThisTick := [] } :
      SpillbackGuard).startCycle cursor.cycleNumber).exhaustedThisTick = [] := by
    unfold startCycle
    split <;> rfl
  unfold update
  by_cases enabled : plan.spillbackGuard.enabled = true
  · rw [if_neg fun metered => idle ⟨enabled, metered⟩] at loop
    simp only [enabled, if_true]
    have held := congrArg ArmRecord.held loop
    have recorded := congrArg ArmRecord.recorded loop
    constructor
    · exact held.trans (by simp [armRecord])
    · exact recorded.trans (by simp [armRecord, start])
  · simp [enabled, armRecord]

end SpillbackGuard

namespace QueueCap

/-- What the cap does to the cursor: nothing, or it ends a green that has had its
minimum, for the queue on a red arm. -/
inductive CapMove
    (standingQueue : Direction → Nat)
    (before after : MeteringPhaseCursor plan) : Option Direction → Prop
  | rests (unchanged : after = before) : CapMove standingQueue before after none
  | ends {arm : Direction} {spec : MeteredPhaseSpec} (enabled : plan.queueCap.enabled = true)
      (metered : arm ∈ plan.meteredEntries)
      (isRed : getColor arm before = .red)
      (queued : plan.queueCap.vehicles ≤ standingQueue arm)
      (isSpec : spec ∈ plan.specs)
      (isGreen : (currentPhase before).color = .green)
      (directions : (currentPhase before).directions = spec.entries)
      (minimum : spec.minGreen - 1 / 1000000 ≤ before.timeInCurrentState)
      (ended : after = next 0 before) :
      CapMove standingQueue before after (some arm)

section

variable {standingQueue : Direction → Nat}

theorem CapMove.cycleNumber_le {before after : MeteringPhaseCursor plan} {qcArm : Option Direction}
    (cap : CapMove standingQueue before after qcArm) : before.cycleNumber ≤ after.cycleNumber := by
  cases cap with
  | rests unchanged => exact (congrArg Cursor.cycleNumber unchanged).ge
  | ends _ _ _ _ _ _ _ _ ended =>
    apply le_trans (next_cycleNumber before)
    exact (congrArg Cursor.cycleNumber ended).ge

theorem mem_sortedEntries {arm : Direction} (member : arm ∈ sortedEntries plan) :
    arm ∈ plan.meteredEntries :=
  of_decide_eq_true (List.mem_filter.mp member).2

theorem checkArms_move {cursor : MeteringPhaseCursor plan} {spec : MeteredPhaseSpec}
    (enabled : plan.queueCap.enabled = true) (isSpec : spec ∈ plan.specs)
    (isGreen : (currentPhase cursor).color = .green)
    (directions : (currentPhase cursor).directions = spec.entries)
    (minimum : spec.minGreen - 1 / 1000000 ≤ cursor.timeInCurrentState) (triggers : Triggers)
    (arms : List Direction) (areMetered : ∀ arm ∈ arms, arm ∈ plan.meteredEntries) :
    CapMove standingQueue cursor (checkArms standingQueue cursor triggers arms).2.1
      (checkArms standingQueue cursor triggers arms).1 := by
  induction arms with
  | nil => exact .rests rfl
  | cons arm _ ih =>
    unfold checkArms
    split
    · next asks =>
        unfold endGreenEarly
        rw [if_pos isGreen]
        exact .ends enabled (areMetered arm List.mem_cons_self) asks.1 asks.2
          isSpec isGreen directions minimum rfl
    · apply ih
      intro other member
      exact areMetered other (List.mem_cons_of_mem _ member)

end

theorem checkAndTrigger_move (standingQueue : Direction → Nat) (cursor : MeteringPhaseCursor plan)
    (triggers : Triggers) :
    CapMove standingQueue cursor (checkAndTrigger standingQueue cursor triggers).2.1
      (checkAndTrigger standingQueue cursor triggers).1 := by
  unfold checkAndTrigger
  split
  · next enabled =>
      split
      · exact .rests rfl
      · next isGreen =>
          rw [not_not] at isGreen
          obtain ⟨spec, isCurrent, isSpec, isPhase⟩ := currentSpec_spec cursor
          rw [isCurrent]
          dsimp only
          split
          · exact .rests rfl
          · next minimum =>
              have directions : (currentPhase cursor).directions =
                    spec.entries := by
                cases isPhase with
                | green _ directions _ | yellow _ directions _ => exact directions
                | allRed color _ _ => exact nomatch color.symm.trans isGreen
              exact checkArms_move enabled isSpec isGreen directions
                (not_lt.mp minimum) triggers _ fun _ => mem_sortedEntries
  · exact .rests rfl

end QueueCap

namespace SignalisedRoundabout

variable {controller : SignalisedRoundabout plan} {observed : RingObservation}
  {advanced : MeteringPhaseCursor plan} {k : Nat}

/-- What a tick does: the cursor is advanced and perhaps capped, and the guard
decides the holds on what it shows then. -/
structure Ticked (deltaTime : ℚ) (observed : RingObservation)
    (before after : SignalisedRoundabout plan) (advanced : MeteringPhaseCursor plan) (k : Nat)
    (qcArm : Option Direction) : Prop where
  advance : Advanced deltaTime before.cursor advanced k
  cap : QueueCap.CapMove observed.standingQueue advanced after.cursor qcArm
  guard : (after.spillbackGuard, after.gate.spillbackHolds) =
    before.spillbackGuard.update after.cursor deltaTime observed.stoppedVehicles

theorem consult_holds (cursor : MeteringPhaseCursor plan) (now : ℚ) (gate : MeteredEntryGate)
    (consultations : List (Direction × EntryLane)) :
    (consult cursor now gate consultations).spillbackHolds = gate.spillbackHolds := by
  induction consultations generalizing gate with
  | nil => rfl
  | cons _ _ ih =>
    unfold consult
    rw [ih, MeteredEntryGate.allows_holds]

theorem recordExhausted_holds (now : ℚ) (gate : MeteredEntryGate) (arms : List Direction) :
    (arms.foldl (fun gate arm => gate.recordSpillbackExhaustedEvent arm now)
      gate).spillbackHolds = gate.spillbackHolds := by
  induction arms generalizing gate with
  | nil => rfl
  | cons _ _ ih =>
    rw [List.foldl_cons, ih]
    rfl

theorem updateAdvanced_ticked {deltaTime : ℚ}
    (advance : Advanced deltaTime controller.cursor advanced k) :
    Ticked deltaTime observed controller
      (controller.updateAdvanced deltaTime observed advanced) advanced k
      (QueueCap.checkAndTrigger observed.standingQueue advanced controller.triggers).1 := by
  refine ⟨advance, QueueCap.checkAndTrigger_move observed.standingQueue advanced
    controller.triggers, ?_⟩
  dsimp only [updateAdvanced]
  rw [consult_holds, (MeteredEntryGate.update_latches _ _ _).2, recordExhausted_holds]
  rfl

/-- A tick of positive length never raises. -/
theorem update_ticked {deltaTime : ℚ} (positive : 0 < deltaTime)
    (settled : Settled controller.cursor) (observed : RingObservation) :
    ∃ after, controller.update deltaTime observed = .ok after ∧ ∃ advanced k qcArm,
        Ticked deltaTime observed controller after advanced k qcArm := by
  obtain ⟨advanced, k, isOk, advance⟩ := advance_advanced positive settled
  refine ⟨_, ?_, advanced, k, _, updateAdvanced_ticked advance⟩
  unfold update
  rw [isOk]
  rfl

theorem Ticked.settled {deltaTime : ℚ} {before after : SignalisedRoundabout plan}
    {qcArm : Option Direction} (ticked : Ticked deltaTime observed before after advanced k qcArm) :
    Settled after.cursor := by
  cases ticked.cap with
  | rests unchanged =>
    rw [unchanged]
    exact ticked.advance.settled
  | ends _ _ _ _ _ _ _ _ ended =>
    rw [ended]
    exact next_settled _

end SignalisedRoundabout
end UrbanFlow
