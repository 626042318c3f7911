import UrbanFlow.Metering.Cursor
import UrbanFlow.Signals.CursorPositions

/-!
# Where the metering cursor is

A reset cursor advanced by any steps is at the time of the offset and the steps
together, modulo the cycle. The cycles are counted by the indices going down, which
they never do in a plan of one phase.
-/

namespace UrbanFlow

open CarrySchedule FixedTimeSignalController

namespace MeteringPhaseCursor

variable {plan : MeteringPlan}

section

variable (plan : MeteringPlan)

/-- `reset`, and then `advance` by each of the steps. -/
def run (steps : List ℚ) : Except PyMessage (MeteringPhaseCursor plan) :=
  steps.foldlM (fun cursor step => advance step cursor) (reset plan)

theorem cycleDuration_timing : cycleDuration plan.timing = plan.cycleDuration := by
  have assembled : plan.cycleDuration =
      ((plan.specs.flatMap (MeteringBuilder.specPhases plan.yellow plan.allRed)).map
        Phase.duration).sum :=
    congrArg EntryMeteringPlan.cycleDuration plan.assembled
  rw [assembled, ← plan.phases_eq]
  rfl

theorem cycle_pos : 0 < plan.cycleDuration := by
  rw [← cycleDuration_timing]
  exact cycleDuration_pos duration_pos

end

variable {total : ℚ} {cursor : MeteringPhaseCursor plan} {steps : List ℚ}

theorem atStart_at (plan : MeteringPlan) : At 0 (atStart plan.timing) :=
  ⟨⟨0, rfl, by simp [atStart], by simp [atStart]⟩, le_rfl, duration_pos _⟩

theorem advanceByLoop_start {seconds : ℚ} (nonneg : 0 ≤ seconds)
    (within : seconds < plan.cycleDuration) :
    At seconds (advanceByLoop (plan.phases.length + 1) seconds (atStart plan.timing)) := by
  have nonnegative : ∀ idx, 0 ≤ plan.timing.duration idx := fun idx => (duration_pos idx).le
  have grows : spent plan.timing.duration plan.timing.next 0 plan.phases.length ≤
      spent plan.timing.duration plan.timing.next 0 (plan.phases.length + 1) :=
    spent_mono nonnegative 0 (Nat.le_succ _)
  have isCycle := spent_cycle plan.timing
  rw [cycleDuration_timing] at isCycle
  have moved := advanceByLoop_at duration_pos (plan.phases.length + 1) (atStart_at plan) nonneg (by
      change 0 + seconds < spent plan.timing.duration plan.timing.next 0 _
      rw [zero_add]
      exact lt_of_lt_of_le within (isCycle.symm.trans_le grows))
  rwa [zero_add] at moved

theorem reset_at (plan : MeteringPlan) :
    At (remainder plan.offset plan.cycleDuration) (reset plan) := by
  have within := remainder_mem (cycle_pos plan) plan.offset
  by_cases isOffset : 0 < plan.offset
  · rw [reset, if_pos ⟨isOffset, cycle_pos plan⟩]
    exact advanceByLoop_start within.1 within.2
  · have isZero : plan.offset = 0 := le_antisymm (not_lt.mp isOffset) plan.offset_nonneg
    rw [reset, if_neg fun both => isOffset both.1, isZero]
    simpa [remainder] using atStart_at plan

theorem fixedTime_reset_at (plan : MeteringPlan) : At (remainder plan.offset plan.cycleDuration)
      (FixedTimeSignalController.reset plan.timing plan.offset) := by
  have within := remainder_mem (cycle_pos plan) plan.offset
  rw [FixedTimeSignalController.reset]
  simp only [cycleDuration_timing]
  by_cases isOffset : plan.offset = 0
  · rw [if_neg fun both => both.1 isOffset, isOffset]
    simpa [remainder] using atStart_at plan
  · rw [if_pos ⟨isOffset, cycle_pos plan⟩]
    exact advanceByLoop_start within.1 within.2

theorem advance_at {step : ℚ} (isAt : At total cursor) (nonneg : 0 ≤ step) :
    ∃ after, advance step cursor = .ok after ∧ At (total + step) after := by
  obtain ⟨⟨k, tracks⟩, nonneg', within⟩ := isAt
  rcases nonneg.eq_or_lt with isZero | isPositive
  · subst isZero
    rw [add_zero]
    exact ⟨cursor, by simp [advance], ⟨k, tracks⟩, nonneg', within⟩
  · obtain ⟨after, passed, isAfter, advanced⟩ := advance_advanced isPositive ⟨nonneg', within⟩
    refine ⟨after, isAfter, ?_, advanced.settled.nonnegative, advanced.settled.within⟩
    rw [advance, if_neg (not_lt.mpr isPositive.le), if_neg isPositive.ne'] at isAfter
    cases isAfter
    rw [advanceLoop_eq_roll]
    exact (tracks.wait step).roll _

/-- Steps let their time pass, one after the other. -/
theorem steps_at (nonneg : ∀ step ∈ steps, 0 ≤ step) (isAt : At total cursor) :
    ∃ after, steps.foldlM (fun cursor step => advance step cursor) cursor = .ok after ∧
      At (total + steps.sum) after := by
  induction steps generalizing total cursor with
  | nil =>
    refine ⟨cursor, rfl, ?_⟩
    rwa [List.sum_nil, add_zero]
  | cons step _ ih =>
    obtain ⟨middle, isMiddle, isAtMiddle⟩ := advance_at isAt (nonneg step List.mem_cons_self)
    obtain ⟨after, isAfter, isAtAfter⟩ := ih
      (fun other isOther => nonneg other (List.mem_cons_of_mem step isOther)) isAtMiddle
    refine ⟨after, ?_, ?_⟩
    · rw [List.foldlM_cons, isMiddle]
      exact isAfter
    · rwa [List.sum_cons, ← add_assoc]

/-- What a cursor that was advanced by the steps is to be: at the time of the offset
and the steps in the cycle, with the cycles counted, the same whether two steps are
taken as one or not, and what a fixed-time controller is after every short step. -/
structure ExactAfter (plan : MeteringPlan) (steps : List ℚ)
    (cursor : MeteringPhaseCursor plan) : Prop where
  position : cycleTimeElapsed cursor = remainder (plan.offset + steps.sum) plan.cycleDuration
  inPhase : 0 ≤ cursor.timeInCurrentState ∧
    cursor.timeInCurrentState < (currentPhase cursor).duration
  cycles : (cursor.cycleNumber : Int) =
    ⌊(remainder plan.offset plan.cycleDuration + steps.sum) / plan.cycleDuration⌋
  additive : ∀ first second, 0 ≤ first → 0 ≤ second →
    (advance first cursor).bind (advance second) = advance (first + second) cursor
  agrees : (∀ step ∈ steps, ∀ phase ∈ plan.phases, step ≤ phase.duration) →
    ∀ taken, run plan (steps.take taken) =
      .ok ((steps.take taken).foldl (fun cursor step => update step cursor)
        (FixedTimeSignalController.reset plan.timing plan.offset))

/-- A run of steps ends exactly where it is to, as long as the plan has two phases
or more or the steps stay within the first cycle. -/
theorem run_exact_iff (plan : MeteringPlan) (nonneg : ∀ step ∈ steps, 0 ≤ step) :
    ∃ cursor, run plan steps = .ok cursor ∧ (ExactAfter plan steps cursor ↔ 2 ≤ plan.phases.length ∨
          remainder plan.offset plan.cycleDuration + steps.sum < plan.cycleDuration) := by
  have cyclePos := cycle_pos plan
  obtain ⟨cursor, isRun, isAt⟩ := steps_at nonneg (reset_at plan)
  obtain ⟨isPosition, isCycles⟩ := isAt.position fun idx => (duration_pos idx).le
  have samePhases : plan.timing.phases = plan.phases := rfl
  rw [cycleDuration_timing] at isPosition isCycles
  rw [samePhases] at isCycles
  refine ⟨cursor, isRun, fun isExact => ?_, fun isCounted => ?_⟩
  · by_contra notCounted
    rw [not_or, not_lt] at notCounted
    have counted := isExact.cycles
    rw [isCycles, if_neg notCounted.1] at counted
    have isFull : 1 ≤ (remainder plan.offset plan.cycleDuration + steps.sum) /
        plan.cycleDuration := by
      rw [le_div_iff₀ cyclePos, one_mul]
      exact notCounted.2
    have isOne := Int.le_floor.mpr (by exact_mod_cast isFull : ((1 : Int) : ℚ) ≤ _)
    omega
  · refine ⟨?_, isAt.2, ?_, ?_, ?_⟩
    · rw [isPosition]
      exact remainder_remainder_add cyclePos _ _
    · rw [isCycles]
      split_ifs with isLong
      · rfl
      · have within := isCounted.resolve_left isLong
        have fromStart : 0 ≤ remainder plan.offset plan.cycleDuration + steps.sum :=
          add_nonneg (remainder_mem (cycle_pos plan) plan.offset).1 (List.sum_nonneg nonneg)
        symm
        rw [Int.floor_eq_zero_iff, Set.mem_Ico]
        exact ⟨div_nonneg fromStart cyclePos.le, (div_lt_one cyclePos).mpr within⟩
    · intro first second isFirst isSecond
      obtain ⟨middle, isMiddle, isAtMiddle⟩ := advance_at isAt isFirst
      obtain ⟨after, isAfter, isAtAfter⟩ := advance_at isAtMiddle isSecond
      obtain ⟨other, isOther, isAtOther⟩ := advance_at isAt (add_nonneg isFirst isSecond)
      rw [add_assoc] at isAtAfter
      rw [isMiddle, isOther, isAtOther.unique (fun idx => (duration_pos idx).le) isAtAfter]
      exact isAfter
    · intro areShort taken
      have isTaken : ∀ step ∈ steps.take taken, step ∈ steps :=
        fun step isStep => List.mem_of_mem_take isStep
      obtain ⟨here, isHere, isAtHere⟩ :=
        steps_at (fun step isStep => nonneg step (isTaken step isStep)) (reset_at plan)
      have updated := (fixedTime_reset_at plan).afterUpdates (fun idx => (duration_pos idx).le)
        (fun step isStep => nonneg step (isTaken step isStep))
        (fun step isStep idx _ =>
          areShort step (isTaken step isStep) _ (List.get_mem plan.phases idx))
      rw [run, isHere, isAtHere.unique (fun idx => (duration_pos idx).le) updated]

/-- The cursor of a plan that the builder returns is exactly where it is to be, as long
as the plan has two phases or more or the steps stay within the first cycle. -/
theorem cursor_exact_iff {config : Fields} {built : EntryMeteringPlan}
    (isBuilt : buildMeteringPlan config = .ok built) :
    ∃ plan : MeteringPlan, plan.toEntryMeteringPlan = built ∧
      ∀ steps : List ℚ, (∀ step ∈ steps, 0 ≤ step) → ∃ cursor, run plan steps = .ok cursor ∧
          (ExactAfter plan steps cursor ↔ 2 ≤ built.phases.length ∨
              remainder built.offset built.cycleDuration + steps.sum < built.cycleDuration) := by
  obtain ⟨plan, rfl⟩ := MeteringPlan.of_build isBuilt
  exact ⟨plan, rfl, fun steps nonneg => run_exact_iff plan nonneg⟩

/-- One arm that is metered for twenty seconds, without yellow and all-red times. -/
def onePhaseSection : Fields :=
  [("phases", .list [.dict [("entries", .list [.str "north"]), ("green", .int 20)]]),
    ("yellow", .int 0), ("allRed", .int 0)]

theorem onePhaseSection_built : ∃ built, buildMeteringPlan onePhaseSection = .ok built ∧
      built.phases.length = 1 ∧ built.offset = 0 ∧ built.cycleDuration = 20 := by
  have isOk : (buildMeteringPlan onePhaseSection).toOption.any (fun built =>
      built.phases.length = 1 ∧ built.offset = 0 ∧ built.cycleDuration = 20) = true := by
    decide +kernel
  cases isBuilt : buildMeteringPlan onePhaseSection with
  | error =>
    rw [isBuilt] at isOk
    cases isOk
  | ok built =>
    rw [isBuilt] at isOk
    exact ⟨built, rfl, of_decide_eq_true isOk⟩

/-- The cursor of a plan with one phase is exact within the first cycle. -/
theorem onePhase_exact_iff : ∃ built, buildMeteringPlan onePhaseSection = .ok built ∧
      ∃ plan : MeteringPlan, plan.toEntryMeteringPlan = built ∧
        ∃ cursor, run plan [5, 10] = .ok cursor ∧ ExactAfter plan [5, 10] cursor := by
  obtain ⟨built, isBuilt, isLength, isOffset, isCycle⟩ := onePhaseSection_built
  obtain ⟨plan, isPlan, areExact⟩ := cursor_exact_iff isBuilt
  obtain ⟨cursor, isRun, isExact⟩ := areExact [5, 10] (by simp)
  refine ⟨built, isBuilt, plan, isPlan, cursor, isRun, isExact.mpr (Or.inr ?_)⟩
  rw [isOffset, isCycle]
  norm_num [remainder]

/-- The cursor of a plan with one phase counts no cycle. -/
theorem onePhase_not_counted : ¬ ∀ (config : Fields) (built : EntryMeteringPlan),
      buildMeteringPlan config = .ok built →
        ∀ plan : MeteringPlan, plan.toEntryMeteringPlan = built →
          ∀ steps : List ℚ, (∀ step ∈ steps, 0 ≤ step) →
            ∃ cursor, run plan steps = .ok cursor ∧ ExactAfter plan steps cursor := by
  intro claimed
  obtain ⟨built, isBuilt, isLength, isOffset, isCycle⟩ := onePhaseSection_built
  obtain ⟨plan, isPlan⟩ := MeteringPlan.of_build isBuilt
  obtain ⟨cursor, isRun, holds⟩ := claimed _ built isBuilt plan isPlan [20] (by simp)
  subst isPlan
  obtain ⟨other, isOther, isExact⟩ := 
    run_exact_iff plan (by simp : ∀ step ∈ ([20] : List ℚ), 0 ≤ step)
  cases isRun.symm.trans isOther
  obtain isLong | isShort := isExact.mp holds
  · omega
  · rw [isOffset, isCycle] at isShort
    norm_num [remainder] at isShort

end MeteringPhaseCursor
end UrbanFlow
