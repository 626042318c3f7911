import Mathlib.Data.Finset.Max
import UrbanFlow.Signals.CursorPositions

/-!
# Runs of the fixed-time controller with an offset

A controller that is seeded with an offset shows what one without offset shows that
much later in the cycle, as long as the seeding does not stop at a phase without
time: `_advance_by` shows such a phase where `update` passes through it. Wraps are
counted by indices that go down, which those of a single phase never do.
-/

namespace UrbanFlow

open CarrySchedule CyclicOrder

namespace FixedTimeSignalController

section

variable (plan : Plan)

/-- A step that is no longer than any phase that takes time. -/
def ShortStep (step : ℚ) : Prop :=
  0 ≤ step ∧ ∀ idx, 0 < plan.duration idx → step ≤ plan.duration idx

/-- `reset` with an offset, and then an `update` by each of the steps. -/
def afterSteps (offset : ℚ) (steps : List ℚ) : PlanCursor plan :=
  steps.foldl (fun cursor step => update step cursor) (reset plan offset)

/-- When a phase starts in the cycle. -/
def startOf (idx : plan.Idx) : ℚ := ((plan.phases.take idx.val).map Phase.duration).sum

def timeInCycle (offset elapsed : ℚ) : ℚ := remainder (offset + elapsed) (cycleDuration plan)

/-- What the controller shows after `reset` and after each of the steps: a phase that
takes time, the same as a controller without offset shows once it has been stepped to
the time in the cycle, and the wraps of the plan counted. -/
structure FollowsPlan (offset : ℚ) (steps : List ℚ) : Prop where
  shown : ∀ taken, 0 < plan.duration (afterSteps plan offset (steps.take taken)).currentPhaseIdx
  reached : ∀ taken, ∃ reference : List ℚ, (∀ step ∈ reference, ShortStep plan step) ∧
      reference.sum = timeInCycle plan offset (steps.take taken).sum
  same : ∀ taken, ∀ reference : List ℚ, (∀ step ∈ reference, ShortStep plan step) →
    reference.sum = timeInCycle plan offset (steps.take taken).sum →
      (afterSteps plan offset (steps.take taken)).currentPhaseIdx =
          (afterSteps plan 0 reference).currentPhaseIdx ∧
        (afterSteps plan offset (steps.take taken)).timeInCurrentState =
          (afterSteps plan 0 reference).timeInCurrentState
  cycles : ∀ taken, ((afterSteps plan offset (steps.take taken)).cycleNumber : Int) =
      ⌊(remainder offset (cycleDuration plan) + (steps.take taken).sum) / cycleDuration plan⌋

/-- No phase without time starts at the offset; the first phase takes time or the
time in the cycle is never zero; and the plan has two phases or ends before it
wraps. -/
def AvoidsEmptyPhases (offset : ℚ) (steps : List ℚ) : Prop :=
  (∀ idx, startOf plan idx = remainder offset (cycleDuration plan) → 0 < plan.duration idx) ∧
  (0 < plan.duration 0 ∨ ∀ taken, timeInCycle plan offset (steps.take taken).sum ≠ 0) ∧
  (2 ≤ plan.phases.length ∨ remainder offset (cycleDuration plan) + steps.sum < cycleDuration plan)

end

variable {plan : Plan}

theorem startOf_eq_spent (idx : plan.Idx) :
    startOf plan idx = spent plan.duration plan.next 0 idx.val :=
  (spent_take idx.isLt.le).symm

theorem Tracks.start : Tracks 0 0 (atStart plan) := ⟨rfl, by simp [atStart], by simp [atStart]⟩

theorem reset_zero (plan : Plan) : reset plan 0 = atStart plan := by
  unfold reset
  exact if_neg fun both => both.1 rfl

theorem atStart_afterUpdate {step : ℚ} (nonneg : 0 ≤ step) (within : step < cycleDuration plan) :
    At step (update step (atStart plan)) := by
  have rolls : ∃ passed, Rolled plan.duration plan.next plan.phases.length
      { atStart plan with timeInCurrentState := 0 + step }
      (update step (atStart plan)) passed :=
    roll_spec _ _
  obtain ⟨passed, rolled⟩ := rolls
  have tracks := ((@Tracks.start plan).wait step).roll plan.phases.length
  rw [zero_add] at tracks
  refine ⟨tracks, rolled.time_nonneg ?_, ?_⟩
  · simpa using nonneg
  · apply rolled.stopped
    apply lt_of_le_of_ne rolled.bounded
    rintro rfl
    have paid := rolled.paid (plan.phases.length - 1) (Nat.sub_lt plan.nonempty Nat.one_pos)
    rw [Nat.sub_add_cancel plan.nonempty] at paid
    change spent plan.duration plan.next 0 plan.phases.length ≤ 0 + step at paid
    rw [spent_cycle] at paid
    linarith

theorem exists_reference {idx : plan.Idx} (isPositive : 0 < plan.duration idx) {time : ℚ}
    (nonneg : 0 ≤ time) :
    ∃ reference : List ℚ, (∀ step ∈ reference, ShortStep plan step) ∧ reference.sum = time := by
  obtain ⟨least, isLeast, shortest⟩ :=
    (Finset.univ.filter fun idx => 0 < plan.duration idx).exists_min_image
      plan.duration ⟨idx, Finset.mem_filter.mpr ⟨Finset.mem_univ idx, isPositive⟩⟩
  have leastPositive := (Finset.mem_filter.mp isLeast).2
  obtain ⟨restNonneg, restShort⟩ := remainder_mem leastPositive time
  have within (other : plan.Idx) (takesTime : 0 < plan.duration other) :
      plan.duration least ≤ plan.duration other :=
    shortest other (Finset.mem_filter.mpr ⟨Finset.mem_univ other, takesTime⟩)
  refine ⟨List.replicate ⌊time / plan.duration least⌋.toNat (plan.duration least) ++
    [remainder time (plan.duration least)], ?_, ?_⟩
  · intro step isStep
    rcases List.mem_append.mp isStep with isWhole | isRest
    · rw [List.eq_of_mem_replicate isWhole]
      exact ⟨leastPositive.le, within⟩
    · rw [List.mem_singleton.mp isRest]
      exact ⟨restNonneg, fun other takesTime => restShort.le.trans (within other takesTime)⟩
  · have whole : 0 ≤ ⌊time / plan.duration least⌋ :=
      Int.floor_nonneg.mpr (div_nonneg nonneg leastPositive.le)
    have cast : ((⌊time / plan.duration least⌋.toNat : Nat) : ℚ) =
        (⌊time / plan.duration least⌋ : Int) := by
      exact_mod_cast Int.toNat_of_nonneg whole
    rw [List.sum_append, List.sum_replicate, List.sum_singleton, nsmul_eq_mul, cast, remainder]
    ring

section

variable (nonnegative : ∀ idx, 0 ≤ plan.duration idx)

include nonnegative

theorem end_le_startOf {idx later : plan.Idx} (before : idx < later) :
    startOf plan idx + plan.duration idx ≤ startOf plan later := by
  have grows : spent plan.duration plan.next 0 (idx.val + 1) ≤
      spent plan.duration plan.next 0 later.val :=
    spent_mono nonnegative 0 before
  rwa [spent_succ, iterate_next_self, ← startOf_eq_spent, ← startOf_eq_spent] at grows

theorem At.same_of_elapsed {total otherTotal : ℚ} {cursor other : PlanCursor plan}
    (isAt : At total cursor) (isOther : At otherTotal other)
    (elapsed : cycleTimeElapsed cursor = cycleTimeElapsed other) :
    cursor.currentPhaseIdx = other.currentPhaseIdx ∧
      cursor.timeInCurrentState = other.timeInCurrentState := by
  obtain ⟨_, _, _⟩ := isAt
  obtain ⟨_, _, _⟩ := isOther
  change startOf plan _ + _ = startOf plan _ + _ at elapsed
  rcases lt_trichotomy cursor.currentPhaseIdx other.currentPhaseIdx with
    before | same | after
  · have ends := end_le_startOf nonnegative before
    linarith
  · rw [same] at elapsed
    exact ⟨same, add_left_cancel elapsed⟩
  · have ends := end_le_startOf nonnegative after
    linarith

/-- Where a controller without offset is within its first cycle, unless it has just
been reset to a phase without time. -/
theorem reference_at {reference : List ℚ} (areShort : ∀ step ∈ reference, ShortStep plan step)
    (within : reference.sum < cycleDuration plan)
    (started : 0 < plan.duration 0 ∨ reference.sum ≠ 0) :
    At reference.sum (afterSteps plan 0 reference) := by
  have nonneg : ∀ step ∈ reference, 0 ≤ step := fun step isStep => (areShort step isStep).1
  rw [afterSteps, reset_zero]
  by_cases firstPositive : 0 < plan.duration 0
  · have isStart : At 0 (atStart plan) := ⟨⟨0, Tracks.start⟩, le_rfl, firstPositive⟩
    have moved := isStart.afterUpdates nonnegative nonneg
      fun step isStep => (areShort step isStep).2
    rwa [zero_add] at moved
  · cases reference with
    | nil => exact absurd List.sum_nil (started.resolve_left firstPositive)
    | cons step rest =>
      have restNonneg : ∀ other ∈ rest, 0 ≤ other := fun other isOther =>
        nonneg other (List.mem_cons_of_mem step isOther)
      rw [List.sum_cons] at within ⊢
      have restSum := List.sum_nonneg restNonneg
      have isFirst := atStart_afterUpdate (nonneg step List.mem_cons_self) (by linarith)
      exact isFirst.afterUpdates nonnegative restNonneg fun other isOther =>
        (areShort other (List.mem_cons_of_mem step isOther)).2

section

variable (cyclePos : 0 < cycleDuration plan)

include cyclePos

/-- The seeding ends at the offset, at the first phase that it lasts to. -/
theorem reset_tracks (offset : ℚ) : ∃ k < plan.phases.length,
      Tracks (remainder offset (cycleDuration plan)) k (reset plan offset) ∧
        ∀ m < k, spent plan.duration plan.next 0 m < remainder offset (cycleDuration plan) := by
  obtain ⟨nonneg, below⟩ := remainder_mem cyclePos offset
  have tracked : ∃ k, Tracks (remainder offset (cycleDuration plan)) k (reset plan offset) ∧
        ∀ m < k, spent plan.duration plan.next 0 m < remainder offset (cycleDuration plan) := by
    by_cases isOffset : offset = 0
    · subst isOffset
      refine ⟨0, ?_, fun m early => absurd early (Nat.not_lt_zero m)⟩
      rw [reset_zero]
      simpa [remainder] using Tracks.start
    · have wellStart : WellTimed (atStart plan) := ⟨le_rfl, .inr rfl⟩
      have grows : spent plan.duration plan.next 0 plan.phases.length ≤
          spent plan.duration plan.next 0 (plan.phases.length + 1) :=
        spent_mono nonnegative 0 (Nat.le_succ _)
      rw [spent_cycle] at grows
      have moved := advanceByLoop_tracks (plan.phases.length + 1) Tracks.start wellStart
        (fun m early => absurd early (Nat.not_lt_zero m)) nonneg (by
          change 0 + remainder offset (cycleDuration plan) < spent plan.duration plan.next 0 _
          linarith)
      rw [zero_add] at moved
      dsimp only [reset]
      rw [if_pos ⟨isOffset, cyclePos⟩]
      exact moved
  obtain ⟨k, tracks, first⟩ := tracked
  refine ⟨k, ?_, tracks, first⟩
  by_contra isLong
  have grows : spent plan.duration plan.next 0 plan.phases.length ≤
      spent plan.duration plan.next 0 k :=
    spent_mono nonnegative 0 (not_lt.mp isLong)
  rw [spent_cycle] at grows
  linarith [tracks.time, (reset_wellTimed plan offset).nonnegative]

/-- The seeding stops at a phase without time exactly when one starts at the
offset. -/
theorem reset_positive_iff (offset : ℚ) : 0 < plan.duration (reset plan offset).currentPhaseIdx ↔
      ∀ idx, startOf plan idx = remainder offset (cycleDuration plan) → 0 < plan.duration idx := by
  obtain ⟨k, isShort, tracks, first⟩ := reset_tracks nonnegative cyclePos offset
  have well := reset_wellTimed plan offset
  have isIndex : (reset plan offset).currentPhaseIdx = ⟨k, isShort⟩ := by
    rw [tracks.index]
    exact iterate_next_self ⟨k, isShort⟩
  have time := tracks.time
  have isStart := startOf_eq_spent (⟨k, isShort⟩ : plan.Idx)
  constructor
  · intro isPositive idx startsHere
    rcases lt_trichotomy idx ⟨k, isShort⟩ with before | same | after
    · have early := first idx.val before
      rw [← startOf_eq_spent, startsHere] at early
      exact absurd early (lt_irrefl _)
    · rw [same, ← isIndex]
      exact isPositive
    · have ends := end_le_startOf nonnegative after
      have within : (reset plan offset).timeInCurrentState <
          plan.duration (reset plan offset).currentPhaseIdx := by
        rcases well.within with isWithin | isZero
        · exact isWithin
        · rwa [isZero]
      rw [isIndex] at within
      linarith
  · intro startsPositive
    by_contra isEmpty
    have isZero : (reset plan offset).timeInCurrentState = 0 := by
      rcases well.within with isWithin | isZero
      · exact absurd (well.nonnegative.trans_lt isWithin) isEmpty
      · exact isZero
    apply isEmpty
    rw [isIndex]
    apply startsPositive
    rw [isStart, ← time, isZero, add_zero]

end

end

/-- A controller with an offset follows the plan exactly when the seeding and the
start of the plan avoid the phases without time and a plan of one phase does not
wrap. -/
theorem followsPlan_iff (plan : Plan) (offset : ℚ) (steps : List ℚ)
    (nonnegative : ∀ idx, 0 ≤ plan.duration idx)
    (green : ∃ idx, plan.isGreen idx = true ∧ 0 < plan.duration idx)
    (areShort : ∀ step ∈ steps, ShortStep plan step) :
    FollowsPlan plan offset steps ↔ AvoidsEmptyPhases plan offset steps := by
  obtain ⟨someIdx, _, takesTime⟩ := green
  have cyclePos : 0 < cycleDuration plan :=
    takesTime.trans_le (duration_le_cycle nonnegative someIdx)
  have takenShort (taken : Nat) : ∀ step ∈ steps.take taken, ShortStep plan step :=
    fun step isStep => areShort step (List.mem_of_mem_take isStep)
  have takenSum (taken : Nat) : 0 ≤ (steps.take taken).sum :=
    List.sum_nonneg fun step isStep => (takenShort taken step isStep).1
  obtain ⟨offsetNonneg, _⟩ := remainder_mem cyclePos offset
  -- Once the seeding shows a phase that takes time, every step is in its place.
  have follows (isPositive : 0 < plan.duration (reset plan offset).currentPhaseIdx) (taken : Nat) :
      At (remainder offset (cycleDuration plan) + (steps.take taken).sum)
        (afterSteps plan offset (steps.take taken)) := by
    obtain ⟨k, _, tracks, _⟩ := reset_tracks nonnegative cyclePos offset
    have well := reset_wellTimed plan offset
    have isStart : At (remainder offset (cycleDuration plan)) (reset plan offset) := by
      refine ⟨⟨k, tracks⟩, well.nonnegative, ?_⟩
      rcases well.within with isWithin | isZero
      · exact isWithin
      · rwa [isZero]
    exact isStart.afterUpdates nonnegative (fun step isStep =>
      (takenShort taken step isStep).1) fun step isStep => (takenShort taken step isStep).2
  constructor
  · intro followsPlan
    have isPositive := followsPlan.shown 0
    refine ⟨(reset_positive_iff nonnegative cyclePos offset).mp isPositive, ?_, ?_⟩
    · by_contra missed
      rw [not_or, not_forall] at missed
      obtain ⟨firstEmpty, taken, atZero⟩ := missed
      rw [not_not] at atZero
      have shown := followsPlan.shown taken
      obtain ⟨sameIndex, _⟩ := followsPlan.same taken []
        (fun step isStep => absurd isStep List.not_mem_nil) (List.sum_nil.trans atZero.symm)
      rw [sameIndex, afterSteps, reset_zero] at shown
      exact firstEmpty shown
    · by_contra missed
      rw [not_or, not_lt] at missed
      obtain ⟨isSingle, isFull⟩ := missed
      have counted := followsPlan.cycles steps.length
      have isAt := follows isPositive steps.length
      rw [(isAt.position nonnegative).2, if_neg isSingle, List.take_length] at counted
      have wrapped : (1 : Int) ≤
          ⌊(remainder offset (cycleDuration plan) + steps.sum) / cycleDuration plan⌋ := by
        rw [Int.le_floor, Int.cast_one, le_div_iff₀ cyclePos, one_mul]
        exact isFull
      omega
  · rintro ⟨startsPositive, atZero, counted⟩
    have isPositive := (reset_positive_iff nonnegative cyclePos offset).mpr startsPositive
    have elapsed (taken : Nat) : cycleTimeElapsed (afterSteps plan offset (steps.take taken)) =
          timeInCycle plan offset (steps.take taken).sum := by
      rw [((follows isPositive taken).position nonnegative).1]
      exact remainder_remainder_add cyclePos offset (steps.take taken).sum
    have inCycle (taken : Nat) := remainder_mem cyclePos (offset + (steps.take taken).sum)
    refine ⟨?_, ?_, ?_, ?_⟩
    · intro taken
      obtain ⟨_, nonneg, within⟩ := follows isPositive taken
      exact nonneg.trans_lt within
    · intro taken
      exact exists_reference takesTime (inCycle taken).1
    · intro taken reference referenceShort isReached
      have within : reference.sum < cycleDuration plan := isReached ▸ (inCycle taken).2
      have isReference := reference_at nonnegative referenceShort within (by
        rw [isReached]
        exact atZero.imp_right fun never => never taken)
      apply (follows isPositive taken).same_of_elapsed nonnegative isReference
      have noCycle : ⌊reference.sum / cycleDuration plan⌋ = 0 := by
        rw [Int.floor_eq_zero_iff, Set.mem_Ico]
        exact ⟨div_nonneg (isReached ▸ (inCycle taken).1) cyclePos.le,
          (div_lt_one cyclePos).mpr within⟩
      rw [elapsed, (isReference.position nonnegative).1, noCycle, isReached,
        Int.cast_zero, mul_zero, sub_zero]
    · intro taken
      rw [((follows isPositive taken).position nonnegative).2]
      split_ifs with isLong
      · rfl
      · have notYet := counted.resolve_left isLong
        have partSum : (steps.take taken).sum ≤ steps.sum := by
          rw [← List.sum_take_add_sum_drop steps taken]
          exact le_add_of_nonneg_right (List.sum_nonneg fun step isStep =>
            (areShort step (List.mem_of_mem_drop isStep)).1)
        symm
        rw [Int.floor_eq_zero_iff, Set.mem_Ico]
        exact ⟨div_nonneg (add_nonneg offsetNonneg (takenSum taken)) cyclePos.le,
          (div_lt_one cyclePos).mpr (by linarith)⟩

/-- Two greens with a yellow and an all-red without time between them. -/
def clearancePlan : Plan where
  phases :=
    [{ name := "ns_green", directions := [.north, .south], allowedTurns := [.straight],
       duration := 10, color := .green },
     { name := "ns_yellow", directions := [.north, .south], allowedTurns := [.straight],
       duration := 3, color := .yellow },
     { name := "all_red", directions := [], allowedTurns := [], duration := 0,
       color := .red },
     { name := "ew_green", directions := [.east, .west], allowedTurns := [.straight],
       duration := 10, color := .green }]
  nonempty := by decide

/-- An offset of five seconds and steps of one second follow the plan. -/
theorem followsPlan_iff_clearance : FollowsPlan clearancePlan 5 [1, 1] := by
  apply (followsPlan_iff clearancePlan 5 [1, 1] (by decide) (by decide) (by
      intro step isStep
      simp only [List.mem_cons, List.not_mem_nil, or_false, or_self] at isStep
      subst isStep
      exact ⟨by decide, by decide⟩)).mpr
  refine ⟨by decide +kernel, .inl (by decide +kernel), .inl (by decide)⟩

/-- An offset up to the all-red time shows it although it takes no time. -/
theorem not_followsPlan_clearance : ¬ FollowsPlan clearancePlan 13 [] := by
  intro followsPlan
  have shown := followsPlan.shown 0
  revert shown
  decide +kernel

end FixedTimeSignalController
end UrbanFlow
