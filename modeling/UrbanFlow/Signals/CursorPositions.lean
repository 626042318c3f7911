import UrbanFlow.Signals.FixedTime

/-!
# Where a cursor is after some time

A cursor that has passed `k` phases of a plan since its start, with all the time
since then either spent on them or in the phase shown. In a plan whose phases all
take time there is only one such place, at the time since the start modulo the
cycle; the cycles are counted when a plan has two phases or more.
-/

namespace UrbanFlow

open CarrySchedule CyclicOrder

/-- `x % y`, of numbers. -/
def remainder (x y : ℚ) : ℚ := x - y * ⌊x / y⌋

/-- What is left of a number is not changed by whole divisors. -/
theorem remainder_remainder_add {y : ℚ} (isPositive : 0 < y) (x z : ℚ) :
    remainder (remainder x y + z) y = remainder (x + z) y := by
  have split : (remainder x y + z) / y = (x + z) / y - (⌊x / y⌋ : Int) := by
    rw [remainder]
    field_simp
    ring
  rw [remainder, split, Int.floor_sub_intCast, remainder, remainder]
  push_cast
  ring

/-- A remainder is below the divisor. -/
theorem remainder_mem {y : ℚ} (isPositive : 0 < y) (x : ℚ) :
    0 ≤ remainder x y ∧ remainder x y < y := by
  have below := Int.floor_le (x / y)
  have above := Int.lt_floor_add_one (x / y)
  rw [le_div_iff₀ isPositive] at below
  rw [div_lt_iff₀ isPositive] at above
  rw [remainder]
  constructor <;> linarith

namespace FixedTimeSignalController

variable {plan : Plan}

variable {total : ℚ} {k : Nat} {cursor : PlanCursor plan}

/-- A cursor has passed `k` phases in a time since the start of the plan. -/
structure Tracks (total : ℚ) (k : Nat) (cursor : PlanCursor plan) : Prop where
  index : cursor.currentPhaseIdx = plan.next^[k] 0
  time : spent plan.duration plan.next 0 k + cursor.timeInCurrentState = total
  cycles : cursor.cycleNumber = if 2 ≤ plan.phases.length then k / plan.phases.length else 0

/-- A cursor is where it is after a time since the start of the plan, with time left
in the phase shown. -/
def At (total : ℚ) (cursor : PlanCursor plan) : Prop :=
  (∃ k, Tracks total k cursor) ∧ 0 ≤ cursor.timeInCurrentState ∧
    cursor.timeInCurrentState < plan.duration cursor.currentPhaseIdx

/-- The time since the start of the cycle. -/
def cycleTimeElapsed (cursor : PlanCursor plan) : ℚ :=
  ((plan.phases.take cursor.currentPhaseIdx.val).map Phase.duration).sum + cursor.timeInCurrentState

/-- Wraps counted by a comparison of indices are whole cycles, unless there is only
one index. -/
theorem wraps_succ {n : Nat} (nonempty : 0 < n) (k : Nat) :
    (if (k + 1) % n < k % n then (if 2 ≤ n then k / n else 0) + 1 else if 2 ≤ n then k / n else 0) =
      if 2 ≤ n then (k + 1) / n else 0 := by
  have below := Nat.mod_lt k nonempty
  by_cases isLong : 2 ≤ n
  · rw [if_pos isLong, if_pos isLong, Nat.succ_div]
    by_cases wraps : n ∣ k + 1
    · have isZero := Nat.mod_eq_zero_of_dvd wraps
      have wasLast : k % n ≠ 0 := by
        intro wasZero
        rw [Nat.add_mod, wasZero, zero_add, Nat.mod_mod, Nat.mod_eq_of_lt isLong] at isZero
        exact absurd isZero one_ne_zero
      rw [if_pos (by omega), if_pos wraps]
    · have notZero : (k + 1) % n ≠ 0 := fun isZero =>
        wraps (Nat.dvd_of_mod_eq_zero isZero)
      have grows : (k + 1) % n = k % n + 1 := by
        rw [Nat.add_mod, Nat.mod_eq_of_lt isLong] at notZero ⊢
        apply Nat.mod_eq_of_lt
        by_contra isFull
        have isCard : k % n + 1 = n := by omega
        rw [isCard, Nat.mod_self] at notZero
        exact notZero rfl
      rw [if_neg (by omega), if_neg wraps, add_zero]
  · obtain rfl : n = 1 := by omega
    simp [Nat.mod_one]

theorem iterate_next_val (k : Nat) : (plan.next^[k] 0).val = k % plan.phases.length := by
  rw [Plan.iterate_next, ahead_val]
  simp

/-- A position is reached from the first by its number of phases. -/
theorem iterate_next_self (idx : plan.Idx) : plan.next^[idx.val] 0 = idx := by
  apply Fin.ext
  rw [iterate_next_val, Nat.mod_eq_of_lt idx.isLt]

/-- A phase passed is one phase more, in the same time. -/
theorem Tracks.pass (tracks : Tracks total k cursor) :
    Tracks total (k + 1) (cursor.pass plan.duration plan.next) := by
  refine ⟨?_, ?_, ?_⟩
  · rw [Function.iterate_succ_apply', ← tracks.index]
    rfl
  · have time := tracks.time
    rw [spent_succ, ← tracks.index]
    simp only [Cursor.pass]
    linarith
  · have wraps := wraps_succ plan.nonempty k
    have isNext : plan.next cursor.currentPhaseIdx = plan.next^[k + 1] 0 := by
      rw [Function.iterate_succ_apply', tracks.index]
    have wrapsHere : plan.next cursor.currentPhaseIdx < cursor.currentPhaseIdx ↔
        (k + 1) % plan.phases.length < k % plan.phases.length := by
      rw [Fin.lt_def, isNext, tracks.index, iterate_next_val, iterate_next_val]
    simp only [Cursor.pass, wrapsHere, tracks.cycles]
    exact wraps

/-- A roll passes phases in the same time. -/
theorem Tracks.roll (tracks : Tracks total k cursor) (fuel : Nat) :
    ∃ later, Tracks total later (cursor.roll plan.duration plan.next fuel) := by
  apply roll_keeps (fun cursor => ∃ later, Tracks total later cursor)
  · rintro other ⟨later, isLater⟩
    exact ⟨later + 1, isLater.pass⟩
  · exact ⟨k, tracks⟩

/-- Time that is added to a cursor has passed since the start. -/
theorem Tracks.wait (tracks : Tracks total k cursor) (seconds : ℚ) : Tracks (total + seconds) k
      { cursor with timeInCurrentState := cursor.timeInCurrentState + seconds } := by
  refine ⟨tracks.index, ?_, tracks.cycles⟩
  rw [← add_assoc, tracks.time]

theorem spent_take (inPlan : k ≤ plan.phases.length) :
    spent plan.duration plan.next 0 k = ((plan.phases.take k).map Phase.duration).sum := by
  induction k with
  | zero => simp
  | succ k ih =>
    have isShort : k < plan.phases.length := by omega
    have isIndex : plan.next^[k] 0 = ⟨k, isShort⟩ := by
      apply Fin.ext
      rw [iterate_next_val, Nat.mod_eq_of_lt isShort]
    rw [spent_succ, ih (by omega), isIndex,
      List.take_succ_eq_append_getElem isShort, List.map_append, List.sum_append]
    simp [Plan.duration, Plan.phase]

theorem spent_cycle (plan : Plan) :
    spent plan.duration plan.next 0 plan.phases.length = cycleDuration plan := by
  rw [spent_take le_rfl, List.take_length, cycleDuration]

theorem spent_cycles (cycles k : Nat) :
    spent plan.duration plan.next 0 (plan.phases.length * cycles + k) =
      cycleDuration plan * cycles + spent plan.duration plan.next 0 k := by
  induction cycles with
  | zero => simp
  | succ _ ih =>
    have isStart : plan.next^[plan.phases.length] 0 = 0 := by rw [Plan.iterate_next, ahead_card]
    rw [Nat.mul_succ, Nat.add_comm (_ * _), Nat.add_assoc, spent_add, isStart, ih, spent_cycle]
    push_cast
    ring

/-- The loop of `_advance_by` lets the seconds pass, if it may pass all phases they
are enough for. It stops at the first phase that the seconds last to. -/
theorem advanceByLoop_tracks (fuel : Nat) {remaining : ℚ} (tracks : Tracks total k cursor)
    (well : WellTimed cursor)
    (before : ∀ m < k, spent plan.duration plan.next 0 m < total + remaining)
    (nonneg : 0 ≤ remaining)
    (enough : cursor.timeInCurrentState + remaining < spent plan.duration plan.next
      cursor.currentPhaseIdx fuel) :
    ∃ later, Tracks (total + remaining) later (advanceByLoop fuel remaining cursor) ∧
        ∀ m < later, spent plan.duration plan.next 0 m < total + remaining := by
  induction fuel generalizing total remaining k cursor with
  | zero =>
    rw [spent_zero] at enough
    linarith [well.nonnegative]
  | succ _ ih =>
    dsimp only [advanceByLoop]
    by_cases isPositiveTime : 0 < remaining
    · rw [if_pos isPositiveTime]
      by_cases isInside :
          remaining < plan.duration cursor.currentPhaseIdx - cursor.timeInCurrentState
      · rw [if_pos isInside]
        exact ⟨k, tracks.wait remaining, before⟩
      · rw [if_neg isInside]
        have waited := (tracks.wait
          (plan.duration cursor.currentPhaseIdx - cursor.timeInCurrentState)).pass
        have isPassed : Cursor.pass plan.duration plan.next { cursor with
              timeInCurrentState := cursor.timeInCurrentState +
                (plan.duration cursor.currentPhaseIdx - cursor.timeInCurrentState) } =
            { currentPhaseIdx := plan.next cursor.currentPhaseIdx
              timeInCurrentState := 0
              cycleNumber := if plan.next cursor.currentPhaseIdx < cursor.currentPhaseIdx then
                  cursor.cycleNumber + 1
                else cursor.cycleNumber } := by
          simp [Cursor.pass]
        rw [isPassed] at waited
        rw [spent_succ'] at enough
        have isTotal : total + (plan.duration cursor.currentPhaseIdx -
            cursor.timeInCurrentState) + (remaining -
              (plan.duration cursor.currentPhaseIdx - cursor.timeInCurrentState)) =
            total + remaining := by
          ring
        rw [← isTotal]
        apply ih waited ⟨le_rfl, .inr rfl⟩
        · intro m below
          rw [isTotal]
          rcases Nat.lt_succ_iff_lt_or_eq.mp below with isEarlier | rfl
          · exact before m isEarlier
          · linarith [tracks.time, well.nonnegative]
        · linarith
        · dsimp only
          linarith
    · rw [if_neg isPositiveTime]
      obtain rfl : remaining = 0 := le_antisymm (not_lt.mp isPositiveTime) nonneg
      rw [add_zero]
      refine ⟨k, tracks, ?_⟩
      rwa [add_zero] at before

section

variable (nonnegative : ∀ idx, 0 ≤ plan.duration idx)

include nonnegative

variable {total : ℚ} {cursor : PlanCursor plan}

/-- No phase is longer than a cycle. -/
theorem duration_le_cycle (idx : plan.Idx) : plan.duration idx ≤ cycleDuration plan := by
  have first : plan.duration (plan.next^[idx.val] 0) ≤
      spent plan.duration plan.next 0 plan.phases.length :=
    duration_le_spent nonnegative 0 idx.isLt
  rwa [spent_cycle, iterate_next_self] at first

/-- After a time since the start of a plan there is one place to be. -/
theorem At.unique {other : PlanCursor plan} (isAt : At total cursor) (isOther : At total other) :
    cursor = other := by
  have notBefore : ∀ {first second : PlanCursor plan} {j k : Nat},
      Tracks total j first → Tracks total k second →
        first.timeInCurrentState < plan.duration first.currentPhaseIdx →
          0 ≤ second.timeInCurrentState → ¬ j < k := by
    intro first second j k isFirst isSecond within nonneg isLess
    have grows : spent plan.duration plan.next 0 (j + 1) ≤ spent plan.duration plan.next 0 k :=
      spent_mono nonnegative 0 isLess
    rw [spent_succ, ← isFirst.index] at grows
    linarith [isFirst.time, isSecond.time]
  obtain ⟨⟨j, isFirst⟩, nonneg, within⟩ := isAt
  obtain ⟨⟨k, isSecond⟩, nonneg', within'⟩ := isOther
  obtain rfl : j = k := le_antisymm (not_lt.mp (notBefore isSecond isFirst within' nonneg))
      (not_lt.mp (notBefore isFirst isSecond within nonneg'))
  have sameTime : cursor.timeInCurrentState = other.timeInCurrentState := by
    linarith [isFirst.time, isSecond.time]
  cases cursor with
  | mk index _ cycles =>
    cases other with
    | mk =>
      rw [Cursor.mk.injEq]
      exact ⟨isFirst.index.trans isSecond.index.symm, sameTime,
        isFirst.cycles.trans isSecond.cycles.symm⟩

/-- The time since the start of the cycle is the time since the start of the plan,
less whole cycles, and these are counted in a plan with two phases or more. -/
theorem At.position (isAt : At total cursor) :
    cycleTimeElapsed cursor = total - cycleDuration plan * ⌊total / cycleDuration plan⌋ ∧
      (cursor.cycleNumber : Int) =
        if 2 ≤ plan.phases.length then ⌊total / cycleDuration plan⌋ else 0 := by
  obtain ⟨⟨k, tracks⟩, nonneg, within⟩ := isAt
  have isIndex : cursor.currentPhaseIdx.val = k % plan.phases.length := by
    rw [tracks.index, iterate_next_val]
  have isShort := Nat.mod_lt k plan.nonempty
  have elapsed : cycleTimeElapsed cursor =
      spent plan.duration plan.next 0 (k % plan.phases.length) + cursor.timeInCurrentState := by
    rw [cycleTimeElapsed, isIndex, spent_take isShort.le]
  have isTotal : total = cycleDuration plan * (k / plan.phases.length : Nat) +
      cycleTimeElapsed cursor := by
    rw [← tracks.time, elapsed, ← add_assoc, ← spent_cycles, Nat.div_add_mod]
  have belowCycle : cycleTimeElapsed cursor < cycleDuration plan := by
    have grows : spent plan.duration plan.next 0 (k % plan.phases.length + 1) ≤
        spent plan.duration plan.next 0 plan.phases.length :=
      spent_mono nonnegative 0 isShort
    have sameIndex : plan.next^[k % plan.phases.length] 0 = cursor.currentPhaseIdx := by
      apply Fin.ext
      rw [iterate_next_val, isIndex, Nat.mod_mod]
    rw [spent_succ, sameIndex, spent_cycle] at grows
    linarith
  have fromStart : 0 ≤ cycleTimeElapsed cursor := by
    rw [elapsed]
    exact add_nonneg (spent_nonneg nonnegative 0 _) nonneg
  have isCycles : ⌊total / cycleDuration plan⌋ = (k / plan.phases.length : Nat) := by
    have cyclePos : 0 < cycleDuration plan := lt_of_le_of_lt fromStart belowCycle
    rw [Int.floor_eq_iff, le_div_iff₀ cyclePos, div_lt_iff₀ cyclePos]
    rw [Int.cast_natCast]
    constructor
    · linarith
    · linarith
  constructor
  · rw [isCycles, Int.cast_natCast]
    linarith
  · rw [tracks.cycles, isCycles]
    split_ifs <;> simp

/-- An update by a step no longer than any phase that takes time lets its time
pass: the phases that take none are passed through. -/
theorem At.afterUpdate {step : ℚ} (isAt : At total cursor) (nonneg : 0 ≤ step)
    (isShort : ∀ idx, 0 < plan.duration idx → step ≤ plan.duration idx) :
    At (total + step) (update step cursor) := by
  obtain ⟨⟨k, tracks⟩, nonneg', within⟩ := isAt
  have rolls : ∃ passed, Rolled plan.duration plan.next plan.phases.length
      { cursor with timeInCurrentState := cursor.timeInCurrentState + step }
      (update step cursor) passed :=
    roll_spec _ _
  obtain ⟨passed, rolled⟩ := rolls
  refine ⟨(tracks.wait step).roll _, rolled.time_nonneg (add_nonneg nonneg' nonneg), ?_⟩
  rcases Nat.lt_or_eq_of_le rolled.bounded with isEarly | isAround
  · exact rolled.stopped isEarly
  · -- Once around the plan the cursor is back at a phase that takes time.
    have carried := rolled.time_le_carry nonnegative (isAround ▸ plan.nonempty)
    have isBack : (update step cursor).currentPhaseIdx = cursor.currentPhaseIdx := by
      rw [rolled.index, isAround, Plan.iterate_next, ahead_card]
    have isShortHere := isShort cursor.currentPhaseIdx (nonneg'.trans_lt within)
    rw [isBack]
    dsimp only at carried
    linarith

/-- Short updates let their time pass, one after the other. -/
theorem At.afterUpdates {steps : List ℚ} (nonneg : ∀ step ∈ steps, 0 ≤ step)
    (areShort : ∀ step ∈ steps, ∀ idx, 0 < plan.duration idx → step ≤ plan.duration idx)
    (isAt : At total cursor) :
    At (total + steps.sum) (steps.foldl (fun cursor step => update step cursor) cursor) := by
  induction steps generalizing total cursor with
  | nil => rwa [List.sum_nil, add_zero]
  | cons step _ ih =>
    rw [List.sum_cons, ← add_assoc, List.foldl_cons]
    exact ih (fun other isOther => nonneg other (List.mem_cons_of_mem step isOther))
      (fun other isOther => areShort other (List.mem_cons_of_mem step isOther))
      (isAt.afterUpdate nonnegative (nonneg step List.mem_cons_self)
        (areShort step List.mem_cons_self))

end

section

variable (isPositive : ∀ idx, 0 < plan.duration idx)

include isPositive

/-- A cycle takes time. -/
theorem cycleDuration_pos : 0 < cycleDuration plan :=
  (isPositive 0).trans_le (duration_le_cycle (fun idx => (isPositive idx).le) 0)

theorem advanceByLoop_at (fuel : Nat) {total remaining : ℚ} {cursor : PlanCursor plan}
    (isAt : At total cursor) (nonneg : 0 ≤ remaining)
    (enough : cursor.timeInCurrentState + remaining <
      spent plan.duration plan.next cursor.currentPhaseIdx fuel) :
    At (total + remaining) (advanceByLoop fuel remaining cursor) := by
  have nonnegative : ∀ idx, 0 ≤ plan.duration idx := fun idx => (isPositive idx).le
  obtain ⟨⟨k, tracks⟩, nonneg', within⟩ := isAt
  have well : WellTimed cursor := ⟨nonneg', .inl within⟩
  have before (m : Nat) (below : m < k) :
      spent plan.duration plan.next 0 m < total + remaining := by
    have grows : spent plan.duration plan.next 0 (m + 1) ≤ spent plan.duration plan.next 0 k :=
      spent_mono nonnegative 0 below
    rw [spent_succ] at grows
    linarith [tracks.time, isPositive (plan.next^[m] 0)]
  obtain ⟨later, moved, _⟩ := advanceByLoop_tracks fuel tracks well before nonneg enough
  have wellLater := advanceByLoop_wellTimed fuel remaining well
  refine ⟨⟨later, moved⟩, wellLater.nonnegative, ?_⟩
  rcases wellLater.within with isWithin | isZero
  · exact isWithin
  · rw [isZero]
    exact isPositive _

end

end FixedTimeSignalController
end UrbanFlow
