import Mathlib.Algebra.Order.BigOperators.Group.Finset
import Mathlib.Algebra.Order.Field.Basic
import Mathlib.Tactic.Linarith
import Mathlib.Tactic.Ring

/-!
# Schedules with carry-over time

A cursor over a schedule shows one phase and counts the time spent in it. When
a phase has used up its duration the cursor passes to the selected next phase,
and the time left over carries into it. `roll` passes as many phases as the
time allows, at most `fuel` of them. `roll_spec` says everything a roll does:
how many phases were passed, where the cursor is and what time it has left.

The successor is a parameter, so the rules hold for a plain cyclic schedule and
for one whose next phase is redirected.
-/

set_option linter.unusedSectionVars false

namespace CarrySchedule

/-- Which phase is shown, for how long it has been, and how often the schedule
has wrapped. -/
structure Cursor (Phase Time : Type*) where
  currentPhaseIdx : Phase
  timeInCurrentState : Time
  cycleNumber : Nat
  deriving DecidableEq

section Spent

variable {Phase Time : Type*} [AddCommMonoid Time]
variable (duration : Phase → Time) (select : Phase → Phase)

section

variable (i : Phase)

/-- Total duration of the first `k` phases from `i` on. -/
def spent (k : Nat) : Time := ∑ m ∈ Finset.range k, duration (select^[m] i)

@[simp] theorem spent_zero : spent duration select i 0 = 0 := by simp [spent]

theorem spent_succ (k : Nat) : spent duration select i (k + 1) =
      spent duration select i k + duration (select^[k] i) :=
  Finset.sum_range_succ _ _

theorem spent_succ' (k : Nat) : spent duration select i (k + 1) =
      duration i + spent duration select (select i) k := by
  unfold spent
  rw [Finset.sum_range_succ', add_comm]
  simp only [Function.iterate_succ_apply, Function.iterate_zero_apply]

/-- What is spent on some phases and on those after them. -/
theorem spent_add (j k : Nat) : spent duration select i (j + k) =
      spent duration select i j + spent duration select (select^[j] i) k := by
  unfold spent
  rw [Finset.sum_range_add]
  congr 1
  apply Finset.sum_congr rfl
  intro m _
  rw [Nat.add_comm j m, Function.iterate_add_apply]

end

variable {duration} {select} [PartialOrder Time] [IsOrderedAddMonoid Time]

section

variable (nonnegative : ∀ i, 0 ≤ duration i) (i : Phase)

include nonnegative

theorem spent_nonneg (k : Nat) : 0 ≤ spent duration select i k :=
  Finset.sum_nonneg fun _ _ => nonnegative _

theorem duration_le_spent {m k : Nat} (passed : m < k) :
    duration (select^[m] i) ≤ spent duration select i k :=
  Finset.single_le_sum (f := fun m => duration (select^[m] i))
    (fun _ _ => nonnegative _) (Finset.mem_range.mpr passed)

theorem spent_mono {m k : Nat} (le : m ≤ k) :
    spent duration select i m ≤ spent duration select i k :=
  Finset.sum_le_sum_of_subset_of_nonneg (Finset.range_mono le) fun _ _ _ => nonnegative _

end

theorem nsmul_le_spent {least : Time} (atLeast : ∀ i, least ≤ duration i) (i : Phase) (k : Nat) :
    k • least ≤ spent duration select i k := by
  have sum := Finset.card_nsmul_le_sum (Finset.range k)
    (fun m => duration (select^[m] i)) least fun m _ => atLeast _
  rwa [Finset.card_range] at sum

end Spent

section Roll

variable {Phase Time : Type*} [LinearOrder Phase]
variable [Field Time] [LinearOrder Time] [IsStrictOrderedRing Time]
variable (duration : Phase → Time) (select : Phase → Phase)

/-- End the phase shown, carrying the time it did not use. The cycle count goes
up when the schedule steps backwards, that is when it wraps. -/
def Cursor.pass (cursor : Cursor Phase Time) : Cursor Phase Time where
  currentPhaseIdx := select cursor.currentPhaseIdx
  timeInCurrentState := cursor.timeInCurrentState - duration cursor.currentPhaseIdx
  cycleNumber := if select cursor.currentPhaseIdx < cursor.currentPhaseIdx then
      cursor.cycleNumber + 1
    else cursor.cycleNumber

/-- Pass every phase whose time is used up, at most `fuel` of them. -/
def Cursor.roll : Nat → Cursor Phase Time → Cursor Phase Time
  | 0, cursor => cursor
  | fuel + 1, cursor =>
    if cursor.timeInCurrentState < duration cursor.currentPhaseIdx then cursor
    else roll fuel (cursor.pass duration select)

variable {duration} {select}

/-- What a roll does: it passes some number `k` of phases, all of them paid for
by the time at the start, and stops early only at a phase with time left. -/
structure Rolled (duration : Phase → Time) (select : Phase → Phase) (fuel : Nat)
    (before after : Cursor Phase Time) (k : Nat) : Prop where
  bounded : k ≤ fuel
  index : after.currentPhaseIdx = select^[k] before.currentPhaseIdx
  time : after.timeInCurrentState =
    before.timeInCurrentState - spent duration select before.currentPhaseIdx k
  paid : ∀ m, m < k → spent duration select before.currentPhaseIdx (m + 1) ≤
      before.timeInCurrentState
  stopped : k < fuel → after.timeInCurrentState < duration after.currentPhaseIdx

theorem roll_spec (fuel : Nat) (cursor : Cursor Phase Time) :
    ∃ k, Rolled duration select fuel cursor (cursor.roll duration select fuel) k := by
  induction fuel generalizing cursor with
  | zero =>
    refine ⟨0, ⟨le_refl 0, rfl, by simp [Cursor.roll], ?_, ?_⟩⟩
    · intro m small
      exact absurd small (Nat.not_lt_zero m)
    · intro impossible
      exact absurd impossible (Nat.lt_irrefl 0)
  | succ fuel ih =>
    by_cases stays : cursor.timeInCurrentState < duration cursor.currentPhaseIdx
    · have still : cursor.roll duration select (fuel + 1) = cursor := by
        simp [Cursor.roll, stays]
      refine ⟨0, ⟨Nat.zero_le _, ?_, ?_, ?_, ?_⟩⟩
      · rw [still]; rfl
      · rw [still]; simp
      · intro m small
        exact absurd small (Nat.not_lt_zero m)
      · intro _
        rw [still]
        exact stays
    · have moves : cursor.roll duration select (fuel + 1) =
          (cursor.pass duration select).roll duration select fuel := by
        simp [Cursor.roll, stays]
      obtain ⟨k, rolled⟩ := ih (cursor.pass duration select)
      rw [moves]
      refine ⟨k + 1, ⟨Nat.succ_le_succ rolled.bounded, ?_, ?_, ?_, ?_⟩⟩
      · rw [rolled.index]
        rfl
      · rw [rolled.time, spent_succ']
        simp only [Cursor.pass]
        ring
      · intro m small
        rw [spent_succ']
        cases m with
        | zero => simpa using not_lt.mp stays
        | succ m =>
          have earlier := rolled.paid m (by omega)
          simp only [Cursor.pass] at earlier
          linarith
      · intro small
        exact rolled.stopped (by omega)

theorem roll_keeps (kept : Cursor Phase Time → Prop)
    (passed : ∀ cursor, kept cursor → kept (cursor.pass duration select)) (fuel : Nat)
    {cursor : Cursor Phase Time} (initially : kept cursor) :
    kept (cursor.roll duration select fuel) := by
  induction fuel generalizing cursor with
  | zero => exact initially
  | succ _ ih =>
    unfold Cursor.roll
    split
    · exact initially
    · exact ih (passed cursor initially)

/-- The cycle count never goes down. -/
theorem cycleNumber_le_roll (fuel : Nat) (cursor : Cursor Phase Time) :
    cursor.cycleNumber ≤ (cursor.roll duration select fuel).cycleNumber := by
  induction fuel generalizing cursor with
  | zero => exact le_refl _
  | succ _ ih =>
    unfold Cursor.roll
    split
    · exact le_refl _
    · apply le_trans _ (ih _)
      dsimp only [Cursor.pass]
      split
      · exact Nat.le_succ _
      · exact le_refl _

section

variable (fuel : Nat) {cursor : Cursor Phase Time}

theorem roll_of_lt (stays : cursor.timeInCurrentState < duration cursor.currentPhaseIdx) :
    cursor.roll duration select fuel = cursor := by
  cases fuel with
  | zero => rfl
  | succ => simp [Cursor.roll, stays]

theorem roll_succ_of_le (ends : duration cursor.currentPhaseIdx ≤ cursor.timeInCurrentState) :
    cursor.roll duration select (fuel + 1) =
      (cursor.pass duration select).roll duration select fuel := by
  simp [Cursor.roll, not_lt.mpr ends]

end

namespace Rolled

variable {fuel k : Nat} {before after : Cursor Phase Time}

section

variable (rolled : Rolled duration select fuel before after k)

include rolled

/-- A roll never spends more time than there is. -/
theorem time_nonneg (initially : 0 ≤ before.timeInCurrentState) : 0 ≤ after.timeInCurrentState := by
  rw [rolled.time]
  cases k with
  | zero => simpa using initially
  | succ k => linarith [rolled.paid k (Nat.lt_succ_self k)]

/-- The time carried into the last phase is what the first one left over, or
less. -/
theorem time_le_carry (nonnegative : ∀ i, 0 ≤ duration i) (moved : 0 < k) :
    after.timeInCurrentState ≤ before.timeInCurrentState - duration before.currentPhaseIdx := by
  have first : duration before.currentPhaseIdx ≤ spent duration select before.currentPhaseIdx k :=
    duration_le_spent nonnegative before.currentPhaseIdx moved
  rw [rolled.time]
  linarith

/-- Every phase passed after the first fits into what the first left over. -/
theorem passed_le_carry (nonnegative : ∀ i, 0 ≤ duration i) {m : Nat} (later : 0 < m)
    (passed : m < k) : duration (select^[m] before.currentPhaseIdx) ≤
      before.timeInCurrentState - duration before.currentPhaseIdx := by
  have paid := rolled.paid m passed
  rw [spent_succ] at paid
  have first : duration before.currentPhaseIdx ≤ spent duration select before.currentPhaseIdx m :=
    duration_le_spent nonnegative before.currentPhaseIdx later
  linarith

theorem stops_of_measure (measure : Phase → Nat) (small : measure before.currentPhaseIdx < fuel)
    (drops : ∀ m, m < k → measure (select^[m + 1] before.currentPhaseIdx) < measure (select^[m] before.currentPhaseIdx)) :
    after.timeInCurrentState < duration after.currentPhaseIdx := by
  apply rolled.stopped
  have falling : ∀ m, m ≤ k → measure (select^[m] before.currentPhaseIdx) + m ≤
        measure before.currentPhaseIdx := by
    intro m
    induction m with
    | zero => simp
    | succ m ih =>
      intro le
      have earlier := ih (by omega)
      have drop := drops m (by omega)
      omega
  have last := falling k (le_refl k)
  omega

theorem stops_of_least (initially : 0 ≤ before.timeInCurrentState) {least : Time}
    (atLeast : ∀ i, least ≤ duration i) (short : before.timeInCurrentState < fuel * least) :
    after.timeInCurrentState < duration after.currentPhaseIdx := by
  apply rolled.stopped
  apply lt_of_le_of_ne rolled.bounded
  rintro rfl
  have enough : k * least ≤ spent duration select before.currentPhaseIdx k := by
    rw [← nsmul_eq_mul]
    exact nsmul_le_spent atLeast before.currentPhaseIdx k
  have left := rolled.time_nonneg initially
  rw [rolled.time] at left
  linarith

end

end Rolled

end Roll

end CarrySchedule
