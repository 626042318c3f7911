import Mathlib.Algebra.BigOperators.Fin
import Mathlib.Tactic.IntervalCases
import UrbanFlow.Metering.Holds

/-!
# Hold budgets and red intervals

Runs of the controller under any observations. An arm's holds stay within its
budget of the cycle, the cap leaves every green its minimum, and a red interval
is what the plan and the holds account for, up to one time step.
-/

namespace UrbanFlow

open CarrySchedule CyclicOrder SpillbackGuard SpillbackGuard.ArmRecord MeteredPhaseSpec MeteringPhaseCursor

variable {plan : MeteringPlan}

/-- A run from the reset, at a fixed time step, with what each tick observes. -/
structure MeteringRun (plan : MeteringPlan) where
  dt : ℚ
  positive : 0 < dt
  observed : Nat → RingObservation

namespace MeteringRun

section Property

variable (run : MeteringRun plan)

/-- One tick. An update that raises leaves the controller as it was. -/
def tick (controller : SignalisedRoundabout plan)
    (observed : RingObservation) : SignalisedRoundabout plan :=
  match controller.update run.dt observed with
  | .ok after => after
  | .error _ => controller

/-- The controller after `n` ticks. -/
def stateAt (n : Nat) : SignalisedRoundabout plan :=
  Machine.stateAt run.tick (SignalisedRoundabout.reset plan) run.observed n

section

variable (n : Nat)

/-- The cursor after `n` ticks. -/
def cursorAt : MeteringPhaseCursor plan := (run.stateAt n).cursor

def cycleAt : Nat := (run.cursorAt n).cycleNumber

/-- The cursor tick `n` advances to, before the queue cap. -/
def advancedAt : MeteringPhaseCursor plan :=
  match advance run.dt (run.cursorAt n) with
  | .ok advanced => advanced
  | .error _ => run.cursorAt n

/-- The arm the queue cap ends a green for in tick `n`. -/
def cappedAt : Option Direction :=
  (QueueCap.checkAndTrigger (run.observed n).standingQueue (run.advancedAt n)
    (run.stateAt n).triggers).1

/-- The guard holds an arm after `n` ticks. -/
def HeldAt (arm : Direction) : Prop := arm ∈ (run.stateAt n).gate.spillbackHolds

end

instance (n : Nat) (arm : Direction) : Decidable (run.HeldAt n arm) :=
  inferInstanceAs (Decidable (_ ∈ _))

/-- Tick `n - 1` records that an arm's budget is used. -/
def ExhaustedAt (n : Nat) (arm : Direction) : Prop :=
  arm ∈ (run.stateAt n).spillbackGuard.exhaustedThisTick

instance (n : Nat) (arm : Direction) : Decidable (run.ExhaustedAt n arm) :=
  inferInstanceAs (Decidable (_ ∈ _))

/-- An arm is shown red after `n` ticks. -/
def RedAt (n : Nat) (arm : Direction) : Prop := (run.stateAt n).signalsState arm = .red

instance (n : Nat) (arm : Direction) : Decidable (run.RedAt n arm) :=
  inferInstanceAs (Decidable (_ = _))

/-- How long an arm has been held in a plan cycle before `n` ticks are over. -/
def heldInCycle (arm : Direction) (cycle n : Nat) : ℚ := run.dt * ((Finset.range n).filter fun m =>
    run.cycleAt m = cycle ∧ run.HeldAt m arm).card

/-- How long an arm has been held from tick `a` up to tick `b`. -/
def heldBetween (arm : Direction) (a b : Nat) : ℚ :=
  run.dt * ((Finset.Ico a b).filter fun m => run.HeldAt m arm).card

/-- In each cycle an arm is held for less than its budget and one time step, not
at all once the budget is used, and that is recorded once. -/
structure Budgeted : Prop where
  within : ∀ arm cycle n, run.heldInCycle arm cycle n < plan.spillbackGuard.maxHold + run.dt
  released : ∀ arm n, plan.spillbackGuard.maxHold ≤ run.heldInCycle arm (run.cycleAt n) n →
      ¬ run.HeldAt n arm
  once : ∀ arm i j, run.ExhaustedAt i arm → run.ExhaustedAt j arm →
    run.cycleAt i = run.cycleAt j → i = j

/-- The time of a phase runs out before the cursor passes it, unless the cap
ends it: a green that has had its minimum, for a queue. -/
structure GreensKept : Prop where
  advances : ∀ n, ∃ k, Advanced run.dt (run.cursorAt n) (run.advancedAt n) k
  rests : ∀ n, run.cappedAt n = none → run.cursorAt (n + 1) = run.advancedAt n
  ends : ∀ n arm, run.cappedAt n = some arm →
    (currentPhase (run.advancedAt n)).color = .green ∧ (∃ spec ∈ plan.specs,
        (currentPhase (run.advancedAt n)).directions = spec.entries ∧
        spec.minGreen - 1 / 1000000 ≤ (run.advancedAt n).timeInCurrentState) ∧
      run.cursorAt (n + 1) = next 0 (run.advancedAt n)

/-- No red interval is longer than the planned red and the holds in it. -/
def RedAsPlanned : Prop := ∀ arm a b, (∀ n, a ≤ n → n < b → run.RedAt n arm) →
    (b - a : Nat) * run.dt ≤ plan.plannedRedFor arm + run.heldBetween arm a b

/-- Every red interval is shorter than the planned red, the holds in it and one
time step. -/
def RedNearlyPlanned : Prop :=
  ∀ arm a b, (∀ n, a ≤ n → n < b → run.RedAt n arm) → (b - a : Nat) * run.dt <
      plan.plannedRedFor arm + run.heldBetween arm a b + run.dt

/-- The time step hides no yellow, and then no red interval is longer than
planned by a time step. -/
def RedWithinTick : Prop := run.dt ≤ plan.yellow → run.RedNearlyPlanned

end Property

variable (run : MeteringRun plan)

/-! ## Every tick -/

theorem settledAt (n : Nat) : Settled (run.cursorAt n) := by
  apply Machine.invariant fun controller : SignalisedRoundabout plan =>
    Settled controller.cursor
  · exact reset_settled plan
  · intro controller observed settled
    obtain ⟨after, isOk, _, _, _, ticked⟩ :=
      SignalisedRoundabout.update_ticked run.positive settled observed
    unfold tick
    rw [isOk]
    exact ticked.settled

theorem tickedAt (n : Nat) :
    ∃ k, SignalisedRoundabout.Ticked run.dt (run.observed n) (run.stateAt n)
      (run.stateAt (n + 1)) (run.advancedAt n) k (run.cappedAt n) := by
  have settled := run.settledAt n
  obtain ⟨advanced, k, isOk, advance⟩ := advance_advanced run.positive settled
  have isAdvanced : run.advancedAt n = advanced := by
    unfold advancedAt
    rw [isOk]
  have after : run.stateAt (n + 1) =
      (run.stateAt n).updateAdvanced run.dt (run.observed n) advanced := by
    change run.tick (run.stateAt n) (run.observed n) = _
    change MeteringPhaseCursor.advance run.dt (run.stateAt n).cursor = _ at isOk
    unfold tick SignalisedRoundabout.update
    rw [isOk]
    rfl
  refine ⟨k, ?_⟩
  rw [after]
  unfold cappedAt
  rw [isAdvanced]
  exact SignalisedRoundabout.updateAdvanced_ticked advance

theorem cycleAt_succ (n : Nat) : run.cycleAt n ≤ run.cycleAt (n + 1) := by
  obtain ⟨k, ticked⟩ := run.tickedAt n
  exact ticked.advance.cycleNumber.trans ticked.cap.cycleNumber_le

theorem cycleAt_monotone : Monotone run.cycleAt := monotone_nat_of_le_succ run.cycleAt_succ

/-! ## The budget -/

open SpillbackGuard in
/-- What the guard has on an arm after `n` ticks. -/
def recordAt (n : Nat) (arm : Direction) : ArmRecord :=
  armRecord arm ((run.stateAt n).spillbackGuard, (run.stateAt n).gate.spillbackHolds)

section

variable (n : Nat) (arm : Direction)

theorem heldAt_iff : run.HeldAt n arm ↔ (run.recordAt n arm).held = true := decide_eq_true_iff.symm

theorem exhaustedAt_iff : run.ExhaustedAt n arm ↔ (run.recordAt n arm).recorded = true :=
  decide_eq_true_iff.symm

end

theorem not_heldAt_zero (arm : Direction) : ¬ run.HeldAt 0 arm := List.not_mem_nil

theorem not_exhaustedAt_zero (arm : Direction) : ¬ run.ExhaustedAt 0 arm := List.not_mem_nil

def Guarded (plan : MeteringPlan) (arm : Direction) : Prop :=
  plan.spillbackGuard.enabled = true ∧ arm ∈ plan.meteredEntries

/-- An arm's record when the guard's loop of tick `n` begins. -/
def freshAt (n : Nat) (arm : Direction) : ArmRecord :=
  (run.stateAt n).spillbackGuard.freshRecord (run.cycleAt (n + 1)) arm

theorem recordAt_succ {arm : Direction} (guarded : Guarded plan arm) (n : Nat) :
    run.recordAt (n + 1) arm = (run.freshAt n arm).pass plan.spillbackGuard.maxHold run.dt
        (Blocked (run.cursorAt (n + 1)) (run.observed n).stoppedVehicles arm) := by
  obtain ⟨k, ticked⟩ := run.tickedAt n
  unfold recordAt
  rw [ticked.guard]
  exact update_record guarded.1 _ _ _ guarded.2 _

theorem recordAt_idle {arm : Direction} (idle : ¬ Guarded plan arm) (n : Nat) :
    (run.recordAt n arm).held = false ∧ (run.recordAt n arm).recorded = false := by
  cases n with
  | zero => exact ⟨rfl, rfl⟩
  | succ n =>
    obtain ⟨k, ticked⟩ := run.tickedAt n
    unfold recordAt
    rw [ticked.guard]
    exact update_idle _ _ _ _ idle

section

variable {n : Nat} {arm : Direction}

theorem guarded_of_heldAt (held : run.HeldAt n arm) : Guarded plan arm := by
  by_contra idle
  rw [heldAt_iff, (run.recordAt_idle idle n).1] at held
  exact Bool.noConfusion held

theorem guarded_of_exhaustedAt (exhausted : run.ExhaustedAt n arm) : Guarded plan arm := by
  by_contra idle
  rw [exhaustedAt_iff, (run.recordAt_idle idle n).2] at exhausted
  exact Bool.noConfusion exhausted

end

theorem lastCycleNumber_succ (enabled : plan.spillbackGuard.enabled = true) (n : Nat) :
    (run.stateAt (n + 1)).spillbackGuard.lastCycleNumber = run.cycleAt (n + 1) := by
  obtain ⟨k, ticked⟩ := run.tickedAt n
  have guard := congrArg (fun loop => loop.1.lastCycleNumber) ticked.guard
  exact guard.trans (update_lastCycleNumber enabled _ _ _ _)

/-- One more tick adds a time step to the holds of a cycle where it is a held
tick of that cycle. -/
theorem heldInCycle_succ (arm : Direction) (cycle n : Nat) : run.heldInCycle arm cycle (n + 1) =
      run.heldInCycle arm cycle n +
        if run.cycleAt n = cycle ∧ run.HeldAt n arm then run.dt else 0 := by
  unfold heldInCycle
  rw [Finset.range_add_one, Finset.filter_insert]
  split
  · rw [Finset.card_insert_of_notMem (by simp)]
    push_cast
    ring
  · rw [add_zero]

theorem heldInCycle_of_before (arm : Direction) {cycle n : Nat}
    (before : ∀ m, m < n → run.cycleAt m ≠ cycle) : run.heldInCycle arm cycle n = 0 := by
  induction n with
  | zero => simp [heldInCycle]
  | succ n ih =>
    rw [heldInCycle_succ, ih fun m small => before m (Nat.lt_succ_of_lt small)]
    simp [before n (Nat.lt_succ_self n)]

/-- The guard's account of an arm: the time it has been held in this cycle, up
to the budget. -/
def Accounted (n : Nat) (arm : Direction) : Prop :=
  (run.recordAt n arm).cycleHoldTime = min plan.spillbackGuard.maxHold
      (run.heldInCycle arm (run.cycleAt n) (n + 1))

section

variable {arm : Direction} (guarded : Guarded plan arm)

include guarded

theorem freshAt_accounted {n : Nat} (accounted : run.Accounted n arm) :
    (run.freshAt n arm).cycleHoldTime = min plan.spillbackGuard.maxHold
        (run.heldInCycle arm (run.cycleAt (n + 1)) (n + 1)) := by
  have budget := plan.spillbackGuard.maxHold_bounds.1
  unfold freshAt freshRecord
  dsimp only
  cases n with
  | zero =>
    have nothing : run.heldInCycle arm (run.cycleAt 1) 1 = 0 := by
      rw [heldInCycle_succ, if_neg fun held => run.not_heldAt_zero arm held.2]
      simp [heldInCycle]
    rw [nothing, min_eq_right budget]
    split <;> rfl
  | succ n =>
    rw [run.lastCycleNumber_succ guarded.1]
    split
    · next same =>
        rw [same]
        exact accounted
    · next changed =>
        rw [run.heldInCycle_of_before arm, min_eq_right budget]
        intro m small same
        have early := run.cycleAt_monotone (Nat.le_of_lt_succ small)
        have late := run.cycleAt_succ (n + 1)
        exact changed (by omega)

theorem accounted (n : Nat) : run.Accounted n arm := by
  have budget := plan.spillbackGuard.maxHold_bounds.1
  induction n with
  | zero =>
    unfold Accounted
    rw [heldInCycle_succ, if_neg fun held => run.not_heldAt_zero arm held.2]
    simp only [heldInCycle, Finset.range_zero, Finset.filter_empty,
      Finset.card_empty, Nat.cast_zero, mul_zero, add_zero]
    exact (min_eq_right budget).symm
  | succ n ih =>
    have fresh := run.freshAt_accounted guarded ih
    have after := run.recordAt_succ guarded n
    unfold Accounted
    rw [heldInCycle_succ]
    simp only [heldAt_iff, true_and]
    rcases pass_cases plan.spillbackGuard.maxHold
        run.dt (Blocked (run.cursorAt (n + 1))
          (run.observed n).stoppedVehicles arm) (run.freshAt n arm) with
      ⟨_, left, passed⟩ | ⟨_, _, passed⟩ | ⟨_, passed⟩
    · rw [after, passed, if_pos rfl]
      dsimp only
      rw [fresh] at left ⊢
      generalize run.heldInCycle arm (run.cycleAt (n + 1)) (n + 1) = held at left ⊢
      have under : held < plan.spillbackGuard.maxHold := by
        by_contra used
        rw [min_eq_left (not_lt.mp used)] at left
        exact lt_irrefl _ left
      rw [min_eq_right under.le, ← min_add_add_left]
      rw [add_sub_cancel, min_comm]
    · rw [after, passed, if_neg fun held => Bool.noConfusion held, add_zero]
      exact fresh
    · rw [after, passed, if_neg fun held => Bool.noConfusion held, add_zero]
      exact fresh

end

theorem blocked_of_heldAt {n : Nat} {arm : Direction} (held : run.HeldAt (n + 1) arm) :
    Blocked (run.cursorAt (n + 1)) (run.observed n).stoppedVehicles arm ∧
      (run.freshAt n arm).cycleHoldTime < plan.spillbackGuard.maxHold := by
  have guarded := run.guarded_of_heldAt held
  rw [heldAt_iff, run.recordAt_succ guarded] at held
  rcases pass_cases plan.spillbackGuard.maxHold
      run.dt (Blocked (run.cursorAt (n + 1))
        (run.observed n).stoppedVehicles arm) (run.freshAt n arm) with
    ⟨blocked, left, _⟩ | ⟨_, _, passed⟩ | ⟨_, passed⟩
  · exact ⟨blocked, left⟩
  · rw [passed] at held
    exact Bool.noConfusion held
  · rw [passed] at held
    exact Bool.noConfusion held

theorem released_at {arm : Direction} {n : Nat}
    (used : plan.spillbackGuard.maxHold ≤ run.heldInCycle arm (run.cycleAt n) n) :
    ¬ run.HeldAt n arm := by
  intro held
  cases n with
  | zero => exact run.not_heldAt_zero arm held
  | succ n =>
    have guarded := run.guarded_of_heldAt held
    have left := (run.blocked_of_heldAt held).2
    rw [run.freshAt_accounted guarded (run.accounted guarded n), min_eq_left used] at left
    exact lt_irrefl _ left

theorem heldInCycle_lt (arm : Direction) (cycle n : Nat) :
    run.heldInCycle arm cycle n < plan.spillbackGuard.maxHold + run.dt := by
  have budget := plan.spillbackGuard.maxHold_bounds.1
  have positive := run.positive
  induction n with
  | zero =>
    rw [run.heldInCycle_of_before arm fun m small => absurd small (Nat.not_lt_zero m)]
    linarith
  | succ n =>
    rw [heldInCycle_succ]
    split
    · next isHeld =>
        obtain ⟨rfl, held⟩ := isHeld
        have under : run.heldInCycle arm (run.cycleAt n) n < plan.spillbackGuard.maxHold := by
          by_contra used
          exact run.released_at (not_lt.mp used) held
        linarith
    · linarith

section

variable {arm : Direction}

theorem freshAt_exhausted (guarded : Guarded plan arm) {n : Nat}
    (same : run.cycleAt (n + 1) = run.cycleAt n)
    (exhausted : (run.recordAt n arm).exhausted = true) : (run.freshAt n arm).exhausted = true := by
  cases n with
  | zero => exact Bool.noConfusion exhausted
  | succ =>
    unfold freshAt freshRecord
    dsimp only
    rw [run.lastCycleNumber_succ guarded.1, decide_eq_true same, Bool.true_and]
    exact exhausted

/-- What has been recorded in this cycle is not forgotten before the next. -/
theorem exhausted_kept (guarded : Guarded plan arm) {m n : Nat} (le : m ≤ n)
    (same : run.cycleAt m = run.cycleAt n) (recorded : run.ExhaustedAt m arm) :
    (run.recordAt n arm).exhausted = true := by
  induction n with
  | zero =>
    obtain rfl := Nat.le_zero.mp le
    exact absurd recorded (run.not_exhaustedAt_zero arm)
  | succ n ih =>
    rw [run.recordAt_succ guarded]
    rcases Nat.le_succ_iff.mp le with earlier | rfl
    · have between := run.cycleAt_monotone earlier
      have next := run.cycleAt_succ n
      have fresh := run.freshAt_exhausted guarded (by omega) (ih earlier (by omega))
      rcases pass_cases plan.spillbackGuard.maxHold
          run.dt (Blocked (run.cursorAt (n + 1))
            (run.observed n).stoppedVehicles arm) (run.freshAt n arm) with
        ⟨_, _, passed⟩ | ⟨_, _, passed⟩ | ⟨_, passed⟩
      · rw [passed]
        exact fresh
      · rw [passed]
      · rw [passed]
        exact fresh
    · rw [exhaustedAt_iff, run.recordAt_succ guarded] at recorded
      exact exhausted_of_recorded rfl recorded

theorem exhaustedAt_once {i j : Nat} (before : i < j) (first : run.ExhaustedAt i arm)
    (second : run.ExhaustedAt j arm) : run.cycleAt i ≠ run.cycleAt j := by
  intro same
  cases j with
  | zero => exact absurd before (Nat.not_lt_zero i)
  | succ j =>
    have guarded := run.guarded_of_exhaustedAt first
    have le := Nat.le_of_lt_succ before
    have between := run.cycleAt_monotone le
    have next := run.cycleAt_succ j
    have fresh := run.freshAt_exhausted guarded (by omega)
      (run.exhausted_kept guarded le (by omega) first)
    rw [exhaustedAt_iff, run.recordAt_succ guarded] at second
    rcases pass_cases plan.spillbackGuard.maxHold
        run.dt (Blocked (run.cursorAt (j + 1))
          (run.observed j).stoppedVehicles arm) (run.freshAt j arm) with
      ⟨_, _, passed⟩ | ⟨_, _, passed⟩ | ⟨_, passed⟩
    · rw [passed] at second
      exact Bool.noConfusion second
    · rw [passed] at second
      dsimp only at second
      rw [fresh] at second
      exact Bool.noConfusion second
    · rw [passed] at second
      exact Bool.noConfusion second

end

theorem budgeted : run.Budgeted := by
  refine ⟨run.heldInCycle_lt, fun arm n => run.released_at, ?_⟩
  intro arm i j first second same
  rcases lt_trichotomy i j with before | rfl | after
  · exact absurd same (run.exhaustedAt_once before first second)
  · rfl
  · exact absurd same.symm (run.exhaustedAt_once after second first)

/-! ## The greens -/

theorem greensKept : run.GreensKept := by
  refine ⟨fun n => ?_, fun n uncapped => ?_, fun n arm capped => ?_⟩
  · obtain ⟨k, ticked⟩ := run.tickedAt n
    exact ⟨k, ticked.advance⟩
  · obtain ⟨k, ticked⟩ := run.tickedAt n
    have cap := ticked.cap
    rw [uncapped] at cap
    cases cap with
    | rests unchanged => exact unchanged
  · obtain ⟨k, ticked⟩ := run.tickedAt n
    have cap := ticked.cap
    rw [capped] at cap
    cases cap with
    | ends _ _ _ _ isSpec isGreen directions minimum ended =>
      exact ⟨isGreen, ⟨_, isSpec, directions, minimum⟩, ended⟩

end MeteringRun

/-! ## The time left before an arm is served -/

namespace MeteringPhaseCursor

/-- What is left of the plan before the next phase that serves the arm. -/
def toServed (plan : MeteringPlan) (arm : Direction) (idx : plan.timing.Idx) : ℚ :=
  spent plan.timing.duration plan.timing.next idx (gap (serves plan arm) idx)

theorem toServed_next {arm : Direction} (metered : arm ∈ plan.meteredEntries)
    {idx : plan.timing.Idx} (unserved : serves plan arm idx = false) : toServed plan arm idx =
      plan.timing.duration idx + toServed plan arm (plan.timing.next idx) := by
  obtain ⟨found, holds⟩ := exists_serves metered
  exact Plan.spent_gap unserved holds

theorem toServed_nonneg (arm : Direction) (idx : plan.timing.Idx) : 0 ≤ toServed plan arm idx :=
  spent_nonneg (fun idx => (duration_pos idx).le) idx _

section

variable {arm : Direction}

variable {cursor before after : MeteringPhaseCursor plan} {deltaTime : ℚ} {k : Nat}

theorem time_lt_toServed (metered : arm ∈ plan.meteredEntries) (settled : Settled cursor)
    (unserved : serves plan arm cursor.currentPhaseIdx = false) :
    cursor.timeInCurrentState < toServed plan arm cursor.currentPhaseIdx := by
  rw [toServed_next metered unserved]
  have rest := toServed_nonneg arm (plan.timing.next cursor.currentPhaseIdx)
  linarith [settled.within]

/-- Past phases that do not serve the arm, what they spend is what they take off
the time left. -/
theorem toServed_walk (metered : arm ∈ plan.meteredEntries) (idx : plan.timing.Idx) (k : Nat)
    (unserved : ∀ m, m < k → serves plan arm (plan.timing.next^[m] idx) = false) :
    toServed plan arm idx = spent plan.timing.duration plan.timing.next idx k +
        toServed plan arm (plan.timing.next^[k] idx) := by
  induction k with
  | zero => simp
  | succ k ih =>
    rw [ih fun m small => unserved m (by omega), spent_succ,
      toServed_next metered (unserved k (Nat.lt_succ_self k)),
      Function.iterate_succ_apply']
    ring

theorem sum_filter_map {α : Type*} (p : α → Bool) (f : α → ℚ) (xs : List α) :
    ((xs.filter p).map f).sum = (xs.map fun x => if p x then f x else 0).sum := by
  induction xs with
  | nil => rfl
  | cons x _ ih =>
    rw [List.map_cons, List.sum_cons, ← ih]
    by_cases holds : p x <;> simp [holds]

theorem plannedRedFor_eq (metered : arm ∈ plan.meteredEntries) :
    plan.plannedRedFor arm = ∑ idx ∈ Finset.univ.filter fun idx => serves plan arm idx = false,
        plan.timing.duration idx := by
  unfold EntryMeteringPlan.plannedRedFor
  rw [if_pos metered, sum_filter_map, ← Fin.sum_univ_fun_getElem, Finset.sum_filter]
  apply Finset.sum_congr rfl
  intro idx _
  by_cases served : arm ∈ plan.timing.directions idx
  · have listed : arm ∈ plan.phases[idx.val].directions := served
    rw [if_neg (by simpa using listed), if_neg (by simp [serves, served])]
  · have unlisted : arm ∉ plan.phases[idx.val].directions := served
    rw [if_pos (by simpa using unlisted), if_pos (by simp [serves, served])]
    rfl

theorem toServed_le_plannedRedFor (metered : arm ∈ plan.meteredEntries) (idx : plan.timing.Idx) :
    toServed plan arm idx ≤ plan.plannedRedFor arm := by
  obtain ⟨found, holds⟩ := exists_serves metered
  have short := gap_lt idx holds
  rw [plannedRedFor_eq metered]
  unfold toServed spent
  have injective : Set.InjOn (fun m => plan.timing.next^[m] idx)
      (Finset.range (gap (serves plan arm) idx)) := by
    intro m small other within same
    rw [Finset.coe_range, Set.mem_Iio] at small within
    simp only [Plan.iterate_next] at same
    have distances := congrArg (distance idx) same
    rwa [distance_ahead idx (by omega), distance_ahead idx (by omega)] at distances
  rw [← Finset.sum_image injective]
  apply Finset.sum_le_sum_of_subset_of_nonneg
  · intro other member
    obtain ⟨m, small, rfl⟩ := Finset.mem_image.mp member
    rw [Finset.mem_filter]
    refine ⟨Finset.mem_univ _, ?_⟩
    rw [Plan.iterate_next]
    exact gap_minimal (Finset.mem_range.mp small)
  · intro other _ _
    exact (duration_pos other).le

/-- A yellow no shorter than the time step is never passed unseen, so a tick
that ends where the arm is not served passed no phase that serves it. -/
theorem unserved_passed (positive : 0 < deltaTime) (short : deltaTime ≤ plan.yellow)
    (settled : Settled before) (advance : Advanced deltaTime before after k)
    (unserved : serves plan arm after.currentPhaseIdx = false) {m : Nat} (passed : 0 < m)
    (le : m ≤ k) : serves plan arm (plan.timing.next^[m] before.currentPhaseIdx) = false := by
  have back : ∀ j, j < k → serves plan arm
      (plan.timing.next^[k - j] before.currentPhaseIdx) = false := by
    intro j
    induction j with
    | zero =>
      intro _
      rw [Nat.sub_zero]
      rw [advance.rolled.index] at unserved
      exact unserved
    | succ j ih =>
      intro small
      have last := ih (by omega)
      rw [show k - j = k - (j + 1) + 1 by omega, Function.iterate_succ_apply'] at last
      by_contra served
      rw [Bool.not_eq_false] at served
      have isYellow := (yellow_of_last (positive.trans_le short) served last).2
      have carried := advance.rolled.passed_le_carry
        (fun idx => (duration_pos idx).le) (m := k - (j + 1)) (by omega)
        (by omega)
      dsimp only at carried
      rw [isYellow] at carried
      linarith [settled.within]
  have here := back (k - m) (by omega)
  rwa [Nat.sub_sub_self le] at here

theorem toServed_advanced (metered : arm ∈ plan.meteredEntries) (positive : 0 < deltaTime)
    (short : deltaTime ≤ plan.yellow) (settled : Settled before)
    (advance : Advanced deltaTime before after k)
    (unservedBefore : serves plan arm before.currentPhaseIdx = false)
    (unservedAfter : serves plan arm after.currentPhaseIdx = false) :
    toServed plan arm after.currentPhaseIdx - after.timeInCurrentState =
      toServed plan arm before.currentPhaseIdx - before.timeInCurrentState - deltaTime := by
  have walked := toServed_walk metered before.currentPhaseIdx k (by
    intro m small
    cases m with
    | zero => exact unservedBefore
    | succ m =>
      exact unserved_passed positive short settled advance unservedAfter (Nat.succ_pos m) small.le)
  rw [advance.rolled.index, advance.rolled.time, walked]
  dsimp only
  ring

theorem served_of_green (metered : arm ∈ plan.meteredEntries)
    (isGreen : getColor arm cursor = .green) : serves plan arm cursor.currentPhaseIdx = true ∧
      (plan.timing.phase cursor.currentPhaseIdx).color = .green := by
  unfold getColor at isGreen
  rw [if_pos metered] at isGreen
  split at isGreen
  · next served => exact ⟨decide_eq_true served, isGreen⟩
  · exact nomatch isGreen

end

theorem unserved_capped (hasYellow : 0 < plan.yellow) {arm : Direction}
    {standingQueue : Direction → Nat} {before after : MeteringPhaseCursor plan}
    {qcArm : Option Direction} (cap : QueueCap.CapMove standingQueue before after qcArm)
    (unserved : serves plan arm after.currentPhaseIdx = false) :
    serves plan arm before.currentPhaseIdx = false := by
  cases cap with
  | rests unchanged => rwa [← unchanged]
  | ends _ _ _ _ _ isGreen _ _ ended =>
    rw [ended] at unserved
    have same := (green_next hasYellow isGreen).2
    unfold serves at unserved ⊢
    rwa [← same]

end MeteringPhaseCursor

/-! ## Red intervals -/

namespace MeteringRun

open MeteringPhaseCursor

variable (run : MeteringRun plan)

theorem redAt_cases {n : Nat} {arm : Direction} (isRed : run.RedAt n arm) :
    run.HeldAt n arm ∨ arm ∈ plan.meteredEntries ∧
      serves plan arm (run.cursorAt n).currentPhaseIdx = false := by
  unfold RedAt SignalisedRoundabout.signalsState at isRed
  split at isRed
  · next held => exact .inl held
  · right
    have metered : arm ∈ plan.meteredEntries := by
      by_contra unmetered
      unfold getColor at isRed
      rw [if_neg unmetered] at isRed
      exact nomatch isRed
    exact ⟨metered, (getColor_red_iff metered _).mp isRed⟩

section

variable (short : run.dt ≤ plan.yellow) {arm : Direction}

include short

theorem unserved_tick (metered : arm ∈ plan.meteredEntries) {n : Nat}
    (before : serves plan arm (run.cursorAt n).currentPhaseIdx = false)
    (after : serves plan arm (run.cursorAt (n + 1)).currentPhaseIdx = false) :
    toServed plan arm (run.cursorAt (n + 1)).currentPhaseIdx -
        (run.cursorAt (n + 1)).timeInCurrentState ≤
      toServed plan arm (run.cursorAt n).currentPhaseIdx -
        (run.cursorAt n).timeInCurrentState - run.dt := by
  obtain ⟨k, ticked⟩ := run.tickedAt n
  have hasYellow := run.positive.trans_le short
  have between := unserved_capped hasYellow ticked.cap after
  have ran := toServed_advanced metered run.positive short (run.settledAt n)
    ticked.advance before between
  have cap := ticked.cap
  change QueueCap.CapMove _ _ (run.cursorAt (n + 1)) _ at cap
  generalize run.cappedAt n = qcArm at cap
  cases cap with
  | rests unchanged =>
    rw [unchanged]
    exact ran.le
  | ends _ _ _ _ _ _ _ _ ended =>
    have left := ticked.advance.settled.within
    rw [toServed_next metered between] at ran
    rw [ended]
    dsimp only [next]
    change toServed plan arm _ - (run.cursorAt n).timeInCurrentState - run.dt ≥ _
    change _ = toServed plan arm _ - (run.cursorAt n).timeInCurrentState - run.dt at ran
    linarith

theorem served_after_held {n : Nat} (held : run.HeldAt n arm) :
    serves plan arm (run.cursorAt (n + 1)).currentPhaseIdx = true := by
  have hasYellow := run.positive.trans_le short
  have metered := (run.guarded_of_heldAt held).2
  cases n with
  | zero => exact absurd held (run.not_heldAt_zero arm)
  | succ n =>
    obtain ⟨served, isGreen⟩ := served_of_green metered (run.blocked_of_heldAt held).1.1
    by_contra unserved
    rw [Bool.not_eq_true] at unserved
    obtain ⟨k, ticked⟩ := run.tickedAt (n + 1)
    have between := unserved_capped hasYellow ticked.cap unserved
    cases k with
    | zero =>
      have stays := ticked.advance.rolled.index
      change _ = (run.cursorAt (n + 1)).currentPhaseIdx at stays
      rw [stays, served] at between
      exact Bool.noConfusion between
    | succ k =>
      have passed := unserved_passed run.positive short
        (run.settledAt (n + 1)) ticked.advance between Nat.one_pos
        (Nat.succ_pos k)
      have same := (green_next hasYellow isGreen).2
      unfold serves at served passed
      rw [Function.iterate_one, same, served] at passed
      exact Bool.noConfusion passed

theorem red_split {a : Nat} (d : Nat) (isRed : ∀ n, a ≤ n → n < a + d → run.RedAt n arm) :
    ∃ u, u ≤ d ∧ (∀ n, a ≤ n → n < a + u → ¬ run.HeldAt n arm) ∧
      ∀ n, a + u ≤ n → n < a + d → run.HeldAt n arm := by
  induction d with
  | zero => exact ⟨0, le_refl 0, fun n _ _ => by omega, fun n _ _ => by omega⟩
  | succ d ih =>
    obtain ⟨u, le, unheld, held⟩ := ih fun n late early => isRed n late (by omega)
    by_cases last : run.HeldAt (a + d) arm
    · refine ⟨u, by omega, unheld, fun n late early => ?_⟩
      rcases Nat.lt_succ_iff_lt_or_eq.mp early with sooner | rfl
      · exact held n late sooner
      · exact last
    · rcases Nat.eq_or_lt_of_le le with rfl | holds
      · refine ⟨u + 1, le_refl _, fun n late early => ?_, fun n _ _ => by
          omega⟩
        rcases Nat.lt_succ_iff_lt_or_eq.mp early with sooner | rfl
        · exact unheld n late sooner
        · exact last
      · exfalso
        obtain ⟨e, rfl⟩ := Nat.exists_eq_add_of_lt holds
        have served := run.served_after_held short (held (a + (u + e)) (by omega) (by omega))
        rcases run.redAt_cases (isRed (a + (u + e + 1)) (by omega)
          (by omega)) with isHeld | ⟨_, unserved⟩
        · exact last isHeld
        · rw [show a + (u + e + 1) = a + (u + e) + 1 by omega, served] at unserved
          exact Bool.noConfusion unserved

theorem unserved_stretch (metered : arm ∈ plan.meteredEntries) {a u : Nat}
    (unserved : ∀ n, a ≤ n → n ≤ a + u → serves plan arm (run.cursorAt n).currentPhaseIdx = false) :
    u * run.dt < plan.plannedRedFor arm := by
  have spends : toServed plan arm (run.cursorAt (a + u)).currentPhaseIdx -
        (run.cursorAt (a + u)).timeInCurrentState ≤
      toServed plan arm (run.cursorAt a).currentPhaseIdx -
        (run.cursorAt a).timeInCurrentState - u * run.dt := by
    induction u with
    | zero => simp
    | succ u ih =>
      have before := ih fun n late early => unserved n late (by omega)
      have tick := run.unserved_tick short metered (unserved (a + u) (by omega) (by omega))
        (unserved (a + u + 1) (by omega) (by omega))
      rw [← Nat.add_assoc]
      push_cast
      linarith
  have left := time_lt_toServed metered (run.settledAt (a + u))
    (unserved (a + u) (by omega) (le_refl _))
  have planned := toServed_le_plannedRedFor metered (run.cursorAt a).currentPhaseIdx
  have started := (run.settledAt a).nonnegative
  linarith

end

theorem plannedRedFor_nonneg (plan : MeteringPlan) (arm : Direction) :
    0 ≤ plan.plannedRedFor arm := by
  by_cases metered : arm ∈ plan.meteredEntries
  · exact (toServed_nonneg arm (reset plan).currentPhaseIdx).trans
      (toServed_le_plannedRedFor metered _)
  · unfold EntryMeteringPlan.plannedRedFor
    rw [if_neg metered]

theorem redWithinTick : run.RedWithinTick := by
  intro short arm a b isRed
  have positive := run.positive
  obtain ⟨d, isEnd⟩ : ∃ d, b - a = d := ⟨_, rfl⟩
  obtain ⟨u, le, unheld, held⟩ := run.red_split short d fun n late early => isRed n late (by omega)
  have holds : run.heldBetween arm a b = (d - u : Nat) * run.dt := by
    unfold heldBetween
    rw [mul_comm]
    congr 2
    have stretch : (Finset.Ico a b).filter (fun n => run.HeldAt n arm) =
        Finset.Ico (a + u) (a + d) := by
      ext n
      rw [Finset.mem_filter, Finset.mem_Ico, Finset.mem_Ico]
      constructor
      · rintro ⟨⟨late, early⟩, isHeld⟩
        refine ⟨?_, by omega⟩
        by_contra sooner
        exact unheld n late (by omega) isHeld
      · rintro ⟨late, early⟩
        exact ⟨⟨by omega, by omega⟩, held n late early⟩
    rw [stretch, Nat.card_Ico]
    omega
  have planned : (u : ℚ) * run.dt < plan.plannedRedFor arm + run.dt := by
    cases u with
    | zero =>
      have nonnegative := plannedRedFor_nonneg plan arm
      simp only [Nat.cast_zero, zero_mul]
      linarith
    | succ u =>
      have unserved : ∀ n, a ≤ n → n ≤ a + u → arm ∈ plan.meteredEntries ∧
          serves plan arm (run.cursorAt n).currentPhaseIdx = false := by
        intro n late early
        rcases run.redAt_cases (isRed n late (by omega)) with
          isHeld | unserved
        · exact absurd isHeld (unheld n late (by omega))
        · exact unserved
      have stretch := run.unserved_stretch short
        (unserved a (le_refl a) (by omega)).1 fun n late early => (unserved n late early).2
      push_cast
      linarith
  rw [isEnd, holds]
  have total : (d : ℚ) = (u : ℚ) + (d - u : Nat) := by rw [← Nat.cast_add, Nat.add_sub_of_le le]
  rw [total, add_mul]
  linarith

/-- North and south, then east and west, six seconds each and thirteen of
planned red. -/
def shortPlan : MeteringPlan where
  toEntryMeteringPlan := MeteringBuilder.assemble 3 2 0
    [⟨[.north, .south], 6, 6, 40, northSouth_ne_nil,
        by decide, by decide, by decide⟩,
     ⟨[.east, .west], 6, 6, 40, eastWest_ne_nil, by decide, by decide, by decide⟩]
    .plain .plain
  specs_ne_nil := by decide
  yellow_nonneg := by decide
  allRed_nonneg := by decide
  offset_nonneg := by decide
  assembled := rfl

/-- An empty road, seen every two seconds. -/
def quietRun : MeteringRun shortPlan where
  dt := 2
  positive := by decide
  observed := fun _ => ⟨fun _ => 0, fun _ => 0, []⟩

/-- North and south, then east and west, nine seconds each, with the spillback
guard on. -/
def guardedPlan : MeteringPlan where
  toEntryMeteringPlan := MeteringBuilder.assemble 3 2 0
    [⟨[.north, .south], 9, 8, 40, northSouth_ne_nil,
        eightSeconds_pos, by decide, by decide⟩,
     ⟨[.east, .west], 9, 8, 40, eastWest_ne_nil,
        eightSeconds_pos, by decide, by decide⟩]
    { SpillbackGuardConfig.plain with
      enabled := true
      maxHold := 60
      maxHold_bounds := by decide }
    .plain
  specs_ne_nil := by decide
  yellow_nonneg := by decide
  allRed_nonneg := by decide
  offset_nonneg := by decide
  assembled := rfl

/-- A ring that stays blocked, seen every four seconds. -/
def blockedRun : MeteringRun guardedPlan where
  dt := 4
  positive := by decide
  observed := fun _ => ⟨fun _ => 2, fun _ => 0, []⟩

end MeteringRun
end UrbanFlow
