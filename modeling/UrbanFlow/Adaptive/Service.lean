import Mathlib.Algebra.BigOperators.Intervals
import UrbanFlow.Adaptive.Runs

/-!
# Service of waiting movements

A green keeps its minimum and ends only for a call. A called green is served
after at most the other greens: each green started on the way is closer to it in
the plan's order, which `between` counts. A green with calls elsewhere ends by
its maximum.
-/

namespace UrbanFlow

open CarrySchedule CyclicOrder AdaptiveController

variable {plan : Plan}

/-- How many green phases the plan has. -/
def Plan.greenCount (plan : Plan) : Nat :=
  ((List.finRange plan.phases.length).filter plan.isGreen).length

namespace AdaptiveRun

section Property

variable (signal : AdaptiveSignal plan) (ticks : Nat → AdaptiveTick)

/-- A phase has enough calls while the phase of tick `n` is shown. -/
def Called (n : Nat) (idx : plan.Idx) : Prop :=
  signal.settings.demandThreshold ≤ StopLineDetection.calls plan signal.lanes
    signal.settings.detectionDistance (ticks n).traffic (shown signal ticks n) idx

/-- Some green other than the phase shown is called. -/
def OtherCalled (n : Nat) : Prop :=
  ∃ other, plan.isGreen other = true ∧ other ≠ shown signal ticks n ∧ Called signal ticks n other

/-- A green starts on tick `n + 1`. -/
def StartsAt (n : Nat) : Prop := plan.isGreen (shown signal ticks (n + 1)) = true ∧
    shown signal ticks (n + 1) ≠ shown signal ticks n

instance (n : Nat) : Decidable (StartsAt signal ticks n) := inferInstanceAs (Decidable (_ ∧ _))

/-- How many greens start from tick `a` to tick `m`. -/
def startsBetween (a m : Nat) : Nat := ((Finset.Ico a m).filter (StartsAt signal ticks)).card

/-- One phase is shown from tick `a` to tick `b`. -/
def ShownFrom (a b : Nat) : Prop := ∀ k, a ≤ k → k ≤ b → shown signal ticks k = shown signal ticks a

/-- The service an adaptive signal gives. The clock of a green counts from the
moment the clearance before it was used up, at most one time step before the
tick that first shows it. -/
structure Serves : Prop where
  /-- A green ends at its minimum or later, and for a call. -/
  minimum : ∀ n, plan.isGreen (shown signal ticks n) = true →
    shown signal ticks (n + 1) ≠ shown signal ticks n → signal.settings.minGreen ≤
          (controllerAt signal ticks n).time + (ticks n).deltaTime ∧
        OtherCalled signal ticks n
  /-- The clock of a green is the time since it began. -/
  clock : ∀ m n, StartsAt signal ticks m → m < n → ShownFrom signal ticks (m + 1) n →
      (controllerAt signal ticks n).time = (controllerAt signal ticks (m + 1)).time +
            (timeAt ticks n - timeAt ticks (m + 1)) ∧
        0 ≤ (controllerAt signal ticks (m + 1)).time ∧
        (controllerAt signal ticks (m + 1)).time ≤ (ticks m).deltaTime
  /-- Before a called green is served at most the other greens start. -/
  turn : ∀ a m idx, a ≤ m → plan.isGreen idx = true →
    (∀ k, a ≤ k → k ≤ m → shown signal ticks k ≠ idx) →
    (∀ k, a ≤ k → k < m → Called signal ticks k idx) →
      startsBetween signal ticks a m ≤ plan.greenCount - 1
  /-- A green called against from tick `a` on is not shown past its maximum,
  nor past its minimum if that is later. -/
  maximum : ∀ a b, a < b → plan.isGreen (shown signal ticks a) = true → ShownFrom signal ticks a b →
    (∀ k, a ≤ k → k < b → OtherCalled signal ticks k) →
      timeAt ticks b - timeAt ticks a < signal.settings.maxGreen ∨
        (controllerAt signal ticks b).time < signal.settings.minGreen
  /-- So it ends at most its maximum and one time step after the first such
  tick, or within one time step of its minimum if that is later. -/
  ends : ∀ a e, a ≤ e → plan.isGreen (shown signal ticks a) = true → ShownFrom signal ticks a e →
    (∀ k, a ≤ k → k ≤ e → OtherCalled signal ticks k) →
    shown signal ticks (e + 1) ≠ shown signal ticks e → e = a ∨
        timeAt ticks (e + 1) - timeAt ticks a < signal.settings.maxGreen + (ticks e).deltaTime ∨
        (controllerAt signal ticks e).time + (ticks e).deltaTime <
          signal.settings.minGreen + (ticks e).deltaTime

end Property

section Runs

variable {signal : AdaptiveSignal plan} {ticks : Nat → AdaptiveTick}

variable {n a m : Nat} {idx : plan.Idx}

theorem otherCalled_iff (n : Nat) : OtherCalled signal ticks n ↔ callingAt signal ticks n ≠ [] := by
  constructor
  · rintro ⟨other, isGreen, different, enough⟩ none
    have member := mem_calling.mpr ⟨isGreen, different, enough⟩
    rw [show calling signal (ticks n).traffic (controllerAt signal ticks n) = []
      from none] at member
    exact List.not_mem_nil member
  · intro some
    obtain ⟨call, member⟩ := List.exists_mem_of_ne_nil _ some
    exact ⟨call.1, mem_calling.mp (List.mem_map_of_mem member)⟩

theorem goes_on (isGreen : plan.isGreen (shown signal ticks n) = true)
    (same : shown signal ticks (n + 1) = shown signal ticks n) :
    (controllerAt signal ticks (n + 1)).time =
        (controllerAt signal ticks n).time + (ticks n).deltaTime ∧
      (controllerAt signal ticks (n + 1)).maxTimerStart =
        timerStart (callingAt signal ticks n) (controllerAt signal ticks n) ∧
      ((controllerAt signal ticks n).time + (ticks n).deltaTime <
          signal.settings.minGreen ∨ callingAt signal ticks n = [] ∨
        (controllerAt signal ticks n).time + (ticks n).deltaTime -
          (timerStart (callingAt signal ticks n) (controllerAt signal ticks n)).getD 0 <
              signal.settings.maxGreen) := by
  cases moved signal ticks n with
  | goesOn _ _ time _ timer kept => exact ⟨time, timer, kept⟩
  | switches _ _ _ _ later index =>
    have ahead := (List.mem_filter.mp later).2
    rw [decide_eq_true_eq, ← index] at ahead
    exact absurd same ahead.ne'
  | clears _ _ _ _ _ index =>
    have off := (signal.first_clearance index).2.1
    change plan.isGreen (shown signal ticks (n + 1)) = false at off
    rw [same, isGreen] at off
    exact Bool.noConfusion off
  | clearing _ offGreen =>
    exact absurd isGreen (ne_true_of_eq_false offGreen)

theorem green_clock (isGreen : plan.isGreen (shown signal ticks a) = true) (d : Nat)
    (same : ShownFrom signal ticks a (a + d)) :
    (controllerAt signal ticks (a + d)).time = (controllerAt signal ticks a).time +
        (timeAt ticks (a + d) - timeAt ticks a) := by
  induction d with
  | zero => simp
  | succ d ih =>
    have before := ih fun k late early => same k late (by omega)
    have here := same (a + d) (by omega) (by omega)
    have there := same (a + d + 1) (by omega) (by omega)
    have counted := (goes_on (n := a + d) (by rw [here]; exact isGreen) (by rw [there, here])).1
    rw [← Nat.add_assoc, timeAt_succ, counted, before]
    ring

/-- The greens that may still start before `idx` is served. -/
def pending (idx : plan.Idx) (s : AdaptiveController plan) : Nat :=
  if plan.isGreen s.index then between plan.isGreen s.index idx
  else match s.target with
    | some goal => if goal = idx then 0 else between plan.isGreen goal idx + 1
    | none => plan.greenCount - 1

theorem pending_le (isGreen : plan.isGreen idx = true) {s : AdaptiveController plan}
    (sound : s.Sound) (different : s.index ≠ idx) : pending idx s ≤ plan.greenCount - 1 := by
  unfold pending
  split
  · next shownGreen =>
      have counted := between_add_two_le different shownGreen isGreen
      change _ ≤ plan.greenCount at counted
      omega
  · split
    · next goal isTarget =>
        split
        · exact Nat.zero_le _
        · next other =>
            have counted := between_add_two_le other (sound.targetGreen goal isTarget) isGreen
            change _ ≤ plan.greenCount at counted
            omega
    · exact le_refl _

theorem found_between {goal : plan.Idx} (isGreen : plan.isGreen idx = true)
    (called : Called signal ticks n idx) (different : shown signal ticks n ≠ idx)
    (found : (orderAfter (shown signal ticks n)).find? (· ∈ (callingAt signal ticks n).map Prod.fst)
      = some goal) (other : goal ≠ idx) :
    between plan.isGreen goal idx < between plan.isGreen (shown signal ticks n) idx := by
  have notSelf : shown signal ticks n ∉ (callingAt signal ticks n).map Prod.fst :=
    fun member => (mem_calling.mp member).2.1 rfl
  have idxCalled : idx ∈ (callingAt signal ticks n).map Prod.fst :=
    mem_calling.mpr ⟨isGreen, different.symm, called⟩
  rw [find?_orderAfter _ (by simp [notSelf])] at found
  have holds := firstFrom_some found
  rw [Bool.and_eq_true, decide_eq_true_eq] at holds
  have nearest := firstFrom_nearest (j := idx) found (by
    rw [isGreen, decide_eq_true idxCalled]
    rfl)
  have apart : distance (shown signal ticks n) goal ≠ 0 := by
    intro zero
    rw [(distance_eq_zero_iff _ _).mp zero] at notSelf
    exact notSelf holds.2
  have unequal : distance (shown signal ticks n) goal ≠ distance (shown signal ticks n) idx := by
    intro equal
    apply other
    rw [← ahead_distance (shown signal ticks n) goal, equal, ahead_distance]
  exact between_lt holds.1 (Nat.pos_of_ne_zero apart) (lt_of_le_of_ne nearest unequal)

theorem not_startsAt (offGreen : plan.isGreen (controllerAt signal ticks (n + 1)).index = false) :
    ¬ StartsAt signal ticks n := fun starts => ne_true_of_eq_false offGreen starts.1

theorem pending_step (forward : ∀ n, 0 ≤ (ticks n).deltaTime) (isGreen : plan.isGreen idx = true)
    (called : Called signal ticks n idx) (different : shown signal ticks n ≠ idx)
    (still : shown signal ticks (n + 1) ≠ idx) :
    (if StartsAt signal ticks n then 1 else 0) + pending idx (controllerAt signal ticks (n + 1)) ≤
      pending idx (controllerAt signal ticks n) := by
  have atMostOne : (if StartsAt signal ticks n then 1 else 0) ≤ 1 := by split <;> omega
  cases moved signal ticks n with
  | goesOn _ index _ target =>
    have same : shown signal ticks (n + 1) = shown signal ticks n := index
    rw [if_neg fun starts => starts.2 same, Nat.zero_add]
    unfold pending
    rw [index, target]
  | switches _ shownGreen _ found _ index =>
    have closer := found_between isGreen called different found fun same => still (index.trans same)
    have goalGreen := isGreen_of_find? found
    unfold pending
    rw [index, if_pos goalGreen, if_pos shownGreen]
    change _ < between plan.isGreen (controllerAt signal ticks n).index idx at closer
    omega
  | clears _ shownGreen _ found _ index _ target =>
    have offGreen := (signal.first_clearance index).2.1
    rw [if_neg (not_startsAt offGreen), Nat.zero_add]
    unfold pending
    rw [offGreen, if_neg Bool.false_ne_true, target, if_pos shownGreen]
    dsimp only
    split
    · exact Nat.zero_le _
    · next other => exact found_between isGreen called different found other
  | clearing _ offGreen _ _ _ _ =>
    obtain ⟨_, _, clearances, _⟩ := signal.exists_position offGreen
    have isStage := (signal.stageOf_spec (controllerAt signal ticks n).index).1
    obtain ⟨_, _, target, passed⟩ := runs_on signal forward isStage clearances
    cases passed with
    | within _ _ split _ _ _ targetAfter =>
      have stillOff := passed_notGreen signal isStage clearances split
      rw [if_neg (not_startsAt stillOff), Nat.zero_add]
      unfold pending
      rw [stillOff, offGreen, targetAfter, target]
      exact le_refl _
    | served served goal =>
      change (controllerAt signal ticks (n + 1)).index ≠ idx at still
      have counted := between_add_two_le still served isGreen
      change _ ≤ plan.greenCount at counted
      unfold pending
      rw [if_pos served, offGreen, if_neg Bool.false_ne_true]
      rw [target] at goal
      cases isTarget : (controllerAt signal ticks n).target with
      | some headed =>
        have same := goal headed isTarget
        dsimp only
        rw [← same, if_neg still]
        omega
      | none =>
        dsimp only
        omega

theorem startsBetween_succ (late : a ≤ m) :
    startsBetween signal ticks a (m + 1) = startsBetween signal ticks a m +
        if StartsAt signal ticks m then 1 else 0 := by
  unfold startsBetween
  rw [Finset.card_filter, Finset.card_filter, Finset.sum_Ico_succ_top late]

/-- Over ticks that do not serve a called green, the greens started and those
that may still start are no more than those that might have at first. -/
theorem pending_run (forward : ∀ n, 0 ≤ (ticks n).deltaTime) (late : a ≤ m)
    (isGreen : plan.isGreen idx = true) (waits : ∀ k, a ≤ k → k ≤ m → shown signal ticks k ≠ idx)
    (called : ∀ k, a ≤ k → k < m → Called signal ticks k idx) :
    startsBetween signal ticks a m + pending idx (controllerAt signal ticks m) ≤
      pending idx (controllerAt signal ticks a) := by
  induction m, late using Nat.le_induction with
  | base =>
    unfold startsBetween
    rw [Finset.Ico_self, Finset.filter_empty, Finset.card_empty, Nat.zero_add]
  | succ m late ih =>
    have before := ih (fun k after early => waits k after (by omega))
      (fun k after early => called k after (by omega))
    have step := pending_step forward isGreen (called m late (by omega))
      (waits m late (by omega)) (waits (m + 1) (by omega) (le_refl _))
    rw [startsBetween_succ late]
    omega

theorem green_ends (isGreen : plan.isGreen (shown signal ticks n) = true)
    (ended : shown signal ticks (n + 1) ≠ shown signal ticks n) :
    signal.settings.minGreen ≤ (controllerAt signal ticks n).time + (ticks n).deltaTime ∧
      OtherCalled signal ticks n := by
  have search {goal : plan.Idx} (found : (orderAfter (shown signal ticks n)).find?
        (· ∈ (callingAt signal ticks n).map Prod.fst) = some goal) :
      OtherCalled signal ticks n := by
    have called := List.find?_some found
    rw [decide_eq_true_eq] at called
    exact ⟨goal, mem_calling.mp called⟩
  cases moved signal ticks n with
  | goesOn _ index => exact absurd index ended
  | switches _ _ old found | clears _ _ old found => exact ⟨old, search found⟩
  | clearing _ offGreen =>
    exact absurd isGreen (ne_true_of_eq_false offGreen)

theorem green_starts (timed : plan.Timed) (forward : ∀ n, 0 ≤ (ticks n).deltaTime)
    (starts : StartsAt signal ticks n) : 0 ≤ (controllerAt signal ticks (n + 1)).time ∧
      (controllerAt signal ticks (n + 1)).time ≤ (ticks n).deltaTime := by
  refine ⟨(sound signal forward (n + 1)).nonnegative, ?_⟩
  obtain ⟨green, different⟩ := starts
  change plan.isGreen (controllerAt signal ticks (n + 1)).index = true at green
  cases moved signal ticks n with
  | goesOn _ index => exact absurd index different
  | switches _ _ _ _ _ _ time | clears _ _ _ _ _ _ time =>
    rw [time]
    exact forward n
  | clearing _ offGreen _ _ _ _ =>
    obtain ⟨before, rest, clearances, _⟩ := signal.exists_position offGreen
    have isStage := (signal.stageOf_spec (controllerAt signal ticks n).index).1
    obtain ⟨_, time, _, passed⟩ := runs_on signal forward isStage clearances
    cases passed with
    | within _ _ split =>
      rw [passed_notGreen signal isStage clearances split] at green
      exact Bool.noConfusion green
    | served _ _ timeAfter =>
      have others : 0 ≤ total rest := List.sum_nonneg fun duration member => by
          obtain ⟨idx, _, rfl⟩ := List.mem_map.mp member
          exact timed idx
      have own := timed (controllerAt signal ticks n).index
      rw [timeAfter, time, total_cons]
      change _ + _ - (plan.duration (controllerAt signal ticks n).index + _) ≤ _
      rcases (sound signal forward n).within offGreen with short | fresh
      · linarith
      · linarith

theorem timer_runs (forward : ∀ n, 0 ≤ (ticks n).deltaTime)
    (isGreen : plan.isGreen (shown signal ticks a) = true) (d : Nat)
    (same : ShownFrom signal ticks a (a + d + 1))
    (called : ∀ k, a ≤ k → k < a + d + 1 → OtherCalled signal ticks k) :
    ∃ start, (controllerAt signal ticks (a + d + 1)).maxTimerStart =
        some start ∧ start ≤ (controllerAt signal ticks a).time := by
  induction d with
  | zero =>
    have here := same (a + 1) (by omega) (by omega)
    have counted := goes_on isGreen here
    have waiting := otherCalled_iff a |>.mp (called a (le_refl a) (by omega))
    have sound := sound signal forward a
    rw [Nat.add_zero, counted.2.1]
    unfold timerStart
    cases isStart : (controllerAt signal ticks a).maxTimerStart with
    | none =>
      rw [if_pos ⟨waiting, rfl⟩]
      exact ⟨_, rfl, by rw [max_eq_right sound.nonnegative]⟩
    | some start =>
      rw [if_neg fun both => nomatch both.2]
      exact ⟨start, rfl, sound.timer isGreen start isStart⟩
  | succ d ih =>
    obtain ⟨start, isStart, early⟩ := ih (fun k after before => same k after (by omega))
      (fun k after before => called k after (by omega))
    have here := same (a + d + 1) (by omega) (by omega)
    have there := same (a + d + 1 + 1) (by omega) (by omega)
    have counted := goes_on (n := a + d + 1) (by rw [here]; exact isGreen) (by rw [there, here])
    refine ⟨start, ?_, early⟩
    change (controllerAt signal ticks (a + d + 1 + 1)).maxTimerStart = _
    rw [counted.2.1]
    unfold timerStart
    rw [isStart, if_neg fun both => nomatch both.2]

theorem maximum_kept (forward : ∀ n, 0 ≤ (ticks n).deltaTime) {b : Nat} (later : a < b)
    (isGreen : plan.isGreen (shown signal ticks a) = true) (same : ShownFrom signal ticks a b)
    (called : ∀ k, a ≤ k → k < b → OtherCalled signal ticks k) :
    timeAt ticks b - timeAt ticks a < signal.settings.maxGreen ∨
      (controllerAt signal ticks b).time < signal.settings.minGreen := by
  obtain ⟨d, rfl⟩ : ∃ d, b = a + d + 1 := ⟨b - a - 1, by omega⟩
  obtain ⟨_, isStart, _⟩ := timer_runs forward isGreen d same called
  have here := same (a + d) (by omega) (by omega)
  have there := same (a + d + 1) (by omega) (le_refl _)
  obtain ⟨time, timer, kept⟩ := goes_on (n := a + d)
    (by rw [here]; exact isGreen) (by rw [there, here])
  have counted : (controllerAt signal ticks (a + d + 1)).time = _ :=
    green_clock isGreen (d + 1) same
  rw [timer] at isStart
  rw [isStart, ← time, Option.getD_some] at kept
  rcases kept with short | uncalled | inTime
  · exact .inr short
  · exact absurd uncalled ((otherCalled_iff _).mp (called (a + d) (by omega) (by omega)))
  · left
    rw [counted, ← Nat.add_assoc] at inTime
    linarith

end Runs

variable (signal : AdaptiveSignal plan) (ticks : Nat → AdaptiveTick)

/-- The default plan: one direction at a time, straight and right before left. -/
def crossroadsPlan : Plan where
  phases := Direction.all.flatMap (({} : ControllerSection).timings []).directionPhases
  nonempty := by decide

/-- A crossing with two hundred-metre lanes on every approach. -/
def crossroads : AdaptiveSignal crossroadsPlan where
  stages := [⟨[0, 1], [2, 3]⟩, ⟨[4, 5], [6, 7]⟩, ⟨[8, 9], [10, 11]⟩, ⟨[12, 13], [14, 15]⟩]
  isSplit := by decide
  settings :=
    { minGreen := 10, maxGreen := 50, extensionStep := 5 / 2
      detectionDistance := 30, demandThreshold := 1, ordered := by norm_num }
  lanes := fun _ => some [{ length := 100 }, { length := 100 }]

/-- A car standing at the stop line of the west's left lane. -/
def westLeftQueue : LaneTraffic := fun direction lane =>
  if direction = .west ∧ lane = 0 then [{ onLane := true, position := 99, speed := 0 }]
  else []

end AdaptiveRun
end UrbanFlow
