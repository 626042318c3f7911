import UrbanFlow.Priority.CursorMoves

/-!
# Clearances under priority

No order of requests makes the signal change between greens of different
directions without the plan's clearance, and no clearance phase is cut short by
more than the carry-over of one tick, provided the plan's clearance between two
such greens lasts a tick.
-/

namespace UrbanFlow

open CarrySchedule CyclicOrder PriorityController PhaseDriver FixedTimeSignalController

variable {plan : Plan}

section

variable (plan : Plan)

/-- After each green, a green of other directions is met only behind some phase
that is not green. -/
def Plan.Separated : Prop :=
  ∀ idx : plan.Idx, plan.isGreen idx = true → plan.isGreen (plan.next idx) = true →
      plan.directions (plan.next idx) = plan.directions idx

/-- Past `k` phases off green, the green `idx` is followed by a green of other
directions. -/
def Plan.YieldsAfter (idx : plan.Idx) (k : Nat) : Prop :=
  plan.isGreen idx = true ∧ (∀ m, m < k → plan.isGreen (ahead (plan.next idx) m) = false) ∧
    plan.isGreen (ahead (plan.next idx) k) = true ∧
    plan.directions (ahead (plan.next idx) k) ≠ plan.directions idx

/-- After each green, the phases before a green of other directions last `dt`
or more together. -/
def Plan.Cleared (dt : ℚ) : Prop :=
  ∀ idx : plan.Idx, ∀ k, k < plan.phases.length → plan.YieldsAfter idx k →
    dt ≤ spent plan.duration plan.next (plan.next idx) k

/-- A time step below every green and yellow duration. -/
def Plan.Outlasts (dt : ℚ) : Prop :=
  ∀ idx : plan.Idx, (plan.phase idx).color ≠ .red → dt < plan.duration idx

end

instance : Decidable plan.Separated :=
  inferInstanceAs (Decidable (∀ idx : plan.Idx, plan.isGreen idx = true →
    plan.isGreen (plan.next idx) = true → plan.directions (plan.next idx) = plan.directions idx))

instance (dt : ℚ) : Decidable (plan.Outlasts dt) := inferInstanceAs (Decidable (∀ idx : plan.Idx,
    (plan.phase idx).color ≠ .red → dt < plan.duration idx))

instance (idx : plan.Idx) (k : Nat) : Decidable (plan.YieldsAfter idx k) :=
  inferInstanceAs (Decidable (_ ∧ _ ∧ _ ∧ _))

instance (dt : ℚ) : Decidable (plan.Cleared dt) :=
  inferInstanceAs (Decidable (∀ idx : plan.Idx, ∀ k, k < plan.phases.length →
    plan.YieldsAfter idx k → dt ≤ spent plan.duration plan.next (plan.next idx) k))

theorem Plan.Outlasts.shortTick {dt : ℚ} (outlasts : plan.Outlasts dt) : plan.ShortTick dt := by
  intro idx isGreen
  apply outlasts idx
  unfold Plan.isGreen at isGreen
  rw [beq_iff_eq] at isGreen
  rw [isGreen]
  exact nofun

namespace CursorMove

variable {dt : ℚ} {before after : PlanCursor plan}

theorem unshortened {time : ℚ}
    (shortened : time = before.timeInCurrentState ∨
      plan.isGreen before.currentPhaseIdx = true ∧ ∃ seconds,
        time = (skipAhead seconds before).timeInCurrentState)
    (offGreen : plan.isGreen before.currentPhaseIdx = false) :
    time = before.timeInCurrentState :=
  shortened.resolve_right fun ⟨isGreen, _⟩ => ne_true_of_eq_false offGreen isGreen

theorem shortened_wellTimed {time : ℚ} (well : WellTimed before)
    (shortened : time = before.timeInCurrentState ∨
      plan.isGreen before.currentPhaseIdx = true ∧ ∃ seconds,
        time = (skipAhead seconds before).timeInCurrentState) :
    WellTimed { before with timeInCurrentState := time } := by
  rcases shortened with rfl | ⟨_, seconds, rfl⟩
  · exact well
  · exact skipAhead_wellTimed seconds well

section

variable (move : CursorMove dt before after)

include move

theorem wellTimed (timed : plan.Timed) (positive : 0 < dt) (short : plan.ShortTick dt)
    (lap : (∃ green, plan.isGreen green = true) ∨
      dt ≤ spent plan.duration plan.next 0 plan.phases.length) (well : WellTimed before) :
    WellTimed after := by
  cases move with
  | stays => exact well
  | jumps => exact ⟨le_refl 0, .inr rfl⟩
  | rolls _ _ _ _ shortened goalGreen offGreen rolled =>
    rw [Plan.spent_lap 0 before.currentPhaseIdx] at lap
    exact roll_wellTimed timed positive short lap goalGreen offGreen
      (shortened_wellTimed well shortened) rolled

theorem carry (timed : plan.Timed) (positive : 0 < dt) (well : WellTimed before)
    (moved : after.currentPhaseIdx ≠ before.currentPhaseIdx) :
    after.timeInCurrentState ≤ dt ∧ (0 < plan.duration before.currentPhaseIdx →
        after.timeInCurrentState < dt) := by
  cases move with
  | stays => exact absurd rfl moved
  | jumps => exact ⟨positive.le, fun _ => positive⟩
  | rolls _ _ _ _ shortened _ _ rolled =>
    refine roll_carry timed (shortened_wellTimed well shortened) rolled ?_
    refine Nat.pos_of_ne_zero fun zero => moved ?_
    rw [rolled.index, zero]
    rfl

theorem goes_on (timed : plan.Timed)
    (offGreen : plan.isGreen before.currentPhaseIdx = false) :
    after.timeInCurrentState ≤ before.timeInCurrentState + dt := by
  cases move with
  | stays isGreen | jumps clearance isGreen found =>
    exact absurd isGreen (ne_true_of_eq_false offGreen)
  | rolls _ time goal k shortened _ _ rolled =>
    have time := rolled.time
    have used : 0 ≤ spent plan.duration (selectToward goal) before.currentPhaseIdx k :=
      spent_nonneg timed before.currentPhaseIdx k
    rw [unshortened shortened offGreen] at time
    dsimp only at time
    linarith

theorem leaves
    (offGreen : plan.isGreen before.currentPhaseIdx = false)
    (moved : after.currentPhaseIdx ≠ before.currentPhaseIdx) :
    plan.duration before.currentPhaseIdx ≤ before.timeInCurrentState + dt := by
  cases move with
  | stays => exact absurd rfl moved
  | jumps _ isGreen =>
    exact absurd isGreen (ne_true_of_eq_false offGreen)
  | rolls _ _ _ k shortened _ _ rolled =>
    have passes : 0 < k := by
      refine Nat.pos_of_ne_zero fun zero => moved ?_
      rw [rolled.index, zero]
      rfl
    have paid := rolled.paid 0 passes
    rw [spent_succ, spent_zero, zero_add, unshortened shortened offGreen] at paid
    exact paid

theorem keeps_directions (timed : plan.Timed) (positive : 0 < dt) (short : plan.ShortTick dt)
    (cleared : plan.Cleared dt) (well : WellTimed before)
    (isGreen : plan.isGreen before.currentPhaseIdx = true)
    (stillGreen : plan.isGreen after.currentPhaseIdx = true) :
    plan.directions after.currentPhaseIdx = plan.directions before.currentPhaseIdx := by
  cases move with
  | stays _ => rfl
  | jumps _ _ found =>
    exact absurd stillGreen (ne_true_of_eq_false (clearanceStart_notGreen found))
  | rolls _ time _ k shortened _ offGreen rolled =>
    obtain rfl := goal_eq_none isGreen offGreen
    have wellShort := shortened_wellTimed well shortened
    have index : after.currentPhaseIdx = ahead before.currentPhaseIdx k := by
      rw [rolled.index, selectToward_none, Plan.iterate_next]
    cases k with
    | zero => rw [index, ahead_zero]
    | succ k =>
      by_contra different
      have between : ∀ m, m < k → plan.isGreen (ahead (plan.next before.currentPhaseIdx) m) =
            false := by
        intro m small
        have passed := roll_passed_notGreen timed short wellShort rolled
          (Nat.succ_pos m) (Nat.succ_lt_succ small)
        rw [selectToward_none, Plan.iterate_next, ahead_succ] at passed
        exact passed
      rw [index, ahead_succ] at different stillGreen
      have lasts := cleared before.currentPhaseIdx k (Nat.lt_of_succ_le rolled.bounded)
        ⟨isGreen, between, stillGreen, different⟩
      have left := rolled.time_nonneg (by
        have nonnegative := wellShort.nonnegative
        dsimp only at nonnegative ⊢
        linarith)
      rw [rolled.time, spent_succ', selectToward_none] at left
      have long := short _ isGreen
      have within := wellShort.within
      dsimp only at left within
      rcases within with within | within
      · linarith
      · linarith

end

/-- What a tick of length `dt` may pass without showing it: red phases that fit
into the tick, on the way from the phase shown to the next one shown. -/
inductive Path (plan : Plan) (dt : ℚ) (first last : plan.Idx) : Prop
  | stays (same : last = first)
  | jumps (isGreen : plan.isGreen first = true) (found : clearanceStart plan first = some last)
  | rolls (goal : Option plan.Idx) (k : Nat) (reached : last = (selectToward goal)^[k] first)
      (passed : ∀ m, 0 < m → m < k → (plan.phase ((selectToward goal)^[m] first)).color = .red ∧
          plan.duration ((selectToward goal)^[m] first) ≤ dt ∧
          (0 < plan.duration first → plan.duration ((selectToward goal)^[m] first) < dt))

theorem path (timed : plan.Timed) (outlasts : plan.Outlasts dt) (well : WellTimed before)
    (move : CursorMove dt before after) :
    Path plan dt before.currentPhaseIdx after.currentPhaseIdx := by
  cases move with
  | stays _ => exact .stays rfl
  | jumps _ isGreen found => exact .jumps isGreen found
  | rolls _ _ goal k shortened _ _ rolled =>
    refine .rolls goal k rolled.index fun m later passed => ?_
    have fits := roll_passed timed (shortened_wellTimed well shortened) rolled later passed
    refine ⟨?_, fits⟩
    by_contra notRed
    have long := outlasts _ notRed
    linarith [fits.1]

/-- Without a green, a tick longer than a lap comes back to the phase it
started in. -/
theorem laps (timed : plan.Timed) (noGreen : ∀ idx, plan.isGreen idx = false)
    (lap : spent plan.duration plan.next before.currentPhaseIdx plan.phases.length < dt)
    (nonnegative : 0 ≤ before.timeInCurrentState) (move : CursorMove dt before after) :
    after.currentPhaseIdx = before.currentPhaseIdx ∧ 0 ≤ after.timeInCurrentState := by
  cases move with
  | stays isGreen | jumps clearance isGreen found =>
    exact absurd isGreen (ne_true_of_eq_false (noGreen _))
  | rolls _ time _ k shortened goalGreen _ rolled =>
    obtain rfl := goal_eq_none_of_noGreen goalGreen fun ⟨idx, isGreen⟩ =>
      ne_true_of_eq_false (noGreen idx) isGreen
    rw [unshortened shortened (noGreen _)] at rolled
    have lapSpent : 0 ≤ spent plan.duration plan.next before.currentPhaseIdx plan.phases.length :=
      spent_nonneg timed before.currentPhaseIdx plan.phases.length
    refine ⟨?_, rolled.time_nonneg (by dsimp only; linarith)⟩
    have once : k = plan.phases.length := by
      by_contra early
      have small : k < plan.phases.length := lt_of_le_of_ne rolled.bounded early
      have stopped := rolled.stopped small
      rw [rolled.time, rolled.index, selectToward_none] at stopped
      dsimp only at stopped
      have within : spent plan.duration plan.next before.currentPhaseIdx (k + 1) ≤ _ :=
        spent_mono timed before.currentPhaseIdx (Nat.succ_le_of_lt small)
      rw [spent_succ] at within
      linarith
    rw [rolled.index, once, selectToward_none, Plan.iterate_next, ahead_card]

end CursorMove

namespace PriorityRun

section Runs

variable (settings : PrioritySettings) (base : PlanCursor plan) (ticks : Nat → Tick)

/-- A green gives way to a green only for the same directions. -/
def NoConflict : Prop := ∀ n, plan.isGreen (shown settings base ticks n) = true →
    plan.isGreen (shown settings base ticks (n + 1)) = true →
      plan.directions (shown settings base ticks (n + 1)) =
        plan.directions (shown settings base ticks n)

/-- A phase off green is entered at tick `m + 1`, shown up to tick `n` and left
at tick `n + 1`. -/
structure ClearanceShown (m n : Nat) : Prop where
  ordered : m < n
  offGreen : plan.isGreen (shown settings base ticks (m + 1)) = false
  entered : shown settings base ticks (m + 1) ≠ shown settings base ticks m
  kept : ∀ k, m < k → k ≤ n → shown settings base ticks k = shown settings base ticks (m + 1)
  left : shown settings base ticks (n + 1) ≠ shown settings base ticks (m + 1)

/-- Every yellow and all-red is shown for its duration, short by less than one
time step. -/
def ClearancesServed : Prop := ∀ m n, ClearanceShown settings base ticks m n →
    plan.duration (shown settings base ticks (m + 1)) - settings.dt <
      timeAt settings (n + 1) - timeAt settings (m + 1)

/-- The same, short by exactly one time step at most after a phase without any
duration. -/
def ClearancesServedAfter : Prop := ∀ m n, ClearanceShown settings base ticks m n →
    plan.duration (shown settings base ticks (m + 1)) - settings.dt ≤
        timeAt settings (n + 1) - timeAt settings (m + 1) ∧
      (0 < plan.duration (shown settings base ticks m) →
        plan.duration (shown settings base ticks (m + 1)) - settings.dt <
          timeAt settings (n + 1) - timeAt settings (m + 1))

/-- What priority leaves of the plan's clearances over a run. -/
structure KeepsClearances : Prop where
  noConflict : NoConflict settings base ticks
  served : ClearancesServedAfter settings base ticks
  path : ∀ n, CursorMove.Path plan settings.dt (shown settings base ticks n)
    (shown settings base ticks (n + 1))

theorem cursorMove (n : Nat) : CursorMove settings.dt (controllerAt settings base ticks n).base
      (controllerAt settings base ticks (n + 1)).base :=
  (ticked settings base ticks n).cursorMove (sound settings base ticks n).core

variable {settings base ticks}

variable (timed : plan.Timed)

include timed

theorem wellTimed (positive : 0 < settings.dt)
    (short : plan.ShortTick settings.dt) (lap : (∃ green, plan.isGreen green = true) ∨
      settings.dt ≤ spent plan.duration plan.next 0 plan.phases.length) (started : WellTimed base)
    (n : Nat) : WellTimed (controllerAt settings base ticks n).base := by
  induction n with
  | zero => exact started
  | succ n ih => exact (cursorMove settings base ticks n).wellTimed timed positive short lap ih

theorem clearance_clock {m d : Nat}
    (offGreen : plan.isGreen (shown settings base ticks m) = false)
    (kept : ∀ k, m ≤ k → k ≤ m + d → shown settings base ticks k = shown settings base ticks m) :
    (controllerAt settings base ticks (m + d)).base.timeInCurrentState ≤
      (controllerAt settings base ticks m).base.timeInCurrentState + d * settings.dt := by
  induction d with
  | zero => simp
  | succ d ih =>
    have earlier := ih fun k late early => kept k late (by omega)
    have here := kept (m + d) (by omega) (by omega)
    have counted := (cursorMove settings base ticks (m + d)).goes_on timed (by
      change plan.isGreen (shown settings base ticks (m + d)) = false
      rw [here]
      exact offGreen)
    push_cast
    rw [← Nat.add_assoc]
    linarith

theorem served (positive : 0 < settings.dt) {m n : Nat}
    (well : WellTimed (controllerAt settings base ticks m).base)
    (clearance : ClearanceShown settings base ticks m n) :
    plan.duration (shown settings base ticks (m + 1)) - settings.dt ≤
        timeAt settings (n + 1) - timeAt settings (m + 1) ∧
      (0 < plan.duration (shown settings base ticks m) →
        plan.duration (shown settings base ticks (m + 1)) - settings.dt <
          timeAt settings (n + 1) - timeAt settings (m + 1)) := by
  obtain ⟨d, rfl⟩ := Nat.exists_eq_add_of_lt clearance.ordered
  have index : m + d + 1 = m + 1 + d := by omega
  rw [index] at clearance ⊢
  have last := clearance.kept (m + 1 + d) (by omega) (le_refl _)
  have entry := (cursorMove settings base ticks m).carry timed positive well clearance.entered
  have clock : _ ≤ _ + (d : ℚ) * settings.dt :=
    clearance_clock timed clearance.offGreen fun k late early => clearance.kept k (by omega) early
  have exit := (cursorMove settings base ticks (m + 1 + d)).leaves (by
      change plan.isGreen (shown settings base ticks (m + 1 + d)) = false
      rw [last]
      exact clearance.offGreen)
    (by
      change shown settings base ticks (m + 1 + d + 1) ≠ shown settings base ticks (m + 1 + d)
      rw [last]
      exact clearance.left)
  change plan.duration (shown settings base ticks (m + 1 + d)) ≤ _ at exit
  rw [last] at exit
  have elapsed : timeAt settings (m + 1 + d + 1) - timeAt settings (m + 1) =
      d * settings.dt + settings.dt := by
    unfold timeAt
    push_cast
    ring
  change _ ∧ (0 < plan.duration (shown settings base ticks m) → _) at entry
  rw [elapsed]
  refine ⟨by linarith [entry.1], fun lasting => ?_⟩
  linarith [entry.2 lasting]

theorem shown_constant (noGreen : ∀ idx, plan.isGreen idx = false)
    (lap : spent plan.duration plan.next 0 plan.phases.length < settings.dt)
    (started : 0 ≤ base.timeInCurrentState) (n : Nat) :
    shown settings base ticks n = base.currentPhaseIdx ∧
      0 ≤ (controllerAt settings base ticks n).base.timeInCurrentState := by
  induction n with
  | zero => exact ⟨rfl, started⟩
  | succ n ih =>
    obtain ⟨same, nonnegative⟩ := ih
    rw [Plan.spent_lap 0 (controllerAt settings base ticks n).base.currentPhaseIdx] at lap
    obtain ⟨index, time⟩ := (cursorMove settings base ticks n).laps timed noGreen lap nonnegative
    exact ⟨Eq.trans index same, time⟩

end Runs

/-- In a plan whose clearances between greens of different directions last a
time step or more, a run of the priority controller never changes between such
greens within a tick, serves every clearance phase it shows, and passes unshown
only red phases that fit into a tick. -/
theorem clearances_under_priority (settings : PrioritySettings) (offset : ℚ) (ticks : Nat → Tick)
    (timed : plan.Timed) (positive : 0 < settings.dt) (outlasts : plan.Outlasts settings.dt)
    (cleared : plan.Cleared settings.dt) :
    KeepsClearances settings (reset plan offset) ticks := by
  have started := reset_wellTimed plan offset
  generalize reset plan offset = base at started
  have short := outlasts.shortTick
  by_cases lap : (∃ green, plan.isGreen green = true) ∨
      settings.dt ≤ spent plan.duration plan.next 0 plan.phases.length
  · have well : ∀ n, WellTimed (controllerAt settings base ticks n).base :=
      wellTimed timed positive short lap started
    refine ⟨fun n => ?_, fun m n => served timed positive (well m), fun n => ?_⟩
    · exact (cursorMove settings base ticks n).keeps_directions timed positive
        short cleared (well n)
    · exact (cursorMove settings base ticks n).path timed outlasts (well n)
  · obtain ⟨noneGreen, longTick⟩ := not_or.mp lap
    have noGreen : ∀ idx, plan.isGreen idx = false := by
      intro idx
      by_contra shown
      exact noneGreen ⟨idx, eq_true_of_ne_false shown⟩
    have constant : ∀ n, shown settings base ticks n = base.currentPhaseIdx :=
      fun n => (shown_constant timed noGreen (not_le.mp longTick) started.nonnegative n).1
    refine ⟨fun n isGreen => ?_, fun m n clearance => ?_, fun n => .stays ?_⟩
    · rw [noGreen] at isGreen
      exact Bool.noConfusion isGreen
    · exact absurd ((constant _).trans (constant _).symm) clearance.entered
    · exact (constant _).trans (constant _).symm

/-- The paired north–south, east–west plan. -/
def pairedPlan : Plan where
  phases :=
    let timings := ({} : ControllerSection).timings []
    [timings.namedPhase "ns_green" (.group [.north, .south] true),
     timings.namedPhase "ns_yellow" (.group [.north, .south] false),
     timings.allRed,
     timings.namedPhase "ew_green" (.group [.east, .west] true),
     timings.namedPhase "ew_yellow" (.group [.east, .west] false),
     timings.allRed]
  nonempty := by decide

/-- An emergency vehicle going straight, ten metres before its stop line. -/
def approaching (approach : Direction) (turn : TurnIntent) : EmergencyView where
  vehicleId := "ev_0"
  approach := approach
  turn := turn
  state := .approaching
  lane := some { laneId := lanePrefix approach ++ "0", length := 100 }
  position := 90
  speed := 10

theorem clearances_under_priority_paired : KeepsClearances
      { dt := 1 / 10, preemption := some {}, transit := some {} }
      (reset pairedPlan 0)
      (fun n => if n < 300 then { emergencies := [approaching .east .straight] } else {}) :=
  clearances_under_priority { dt := 1 / 10, preemption := some {}, transit := some {} } 0 _
    (by decide +kernel) (by norm_num) (by decide +kernel) (by decide +kernel)

def zeroRedPlan : Plan where
  phases :=
    let timings : SignalTimings := ControllerSection.timings
      { straightRightDuration := some 2, yellowDuration := some 2,
        allRedDuration := some 0 } []
    [timings.namedPhase "n_green" (.group [.north] true), timings.allRed,
     timings.namedPhase "n_yellow" (.group [.north] false),
     timings.allRed,
     timings.namedPhase "e_green" (.group [.east] true),
     timings.allRed]
  nonempty := by decide

/-- With a clearance of no duration the plan itself changes between greens of
different directions within a tick, and a jump into such a clearance hands a
whole time step on to the yellow after it. -/
theorem zeroRed_conflict : zeroRedPlan.Timed ∧ zeroRedPlan.Separated ∧ zeroRedPlan.Outlasts 1 ∧
      ¬ NoConflict { dt := 1, preemption := some { minGreenS := 1 }, transit := some {} }
        (reset zeroRedPlan 0) (fun _ => {}) ∧
      ¬ ClearancesServed { dt := 1, preemption := some { minGreenS := 1 }, transit := some {} }
        (reset zeroRedPlan 0)
        (fun _ => { emergencies := [approaching .east .straight] }) := by
  refine ⟨by decide, by decide, by decide, ?_, ?_⟩
  · intro claimed
    exact absurd (claimed 5 (by decide +kernel) (by decide +kernel)) (by decide +kernel)
  · intro claimed
    refine absurd (claimed 1 2 ⟨by decide, by decide +kernel,
      by decide +kernel, ?_, by decide +kernel⟩) (by decide +kernel)
    intro k late early
    obtain rfl : k = 2 := by omega
    rfl

end PriorityRun
end UrbanFlow
