import UrbanFlow.Priority.Invariants

/-!
# How a tick moves the cursor

Whatever the pre-emption and transit priority decide, a tick does one of three
things to the cursor: it freezes it on a green, it jumps from a green to the
start of that green's clearance, or it rolls the plan on. `CursorMove` is that
list, and the lemmas below bound the time every kind of move hands on.
-/

namespace UrbanFlow

open CarrySchedule CyclicOrder PriorityController PhaseDriver

variable {plan : Plan}

/-- What one tick of length `dt` does to the cursor. -/
inductive CursorMove
    (dt : ℚ)
    (before : PlanCursor plan) : PlanCursor plan → Prop
  /-- A green is frozen: for a bus, or by a hold. -/
  | stays (isGreen : plan.isGreen before.currentPhaseIdx = true) : CursorMove dt before before
  /-- A green is ended by its clearance. -/
  | jumps (clearance : plan.Idx) (isGreen : plan.isGreen before.currentPhaseIdx = true)
      (found : clearanceStart plan before.currentPhaseIdx = some clearance) :
      CursorMove dt before (jump clearance before)
  /-- The plan rolls on, off green towards a goal, or on green after transit
  priority shortened it. -/
  | rolls (after : PlanCursor plan) (time : ℚ) (goal : Option plan.Idx) (k : Nat)
      (shortened : time = before.timeInCurrentState ∨
        plan.isGreen before.currentPhaseIdx = true ∧ ∃ seconds,
          time = (skipAhead seconds before).timeInCurrentState)
      (goalGreen : ∀ idx, goal = some idx → plan.isGreen idx = true)
      (offGreen : goal ≠ none → plan.isGreen before.currentPhaseIdx = false)
      (rolled : Rolled plan.duration (selectToward goal) plan.phases.length
        { before with timeInCurrentState := time + dt } after k) :
      CursorMove dt before after

theorem CursorMove.of_advance (dt : ℚ) (before : PlanCursor plan) {goal : Option plan.Idx}
    (goalGreen : ∀ idx, goal = some idx → plan.isGreen idx = true)
    (offGreen : goal ≠ none → plan.isGreen before.currentPhaseIdx = false) :
    CursorMove dt before (advance dt (selectToward goal) before) := by
  obtain ⟨k, rolled⟩ := advance_rolled dt (selectToward goal) before
  exact .rolls _ _ goal k (.inl rfl) goalGreen offGreen rolled

theorem OwnMove.cursorMove {dt : ℚ} {before after : PlanCursor plan}
    (move : OwnMove dt before after) : CursorMove dt before after := by
  have noGoal : ∀ idx : plan.Idx, none = some idx →
      plan.isGreen idx = true := nofun
  cases move with
  | planned => exact .of_advance dt before noGoal fun present => absurd rfl present
  | shortened seconds isGreen =>
    obtain ⟨k, rolled⟩ := advance_rolled dt
      (selectToward none) (skipAhead seconds before)
    exact .rolls _ _ none k (.inr ⟨isGreen, seconds, rfl⟩) noGoal
      (fun present => absurd rfl present) rolled
  | frozen isGreen => exact .stays isGreen

theorem Branch.cursorMove {config : PreemptionConfig} {dt now age : ℚ} {c after : SignalCore plan}
    (branch : Branch config dt now age c after) (sound : c.Sound) :
    CursorMove dt c.base after.base := by
  cases branch with
  | waitMinGreen => exact OwnMove.planned.cursorMove
  | cutGreen clearance _ isGreen _ found => exact .jumps clearance isGreen found
  | abort _ _ _ _ move => exact move.cursorMove
  | clear state onWay | arrive state arrived =>
    refine .of_advance dt c.base sound.goalGreen fun _ => ?_
    exact state.elim (fun state => sound.offGreen (.inl state)) And.right
  | keepHold state inTime | dropHold _ state =>
    exact .stays (sound.goalGreen _ (sound.atGoal state))
  | releaseHold goal clearance state isGoal _ found =>
    have here : goal = c.index := by
      have atGoal := sound.atGoal state
      rw [isGoal] at atGoal
      exact Option.some.inj atGoal
    rw [here] at found
    exact .jumps clearance (sound.goalGreen _ (sound.atGoal state)) found
  | recover state onWay | restore state arrived =>
    exact .of_advance dt c.base sound.resumeGreen fun _ => sound.offGreen (.inr state)

theorem Ticked.cursorMove {settings : PrioritySettings} {now age : ℚ}
    {emergencies : List EmergencyView} {c after : SignalCore plan}
    (ticked : Ticked settings now age emergencies c after) (sound : c.Sound) :
    CursorMove settings.dt c.base after.base := by
  cases ticked with
  | idle _ _ _ move => exact move.cursorMove
  | begins _ _ _ _ _ _ _ _ requested branch =>
    exact branch.cursorMove (sound.begun now (request_isGreen requested))
  | busy _ _ _ _ _ branch => exact branch.cursorMove sound

theorem skipAhead_wellTimed (seconds : ℚ) {cursor : PlanCursor plan} (well : WellTimed cursor) :
    WellTimed (skipAhead seconds cursor) := by
  have nonnegative := well.nonnegative
  refine ⟨?_, ?_⟩
  · exact le_min (by positivity) (le_max_left _ _)
  · by_cases short : plan.duration cursor.currentPhaseIdx ≤ 1 / 1000000
    · right
      have none_left : max 0 (plan.duration cursor.currentPhaseIdx - 1 / 1000000) = 0 :=
        max_eq_left (by linarith)
      simp only [skipAhead, none_left]
      exact min_eq_right (by positivity)
    · left
      refine lt_of_le_of_lt (min_le_right _ _) ?_
      rw [max_eq_right (by linarith)]
      change _ < plan.duration cursor.currentPhaseIdx
      linarith

theorem Plan.spent_lap (i j : plan.Idx) : spent plan.duration plan.next i plan.phases.length =
      spent plan.duration plan.next j plan.phases.length := by
  have shifted : ∀ idx : plan.Idx,
      spent plan.duration plan.next (plan.next idx) plan.phases.length =
        spent plan.duration plan.next idx plan.phases.length := by
    intro idx
    have late := spent_succ plan.duration plan.next idx plan.phases.length
    rw [spent_succ', Plan.iterate_next, ahead_card] at late
    linarith
  have walked : ∀ k, spent plan.duration plan.next (plan.next^[k] i) plan.phases.length =
        spent plan.duration plan.next i plan.phases.length := by
    intro k
    induction k with
    | zero => rfl
    | succ _ ih =>
      rw [Function.iterate_succ_apply', shifted]
      exact ih
  rw [← ahead_distance i j, ← Plan.iterate_next]
  exact (walked _).symm

/-- Off green, a walk that has not met a green follows the plan, so every green
it may be heading for comes one step closer. -/
theorem selectToward_gap {goal : Option plan.Idx}
    (goalGreen : ∀ idx, goal = some idx → plan.isGreen idx = true) {old green : plan.Idx}
    (isGreen : plan.isGreen green = true) (offGreen : plan.isGreen old = false) :
    gap plan.isGreen (selectToward goal old) < gap plan.isGreen old := by
  have closer := gap_succ offGreen isGreen
  rcases selectToward_cases goal old with own | ⟨_, isGoal⟩
  · rw [own]
    change gap plan.isGreen (old + 1) < _
    omega
  · rw [gap_eq_zero (goalGreen _ isGoal)]
    omega

section Roll

variable {dt time : ℚ} {goal : Option plan.Idx} {k : Nat} {before after : PlanCursor plan}

section

variable (timed : plan.Timed) (well : WellTimed { before with timeInCurrentState := time })
  (rolled : Rolled plan.duration (selectToward goal) plan.phases.length { before with timeInCurrentState := time + dt } after k)

include timed well rolled

theorem roll_carry (moved : 0 < k) :
    after.timeInCurrentState ≤ dt ∧ (0 < plan.duration before.currentPhaseIdx →
        after.timeInCurrentState < dt) := by
  have carry := rolled.time_le_carry timed moved
  have within := well.within
  have duration := timed before.currentPhaseIdx
  dsimp only at carry within duration
  rcases within with within | within
  · exact ⟨by linarith, fun _ => by linarith⟩
  · exact ⟨by linarith, fun _ => by linarith⟩

/-- The phases a roll passes without showing them fit into one time step. -/
theorem roll_passed {m : Nat} (later : 0 < m) (passed : m < k) :
    plan.duration ((selectToward goal)^[m] before.currentPhaseIdx) ≤ dt ∧
      (0 < plan.duration before.currentPhaseIdx →
        plan.duration ((selectToward goal)^[m] before.currentPhaseIdx) < dt) := by
  have carry := rolled.passed_le_carry timed later passed
  have within := well.within
  have duration := timed before.currentPhaseIdx
  dsimp only at carry within duration
  rcases within with within | within
  · exact ⟨by linarith, fun _ => by linarith⟩
  · exact ⟨by linarith, fun _ => by linarith⟩

end

end Roll

/-- A tick is short: it ends inside every green it enters. -/
def Plan.ShortTick (plan : Plan) (dt : ℚ) : Prop :=
  ∀ idx, plan.isGreen idx = true → dt < plan.duration idx

instance (dt : ℚ) : Decidable (plan.ShortTick dt) :=
  inferInstanceAs (Decidable (∀ idx, plan.isGreen idx = true → dt < plan.duration idx))

section Roll

variable {dt time : ℚ} {goal : Option plan.Idx} {k : Nat} {before after : PlanCursor plan}

theorem goal_eq_none {idx : plan.Idx} (isGreen : plan.isGreen idx = true)
    (offGreen : goal ≠ none → plan.isGreen idx = false) : goal = none :=
  not_not.mp fun present => ne_true_of_eq_false (offGreen present) isGreen

theorem goal_eq_none_of_noGreen (goalGreen : ∀ idx, goal = some idx → plan.isGreen idx = true)
    (noGreen : ¬∃ green, plan.isGreen green = true) : goal = none :=
  Option.eq_none_iff_forall_ne_some.mpr fun idx isGoal => noGreen ⟨idx, goalGreen idx isGoal⟩

theorem roll_passed_notGreen (timed : plan.Timed) (short : plan.ShortTick dt)
    (well : WellTimed { before with timeInCurrentState := time })
    (rolled : Rolled plan.duration (selectToward goal) plan.phases.length
      { before with timeInCurrentState := time + dt } after k)
    {m : Nat}
    (later : 0 < m)
    (passed : m < k) :
    plan.isGreen ((selectToward goal)^[m] before.currentPhaseIdx) = false := by
  by_contra shown
  have long := short _ (eq_true_of_ne_false shown)
  have fits := (roll_passed timed well rolled later passed).1
  linarith

/-- A roll stops inside a phase: a short tick ends in the first green it
meets, and a tick no longer than a lap does not lap the plan. -/
theorem roll_wellTimed (timed : plan.Timed) (positive : 0 < dt) (short : plan.ShortTick dt)
    (lap : (∃ green, plan.isGreen green = true) ∨
      dt ≤ spent plan.duration plan.next before.currentPhaseIdx plan.phases.length)
    (goalGreen : ∀ idx, goal = some idx → plan.isGreen idx = true)
    (offGreen : goal ≠ none → plan.isGreen before.currentPhaseIdx = false)
    (well : WellTimed { before with timeInCurrentState := time })
    (rolled : Rolled plan.duration (selectToward goal) plan.phases.length
      { before with timeInCurrentState := time + dt } after k) :
    WellTimed after := by
  have nonnegative : 0 ≤ time := well.nonnegative
  refine ⟨rolled.time_nonneg (by dsimp only; linarith), ?_⟩
  by_cases stops : k < plan.phases.length
  · exact .inl (rolled.stopped stops)
  have once : k = plan.phases.length := le_antisymm rolled.bounded (by omega)
  by_cases isGreen : plan.isGreen before.currentPhaseIdx = true
  · -- From a green, once around leads back to it, and the carry is below it.
    obtain rfl := goal_eq_none isGreen offGreen
    have back : after.currentPhaseIdx = before.currentPhaseIdx := by
      rw [rolled.index, once, selectToward_none, Plan.iterate_next, ahead_card]
    have long := short _ isGreen
    have carry := (roll_carry timed well rolled (by rw [once]; exact plan.nonempty)).1
    left
    rw [back]
    linarith
  · have off : plan.isGreen before.currentPhaseIdx = false := eq_false_of_ne_true isGreen
    by_cases someGreen : ∃ green, plan.isGreen green = true
    · -- Off green, the gap to the next green drops until the roll stops.
      obtain ⟨green, greenShown⟩ := someGreen
      left
      refine rolled.stops_of_measure (gap plan.isGreen) (gap_lt _ greenShown) fun m passed => ?_
      rw [Function.iterate_succ_apply']
      apply selectToward_gap goalGreen greenShown
      cases m with
      | zero => exact off
      | succ => exact roll_passed_notGreen timed short well rolled (by omega) passed
    · -- Without a green the plan is only lapped, and a lap outlasts the tick.
      obtain rfl := goal_eq_none_of_noGreen goalGreen someGreen
      have outlasts := lap.resolve_left someGreen
      have back : after.currentPhaseIdx = before.currentPhaseIdx := by
        rw [rolled.index, once, selectToward_none, Plan.iterate_next, ahead_card]
      have spentLap : after.timeInCurrentState = time + dt -
          spent plan.duration plan.next before.currentPhaseIdx plan.phases.length := by
        rw [rolled.time, once, selectToward_none]
      have after_nonneg := rolled.time_nonneg (by dsimp only; linarith)
      rw [back]
      rcases well.within with within | within
      · left
        dsimp only at within
        linarith
      · right
        dsimp only at within
        linarith

end Roll

end UrbanFlow
