import UrbanFlow.Priority.Clearance

/-!
# The minimum green of each movement

Pre-emption ends a green once the green age reaches the minimum. The age runs
on across consecutive greens of the same directions, while the turns they
release may grow, so a movement released only by the later green can be cut
early. `GainsNoTurn` is the condition under which the age counts for every
movement.
-/

namespace UrbanFlow

open CarrySchedule CyclicOrder PriorityController PhaseDriver FixedTimeSignalController

variable {plan : Plan}

/-- `total` is less than a tick of length `dt` can carry past the phase shown. -/
def FitsTick (dt : ℚ) (cursor : PlanCursor plan) (total : ℚ) : Prop :=
  if cursor.timeInCurrentState < plan.duration cursor.currentPhaseIdx then total < dt
  else total ≤ cursor.timeInCurrentState - plan.duration cursor.currentPhaseIdx + dt

/-- No green of the same directions that the plan reaches from the green shown
within a tick of its end releases a turn the green shown does not. -/
def Plan.GainsNoTurn (plan : Plan) (dt : ℚ) (cursor : PlanCursor plan) : Prop :=
  plan.isGreen cursor.currentPhaseIdx = true → ∀ k, k < plan.phases.length →
      plan.isGreen (ahead (plan.next cursor.currentPhaseIdx) k) = true →
      plan.directions (ahead (plan.next cursor.currentPhaseIdx) k) =
        plan.directions cursor.currentPhaseIdx →
      FitsTick dt cursor (spent plan.duration plan.next (plan.next cursor.currentPhaseIdx) k) →
      ∀ turn, turn ∈ (plan.phase (ahead (plan.next cursor.currentPhaseIdx) k)).allowedTurns →
          turn ∈ (plan.phase cursor.currentPhaseIdx).allowedTurns

/-- Plans in which greens of the same directions release the same turns. -/
def Plan.UniformTurns (plan : Plan) : Prop :=
  ∀ first second : plan.Idx, plan.isGreen first = true → plan.isGreen second = true →
    plan.directions second = plan.directions first →
      (plan.phase second).allowedTurns = (plan.phase first).allowedTurns

instance : Decidable plan.UniformTurns := inferInstanceAs (Decidable (∀ first second : plan.Idx,
    plan.isGreen first = true → plan.isGreen second = true →
    plan.directions second = plan.directions first →
      (plan.phase second).allowedTurns = (plan.phase first).allowedTurns))

theorem Plan.UniformTurns.gainsNoTurn (uniform : plan.UniformTurns) (dt : ℚ)
    (cursor : PlanCursor plan) : plan.GainsNoTurn dt cursor := by
  intro isGreen k _ stillGreen directions _ turn released
  rw [uniform _ _ isGreen stillGreen directions] at released
  exact released

section

variable {dt : ℚ} {before after : PlanCursor plan}

/-- A clock never runs below zero. -/
theorem CursorMove.nonnegative (positive : 0 < dt) (started : 0 ≤ before.timeInCurrentState)
    (move : CursorMove dt before after) : 0 ≤ after.timeInCurrentState := by
  cases move with
  | stays _ => exact started
  | jumps => exact le_refl 0
  | rolls _ _ _ _ shortened _ _ rolled =>
    refine rolled.time_nonneg ?_
    dsimp only
    rcases shortened with rfl | ⟨_, seconds, rfl⟩
    · linarith
    · have kept : 0 ≤ (skipAhead seconds before).timeInCurrentState :=
        le_min (by positivity) (le_max_left _ _)
      linarith

theorem CursorMove.runs_on (started : 0 ≤ before.timeInCurrentState)
    (move : CursorMove dt before after) (isGreen : plan.isGreen before.currentPhaseIdx = true)
    (stillGreen : plan.isGreen after.currentPhaseIdx = true)
    (moved : after.currentPhaseIdx ≠ before.currentPhaseIdx) : ∃ k, k < plan.phases.length ∧
      after.currentPhaseIdx = ahead (plan.next before.currentPhaseIdx) k ∧
      FitsTick dt before (spent plan.duration plan.next (plan.next before.currentPhaseIdx) k) := by
  cases move with
  | stays _ => exact absurd rfl moved
  | jumps _ _ found =>
    exact absurd stillGreen (ne_true_of_eq_false (clearanceStart_notGreen found))
  | rolls _ _ _ k shortened _ offGreen rolled =>
    obtain rfl := goal_eq_none isGreen offGreen
    cases k with
    | zero => exact absurd rolled.index moved
    | succ k =>
      refine ⟨k, Nat.lt_of_succ_le rolled.bounded, ?_, ?_⟩
      · rw [rolled.index, selectToward_none, Plan.iterate_next, ahead_succ]
        rfl
      · have paid := rolled.paid k (Nat.lt_succ_self k)
        rw [spent_succ', selectToward_none] at paid
        dsimp only at paid
        unfold FitsTick
        rcases shortened with rfl | ⟨_, seconds, rfl⟩
        · split
          · next inside => linarith
          · linarith
        · have cut : (skipAhead seconds before).timeInCurrentState ≤
              max 0 (plan.duration before.currentPhaseIdx - 1 / 1000000) :=
            min_le_right _ _
          split
          · next inside =>
              have below : max 0 (plan.duration before.currentPhaseIdx - 1 / 1000000) <
                    plan.duration before.currentPhaseIdx :=
                max_lt (by linarith) (by linarith)
              linarith
          · next overdue =>
              have capped : max 0 (plan.duration before.currentPhaseIdx - 1 / 1000000) ≤
                    before.timeInCurrentState :=
                max_le started (by linarith)
              linarith

end

section

variable {config : PreemptionConfig} {dt now age : ℚ} {c after : SignalCore plan}
  (branch : Branch config dt now age c after)

include branch

theorem Branch.ends_green (sound : c.Sound) (isGreen : plan.isGreen c.index = true)
    (ended : after.state = .clearing ∨ after.state = .recovering) :
    config.minGreenS ≤ age ∨ c.state = .hold ∧ config.maxHoldS ≤ now - c.holdStarted := by
  cases branch with
  | waitMinGreen state => simp [state] at ended
  | cutGreen _ _ _ old => exact .inl old
  | abort base state isGreen missing move | arrive state arrived
  | dropHold goal state isGoal missing | restore state arrived => simp at ended
  | clear state =>
    rcases state with state | ⟨_, offGreen⟩
    · rw [sound.offGreen (.inl state)] at isGreen
      exact Bool.noConfusion isGreen
    · rw [offGreen] at isGreen
      exact Bool.noConfusion isGreen
  | keepHold state => simp [state] at ended
  | releaseHold _ _ state _ due =>
    exact due.imp_right fun late => ⟨state, late⟩
  | recover state =>
    rw [sound.offGreen (.inr state)] at isGreen
    exact Bool.noConfusion isGreen

/-- A hold that goes on, or has just begun, and where it stands. -/
theorem Branch.holds (state : after.state = .hold) :
    after.holdStarted = now ∨ c.state = .hold ∧ after.holdStarted = c.holdStarted ∧
        after.index = c.index := by
  cases branch with
  | waitMinGreen waiting => simp [waiting] at state
  | cutGreen clearance _ isGreen old found | abort base _ isGreen missing move | clear _ onWay
  | releaseHold goal clearance _ isGoal due found | dropHold goal _ isGoal missing
  | restore => simp at state
  | arrive => exact .inl rfl
  | keepHold holding => exact .inr ⟨holding, rfl, rfl⟩
  | recover recovering => simp [recovering] at state

end

theorem SignalCore.begun_hold {now : ℚ} {target : plan.Idx} {c : SignalCore plan}
    (state : (c.begun now target).state = .hold) : (c.begun now target).holdStarted = now := by
  unfold begun at state ⊢
  by_cases there : c.index = target
  · simp [there]
  · by_cases shown : plan.isGreen c.index = true
    · simp [there, shown] at state
    · simp [there, shown] at state

namespace PriorityRun

section Runs

variable (settings : PrioritySettings) (base : PlanCursor plan) (ticks : Nat → Tick)

/-- Pre-emption ends the green shown at tick `n`: by the jump to its clearance,
or by the release of the hold on it. -/
def EndsGreen (n : Nat) : Prop := plan.isGreen (shown settings base ticks n) = true ∧
    ((controllerAt settings base ticks (n + 1)).state = .clearing ∨
      (controllerAt settings base ticks (n + 1)).state = .recovering)

/-- The movement is released at every tick from `m` to `n`. -/
def ServedThroughout (direction : Direction) (turn : TurnIntent) (m n : Nat) : Prop :=
  ∀ k, m ≤ k → k ≤ n → serves plan (shown settings base ticks k) direction turn = true

/-- Every movement of a green that pre-emption ends has been released for
`seconds` without a break. -/
def MinimumGreenKept (seconds : ℚ) : Prop :=
  ∀ n, EndsGreen settings base ticks n → ∀ direction turn,
    serves plan (shown settings base ticks n) direction turn = true →
      ∃ m, m ≤ n ∧ ServedThroughout settings base ticks direction turn m n ∧
        seconds ≤ timeAt settings (n + 1) - timeAt settings m

variable {settings base ticks}

theorem clock_nonnegative (positive : 0 < settings.dt) (started : 0 ≤ base.timeInCurrentState)
    (n : Nat) : 0 ≤ (controllerAt settings base ticks n).base.timeInCurrentState := by
  induction n with
  | zero => exact started
  | succ n ih => exact (cursorMove settings base ticks n).nonnegative positive ih

theorem greenSince_succ (n : Nat) : (controllerAt settings base ticks (n + 1)).greenSince =
      if shown settings base ticks (n + 1) = shown settings base ticks n then
        (controllerAt settings base ticks n).greenSince
      else if plan.isGreen (shown settings base ticks (n + 1)) then
        if plan.isGreen (shown settings base ticks n) = true ∧
            plan.directions (shown settings base ticks n) =
              plan.directions (shown settings base ticks (n + 1)) then
          (controllerAt settings base ticks n).greenSince else some (timeAt settings (n + 1))
      else none := by
  have recorded := update_greenSince settings (timeAt settings (n + 1))
    (ticks n) (sound settings base ticks n)
  rw [← controllerAt_succ] at recorded
  exact recorded

theorem ServedThroughout.succ {direction : Direction} {turn : TurnIntent} {m n : Nat}
    (served : ServedThroughout settings base ticks direction turn m n)
    (next : serves plan (shown settings base ticks (n + 1)) direction turn = true) :
    ServedThroughout settings base ticks direction turn m (n + 1) := by
  intro k late early
  rcases Nat.lt_or_ge n k with last | inside
  · obtain rfl : k = n + 1 := by omega
    exact next
  · exact served k late inside

theorem green_since (positive : 0 < settings.dt) (started : 0 ≤ base.timeInCurrentState)
    (condition : ∀ n, plan.GainsNoTurn settings.dt (controllerAt settings base ticks n).base)
    (n : Nat) (since : ℚ) (isSince : (controllerAt settings base ticks n).greenSince = some since) :
    ∃ m, m ≤ n ∧ since = timeAt settings m ∧ ∀ direction turn,
      serves plan (shown settings base ticks n) direction turn = true →
        ServedThroughout settings base ticks direction turn m n := by
  induction n generalizing since with
  | zero =>
    refine ⟨0, le_refl 0, ?_, fun direction turn served k _ early => ?_⟩
    · change (if plan.isGreen base.currentPhaseIdx then some 0 else none) = some since at isSince
      split at isSince
      · cases isSince
        simp [timeAt]
      · cases isSince
    · obtain rfl : k = 0 := by omega
      exact served
  | succ n ih =>
    have recorded := @greenSince_succ plan settings base ticks n
    rw [isSince] at recorded
    by_cases same : shown settings base ticks (n + 1) = shown settings base ticks n
    · rw [if_pos same] at recorded
      obtain ⟨m, early, time, since⟩ := ih since recorded.symm
      refine ⟨m, by omega, time, fun direction turn served => ?_⟩
      have before := served
      rw [same] at before
      exact (since direction turn before).succ served
    · rw [if_neg same] at recorded
      split at recorded
      · next stillGreen =>
          split at recorded
          · next runsOn =>
              obtain ⟨isGreen, directions⟩ := runsOn
              obtain ⟨m, early, time, since⟩ := ih since recorded.symm
              refine ⟨m, by omega, time, fun direction turn served => ?_⟩
              obtain ⟨k, small, index, fits⟩ := (cursorMove settings base ticks n).runs_on
                  (clock_nonnegative positive started n) isGreen stillGreen
                  same
              change shown settings base ticks (n + 1) = _ at index
              have kept := condition n isGreen k small (by rw [← index]; exact stillGreen)
                (by rw [← index]; exact directions.symm) fits turn
              rw [← index] at kept
              refine (since direction turn ?_).succ served
              simp only [serves, Bool.and_eq_true, decide_eq_true_eq] at served ⊢
              refine ⟨⟨isGreen, ?_⟩, kept served.2⟩
              rw [directions]
              exact served.1.2
          · cases recorded
            refine ⟨n + 1, le_refl _, rfl, fun direction turn served k late early => ?_⟩
            obtain rfl : k = n + 1 := by omega
            exact served
      · cases recorded

theorem held_since (n : Nat) (state : (controllerAt settings base ticks n).state = .hold) :
    ∃ h, h ≤ n ∧ (controllerAt settings base ticks n).holdStarted = timeAt settings h ∧
      ∀ k, h ≤ k → k ≤ n → shown settings base ticks k = shown settings base ticks n := by
  induction n with
  | zero => exact nomatch state
  | succ n ih =>
    have begins : (controllerAt settings base ticks (n + 1)).holdStarted = timeAt settings (n + 1) →
        ∃ h, h ≤ n + 1 ∧ (controllerAt settings base ticks (n + 1)).holdStarted =
            timeAt settings h ∧
          ∀ k, h ≤ k → k ≤ n + 1 →
            shown settings base ticks k = shown settings base ticks (n + 1) := by
      intro now
      refine ⟨n + 1, le_refl _, now, fun k late early => ?_⟩
      obtain rfl : k = n + 1 := by omega
      rfl
    have tick := ticked settings base ticks n
    rw [← core_state] at state
    change (controllerAt settings base ticks (n + 1)).core.holdStarted = _ →
      _ at begins
    generalize stepped : (controllerAt settings base ticks (n + 1)).core =
      after at tick state begins
    cases tick with
    | idle _ _ isNormal =>
      rw [show (controllerAt settings base ticks n).core.state = .normal from isNormal] at state
      exact nomatch state
    | begins _ _ _ _ _ _ _ _ _ branch =>
      rcases branch.holds state with now | ⟨holding, same, _⟩
      · exact begins now
      · rw [SignalCore.begun_hold holding] at same
        exact begins same
    | busy _ _ _ _ _ branch =>
      rcases branch.holds state with now | ⟨holding, same, index⟩
      · exact begins now
      · obtain ⟨h, early, time, still⟩ := ih holding
        have here : shown settings base ticks (n + 1) =
            shown settings base ticks n := by
          rw [← stepped] at index
          exact index
        refine ⟨h, by omega, ?_, fun k late soon => ?_⟩
        · rw [← stepped] at same
          exact same.trans time
        · rcases Nat.lt_or_ge n k with last | inside
          · obtain rfl : k = n + 1 := by omega
            rfl
          · exact (still k late inside).trans here.symm

end Runs

/-- The default plan, one direction at a time, with greens of ten and five
seconds. -/
def oneDirectionPlan : Plan where
  phases :=
    let timings : SignalTimings := ControllerSection.timings
      { straightRightDuration := some 10, leftDuration := some 5 } []
    [Direction.north, .south, .east, .west].flatMap timings.directionPhases
  nonempty := by decide

end PriorityRun
end UrbanFlow
