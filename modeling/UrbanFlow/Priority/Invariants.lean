import UrbanFlow.Priority.Moves

/-!
# Invariants of the priority controller

`SignalCore.Sound` relates the pre-emption state to the phase shown: clearing
and recovering stand off green, a hold stands at its goal, and goal and resume
phase are greens. `Ticked.sound` keeps it through one tick, `after_sound`
through every run.
-/

namespace UrbanFlow

open CarrySchedule CyclicOrder PriorityController PhaseDriver

variable {plan : Plan}

namespace PhaseDriver

/-- Without a goal the plan's own order is followed. -/
theorem selectToward_none : selectToward (none : Option plan.Idx) = plan.next := rfl

/-- The plan's own phase is entered, or the goal in place of a green. -/
theorem selectToward_cases (goal : Option plan.Idx) (old : plan.Idx) :
    selectToward goal old = plan.next old ∨ plan.isGreen (plan.next old) = true ∧
        goal = some (selectToward goal old) := by
  cases goal with
  | none => exact .inl rfl
  | some =>
    dsimp only [selectToward]
    split
    · next redirected =>
        simp only [Bool.and_eq_true] at redirected
        exact .inr ⟨redirected.1, rfl⟩
    · exact .inl rfl

theorem selectToward_green {goal old : plan.Idx}
    (isGreen : plan.isGreen (selectToward (some goal) old) = true) :
    selectToward (some goal) old = goal := by
  unfold selectToward at isGreen ⊢
  dsimp only at isGreen ⊢
  split
  · rfl
  · next kept =>
      rw [if_neg kept] at isGreen
      by_contra different
      exact kept (by simpa [isGreen] using different)

/-- Off green, the plan's own order is followed. -/
theorem selectToward_notGreen {goal : Option plan.Idx}
    (goalGreen : ∀ idx, goal = some idx → plan.isGreen idx = true) {old : plan.Idx}
    (notGreen : plan.isGreen (selectToward goal old) = false) :
    selectToward goal old = plan.next old := by
  rcases selectToward_cases goal old with own | ⟨_, isGoal⟩
  · exact own
  · rw [goalGreen _ isGoal] at notGreen
    exact Bool.noConfusion notGreen

theorem advance_rolled (dt : ℚ) (select : plan.Idx → plan.Idx) (cursor : PlanCursor plan) :
    ∃ k, Rolled plan.duration select plan.phases.length
      { cursor with timeInCurrentState := cursor.timeInCurrentState + dt }
      (advance dt select cursor) k :=
  roll_spec _ _

theorem advance_green {dt : ℚ} {goal : plan.Idx} {cursor : PlanCursor plan}
    (offGreen : plan.isGreen cursor.currentPhaseIdx = false) (isGreen : plan.isGreen
      (advance dt (selectToward (some goal)) cursor).currentPhaseIdx = true) :
    (advance dt (selectToward (some goal)) cursor).currentPhaseIdx = goal := by
  obtain ⟨k, rolled⟩ := advance_rolled dt (selectToward (some goal)) cursor
  rw [rolled.index] at isGreen ⊢
  cases k with
  | zero =>
    rw [Function.iterate_zero_apply] at isGreen
    exact absurd isGreen (ne_true_of_eq_false offGreen)
  | succ =>
    rw [Function.iterate_succ_apply'] at isGreen ⊢
    exact selectToward_green isGreen

end PhaseDriver

/-- What the pre-emption state says about the phase shown. -/
structure SignalCore.Sound (c : SignalCore plan) : Prop where
  goalGreen : ∀ goal, c.goal = some goal → plan.isGreen goal = true
  resumeGreen : ∀ resume, c.resume = some resume → plan.isGreen resume = true
  aimed : c.state ≠ .normal → c.goal ≠ none
  offGreen : c.state = .clearing ∨ c.state = .recovering → plan.isGreen c.index = false
  atGoal : c.state = .hold → c.goal = some c.index

namespace SignalCore.Sound

variable {c : SignalCore plan}

theorem leave (sound : c.Sound) {after : SignalCore plan} (goal : after.goal = c.goal)
    (resume : after.resume = c.resume) (state : after.state = .normal) : after.Sound where
  goalGreen := by rw [goal]; exact sound.goalGreen
  resumeGreen := by rw [resume]; exact sound.resumeGreen
  aimed := fun busy => absurd state busy
  offGreen := by rw [state]; simp
  atGoal := by rw [state]; simp

/-- Beginning a pre-emption towards a green keeps the invariant. -/
theorem begun (_ : c.Sound) (now : ℚ) {target : plan.Idx} (isGreen : plan.isGreen target = true) :
    (c.begun now target).Sound where
  goalGreen := by
    intro goal isGoal
    cases isGoal
    exact isGreen
  resumeGreen := by
    intro resume isResume
    change resumeTarget c.base target = some resume at isResume
    unfold resumeTarget interrupted at isResume
    split at isResume
    · next idx isInterrupted =>
        split at isResume
        · exact nextGreen_isGreen isResume
        · cases isResume
          split at isInterrupted
          · next shown =>
              cases isInterrupted
              exact shown
          · exact nextGreen_isGreen isInterrupted
    · exact nextGreen_isGreen isResume
  aimed := nofun
  offGreen := by
    intro state
    change plan.isGreen c.index = false
    by_contra shown
    have isShown : plan.isGreen c.index = true := by simpa using shown
    unfold SignalCore.begun at state
    by_cases there : c.index = target
    · simp [there] at state
    · simp [there, isShown] at state
  atGoal := by
    intro state
    unfold SignalCore.begun at state
    by_cases there : c.index = target
    · exact congrArg some there.symm
    · by_cases shown : plan.isGreen c.index = true
      · simp [there, shown] at state
      · simp [there, shown] at state

end SignalCore.Sound

/-- A branch of a pre-emption keeps the invariant. -/
theorem Branch.sound {config : PreemptionConfig} {dt now age : ℚ} {c after : SignalCore plan}
    (branch : Branch config dt now age c after) (sound : c.Sound) : after.Sound := by
  cases branch with
  | waitMinGreen state =>
    refine ⟨sound.goalGreen, sound.resumeGreen, sound.aimed, ?_, ?_⟩
    · simp [state]
    · simp [state]
  | cutGreen _ state _ _ found =>
    refine ⟨sound.goalGreen, sound.resumeGreen, ?_, ?_, ?_⟩
    · exact fun _ => sound.aimed (by simp [state])
    · exact fun _ => clearanceStart_notGreen found
    · simp
  | abort base state isGreen missing move | dropHold goal state isGoal missing
  | restore => exact sound.leave rfl rfl rfl
  | clear state onWay =>
    have aimed : c.goal ≠ none :=
      sound.aimed (by rcases state with state | ⟨state, _⟩ <;> simp [state])
    have off : plan.isGreen c.index = false := by
      rcases state with state | ⟨_, off⟩
      · exact sound.offGreen (.inl state)
      · exact off
    refine ⟨sound.goalGreen, sound.resumeGreen, fun _ => aimed, ?_, ?_⟩
    · intro _
      obtain ⟨goal, isGoal⟩ := Option.ne_none_iff_exists'.mp aimed
      rw [isGoal] at onWay ⊢
      by_contra shown
      refine onWay (congrArg some (advance_green off ?_))
      exact eq_true_of_ne_false shown
    · simp
  | arrive _ arrived =>
    refine ⟨sound.goalGreen, sound.resumeGreen, ?_, ?_, ?_⟩
    · intro _ missing
      rw [show c.goal = none from missing] at arrived
      exact nomatch arrived
    · simp
    · exact fun _ => arrived.symm
  | keepHold => exact sound
  | releaseHold _ _ state _ _ found =>
    refine ⟨sound.goalGreen, sound.resumeGreen, ?_, ?_, ?_⟩
    · exact fun _ => sound.aimed (by simp [state])
    · exact fun _ => clearanceStart_notGreen found
    · simp
  | recover state onWay =>
    refine ⟨sound.goalGreen, sound.resumeGreen, sound.aimed, ?_, ?_⟩
    · exact fun _ => onWay
    · simp [state]

section

variable {config : PreemptionConfig} {cursor : PlanCursor plan}

theorem requestStep_isGreen {ev : EmergencyView} {best : Option (ℚ × EmergencyView × plan.Idx)}
    (greens : ∀ found, best = some found → plan.isGreen found.2.2 = true)
    (found : ℚ × EmergencyView × plan.Idx)
    (isFound : requestStep config cursor best ev = some found) : plan.isGreen found.2.2 = true := by
  unfold requestStep at isFound
  split at isFound
  · split at isFound
    · next lane target isLane isTarget =>
        have served := serves_isGreen (findGreen_serves isTarget)
        dsimp only at isFound
        split at isFound
        · cases isFound
          exact served
        · split at isFound
          · cases isFound
            exact served
          · exact greens _ isFound
    · exact greens _ isFound
  · exact greens _ isFound

theorem request_isGreen {emergencies : List EmergencyView} {ev : EmergencyView}
    {target : plan.Idx} (requested : request config cursor emergencies = some (ev, target)) :
    plan.isGreen target = true := by
  have kept : ∀ best : Option (ℚ × EmergencyView × plan.Idx),
      (∀ found, best = some found → plan.isGreen found.2.2 = true) →
      ∀ found, emergencies.foldl (requestStep config cursor) best =
        some found → plan.isGreen found.2.2 = true := by
    clear requested
    induction emergencies with
    | nil => exact fun best greens => greens
    | cons _ _ ih =>
      intro best greens
      exact ih _ (requestStep_isGreen greens)
  unfold request at requested
  obtain ⟨found, isFound, isTarget⟩ := Option.map_eq_some_iff.mp requested
  have isGreen := kept none nofun found isFound
  rw [isTarget] at isGreen
  exact isGreen

end

theorem Ticked.sound {settings : PrioritySettings} {now age : ℚ}
    {emergencies : List EmergencyView} {c after : SignalCore plan}
    (ticked : Ticked settings now age emergencies c after) (sound : c.Sound) : after.Sound := by
  cases ticked with
  | idle _ _ state => exact sound.leave rfl rfl state
  | begins _ _ _ _ _ _ _ _ requested branch =>
    exact branch.sound (sound.begun now (request_isGreen requested))
  | busy _ _ _ _ _ branch => exact branch.sound sound

/-- What every tick keeps true of a controller. -/
structure PriorityController.Sound (settings : PrioritySettings)
    (s : PriorityController plan) : Prop where
  core : s.core.Sound
  logged : s.lastIdx = s.index
  armed : s.state ≠ .normal → ∃ config, settings.preemption = some config ∧ config.enabled = true

namespace PriorityController

theorem recorded_afterStep (now : ℚ) (s : PriorityController plan) :
    (afterStep now s).recorded = (s.index, if s.index = s.lastIdx then s.greenSince
        else if plan.isGreen s.index then if plan.isGreen s.lastIdx = true ∧
              plan.directions s.lastIdx = plan.directions s.index then s.greenSince else some now
        else none) := by
  unfold afterStep recorded
  by_cases same : s.index = s.lastIdx
  · simp only [same, if_true]
  · simp only [same, if_false]
    simp only [Plan.isGreen, Plan.directions, beq_iff_eq]

theorem start_sound (settings : PrioritySettings) (base : PlanCursor plan) :
    (start base).Sound settings where
  core :=
    { goalGreen := nofun
      resumeGreen := nofun
      aimed := fun busy => absurd rfl busy
      offGreen := by simp [start]
      atGoal := by simp [start] }
  logged := rfl
  armed := fun busy => absurd rfl busy

section

variable (settings : PrioritySettings) (now : ℚ) (tick : Tick) {s : PriorityController plan}
  (sound : s.Sound settings)

include sound

/-- One tick changes the core in one of the listed ways. -/
theorem update_ticked : Ticked settings now (s.greenAge now)
      (tick.emergencies.filter fun ev => ev.state != .exited) s.core
      (s.update settings now tick).core := by
  unfold update
  rw [core_afterStep]
  exact (handOver_prioritySteps settings now tick s sound.armed).1

theorem update_greenSince : (s.update settings now tick).greenSince =
      if (s.update settings now tick).index = s.index then s.greenSince
      else if plan.isGreen (s.update settings now tick).index then
        if plan.isGreen s.index = true ∧ plan.directions s.index =
            plan.directions (s.update settings now tick).index then s.greenSince else some now
      else none := by
  have records := (handOver_prioritySteps settings now tick s sound.armed).2
  obtain ⟨last, since⟩ := Prod.mk.inj records
  have index : (s.update settings now tick).index =
      (handOver settings.dt (prioritySteps settings now tick s)).index :=
    congrArg SignalCore.index (core_afterStep now _)
  have recorded := congrArg Prod.snd (recorded_afterStep now
    (handOver settings.dt (prioritySteps settings now tick s)))
  rw [last, since, sound.logged] at recorded
  rw [index]
  exact recorded

theorem update_sound : (s.update settings now tick).Sound settings := by
  have ticked := update_ticked settings now tick sound
  refine ⟨ticked.sound sound.core, ?_, ?_⟩
  · have index : (s.update settings now tick).index =
        (handOver settings.dt (prioritySteps settings now tick s)).index :=
      congrArg SignalCore.index (core_afterStep now _)
    rw [index]
    exact congrArg Prod.fst (recorded_afterStep now _)
  · intro busy
    rw [← core_state] at busy
    generalize (s.update settings now tick).core = c at ticked busy
    cases ticked with
    | idle _ _ state => exact absurd state busy
    | begins config _ _ _ configured enabled | busy config after configured enabled =>
      exact ⟨config, configured, enabled⟩

end

end PriorityController

namespace PriorityRun

variable (settings : PrioritySettings) (base : PlanCursor plan) (ticks : Nat → Tick)

/-- The controller after `n` ticks. -/
def controllerAt (n : Nat) : PriorityController plan := (after settings base ticks n).controller

/-- The phase shown after `n` ticks. -/
def shown (n : Nat) : plan.Idx := (controllerAt settings base ticks n).index

/-- The engine time after `n` ticks. -/
def timeAt (settings : PrioritySettings) (n : Nat) : ℚ := n * settings.dt

section

variable (n : Nat)

theorem timeAt_succ : timeAt settings (n + 1) = timeAt settings n + settings.dt := by
  unfold timeAt
  push_cast
  ring

theorem after_ticks : (after settings base ticks n).ticks = n := by
  induction n with
  | zero => rfl
  | succ _ ih =>
    unfold after at *
    rw [Machine.stateAt_succ]
    exact congrArg Nat.succ ih

theorem controllerAt_succ : controllerAt settings base ticks (n + 1) =
      (controllerAt settings base ticks n).update settings (timeAt settings (n + 1)) (ticks n) := by
  have stepped : after settings base ticks (n + 1) =
      step settings (after settings base ticks n) (ticks n) :=
    Machine.stateAt_succ _ _ _ n
  unfold controllerAt timeAt
  rw [stepped, step, after_ticks]

theorem sound : (controllerAt settings base ticks n).Sound settings := by
  induction n with
  | zero => exact start_sound settings base
  | succ _ ih =>
    rw [controllerAt_succ]
    exact update_sound settings _ _ ih

theorem ticked : Ticked settings (timeAt settings (n + 1))
      ((controllerAt settings base ticks n).greenAge (timeAt settings (n + 1)))
      ((ticks n).emergencies.filter fun ev => ev.state != .exited)
      (controllerAt settings base ticks n).core
      (controllerAt settings base ticks (n + 1)).core := by
  rw [controllerAt_succ]
  exact update_ticked settings _ _ (sound settings base ticks n)

end

end PriorityRun
end UrbanFlow
