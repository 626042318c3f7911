import UrbanFlow.Adaptive.Moves

/-!
# Runs of the adaptive controller

What holds at every tick of a run: the pending target is a green, the clock of
the phase shown is well timed, and a clearance phase stands somewhere in the
clearance of its stage.
-/

namespace UrbanFlow

open CarrySchedule CyclicOrder AdaptiveController

variable {plan : Plan}

section

variable (adaptive : AdaptivePlan plan)

include adaptive

theorem AdaptivePlan.exists_green : ∃ green, plan.isGreen green = true := by
  obtain ⟨arcs, _, cover, _, arcsOk⟩ := adaptive.exists_arcs
  obtain ⟨positions, isArc, _⟩ := cover 0
  obtain ⟨_, green, _, isGreen⟩ := arcsOk positions isArc
  exact ⟨green, isGreen⟩

theorem AdaptivePlan.exists_position {idx : plan.Idx} (offGreen : plan.isGreen idx = false) :
    ∃ before rest, (adaptive.stageOf idx).clearances = before ++ idx :: rest ∧
        rest.length < plan.phases.length := by
  obtain ⟨isStage, _, clearance⟩ := adaptive.stageOf_spec idx
  obtain ⟨before, rest, split⟩ := List.append_of_mem (clearance offGreen)
  refine ⟨before, rest, split, ?_⟩
  have nodup := (adaptive.wellFormed isStage).nodup
  have bounded := nodup.length_le_card
  rw [split, List.length_append, List.length_cons, Fintype.card_fin] at bounded
  omega

theorem AdaptivePlan.first_clearance {idx first : plan.Idx}
    (isFirst : first = (adaptive.stageOf idx).clearances.headD idx) :
    (∃ rest, (adaptive.stageOf idx).clearances = first :: rest) ∧ plan.isGreen first = false ∧
      adaptive.stageOf first = adaptive.stageOf idx := by
  have isStage := (adaptive.stageOf_spec idx).1
  have well := adaptive.wellFormed isStage
  cases split : (adaptive.stageOf idx).clearances with
  | nil => exact absurd split well.clearances_ne_nil
  | cons head rest =>
    rw [split] at isFirst
    obtain rfl : first = head := isFirst
    have member : first ∈ (adaptive.stageOf idx).clearances := by
      rw [split]
      exact List.mem_cons_self
    exact ⟨⟨rest, rfl⟩, well.clearances first member, adaptive.stageOf_eq isStage (.inr member)⟩

end

theorem AdaptiveController.clearing_passed (signal : AdaptiveSignal plan) (dt : ℚ)
    (traffic : LaneTraffic) {s : AdaptiveController plan}
    (targetGreen : ∀ idx, s.target = some idx → plan.isGreen idx = true)
    (offGreen : plan.isGreen s.index = false) {stage : Stage plan.phases.length}
    (isStage : stage ∈ signal.stages) {before rest : List plan.Idx}
    (clearances : stage.clearances = before ++ s.index :: rest) :
    ∃ ticked : AdaptiveController plan, ticked.time = s.time + dt ∧ ticked.target = s.target ∧
        Passed ticked (s.update signal dt traffic) (s.index :: rest) := by
  obtain ⟨green, isGreen⟩ := signal.exists_green
  have small : rest.length < plan.phases.length := by
    have bounded := (signal.wellFormed isStage).nodup.length_le_card
    rw [clearances, List.length_append, List.length_cons, Fintype.card_fin] at bounded
    omega
  cases update_moved signal dt traffic s with
  | goesOn green | switches _ green | clears _ green =>
    rw [offGreen] at green; exact Bool.noConfusion green
  | clearing ticked _ index time target passed =>
    refine ⟨ticked, time, target, ?_⟩
    rw [← index] at clearances ⊢
    rcases passed with loop | ⟨sameIndex, sameTime, sameTarget, short⟩
    · rw [loop]
      exact passClearances_passed isGreen isStage
        (by rw [target]; exact targetGreen) clearances small
    · refine .within [] rest ?_ ?_ ?_ (.inr rfl) sameTarget
      · rw [sameIndex]
        rfl
      · rw [sameTime, total_nil, sub_zero]
      · rw [sameTime, sameIndex]
        exact short

/-- What every tick keeps true of a controller. -/
structure AdaptiveController.Sound (s : AdaptiveController plan) : Prop where
  targetGreen : ∀ idx, s.target = some idx → plan.isGreen idx = true
  nonnegative : 0 ≤ s.time
  within : plan.isGreen s.index = false → s.time < plan.duration s.index ∨ s.time = 0
  timer : plan.isGreen s.index = true → ∀ start, s.maxTimerStart = some start → start ≤ s.time

theorem AdaptiveController.reset_sound (plan : Plan) : (AdaptiveController.reset plan).Sound where
  targetGreen := fun _ => nofun
  nonnegative := le_refl 0
  within := fun _ => .inr rfl
  timer := fun _ _ => nofun

theorem isGreen_of_find? {idx goal : plan.Idx} {q : plan.Idx → Bool}
    (found : (orderAfter idx).find? q = some goal) : plan.isGreen goal = true := by
  have member := List.mem_of_find?_eq_some found
  exact (List.mem_filter.mp member).2

theorem AdaptiveController.update_sound (signal : AdaptiveSignal plan) {dt : ℚ} (forward : 0 ≤ dt)
    (traffic : LaneTraffic) {s : AdaptiveController plan} (sound : s.Sound) :
    (s.update signal dt traffic).Sound := by
  cases moved : update_moved signal dt traffic s with
  | goesOn isGreen index time target timer =>
    refine ⟨?_, ?_, ?_, ?_⟩
    · rw [target]
      exact sound.targetGreen
    · rw [time]
      linarith [sound.nonnegative]
    · rw [index, isGreen]
      exact nofun
    · intro _ start isStart
      rw [timer] at isStart
      rw [time]
      unfold timerStart at isStart
      split at isStart
      · cases isStart
        rw [max_eq_right sound.nonnegative]
        linarith
      · linarith [sound.timer isGreen start isStart]
  | switches _ _ _ _ _ _ time target timer =>
    refine ⟨?_, ?_, ?_, ?_⟩
    · rw [target]
      exact sound.targetGreen
    · rw [time]
    · exact fun _ => .inr time
    · rw [timer]
      exact fun _ _ => nofun
  | clears _ _ _ found _ index time target =>
    refine ⟨?_, ?_, ?_, ?_⟩
    · intro idx isTarget
      rw [target] at isTarget
      cases isTarget
      exact isGreen_of_find? found
    · rw [time]
    · exact fun _ => .inr time
    · intro green
      rw [(signal.first_clearance index).2.1] at green
      exact Bool.noConfusion green
  | clearing _ offGreen _ _ _ _ =>
    obtain ⟨_, _, clearances, _⟩ := signal.exists_position offGreen
    have isStage := (signal.stageOf_spec s.index).1
    obtain ⟨ticked, time, target, passed⟩ := clearing_passed signal dt
      traffic sound.targetGreen offGreen isStage clearances
    have nonnegative : 0 ≤ ticked.time := by
      rw [time]
      linarith [sound.nonnegative]
    cases passed with
    | within _ _ split timeAfter inside paid targetAfter =>
      refine ⟨?_, ?_, ?_, ?_⟩
      · rw [targetAfter, target]
        exact sound.targetGreen
      · rw [timeAfter]
        rcases paid with paid | rfl
        · linarith
        · rw [total_nil]
          linarith
      · exact fun _ => .inl inside
      · intro isGreen
        have member : (s.update signal dt traffic).index ∈ (signal.stageOf s.index).clearances := by
          rw [clearances, split]
          simp
        rw [(signal.wellFormed isStage).clearances _ member] at isGreen
        exact Bool.noConfusion isGreen
    | served isGreen _ timeAfter _ targetAfter timer =>
      refine ⟨?_, ?_, ?_, ?_⟩
      · rw [targetAfter]
        exact fun _ => nofun
      · rw [timeAfter]
        linarith
      · rw [isGreen]
        exact nofun
      · rw [timer]
        exact fun _ _ => nofun

namespace AdaptiveRun

variable (signal : AdaptiveSignal plan) (ticks : Nat → AdaptiveTick)

/-- The phase shown after `n` ticks. -/
def shown (n : Nat) : plan.Idx := (controllerAt signal ticks n).index

/-- Simulated time after `n` ticks. -/
def timeAt (ticks : Nat → AdaptiveTick) (n : Nat) : ℚ := ∑ k ∈ Finset.range n, (ticks k).deltaTime

section

variable (n : Nat)

theorem timeAt_succ : timeAt ticks (n + 1) = timeAt ticks n + (ticks n).deltaTime :=
  Finset.sum_range_succ _ n

theorem controllerAt_succ : controllerAt signal ticks (n + 1) =
      (controllerAt signal ticks n).update signal (ticks n).deltaTime (ticks n).traffic :=
  Machine.stateAt_succ _ _ _ n

/-- The calls observed while the phase of tick `n` is shown. -/
def callingAt : List (plan.Idx × Nat) :=
  calling signal (ticks n).traffic (controllerAt signal ticks n)

theorem moved : Moved signal (ticks n).deltaTime (callingAt signal ticks n)
      (controllerAt signal ticks n) (controllerAt signal ticks (n + 1)) := by
  rw [controllerAt_succ]
  exact update_moved signal _ _ _

end

variable {ticks}

variable {stage : Stage plan.phases.length} {before rest : List plan.Idx}

theorem sound (forward : ∀ n, 0 ≤ (ticks n).deltaTime) (n : Nat) :
    (controllerAt signal ticks n).Sound := by
  induction n with
  | zero => exact reset_sound plan
  | succ n ih =>
    rw [controllerAt_succ]
    exact update_sound signal (forward n) _ ih

theorem runs_on (forward : ∀ n, 0 ≤ (ticks n).deltaTime) {n : Nat} (isStage : stage ∈ signal.stages)
    (clearances : stage.clearances = before ++ shown signal ticks n :: rest) :
    ∃ ticked : AdaptiveController plan,
      ticked.time = (controllerAt signal ticks n).time + (ticks n).deltaTime ∧
        ticked.target = (controllerAt signal ticks n).target ∧
        Passed ticked (controllerAt signal ticks (n + 1)) (shown signal ticks n :: rest) := by
  have member : shown signal ticks n ∈ stage.clearances := by
    rw [clearances]
    simp
  have offGreen := (signal.wellFormed isStage).clearances _ member
  rw [controllerAt_succ]
  exact clearing_passed signal (ticks n).deltaTime (ticks n).traffic
    (sound signal forward n).targetGreen offGreen isStage clearances

theorem passed_notGreen (isStage : stage ∈ signal.stages) {passed following : List plan.Idx}
    {idx other : plan.Idx} (clearances : stage.clearances = before ++ idx :: rest)
    (split : idx :: rest = passed ++ other :: following) : plan.isGreen other = false := by
  apply (signal.wellFormed isStage).clearances
  rw [clearances, split]
  simp

end AdaptiveRun
end UrbanFlow
