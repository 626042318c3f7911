import UrbanFlow.Adaptive.Accepted
import UrbanFlow.Adaptive.Service

/-!
# The clearance of an adaptive stage

When a stage's greens end, its clearance is run in the plan's order, each phase
for its duration. Acceptance only checks which phases a clearance has. Where a
run ends greens into a clearance that begins with the right yellow, and reaches
later yellows from yellows only, approaches are cleared as they should be.
-/

namespace UrbanFlow

open CarrySchedule CyclicOrder AdaptiveController

variable {plan : Plan}

namespace AdaptiveRun

section Property

variable (signal : AdaptiveSignal plan) (ticks : Nat → AdaptiveTick)

/-- The stage of the phase shown. -/
def stageAt (n : Nat) : Stage plan.phases.length := signal.stageOf (shown signal ticks n)

/-- A tick ends the last green of a stage: the phase that follows is none of the
stage's greens, or the green that ends is the last of them. -/
def StageEnds (n : Nat) : Prop :=
  plan.isGreen (shown signal ticks n) = true ∧ shown signal ticks (n + 1) ≠ shown signal ticks n ∧
    (shown signal ticks (n + 1) ∉ (stageAt signal ticks n).greens ∨
      (stageAt signal ticks n).greens.getLast? = some (shown signal ticks n))

/-- No green is shown from tick `n + 1` to tick `k`. -/
def ClearsUntil (n k : Nat) : Prop :=
  n < k ∧ ∀ j, n < j → j ≤ k → plan.isGreen (shown signal ticks j) = false

/-- A yellow that covers the approaches `directions`. -/
def YellowFor (directions : List Direction) (idx : plan.Idx) : Prop :=
  (plan.phase idx).color = .yellow ∧ covers (plan.directions idx) directions = true

structure Clears : Prop where
  /-- The last green of a stage ends in a yellow that covers its approaches, with
  an all-red after it in the stage's clearance. -/
  yellow : ∀ n, StageEnds signal ticks n → YellowFor (plan.directions (shown signal ticks n))
        (shown signal ticks (n + 1)) ∧
      ∃ rest, (stageAt signal ticks n).clearances = shown signal ticks (n + 1) :: rest ∧
        ∃ clearance ∈ rest, (plan.phase clearance).name = "all_red"
  /-- The clearance is shown in order, each phase while the time since its
  beginning is in the phase's own part. -/
  schedule : ∀ n k, StageEnds signal ticks n → ClearsUntil signal ticks n k →
    ∃ done rest, (stageAt signal ticks n).clearances = done ++ shown signal ticks k :: rest ∧
      total done ≤ timeAt ticks k - timeAt ticks (n + 1) ∧
      (k = n + 1 ∨ timeAt ticks k - timeAt ticks (n + 1) <
        total done + plan.duration (shown signal ticks k))
  /-- No green follows before the whole clearance has had its time. -/
  served : ∀ n k, StageEnds signal ticks n → ClearsUntil signal ticks n k →
    plan.isGreen (shown signal ticks (k + 1)) = true →
      total (stageAt signal ticks n).clearances ≤ timeAt ticks (k + 1) - timeAt ticks (n + 1)
  /-- An approach is not shown yellow after red. -/
  noYellowAfterRed : ∀ n, (plan.phase (shown signal ticks (n + 1))).color = .yellow →
    shown signal ticks (n + 1) ≠ shown signal ticks n →
      (plan.phase (shown signal ticks n)).color ≠ .red ∧
        covers (plan.directions (shown signal ticks n))
          (plan.directions (shown signal ticks (n + 1))) = true

/-- A green that is over before tick `n + 1`. -/
def GreenOver (n : Nat) : Prop :=
  plan.isGreen (shown signal ticks n) = true ∧ greenOver signal (callingAt signal ticks n)
      (observed signal (ticks n).deltaTime (ticks n).traffic (controllerAt signal ticks n)) ≠ none

/-- Where the plan serves a tick: a green that is over has a clearance that
begins with a yellow for just its approaches, and a yellow that the tick's time
reaches from an earlier clearance phase is reached by way of yellows that show
all its approaches. -/
structure InOrder (n : Nat) : Prop where
  begins : GreenOver signal ticks n →
    ∃ first rest, (stageAt signal ticks n).clearances = first :: rest ∧
      YellowFor (plan.directions (shown signal ticks n)) first ∧
      covers (plan.directions (shown signal ticks n)) (plan.directions first) = true
  reaches : ∀ before passed yellow rest, (stageAt signal ticks n).clearances =
      before ++ (shown signal ticks n :: passed) ++ yellow :: rest →
    (plan.phase yellow).color = .yellow →
    total (shown signal ticks n :: passed) ≤
      (controllerAt signal ticks n).time + (ticks n).deltaTime →
    (controllerAt signal ticks n).time + (ticks n).deltaTime <
      total (shown signal ticks n :: passed) + plan.duration yellow →
    ∀ earlier ∈ shown signal ticks n :: passed, YellowFor (plan.directions yellow) earlier

end Property

section Runs

variable {signal : AdaptiveSignal plan} {ticks : Nat → AdaptiveTick}

theorem total_append (one two : List plan.Idx) : total (one ++ two) = total one + total two := by
  unfold total
  rw [List.map_append, List.sum_append]

theorem greens_inOrder (inOrder : plan.SplitsInOrder) {stage : Stage plan.phases.length}
    (isStage : stage ∈ signal.stages) : stage.greens.Pairwise (· < ·) := by
  have split : splitShapes (fun idx => (plan.phase idx).shape) = .ok signal.stages := signal.isSplit
  unfold Plan.SplitsInOrder Orderly at inOrder
  rw [split] at inOrder
  exact inOrder stage isStage

theorem not_later_than_last {greens : List plan.Idx} (inOrder : greens.Pairwise (· < ·))
    {last other : plan.Idx} (isLast : greens.getLast? = some last) (member : other ∈ greens) :
    ¬ last < other := by
  obtain ⟨others, rfl⟩ := List.getLast?_eq_some_iff.mp isLast
  intro later
  rcases List.mem_append.mp member with before | same
  · have sooner := (List.pairwise_append.mp inOrder).2.2 other before last List.mem_cons_self
    exact lt_asymm later sooner
  · rw [List.mem_singleton.mp same] at later
    exact lt_irrefl last later

theorem not_called_within_stage
    (uniform : ∀ one two, plan.isGreen one = true → plan.isGreen two = true →
      (plan.phase one).allowedTurns = (plan.phase two).allowedTurns)
    (threshold : 1 ≤ signal.settings.demandThreshold) {n : Nat} {goal : plan.Idx}
    (isGreen : plan.isGreen (shown signal ticks n) = true)
    (member : goal ∈ (stageAt signal ticks n).greens) (called : Called signal ticks n goal) :
    False := by
  obtain ⟨isStage, ownGreen, _⟩ := signal.stageOf_spec (shown signal ticks n)
  have well := signal.wellFormed isStage
  have goalGreen := well.greens goal member
  have same := well.checked.sameDirections goal member _ (ownGreen isGreen)
  unfold Called at called
  rw [StopLineDetection.calls_eq_zero isGreen goalGreen same
    (uniform goal _ goalGreen isGreen)] at called
  omega

theorem ends_in_clearance {timings : SignalTimings} {arms : Direction → Bool}
    {phaseSequence : List String} (built : plan.BuiltFrom timings arms phaseSequence)
    (threshold : 1 ≤ signal.settings.demandThreshold) {n : Nat} (ends : StageEnds signal ticks n) :
    shown signal ticks (n + 1) = (stageAt signal ticks n).clearances.headD (shown signal ticks n) ∧
      (controllerAt signal ticks (n + 1)).time = 0 := by
  obtain ⟨isGreen, different, leaves⟩ := ends
  cases moved signal ticks n with
  | goesOn _ index => exact absurd index different
  | switches goal _ _ found later index =>
    exfalso
    obtain ⟨member, after⟩ := List.mem_filter.mp later
    rw [decide_eq_true_eq] at after
    rcases leaves with elsewhere | isLast
    · rw [show shown signal ticks (n + 1) = goal from index] at elsewhere
      exact elsewhere member
    · rcases built.uniform_or_inOrder with uniform | inOrder
      · have called := List.find?_some found
        rw [decide_eq_true_eq] at called
        exact not_called_within_stage uniform threshold isGreen member (mem_calling.mp called).2.2
      · have isStage := (signal.stageOf_spec (shown signal ticks n)).1
        exact not_later_than_last (greens_inOrder inOrder isStage) isLast member after
  | clears _ _ _ _ _ index time => exact ⟨index, time⟩
  | clearing _ offGreen =>
    exact absurd isGreen (ne_true_of_eq_false offGreen)

theorem over_of_ends {n : Nat} (isGreen : plan.isGreen (shown signal ticks n) = true)
    (different : shown signal ticks (n + 1) ≠ shown signal ticks n) : GreenOver signal ticks n := by
  refine ⟨isGreen, fun goesOn => different ?_⟩
  unfold shown
  rw [controllerAt_succ]
  exact update_not_over isGreen goesOn

section

variable (forward : ∀ n, 0 ≤ (ticks n).deltaTime) {n : Nat}

include forward

theorem clearing_clock {stage : Stage plan.phases.length} (isStage : stage ∈ signal.stages)
    {first : plan.Idx} {others : List plan.Idx} (begins : stage.clearances = first :: others)
    (shows : shown signal ticks (n + 1) = first)
    (fresh : (controllerAt signal ticks (n + 1)).time = 0) (d : Nat)
    (clears : ∀ j, n < j → j ≤ n + 1 + d → plan.isGreen (shown signal ticks j) = false) :
    ∃ done rest, stage.clearances = done ++ shown signal ticks (n + 1 + d) :: rest ∧
      (controllerAt signal ticks (n + 1 + d)).time =
        timeAt ticks (n + 1 + d) - timeAt ticks (n + 1) - total done ∧
      (d = 0 ∨ (controllerAt signal ticks (n + 1 + d)).time <
        plan.duration (shown signal ticks (n + 1 + d))) := by
  induction d with
  | zero =>
    refine ⟨[], others, ?_, ?_, .inl rfl⟩
    · rw [Nat.add_zero, shows]
      exact begins
    · rw [Nat.add_zero, fresh, total_nil]
      ring
  | succ d ih =>
    obtain ⟨done, rest, clearances, clock, _⟩ := ih fun j late early => clears j late (by omega)
    obtain ⟨_, time, _, passed⟩ := runs_on signal forward isStage clearances
    cases passed with
    | within passed following split timeAfter inside =>
      refine ⟨done ++ passed, following, ?_, ?_, .inr inside⟩
      · rw [clearances, split, List.append_assoc]
        rfl
      · rw [← Nat.add_assoc, timeAfter, time, clock, timeAt_succ _ (n + 1 + d), total_append]
        ring
    | served isGreen =>
      have offGreen := clears (n + 1 + d + 1) (by omega) (by omega)
      exact absurd isGreen (ne_true_of_eq_false offGreen)

theorem yellow_follows (inOrder : InOrder signal ticks n)
    (isYellow : (plan.phase (shown signal ticks (n + 1))).color = .yellow)
    (different : shown signal ticks (n + 1) ≠ shown signal ticks n) :
    (plan.phase (shown signal ticks n)).color ≠ .red ∧
      covers (plan.directions (shown signal ticks n))
        (plan.directions (shown signal ticks (n + 1))) = true := by
  have notGreen : plan.isGreen (shown signal ticks (n + 1)) = false := by
    unfold Plan.isGreen
    rw [isYellow]
    rfl
  cases shownGreen : plan.isGreen (shown signal ticks n) with
  | true =>
    have isGreen : (plan.phase (shown signal ticks n)).color = .green := beq_iff_eq.mp shownGreen
    obtain ⟨first, rest, begins, _, within⟩ := inOrder.begins (over_of_ends shownGreen different)
    refine ⟨by rw [isGreen]; exact nofun, ?_⟩
    cases moved signal ticks n with
    | goesOn _ index => exact absurd index different
    | switches goal _ _ found _ index =>
      rw [show shown signal ticks (n + 1) = goal from index, isGreen_of_find? found] at notGreen
      exact Bool.noConfusion notGreen
    | clears _ _ _ _ _ index =>
      change shown signal ticks (n + 1) = (stageAt signal ticks n).clearances.headD _ at index
      rw [begins, List.headD_cons] at index
      rw [index]
      exact within
    | clearing _ offGreen =>
      exact absurd shownGreen (ne_true_of_eq_false offGreen)
  | false =>
    obtain ⟨before, rest, clearances, _⟩ := signal.exists_position shownGreen
    have isStage := (signal.stageOf_spec (shown signal ticks n)).1
    obtain ⟨ticked, time, target, passed⟩ := runs_on signal forward isStage clearances
    cases passed with
    | served isGreen =>
      exact absurd isGreen (ne_true_of_eq_false notGreen)
    | within passed following split timeAfter inside paid =>
      cases passed with
      | nil => exact absurd (List.cons.inj split).1.symm different
      | cons _ passed =>
        obtain ⟨rfl, rfl⟩ := List.cons.inj split
        have due : total (shown signal ticks n :: passed) ≤ ticked.time :=
          paid.resolve_right (List.cons_ne_nil _ _)
        rw [time] at due timeAfter
        have reached := inOrder.reaches before passed (shown signal ticks (n + 1)) following
          (by rw [stageAt, clearances, List.append_assoc]; rfl) isYellow
          due (by
            change _ < plan.duration (shown signal ticks (n + 1)) at inside
            linarith)
          (shown signal ticks n) List.mem_cons_self
        exact ⟨by rw [reached.1]; exact nofun, reached.2⟩

end

end Runs

/-- A clearance that begins with its only yellow, for just the stage's
approaches. -/
def Tidy (stage : Stage plan.phases.length) : Prop := match stage.clearances with
  | [] => False
  | first :: rest =>
    (plan.phase first).color = .yellow ∧ (∀ green ∈ stage.greens,
        covers (plan.directions first) (plan.directions green) = true ∧
          covers (plan.directions green) (plan.directions first) = true) ∧
      ∀ clearance ∈ rest, (plan.phase clearance).color ≠ .yellow

instance (stage : Stage plan.phases.length) : Decidable (Tidy stage) := by
  unfold Tidy
  split <;> infer_instance

theorem InOrder.of_tidy {signal : AdaptiveSignal plan} {ticks : Nat → AdaptiveTick}
    (tidy : ∀ stage ∈ signal.stages, Tidy stage) (n : Nat) : InOrder signal ticks n := by
  obtain ⟨isStage, ownGreen, _⟩ := signal.stageOf_spec (shown signal ticks n)
  have own := tidy _ isStage
  unfold Tidy at own
  split at own
  · exact own.elim
  · next first rest clearances =>
      obtain ⟨isYellow, same, noOther⟩ := own
      refine ⟨fun isOver => ?_, ?_⟩
      · have covered := same _ (ownGreen isOver.1)
        exact ⟨first, rest, clearances, ⟨isYellow, covered.1⟩, covered.2⟩
      · intro before passed yellow following split another
        exfalso
        rw [stageAt, clearances] at split
        refine noOther yellow ?_ another
        cases before with
        | nil | cons head before =>
          obtain ⟨_, rfl⟩ := List.cons.inj split
          simp

/-- The phases a sequence stands for, at the default durations. -/
def sequencePhases (phaseSequence : List String) : List Phase :=
  match (({} : ControllerSection).timings []).buildPhaseSequenceFromNames phaseSequence with
  | .ok phases => phases
  | .error _ => []

/-- The two corridors in turn. -/
def corridorSequence : List String :=
  ["ns_green", "ns_yellow", "all_red", "ew_green", "ew_yellow", "all_red"]

def corridorPlan : Plan where
  phases := sequencePhases corridorSequence
  nonempty := by decide

def corridors : AdaptiveSignal corridorPlan where
  stages := [⟨[0], [1, 2]⟩, ⟨[3], [4, 5]⟩]
  isSplit := by decide
  settings := crossroads.settings
  lanes := crossroads.lanes

/-- North and south's yellow comes after their all-red. -/
def lateYellowSequence : List String :=
  ["ns_green", "all_red", "ns_yellow", "ew_green", "ew_yellow", "all_red"]

def lateYellowPlan : Plan where
  phases := sequencePhases lateYellowSequence
  nonempty := by decide

def lateYellow : AdaptiveSignal lateYellowPlan where
  stages := [⟨[0], [1, 2]⟩, ⟨[3], [4, 5]⟩]
  isSplit := by decide
  settings := crossroads.settings
  lanes := crossroads.lanes

end AdaptiveRun
end UrbanFlow
