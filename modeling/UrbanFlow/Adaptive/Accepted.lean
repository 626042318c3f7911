import UrbanFlow.Adaptive.Stages

/-!
# Plans of accepted sequences

Acceptance splits a plan built with probe durations. The plan that runs has
other durations and the same names, colours and directions, so it splits as
well. The default plan always does.
-/

namespace UrbanFlow

open CarrySchedule CyclicOrder

theorem Plan.transport {P : (n : Nat) → [NeZero n] → (Fin n → PhaseShape) → Prop} (one two : Plan)
    (same : one.phases.map Phase.shape = two.phases.map Phase.shape)
    (holds : P one.phases.length fun idx => (one.phase idx).shape) :
    P two.phases.length fun idx => (two.phase idx).shape := by
  have general : ∀ {m n : Nat} [NeZero m] [NeZero n] (lengths : m = n)
      (f : Fin m → PhaseShape) (g : Fin n → PhaseShape),
      (∀ idx, f idx = g (idx.cast lengths)) → P m f → P n g := by
    intro m n _ _ lengths f g agree holds
    subst lengths
    obtain rfl : f = g := funext agree
    exact holds
  have lengths : one.phases.length = two.phases.length := by
    have mapped := congrArg List.length same
    rwa [List.length_map, List.length_map] at mapped
  refine general lengths _ _ (fun idx => ?_) holds
  have at' : (one.phases.map Phase.shape)[idx.val]? =
      (two.phases.map Phase.shape)[idx.val]? := by rw [same]
  rw [List.getElem?_map, List.getElem?_map, List.getElem?_eq_getElem idx.isLt,
    List.getElem?_eq_getElem (lengths ▸ idx.isLt)] at at'
  exact Option.some.inj at'

/-- A split succeeds, and the greens of every stage come in the plan's order. -/
def Orderly (n : Nat) [NeZero n] (shape : Fin n → PhaseShape) : Prop := match splitShapes shape with
  | .ok stages => ∀ stage ∈ stages, stage.greens.Pairwise (· < ·)
  | .error _ => False

instance (n : Nat) [NeZero n] (shape : Fin n → PhaseShape) : Decidable (Orderly n shape) := by
  unfold Orderly
  split <;> infer_instance

/-- A plan's split succeeds, and its stages are in the plan's order. -/
def Plan.SplitsInOrder (plan : Plan) : Prop :=
  Orderly plan.phases.length fun idx => (plan.phase idx).shape

instance (plan : Plan) : Decidable plan.SplitsInOrder := by
  unfold Plan.SplitsInOrder
  infer_instance

section

variable (timings probe : SignalTimings)

theorem namedPhase_shape (rawName : String) (name : PhaseName) :
    (timings.namedPhase rawName name).shape = (probe.namedPhase rawName name).shape := by
  cases name <;> rfl

theorem built_cons {rawName : String} {names : List String} {phases : List Phase}
    (built : timings.buildPhaseSequenceFromNames (rawName :: names) = .ok phases) :
    ∃ name following, parsePhaseName rawName = some name ∧
      timings.buildPhaseSequenceFromNames names = .ok following ∧
      timings.namedPhase rawName name :: following = phases := by
  unfold SignalTimings.buildPhaseSequenceFromNames at built
  cases parsed : parsePhaseName rawName with
  | none =>
    rw [parsed] at built
    exact nomatch built
  | some name =>
    rw [parsed] at built
    cases rest : timings.buildPhaseSequenceFromNames names with
    | error =>
      rw [rest] at built
      exact nomatch built
    | ok following =>
      rw [rest] at built
      exact ⟨name, following, rfl, rfl, Except.ok.inj built⟩

theorem built_shapes {names : List String} {phases : List Phase}
    (built : timings.buildPhaseSequenceFromNames names = .ok phases) :
    ∃ others, probe.buildPhaseSequenceFromNames names = .ok others ∧
      others.map Phase.shape = phases.map Phase.shape := by
  induction names generalizing phases with
  | nil =>
    cases built
    exact ⟨[], rfl, rfl⟩
  | cons _ _ ih =>
    obtain ⟨_, _, parsed, rest, rfl⟩ := built_cons timings built
    obtain ⟨others, others_built, same⟩ := ih rest
    unfold SignalTimings.buildPhaseSequenceFromNames
    rw [parsed, others_built]
    refine ⟨_, rfl, ?_⟩
    rw [List.map_cons, List.map_cons, same, namedPhase_shape probe timings]

end

theorem built_named {timings : SignalTimings} {names : List String} {phases : List Phase}
    (built : timings.buildPhaseSequenceFromNames names = .ok phases) {phase : Phase}
    (member : phase ∈ phases) : ∃ rawName name, parsePhaseName rawName = some name ∧
      phase = timings.namedPhase rawName name := by
  induction names generalizing phases with
  | nil =>
    cases built
    exact absurd member List.not_mem_nil
  | cons rawName _ ih =>
    obtain ⟨name, following, parsed, rest, rfl⟩ := built_cons timings built
    rcases List.mem_cons.mp member with rfl | later
    · exact ⟨rawName, name, parsed, rfl⟩
    · exact ih rest later

section

variable (timings : SignalTimings) {rawName : String} {name : PhaseName}

theorem namedPhase_allRed (parsed : parsePhaseName rawName = some name)
    (isAllRed : (timings.namedPhase rawName name).name = "all_red") :
    (timings.namedPhase rawName name).color = .red := by
  cases name with
  | allRed => rfl
  | group =>
    obtain rfl : rawName = "all_red" := isAllRed
    have literal : parsePhaseName "all_red" = some .allRed := by decide
    rw [literal] at parsed
    exact nomatch parsed

theorem namedPhase_turns (isGreen : (timings.namedPhase rawName name).color = .green) :
    (timings.namedPhase rawName name).allowedTurns =
      [.left, .straight, .right] ++ timings.uturn := by
  cases name with
  | allRed => exact nomatch isGreen
  | group => rfl

end

/-- The default plan's shapes do not depend on its durations. -/
theorem directionPhases_shapes (timings probe : SignalTimings) (order : List Direction) :
    (order.flatMap timings.directionPhases).map Phase.shape =
      (order.flatMap probe.directionPhases).map Phase.shape := by
  rw [List.map_flatMap, List.map_flatMap]
  rfl

theorem probe_orderly : ∀ order ∈ Direction.all.sublists,
      ∀ nonempty : 0 < (order.flatMap probeTimings.directionPhases).length,
        Plan.SplitsInOrder ⟨_, nonempty⟩ := by
  decide

theorem default_orderly (timings : SignalTimings) (arms : Direction → Bool) (plan : Plan)
    (built : plan.phases = (Direction.all.filter arms).flatMap timings.directionPhases) :
    plan.SplitsInOrder := by
  have same := directionPhases_shapes probeTimings timings (Direction.all.filter arms)
  rw [← built] at same
  have lengths := congrArg List.length same
  rw [List.length_map, List.length_map] at lengths
  have listed : Direction.all.filter arms ∈ Direction.all.sublists :=
    List.mem_sublists.mpr List.filter_sublist
  exact Plan.transport (P := fun n _ shape => Orderly n shape)
    ⟨_, lengths ▸ plan.nonempty⟩ plan same
    (probe_orderly _ listed (lengths ▸ plan.nonempty))

/-- The plan a controller builds: from its sequence, else for its arms. -/
def Plan.BuiltFrom (plan : Plan) (timings : SignalTimings) (arms : Direction → Bool)
    (phaseSequence : List String) : Prop :=
  timings.buildPhaseSequence (Direction.all.filter arms) phaseSequence = .ok plan.phases

instance (plan : Plan) (timings : SignalTimings) (arms : Direction → Bool)
    (phaseSequence : List String) : Decidable (plan.BuiltFrom timings arms phaseSequence) :=
  inferInstanceAs (Decidable (_ = _))

section Built

variable {plan : Plan} {timings : SignalTimings} {arms : Direction → Bool}
variable {phaseSequence : List String}

section

variable (built : plan.BuiltFrom timings arms phaseSequence)

include built

theorem Plan.BuiltFrom.cases :
    (phaseSequence ≠ [] ∧ timings.buildPhaseSequenceFromNames phaseSequence = .ok plan.phases) ∨
      (phaseSequence = [] ∧ plan.phases =
        (Direction.all.filter arms).flatMap timings.directionPhases) := by
  unfold BuiltFrom SignalTimings.buildPhaseSequence at built
  split at built
  · next empty => exact .inr ⟨empty, (Except.ok.inj built).symm⟩
  · next named => exact .inl ⟨named, built⟩

theorem Plan.BuiltFrom.splits (accepted : adaptivePlanErrors phaseSequence = []) :
    ∃ stages, splitStages plan = .ok stages := by
  rcases built.cases with ⟨named, built⟩ | ⟨empty, built⟩
  · unfold adaptivePlanErrors at accepted
    rw [if_neg named] at accepted
    obtain ⟨probed, probed_built, same⟩ := built_shapes timings probeTimings built
    rw [probed_built] at accepted
    have lengths := congrArg List.length same
    rw [List.length_map, List.length_map] at lengths
    have nonempty : 0 < probed.length := lengths ▸ plan.nonempty
    dsimp only at accepted
    rw [dif_pos nonempty] at accepted
    cases split : splitStages ⟨probed, nonempty⟩ with
    | error =>
      rw [split] at accepted
      exact nomatch accepted
    | ok stages =>
      exact Plan.transport (P := fun n _ shape => ∃ stages : List (Stage n),
          splitShapes shape = .ok stages)
        ⟨probed, nonempty⟩ plan same ⟨stages, split⟩
  · have orderly := default_orderly timings arms plan built
    unfold SplitsInOrder Orderly at orderly
    split at orderly
    · next stages split => exact ⟨stages, split⟩
    · exact orderly.elim

end

theorem direction_name (direction : Direction) : ∀ suffix ∈ ["_straight_right", "_left", "_yellow"],
      direction.value ++ suffix ≠ "all_red" := by
  cases direction <;> decide

section

variable (built : plan.BuiltFrom timings arms phaseSequence)

include built

theorem Plan.BuiltFrom.allRed {idx : plan.Idx}
    (isAllRed : (plan.phase idx).name = "all_red") : (plan.phase idx).color = .red := by
  have member : plan.phase idx ∈ plan.phases := List.get_mem _ _
  rcases built.cases with ⟨_, built⟩ | ⟨_, built⟩
  · obtain ⟨_, _, parsed, isNamed⟩ := built_named built member
    rw [isNamed] at isAllRed ⊢
    exact namedPhase_allRed timings parsed isAllRed
  · rw [built, List.mem_flatMap] at member
    obtain ⟨direction, _, member⟩ := member
    generalize plan.phase idx = phase at member isAllRed ⊢
    simp only [SignalTimings.directionPhases, List.mem_cons, List.not_mem_nil, or_false] at member
    rcases member with rfl | rfl | rfl | rfl
    · exact absurd isAllRed (direction_name direction _ (.head _))
    · exact absurd isAllRed (direction_name direction _ (.tail _ (.head _)))
    · exact absurd isAllRed (direction_name direction _ (.tail _ (.tail _ (.head _))))
    · rfl

theorem Plan.BuiltFrom.uniform_or_inOrder :
    (∀ one two, plan.isGreen one = true → plan.isGreen two = true →
        (plan.phase one).allowedTurns = (plan.phase two).allowedTurns) ∨ plan.SplitsInOrder := by
  rcases built.cases with ⟨_, built⟩ | ⟨_, built⟩
  · left
    have turns : ∀ idx, plan.isGreen idx = true → (plan.phase idx).allowedTurns =
          [.left, .straight, .right] ++ timings.uturn := by
      intro idx isGreen
      have member : plan.phase idx ∈ plan.phases := List.get_mem _ _
      obtain ⟨_, _, _, isNamed⟩ := built_named built member
      unfold Plan.isGreen at isGreen
      rw [beq_iff_eq, isNamed] at isGreen
      rw [isNamed]
      exact namedPhase_turns timings isGreen
    intro one two oneGreen twoGreen
    rw [turns one oneGreen, turns two twoGreen]
  · exact .inr (default_orderly timings arms plan built)

end

end Built

end UrbanFlow
