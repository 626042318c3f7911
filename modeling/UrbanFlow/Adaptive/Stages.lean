import UrbanFlow.Priority.Models
import UrbanFlow.Signals.FixedTime

/-!
# Stages of an adaptive plan

A stage is one or more consecutive greens for the same approaches and the
clearance phases after them. `splitStages` groups a cyclic plan into stages or
says why it cannot; an `AdaptivePlan` is a plan that has been split. Splitting
reads names, colours and directions only, so a `phaseSequence` accepted with
probe durations splits with any durations.
-/

namespace UrbanFlow

open CarrySchedule CyclicOrder

/-- Greens of one approach group and the clearance phases after them. -/
structure Stage (n : Nat) where
  greens : List (Fin n)
  clearances : List (Fin n)
  deriving DecidableEq

/-- What splitting reads of a phase. -/
structure PhaseShape where
  name : String
  color : Color
  directions : List Direction
  deriving DecidableEq, Repr

def Phase.shape (phase : Phase) : PhaseShape where
  name := phase.name
  color := phase.color
  directions := phase.directions

section Split

variable {n : Nat} [NeZero n] (shape : Fin n → PhaseShape)

/-- Whether a position is a green. -/
def shapeGreen (idx : Fin n) : Bool := (shape idx).color == .green

/-- The greens a stage begins with: those whose predecessor is not green. -/
def stageStarts : List (Fin n) := (List.finRange n).filter fun idx =>
    shapeGreen shape idx && !shapeGreen shape (idx - 1)

/-- The stage on an arc of the plan. -/
def stageOn (positions : List (Fin n)) : Stage n where
  greens := positions.filter (shapeGreen shape)
  clearances := positions.filter fun idx => !shapeGreen shape idx

/-- `set(directions) <= set(yellow.directions)`. -/
def covers (yellow directions : List Direction) : Bool :=
  directions.all fun direction => direction ∈ yellow

/-- The checks `_split_stages` makes of one stage. -/
def checkStage (stage : Stage n) : Except Message Unit := match stage.greens with
  | [] => .ok ()
  | first :: rest =>
    if rest.any fun green =>
        (shape green).directions != (shape first).directions then
      .error [.text "consecutive greens ", .str (", ".intercalate ((first :: rest).map fun green =>
          (shape green).name)),
        .text " release different approaches without a yellow and all-red between them"]
    else if !stage.clearances.any fun clearance =>
        (shape clearance).color == .yellow &&
          covers (shape clearance).directions (shape first).directions then
      .error [.text "green ", .str (shape first).name,
        .text " is not followed by a yellow for the same approaches"]
    else if !stage.clearances.any fun clearance =>
        (shape clearance).name == "all_red" then
      .error [.text "green ", .str (shape first).name,
        .text " is not followed by an all-red clearance"]
    else .ok ()

/-- `_split_stages`. -/
def splitShapes : Except Message (List (Stage n)) :=
  if (List.finRange n).any (shapeGreen shape) then match stageStarts shape with
    | [] => .error [.text "the phase plan has no yellow or all-red phase between its greens"]
    | first :: rest => do
      let stages := (arcsTo first (first :: rest)).map (stageOn shape)
      stages.forM (checkStage shape)
      pure stages
  else .error [.text "the phase plan has no green phase"]

end Split

/-- `_split_stages` of a plan. -/
def splitStages (plan : Plan) : Except Message (List (Stage plan.phases.length)) :=
  splitShapes fun idx => (plan.phase idx).shape

/-- The durations `adaptive_plan_errors` probes a sequence with. -/
def probeTimings : SignalTimings where
  straightRightDuration := 30
  leftDuration := 5
  yellowDuration := 4
  allRedDuration := 2
  nsGreenDuration := none
  ewGreenDuration := none
  uturn := []

/-- `adaptive_plan_errors`: none for a sequence that can run adaptively. -/
def adaptivePlanErrors (phaseSequence : List String) : List Message := if phaseSequence = [] then []
  else
    let prefixed (message : Message) : List Message :=
      [.text "controller.phaseSequence cannot run adaptively: " :: message]
    match probeTimings.buildPhaseSequenceFromNames phaseSequence with
    | .error message => prefixed message
    | .ok phases =>
      if nonempty : 0 < phases.length then match splitStages ⟨phases, nonempty⟩ with
        | .error message => prefixed message
        | .ok _ => []
      else prefixed [.text "the phase plan has no green phase"]

/-- A plan with its stages, as the adaptive controller holds it. -/
structure AdaptivePlan (plan : Plan) where
  stages : List (Stage plan.phases.length)
  isSplit : splitStages plan = .ok stages

section Split

variable {n : Nat} [NeZero n] {shape : Fin n → PhaseShape}

omit [NeZero n] in
theorem forM_ok_iff {check : Stage n → Except Message Unit} {stages : List (Stage n)} :
    stages.forM check = .ok () ↔ ∀ stage ∈ stages, check stage = .ok () := by
  induction stages with
  | nil => simp [List.forM, pure, Except.pure]
  | cons stage stages ih =>
    rw [show (stage :: stages).forM check = (check stage >>= fun _ => stages.forM check) from rfl,
      check_bind_ok_iff, ih, List.forall_mem_cons]

theorem splitShapes_ok {stages : List (Stage n)} (split : splitShapes shape = .ok stages) :
    ∃ first rest, stageStarts shape = first :: rest ∧
      stages = (arcsTo first (first :: rest)).map (stageOn shape) ∧
      ∀ stage ∈ stages, checkStage shape stage = .ok () := by
  unfold splitShapes at split
  split at split
  · split at split
    · exact nomatch split
    · next first rest starts =>
        dsimp only at split
        cases checked : ((arcsTo first (first :: rest)).map
            (stageOn shape)).forM (checkStage shape) with
        | error =>
          rw [checked] at split
          exact nomatch split
        | ok =>
          rw [checked] at split
          cases split
          exact ⟨first, rest, starts, rfl, forM_ok_iff.mp checked⟩
  · exact nomatch split

theorem stageStarts_sorted (shape : Fin n → PhaseShape) : (stageStarts shape).Pairwise (· < ·) :=
  (List.pairwise_lt_finRange n).filter _

/-- A stage that passes its checks: greens for the same approaches, a yellow
that covers them and an all-red. -/
structure Stage.Checked (shape : Fin n → PhaseShape) (stage : Stage n) : Prop where
  sameDirections : ∀ first ∈ stage.greens, ∀ second ∈ stage.greens,
    (shape first).directions = (shape second).directions
  yellow : ∀ green ∈ stage.greens, ∃ clearance ∈ stage.clearances,
    (shape clearance).color = .yellow ∧
      covers (shape clearance).directions (shape green).directions = true
  allRed : ∃ clearance ∈ stage.clearances, (shape clearance).name = "all_red"

omit [NeZero n] in
theorem checkStage_checked {stage : Stage n} (present : stage.greens ≠ [])
    (checked : checkStage shape stage = .ok ()) : stage.Checked shape := by
  unfold checkStage at checked
  split at checked
  · next absent => exact absurd absent present
  · next first rest greens =>
      split at checked
      · exact nomatch checked
      · next same =>
          split at checked
          · exact nomatch checked
          · next yellow =>
              split at checked
              · exact nomatch checked
              · next allRed =>
                  have isFirst : ∀ green ∈ stage.greens,
                      (shape green).directions = (shape first).directions := by
                    intro green member
                    rw [greens, List.mem_cons] at member
                    rcases member with rfl | later
                    · rfl
                    · by_contra different
                      refine same (List.any_eq_true.mpr ⟨green, later, ?_⟩)
                      exact bne_iff_ne.mpr different
                  simp only [Bool.not_eq_true, Bool.not_eq_false',
                    List.any_eq_true, Bool.and_eq_true, beq_iff_eq]
                    at yellow allRed
                  refine ⟨fun one isOne two isTwo => ?_, fun green member => ?_, allRed⟩
                  · rw [isFirst one isOne, isFirst two isTwo]
                  · rw [isFirst green member]
                    exact yellow

end Split

namespace AdaptivePlan

variable {plan : Plan} (adaptive : AdaptivePlan plan)

instance lawfulIdx (plan : Plan) : LawfulBEq plan.Idx := inferInstance

/-- `stage_of`: the number of the stage a phase belongs to. -/
def stageIndex (idx : plan.Idx) : Nat := adaptive.stages.findIdx fun stage =>
    idx ∈ stage.greens || idx ∈ stage.clearances

/-- `stages[stage_of[idx]]`. -/
def stageOf (idx : plan.Idx) : Stage plan.phases.length :=
  adaptive.stages.getD (adaptive.stageIndex idx) ⟨[], []⟩

theorem exists_arcs : ∃ arcs : List (List plan.Idx),
      adaptive.stages = arcs.map (stageOn fun idx => (plan.phase idx).shape) ∧
      (∀ idx, ∃ positions ∈ arcs, idx ∈ positions) ∧ arcs.Pairwise List.Disjoint ∧
      ∀ positions ∈ arcs, positions.Nodup ∧ ∃ idx ∈ positions, plan.isGreen idx = true := by
  obtain ⟨first, rest, starts, stages, _⟩ := splitShapes_ok adaptive.isSplit
  have sorted := stageStarts_sorted fun idx => (plan.phase idx).shape
  rw [starts] at sorted
  have wraps : ∀ start ∈ first :: rest, first ≤ start := by
    intro start member
    rcases List.mem_cons.mp member with rfl | later
    · exact le_refl start
    · exact ((List.pairwise_cons.mp sorted).1 start later).le
  refine ⟨arcsTo first (first :: rest), stages, fun idx => ?_,
    arcsTo_disjoint sorted wraps, fun positions isArc => ?_⟩
  · exact arcsTo_cover wraps (le_or_gt first idx)
  · obtain ⟨start, isStart, last, rfl⟩ := exists_start_of_mem_arcsTo isArc
    refine ⟨nodup_arc start last, start, start_mem_arc start last, ?_⟩
    rw [← starts, stageStarts, List.mem_filter, Bool.and_eq_true] at isStart
    exact isStart.2.1

theorem mem_stageOn {positions : List plan.Idx} {idx : plan.Idx} :
    (idx ∈ (stageOn (fun idx => (plan.phase idx).shape) positions).greens ↔
        idx ∈ positions ∧ plan.isGreen idx = true) ∧
      (idx ∈ (stageOn (fun idx => (plan.phase idx).shape) positions).clearances ↔
        idx ∈ positions ∧ plan.isGreen idx = false) := by
  unfold stageOn
  rw [List.mem_filter, List.mem_filter, Bool.not_eq_true']
  exact ⟨Iff.rfl, Iff.rfl⟩

theorem stageOf_eq {stage : Stage plan.phases.length} (isStage : stage ∈ adaptive.stages)
    {idx : plan.Idx} (holds : idx ∈ stage.greens ∨ idx ∈ stage.clearances) :
    adaptive.stageOf idx = stage := by
  obtain ⟨arcs, stages, _, disjoint, _⟩ := adaptive.exists_arcs
  have found : adaptive.stageOf idx = (adaptive.stages.find? fun stage =>
      idx ∈ stage.greens || idx ∈ stage.clearances).getD ⟨[], []⟩ := by
    rw [List.find?_eq_getElem?_findIdx]
    exact List.getD_eq_getElem?_getD
  cases search : adaptive.stages.find? fun stage =>
      idx ∈ stage.greens || idx ∈ stage.clearances with
  | none =>
    rw [List.find?_eq_none] at search
    have absent := search stage isStage
    simp only [Bool.or_eq_true, decide_eq_true_eq] at absent
    exact absurd holds absent
  | some =>
    have isOther := List.mem_of_find?_eq_some search
    have holdsOther := List.find?_some search
    simp only [Bool.or_eq_true, decide_eq_true_eq] at holdsOther
    rw [found, search]
    rw [stages] at isStage isOther
    obtain ⟨one, isOne, rfl⟩ := List.mem_map.mp isStage
    obtain ⟨two, isTwo, rfl⟩ := List.mem_map.mp isOther
    have onOne : idx ∈ one := by
      rcases holds with green | clearance
      · exact (mem_stageOn.1.mp green).1
      · exact (mem_stageOn.2.mp clearance).1
    have onTwo : idx ∈ two := by
      rcases holdsOther with green | clearance
      · exact (mem_stageOn.1.mp green).1
      · exact (mem_stageOn.2.mp clearance).1
    have same : two = one := by
      by_contra different
      have symmetric : Std.Symm (List.Disjoint : List plan.Idx → _ → Prop) :=
        ⟨fun _ _ apart => apart.symm⟩
      exact disjoint.forall isTwo isOne different onTwo onOne
    rw [same]
    rfl

/-- Every phase is found in its stage, among the greens or the clearances as
its colour says. -/
theorem stageOf_spec (idx : plan.Idx) : adaptive.stageOf idx ∈ adaptive.stages ∧
      (plan.isGreen idx = true → idx ∈ (adaptive.stageOf idx).greens) ∧
      (plan.isGreen idx = false → idx ∈ (adaptive.stageOf idx).clearances) := by
  obtain ⟨arcs, stages, cover, _, _⟩ := adaptive.exists_arcs
  obtain ⟨positions, isArc, member⟩ := cover idx
  have isStage : stageOn (fun idx => (plan.phase idx).shape) positions ∈ adaptive.stages := by
    rw [stages]
    exact List.mem_map_of_mem isArc
  have holds : idx ∈ (stageOn (fun idx => (plan.phase idx).shape) positions).greens ∨
      idx ∈ (stageOn (fun idx => (plan.phase idx).shape) positions).clearances := by
    rw [mem_stageOn.1, mem_stageOn.2]
    cases plan.isGreen idx
    · exact .inr ⟨member, rfl⟩
    · exact .inl ⟨member, rfl⟩
  rw [adaptive.stageOf_eq isStage holds]
  refine ⟨isStage, fun isGreen => ?_, fun offGreen => ?_⟩
  · exact mem_stageOn.1.mpr ⟨member, isGreen⟩
  · exact mem_stageOn.2.mpr ⟨member, offGreen⟩

/-- What holds of every stage: its greens are greens, its clearances are not
and come once each, and it passes its checks. -/
structure WellFormed (stage : Stage plan.phases.length) : Prop where
  greens : ∀ idx ∈ stage.greens, plan.isGreen idx = true
  clearances : ∀ idx ∈ stage.clearances, plan.isGreen idx = false
  nodup : stage.clearances.Nodup
  checked : stage.Checked fun idx => (plan.phase idx).shape

section

variable {stage : Stage plan.phases.length}

theorem wellFormed (isStage : stage ∈ adaptive.stages) : WellFormed stage := by
  obtain ⟨_, _, _, _, checks⟩ := splitShapes_ok adaptive.isSplit
  have checked := checks stage isStage
  obtain ⟨arcs, stages, _, _, arcsOk⟩ := adaptive.exists_arcs
  rw [stages] at isStage
  obtain ⟨positions, isArc, rfl⟩ := List.mem_map.mp isStage
  obtain ⟨nodup, green, member, isGreen⟩ := arcsOk positions isArc
  refine ⟨fun idx isGreen => (mem_stageOn.1.mp isGreen).2,
    fun idx offGreen => (mem_stageOn.2.mp offGreen).2, nodup.filter _, ?_⟩
  refine checkStage_checked (fun absent => ?_) checked
  have present := mem_stageOn.1.mpr ⟨member, isGreen⟩
  rw [absent] at present
  exact List.not_mem_nil present

theorem WellFormed.clearances_ne_nil (well : WellFormed stage) : stage.clearances ≠ [] := by
  obtain ⟨clearance, member, _⟩ := well.checked.allRed
  exact List.ne_nil_of_mem member

end

end AdaptivePlan
end UrbanFlow
