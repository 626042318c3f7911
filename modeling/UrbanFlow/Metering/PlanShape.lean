import UrbanFlow.Metering.Cursor

/-!
# How a metering plan is laid out

Every specification contributes its green, then the yellow and the all-red that
have a duration. So a phase that serves arms is a green or the yellow after it,
and `current_spec` is the specification the phase came from.
-/

namespace UrbanFlow

open CarrySchedule CyclicOrder MeteringBuilder

variable {yellow allRed : ℚ} {spec : MeteredPhaseSpec} {phase : Phase} {i : Nat}
  {specs : List MeteredPhaseSpec}

/-- What the phases of a specification are. -/
inductive PhaseOf (yellow allRed : ℚ) (spec : MeteredPhaseSpec) (phase : Phase) :
    Prop
  | green (color : phase.color = .green) (directions : phase.directions = spec.entries)
      (duration : phase.duration = spec.green)
  | yellow (color : phase.color = .yellow) (directions : phase.directions = spec.entries)
      (duration : phase.duration = yellow)
  | allRed (color : phase.color = .red) (directions : phase.directions = [])
      (duration : phase.duration = allRed)

theorem phaseOf_of_mem (member : phase ∈ specPhases yellow allRed spec) :
    PhaseOf yellow allRed spec phase := by
  simp only [specPhases, List.mem_append, List.mem_singleton] at member
  rcases member with (rfl | isYellow) | isAllRed
  · exact .green rfl rfl rfl
  · split at isYellow
    · obtain rfl := List.mem_singleton.mp isYellow
      exact .yellow rfl rfl rfl
    · exact absurd isYellow List.not_mem_nil
  · split at isAllRed
    · obtain rfl := List.mem_singleton.mp isAllRed
      exact .allRed rfl rfl rfl
    · exact absurd isAllRed List.not_mem_nil

/-- Where a yellow has a duration, it comes right after its green. -/
theorem specPhases_green_next (hasYellow : 0 < yellow)
    (isPhase : (specPhases yellow allRed spec)[i]? = some phase) (isGreen : phase.color = .green) :
    ∃ after, (specPhases yellow allRed spec)[i + 1]? = some after ∧
      after.color = .yellow ∧ after.directions = phase.directions := by
  unfold specPhases at isPhase ⊢
  dsimp only at isPhase ⊢
  rw [if_pos hasYellow] at isPhase ⊢
  match i with
  | 0 =>
    cases isPhase
    exact ⟨_, rfl, rfl, rfl⟩
  | 1 =>
    cases isPhase
    exact nomatch isGreen
  | i + 2 =>
    by_cases hasRed : 0 < allRed
    · rw [if_pos hasRed] at isPhase
      cases i with
      | zero =>
        cases isPhase
        exact nomatch isGreen
      | succ => exact nomatch isPhase
    · rw [if_neg hasRed] at isPhase
      exact nomatch isPhase

theorem phases_green_next (hasYellow : 0 < yellow)
    (isPhase : (specs.flatMap (specPhases yellow allRed))[i]? = some phase)
    (isGreen : phase.color = .green) :
    ∃ after, (specs.flatMap (specPhases yellow allRed))[i + 1]? = some after ∧
      after.color = .yellow ∧ after.directions = phase.directions := by
  induction specs generalizing i with
  | nil => exact nomatch isPhase
  | cons spec _ ih =>
    rw [List.flatMap_cons] at isPhase ⊢
    by_cases inside : i < (specPhases yellow allRed spec).length
    · rw [List.getElem?_append_left inside] at isPhase
      obtain ⟨after, isAfter, described⟩ := specPhases_green_next hasYellow isPhase isGreen
      have afterInside := (List.getElem?_eq_some_iff.mp isAfter).1
      rw [List.getElem?_append_left afterInside]
      exact ⟨after, isAfter, described⟩
    · rw [not_lt] at inside
      rw [List.getElem?_append_right inside] at isPhase
      rw [List.getElem?_append_right (by omega), Nat.sub_add_comm inside]
      exact ih isPhase

/-- The specification a position belongs to, as the builder numbers them. -/
theorem spec_of_phase (first : Nat)
    (isPhase : (specs.flatMap (specPhases yellow allRed))[i]? = some phase) :
    ∃ j spec, ((specs.zipIdx first).flatMap fun (spec, index) =>
        (specPhases yellow allRed spec).map fun _ => index)[i]? = some (first + j) ∧
      specs[j]? = some spec ∧ phase ∈ specPhases yellow allRed spec := by
  induction specs generalizing first i with
  | nil => exact nomatch isPhase
  | cons spec _ ih =>
    rw [List.flatMap_cons] at isPhase
    rw [List.zipIdx_cons, List.flatMap_cons]
    by_cases inside : i < (specPhases yellow allRed spec).length
    · rw [List.getElem?_append_left inside] at isPhase
      refine ⟨0, spec, ?_, rfl, List.mem_of_getElem? isPhase⟩
      rw [List.getElem?_append_left (by rwa [List.length_map]), List.getElem?_map, isPhase]
      rfl
    · rw [not_lt] at inside
      rw [List.getElem?_append_right inside] at isPhase
      obtain ⟨j, owner, index, isOwner, member⟩ := ih (first + 1) isPhase
      refine ⟨j + 1, owner, ?_, isOwner, member⟩
      rw [List.getElem?_append_right (by rwa [List.length_map]),
        List.length_map, index, Nat.add_right_comm, Nat.add_assoc]

namespace MeteringPhaseCursor

variable {plan : MeteringPlan}

theorem phases_getElem? (idx : plan.timing.Idx) :
    (plan.specs.flatMap (specPhases plan.yellow plan.allRed))[idx.val]? =
      some (plan.timing.phase idx) := by
  rw [← plan.phases_eq]
  exact List.getElem?_eq_getElem idx.isLt

theorem currentSpec_spec (cursor : MeteringPhaseCursor plan) :
    ∃ spec, currentSpec cursor = some spec ∧ spec ∈ plan.specs ∧
      PhaseOf plan.yellow plan.allRed spec (currentPhase cursor) := by
  obtain ⟨j, spec, index, isSpec, member⟩ :=
    spec_of_phase 0 (phases_getElem? cursor.currentPhaseIdx)
  refine ⟨spec, ?_, List.mem_of_getElem? isSpec, phaseOf_of_mem member⟩
  have indices : plan.phaseToSpecIdx = (plan.specs.zipIdx).flatMap fun (spec, index) =>
        (specPhases plan.yellow plan.allRed spec).map fun _ => index :=
    congrArg EntryMeteringPlan.phaseToSpecIdx plan.assembled
  unfold currentSpec
  rw [indices, index, Option.bind_some, Nat.zero_add, isSpec]

/-- The phase shows an arm green or yellow. -/
def serves (plan : MeteringPlan) (arm : Direction) (idx : plan.timing.Idx) : Bool :=
  decide (arm ∈ plan.timing.directions idx)

theorem phaseOf (idx : plan.timing.Idx) : ∃ spec ∈ plan.specs,
      PhaseOf plan.yellow plan.allRed spec (plan.timing.phase idx) := by
  obtain ⟨_, spec, _, isSpec, member⟩ := spec_of_phase 0 (phases_getElem? idx)
  exact ⟨spec, List.mem_of_getElem? isSpec, phaseOf_of_mem member⟩

theorem green_next (hasYellow : 0 < plan.yellow) {idx : plan.timing.Idx}
    (isGreen : (plan.timing.phase idx).color = .green) :
    (plan.timing.phase (plan.timing.next idx)).color = .yellow ∧
      plan.timing.directions (plan.timing.next idx) = plan.timing.directions idx := by
  obtain ⟨after, isAfter, color, directions⟩ :=
    phases_green_next hasYellow (phases_getElem? idx) isGreen
  have following : plan.timing.phase (plan.timing.next idx) = after := by
    rw [← plan.phases_eq] at isAfter
    obtain ⟨inside, isAfter⟩ := List.getElem?_eq_some_iff.mp isAfter
    rw [← isAfter]
    unfold Plan.phase Plan.next
    rw [List.get_eq_getElem]
    congr 1
    have position := ahead_val idx 1
    rw [ahead_one] at position
    rw [position]
    exact Nat.mod_eq_of_lt inside
  rw [← following] at color directions
  exact ⟨color, directions⟩

theorem yellow_of_last (hasYellow : 0 < plan.yellow) {arm : Direction} {idx : plan.timing.Idx}
    (served : serves plan arm idx = true) (last : serves plan arm (plan.timing.next idx) = false) :
    (plan.timing.phase idx).color = .yellow ∧ plan.timing.duration idx = plan.yellow := by
  unfold serves at served last
  rw [decide_eq_true_iff] at served
  rw [decide_eq_false_iff_not] at last
  obtain ⟨spec, _, isPhase⟩ := phaseOf idx
  cases isPhase with
  | green color =>
    rw [(green_next hasYellow color).2] at last
    exact absurd served last
  | yellow color _ duration => exact ⟨color, duration⟩
  | allRed _ directions =>
    unfold Plan.directions at served
    rw [directions] at served
    exact absurd served List.not_mem_nil

section

variable {arm : Direction} (metered : arm ∈ plan.meteredEntries)

include metered

theorem getColor_red_iff (cursor : MeteringPhaseCursor plan) :
    getColor arm cursor = .red ↔ serves plan arm cursor.currentPhaseIdx = false := by
  unfold getColor serves
  rw [if_pos metered, decide_eq_false_iff_not]
  change (if arm ∈ plan.timing.directions cursor.currentPhaseIdx then _ else _) = _ ↔ _
  split
  · next served =>
      refine iff_of_false ?_ (not_not.mpr served)
      intro isRed
      obtain ⟨spec, _, isPhase⟩ := phaseOf cursor.currentPhaseIdx
      cases isPhase with
      | green color _ _ | yellow color _ _ => exact nomatch color.symm.trans isRed
      | allRed _ directions _ =>
        unfold Plan.directions at served
        rw [directions] at served
        exact absurd served List.not_mem_nil
  · next unserved => exact iff_of_true rfl unserved

theorem exists_serves : ∃ idx, serves plan arm idx = true := by
  obtain ⟨spec, isSpec, isEntry⟩ := (plan.mem_meteredEntries arm).mp metered
  have member : (specPhases plan.yellow plan.allRed spec).head (by
      unfold specPhases
      simp) ∈ plan.phases := by
    rw [plan.phases_eq]
    exact List.mem_flatMap.mpr ⟨spec, isSpec, List.head_mem _⟩
  obtain ⟨idx, isPhase⟩ := List.mem_iff_get.mp member
  refine ⟨idx, decide_eq_true ?_⟩
  unfold Plan.directions Plan.phase
  change arm ∈ (plan.phases.get idx).directions
  rw [isPhase]
  exact isEntry

end

end MeteringPhaseCursor
end UrbanFlow
