import UrbanFlow.Library.Folds
import UrbanFlow.Networks.PlanFlows

/-!
# The plan conserves the demand of the routes

On the edges, into the arms, through the junctions and in the derived scenarios
of an accepted network.
-/

namespace UrbanFlow.Networks
namespace Coupling

open Scenario

section

variable {contract : Contract} {doc : NetworkDocument}

section

variable (accepted : Accepted contract doc)

include accepted

theorem edgeFlow_eq_usingDemand (edge : EdgeSpec) :
    edgeFlow doc edge.id = usingDemand doc edge := by
  rw [edgeFlow_eq, usingDemand, demandWhere_eq]
  congr 1
  refine List.map_congr_left fun route isRoute => ?_
  rw [(accepted.follows isRoute).nodup.count]
  split_ifs <;> simp

/-- What enters an arm is the demand of the routes that use the edge into it,
without those that end there. -/
theorem total_add_endingDemand {edge : EdgeSpec} (isEdge : edge ∈ doc.edges) {node : String}
    {arm : Direction} (isKey : junctionPort doc edge.to_ = some (node, arm)) :
    total (armMovementFlows doc (node, arm)) + endingDemand doc edge = usingDemand doc edge := by
  rw [total_armMovementFlows, endingDemand, usingDemand, demandWhere_eq,
    demandWhere_eq, ← List.sum_map_add]
  congr 1
  refine List.map_congr_left fun route isRoute => ?_
  have counted := accepted.countP_passages_arm isRoute isEdge isKey
  by_cases isUsed : edge.id ∈ route.path
  · by_cases ends : route.destination = edge.to_.node
    · simp only [isUsed, ends, and_self, if_true] at counted ⊢
      have isZero : (doc.resolveRoute route).1.countP (fun passage =>
          passage.node = node ∧ passage.entryArm = arm) = 0 := by omega
      rw [isZero, Nat.cast_zero, zero_mul, zero_add]
    · simp only [isUsed, ends, and_false, if_false, if_true, add_zero] at counted ⊢
      rw [counted, Nat.cast_one, one_mul]
  · simp only [isUsed, false_and, if_false, add_zero] at counted ⊢
    rw [counted, Nat.cast_zero, zero_mul]

theorem edge_into {route : RouteSpec} (isRoute : route ∈ doc.routes) {found : Passage}
    (isFound : found ∈ (doc.resolveRoute route).1) :
    ∃ edge ∈ doc.edges, junctionPort doc edge.to_ = some (found.node, found.entryArm) := by
  have follows := accepted.follows isRoute
  rw [follows.passages_eq] at isFound
  obtain ⟨edges, arePair, isPassage⟩ := List.mem_filterMap.mp isFound
  obtain ⟨other, isOther, -, isKey⟩ := accepted.passage_between isRoute arePair
  obtain rfl : found = other := Option.some.inj (isPassage.symm.trans isOther)
  exact ⟨edges.1, follows.mem_edges _ (List.of_mem_zip arePair).1, isKey⟩

theorem countP_passages_le_one {route : RouteSpec} (isRoute : route ∈ doc.routes) (node : String)
    (arm : Direction) : ((doc.resolveRoute route).1.countP fun passage =>
      passage.node = node ∧ passage.entryArm = arm) ≤ 1 := by
  by_cases passes : ∃ found ∈ (doc.resolveRoute route).1, found.node = node ∧ found.entryArm = arm
  · obtain ⟨found, isFound, isNode, isArm⟩ := passes
    obtain ⟨edge, isEdge, isKey⟩ := edge_into accepted isRoute isFound
    rw [isNode, isArm] at isKey
    have counted := accepted.countP_passages_arm isRoute isEdge isKey
    split_ifs at counted <;> omega
  · push Not at passes
    rw [List.countP_eq_zero.mpr]
    · exact Nat.zero_le 1
    · intro passage isPassage
      simpa using passes passage isPassage

theorem turn_eq_movementDemand (node : String) (arm : Direction) (turn : TurnIntent) :
    (armMovementFlows doc (node, arm) turn).getD 0 = movementDemand doc node arm turn := by
  rw [turn_armMovementFlows, movementDemand, demandWhere_eq]
  congr 1
  refine List.map_congr_left fun route isRoute => ?_
  have atMostOnce : ((doc.resolveRoute route).1.countP fun passage =>
      passage.node = node ∧ passage.entryArm = arm ∧ passage.movement = turn) ≤ 1 := by
    refine le_trans (List.countP_mono_left fun passage _ isMade => ?_)
      (countP_passages_le_one accepted isRoute node arm)
    have isMade := of_decide_eq_true isMade
    exact decide_eq_true ⟨isMade.1, isMade.2.1⟩
  have isMade_iff : (0 < (doc.resolveRoute route).1.countP fun passage =>
        passage.node = node ∧ passage.entryArm = arm ∧ passage.movement = turn) ↔
      ∃ passage ∈ (doc.resolveRoute route).1,
        passage.node = node ∧ passage.entryArm = arm ∧ passage.movement = turn := by
    simp [List.countP_pos_iff]
  by_cases isMade : ∃ passage ∈ (doc.resolveRoute route).1,
      passage.node = node ∧ passage.entryArm = arm ∧ passage.movement = turn
  · have isOne := le_antisymm atMostOnce (isMade_iff.mpr isMade)
    rw [if_pos isMade, isOne]
    simp
  · have isZero := Nat.eq_zero_of_not_pos (mt isMade_iff.mp isMade)
    rw [if_neg isMade, isZero]
    simp

end

theorem demandOf_nonneg (doc : NetworkDocument) (route : String) : 0 ≤ doc.demandOf route := by
  unfold NetworkDocument.demandOf
  cases doc.demand.reverse.find? fun item => item.routeId = route with
  | none => exact le_rfl
  | some item => exact item.vehiclesPerHour_nonneg

theorem demandWhere_nonneg (doc : NetworkDocument) (selected : RouteSpec → Prop)
    [DecidablePred selected] : 0 ≤ demandWhere doc selected := by
  refine List.sum_nonneg fun vph isDemand => ?_
  obtain ⟨route, -, rfl⟩ := List.mem_map.mp isDemand
  exact demandOf_nonneg doc route.id

section

variable (accepted : Accepted contract doc)

include accepted

theorem sum_leaving (node : String) :
    ((doc.edges.filter fun edge => edge.from_.node = node).map (usingDemand doc)).sum =
      (doc.routes.map fun route =>
        ((doc.chain route).countP (fun edge => edge.from_.node = node) : ℚ) *
          doc.demandOf route.id).sum := by
  have perEdge : usingDemand doc = fun edge =>
      (doc.routes.map fun route =>
        if edge.id ∈ route.path then doc.demandOf route.id else 0).sum := by
    funext edge
    exact demandWhere_eq doc _
  rw [perEdge, Sums.sum_map_comm fun (edge : EdgeSpec) (route : RouteSpec) =>
    if edge.id ∈ route.path then doc.demandOf route.id else 0]
  congr 1
  refine List.map_congr_left fun route isRoute => ?_
  rw [Sums.sum_map_ite_const]
  congr 2
  have follows := accepted.follows isRoute
  rw [List.countP_eq_length_filter, List.countP_eq_length_filter]
  refine List.Perm.length_eq ((List.perm_ext_iff_of_nodup
    ((accepted.edges_nodup.of_map.filter _).filter _)
    ((accepted.chain_nodup isRoute).filter _)).mpr fun edge => ?_)
  simp only [List.mem_filter, decide_eq_true_eq]
  constructor
  · rintro ⟨⟨isEdge, leaves⟩, isUsed⟩
    exact ⟨(accepted.mem_path_iff isRoute isEdge).mp isUsed, leaves⟩
  · rintro ⟨inChain, leaves⟩
    have isEdge := follows.mem_edges edge inChain
    exact ⟨⟨isEdge, leaves⟩, (accepted.mem_path_iff isRoute isEdge).mpr inChain⟩

theorem total_eq_zero_of_unfed {node : String} {arm : Direction}
    (unfed : feeding doc node arm = none) : total (armMovementFlows doc (node, arm)) = 0 := by
  rw [total_armMovementFlows]
  refine List.sum_eq_zero fun vph isDemand => ?_
  obtain ⟨route, isRoute, rfl⟩ := List.mem_map.mp isDemand
  have noPassage : (doc.resolveRoute route).1.countP (fun passage =>
      passage.node = node ∧ passage.entryArm = arm) = 0 := by
    rw [List.countP_eq_zero]
    intro found isFound isHere
    have isHere := of_decide_eq_true isHere
    obtain ⟨edge, isEdge, isKey⟩ := edge_into accepted isRoute isFound
    rw [isHere.1, isHere.2] at isKey
    rw [accepted.feeding_eq isEdge isKey] at unfed
    cases unfed
  rw [noPassage, Nat.cast_zero, zero_mul]

/-- What enters a junction by its arms is the demand of the routes for each time
they pass it. -/
theorem sum_inflow (node : String) : ((feedingEdges doc node).map fun entry =>
        total (armMovementFlows doc (node, entry.1))).sum = (doc.routes.map fun route =>
        ((doc.resolveRoute route).1.countP (fun passage => passage.node = node) : ℚ) *
          doc.demandOf route.id).sum := by
  have allArms : ((feedingEdges doc node).map fun entry =>
      total (armMovementFlows doc (node, entry.1))).sum =
        (arms.map fun arm => total (armMovementFlows doc (node, arm))).sum := by
    unfold feedingEdges
    generalize arms = some_
    induction some_ with
    | nil => rfl
    | cons arm _ ih =>
      cases isFed : feeding doc node arm with
      | none => simp [isFed, ih, total_eq_zero_of_unfed accepted isFed]
      | some => simp [isFed, ih]
  rw [allArms]
  simp only [total_armMovementFlows]
  rw [Sums.sum_map_comm fun (arm : Direction) (route : RouteSpec) =>
    ((doc.resolveRoute route).1.countP (fun passage =>
      passage.node = node ∧ passage.entryArm = arm) : ℚ) * doc.demandOf route.id]
  congr 1
  refine List.map_congr_left fun route _ => ?_
  have byArm : ∀ passages : List Passage, (passages.countP fun passage => passage.node = node) =
        (arms.map fun arm => passages.countP fun passage =>
          passage.node = node ∧ passage.entryArm = arm).sum := by
    intro passages
    induction passages with
    | nil => rfl
    | cons passage _ ih =>
      simp only [arms, List.map_cons, List.map_nil, List.sum_cons, List.sum_nil,
        List.countP_cons] at ih ⊢
      by_cases isHere : passage.node = node
      · cases passage.entryArm <;>
          simp only [isHere, true_and, reduceCtorEq, decide_true, decide_false,
            if_true, Bool.false_eq_true, if_false] <;> omega
      · simp only [isHere, false_and, decide_false, Bool.false_eq_true, if_false]
        omega
  rw [byArm]
  simp only [arms, List.map_cons, List.map_nil, List.sum_cons, List.sum_nil,
    Nat.cast_add, Nat.cast_zero]
  ring

theorem sum_leaving_eq (node : String) :
    ((doc.edges.filter fun edge => edge.from_.node = node).map (usingDemand doc)).sum =
      ((feedingEdges doc node).map fun entry => total (armMovementFlows doc (node, entry.1))).sum +
        startingDemand doc node := by
  rw [sum_leaving accepted, sum_inflow accepted, startingDemand, demandWhere_eq, ← List.sum_map_add]
  congr 1
  refine List.map_congr_left fun route isRoute => ?_
  rw [accepted.countP_chain_from isRoute]
  split_ifs <;> push_cast <;> ring

end

section

variable (doc : NetworkDocument) (node : String) (arm : Direction)

/-- Some route enters an arm of a junction. -/
def Reached : Prop := ∃ route ∈ doc.routes, ∃ passage ∈ (doc.resolveRoute route).1,
    passage.node = node ∧ passage.entryArm = arm

/-- The share of a movement. -/
def turningShare (turning : Turning) : TurnIntent → ℚ
  | .left => turning.left
  | .straight => turning.straight
  | .right => turning.right
  | .uturn => turning.uturn.getD 0

theorem isSome_armMovementFlows_iff (turn : TurnIntent) :
    (armMovementFlows doc (node, arm) turn).isSome ↔
      ∃ route ∈ doc.routes, ∃ passage ∈ (doc.resolveRoute route).1,
        passage.node = node ∧ passage.entryArm = arm ∧ passage.movement = turn := by
  have perPassage : ∀ (vph : ℚ) (flows : Flows) (passage : Passage),
      (addPassage vph flows passage (node, arm) turn).isSome ↔ (flows (node, arm) turn).isSome ∨
          passage.node = node ∧ passage.entryArm = arm ∧ passage.movement = turn := by
    intro vph flows passage
    rw [addPassage_apply]
    split_ifs <;> simp [*]
  have perRoute : ∀ route ∈ doc.sortedRoutes, ∀ flows : Flows,
      (((doc.resolveRoute route).1.foldl (addPassage (doc.demandOf route.id)) flows)
          (node, arm) turn).isSome ↔
        (flows (node, arm) turn).isSome ∨ ∃ passage ∈ (doc.resolveRoute route).1,
          passage.node = node ∧ passage.entryArm = arm ∧ passage.movement = turn := by
    intro route _ flows
    exact Folds.foldl_iff_exists (fun flows : Flows => (flows (node, arm) turn).isSome)
      (fun passage _ flows => perPassage _ flows passage) flows
  have isFold := Folds.foldl_iff_exists
    (fun flows : Flows => (flows (node, arm) turn).isSome) perRoute fun _ _ => none
  refine isFold.trans ?_
  simp only [Option.isSome_none, Bool.false_eq_true, false_or, (sortedRoutes_perm doc).mem_iff]

theorem allNone_iff :
    (movements.all fun turn => (armMovementFlows doc (node, arm) turn).isNone) = true ↔
      ¬ Reached doc node arm := by
  have isMovement : ∀ turn, turn ∈ movements := by
    intro turn
    cases turn <;> decide
  rw [List.all_eq_true]
  constructor
  · rintro allNone ⟨route, isRoute, passage, isPassage, isNode, isArm⟩
    have isSome := (isSome_armMovementFlows_iff doc node arm passage.movement).mpr
      ⟨route, isRoute, passage, isPassage, isNode, isArm, rfl⟩
    have isNone := allNone passage.movement (isMovement _)
    rw [← Option.not_isSome, isSome] at isNone
    cases isNone
  · intro notReached turn _
    rw [← Option.not_isSome, Bool.not_eq_true']
    by_contra isSome
    rw [Bool.not_eq_false] at isSome
    obtain ⟨route, isRoute, passage, isPassage, isNode, isArm, -⟩ :=
      (isSome_armMovementFlows_iff doc node arm turn).mp isSome
    exact notReached ⟨route, isRoute, passage, isPassage, isNode, isArm⟩

end

/-- The share of a movement, times what enters, is what enters by the movement. -/
theorem shares_mul_total {byMove : TurnIntent → Option ℚ}
    (nonneg : ∀ turn, 0 ≤ (byMove turn).getD 0) (turn : TurnIntent) :
    (shares byMove turn).getD 0 * total byMove = (byMove turn).getD 0 := by
  unfold shares
  split_ifs with isPositive
  · cases byMove turn with
    | none => simp
    | some vph =>
      rw [Option.map_some, Option.getD_some, Option.getD_some]
      exact div_mul_cancel₀ vph isPositive.ne'
  · have isZero : (byMove turn).getD 0 = 0 := by
      have left := nonneg .left
      have right := nonneg .right
      have straight := nonneg .straight
      have uturn := nonneg .uturn
      simp only [total, movements, List.map_cons, List.map_nil, List.sum_cons,
        List.sum_nil, not_lt] at isPositive
      cases turn <;> linarith
    rw [isZero, Option.getD_none, zero_mul]

/-- An arm that routes enter gets their volume and their turning. -/
theorem deriveArm_reached (accepted : Accepted contract doc) {node : String} {arm : Direction}
    (reached : Reached doc node arm) (spec : ApproachSpec) :
    (deriveArm (armMovementFlows doc (node, arm)) spec).vehiclesPerHour =
        total (armMovementFlows doc (node, arm)) ∧
      ∀ turn, turningShare (deriveArm (armMovementFlows doc (node, arm)) spec).turning turn *
          (deriveArm (armMovementFlows doc (node, arm)) spec).vehiclesPerHour =
        movementDemand doc node arm turn := by
  have someFlow : ¬ (movements.all fun turn =>
      (armMovementFlows doc (node, arm) turn).isNone) = true :=
    fun allNone => (allNone_iff doc node arm).mp allNone reached
  have nonneg : ∀ turn, 0 ≤ (armMovementFlows doc (node, arm) turn).getD 0 := by
    intro turn
    rw [turn_eq_movementDemand accepted]
    exact demandWhere_nonneg doc _
  rw [deriveArm, if_neg someFlow]
  refine ⟨rfl, fun turn => ?_⟩
  rw [← turn_eq_movementDemand accepted, ← shares_mul_total nonneg turn]
  cases turn with
  | left | straight | right => rfl
  | uturn =>
    simp only [turningShare]
    split_ifs with isZero
    · rw [isZero, Option.getD_none]
    · rfl

/-- An arm that no route enters keeps its volume and its turning. -/
theorem deriveArm_unreached {node : String} {arm : Direction} (unreached : ¬ Reached doc node arm)
    (spec : ApproachSpec) : deriveArm (armMovementFlows doc (node, arm)) spec = spec :=
  if_pos ((allNone_iff doc node arm).mpr unreached)

end

end Coupling
end UrbanFlow.Networks
