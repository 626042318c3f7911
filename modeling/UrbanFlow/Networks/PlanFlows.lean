import UrbanFlow.Networks.FlowConservation

/-!
# The plan of an accepted network

An accepted network has a plan, and the plan conserves the demand of its routes:
on edges, into arms, through junctions and in the derived scenarios. When the
plan is executed, an arm that a junction leads to receives that junction's
departures.
-/

namespace UrbanFlow.Networks
namespace Coupling

open Scenario

structure PlannedFrom (contract : Contract) (doc : NetworkDocument) (plan : Plan) : Prop where
  isOrder : doc.nodeAdjacency.topologicalOrder = some plan.order
  nodes : plan.order.mapM (planNode contract doc) = .ok plan.nodes
  edges : plan.edges = doc.sortedEdges.map (planEdge doc)

namespace Accepted

variable {contract : Contract} {doc : NetworkDocument}

section

variable (accepted : Accepted contract doc)

include accepted

section

variable {edge : EdgeSpec}

theorem upstreamOf_eq (isEdge : edge ∈ doc.edges) :
    ∃ source ∈ doc.nodes, source.id = edge.from_.node ∧ upstreamOf doc edge =
        .ok ⟨edge.id, edge.from_.node, source.kind, edge.from_.arm⟩ := by
  obtain ⟨seen, isAccepted⟩ := accepted.edgeAccepted isEdge
  obtain ⟨source, isSource⟩ := isAccepted.from_
  obtain ⟨isNode, isId⟩ := mem_of_nodeById isSource.isNode
  refine ⟨source, isNode, isId, ?_⟩
  rw [upstreamOf, isSource.isNode, ← isId]

theorem checkEnds_ok (isEdge : edge ∈ doc.edges) : checkEnds doc edge = .ok () := by
  obtain ⟨seen, isAccepted⟩ := accepted.edgeAccepted isEdge
  obtain ⟨target, isTarget⟩ := isAccepted.to_
  obtain ⟨source, -, -, isUpstream⟩ := accepted.upstreamOf_eq isEdge
  rw [checkEnds, isTarget.isNode, isUpstream]
  simp [Except.map]

theorem modelErrors_eq_nil {entry : String × ScenarioDocument}
    (isDerived : entry ∈ derivedScenarios doc) : modelErrors entry.2 = [] := by
  have derived := accepted.checks.2.2.2.2
  unfold deriveNodeScenarios at derived
  cases areErrors : (derivedScenarios doc).mapM (derivedErrors contract) with
  | error => simp [areErrors, Except.map] at derived
  | ok errors =>
    rw [areErrors] at derived
    have noErrors : errors.flatten = [] := (Prod.mk.inj (Except.ok.inj derived)).2
    obtain ⟨found, isFound, isMade⟩ := exists_result_of_mem areErrors isDerived
    obtain rfl : found = [] := List.flatten_eq_nil_iff.mp noErrors found isFound
    unfold derivedErrors at isMade
    split_ifs at isMade with outOfRange
    · exact absurd (List.map_eq_nil_iff.mp (Except.ok.inj isMade)) outOfRange
    · exact not_not.mp outOfRange

theorem feeding_eq (isEdge : edge ∈ doc.edges) {node : String} {arm : Direction}
    (isKey : junctionPort doc edge.to_ = some (node, arm)) : feeding doc node arm = some edge := by
  have isSome : (feeding doc node arm).isSome = true := by
    rw [feeding, List.find?_isSome]
    exact ⟨edge, List.mem_reverse.mpr ((List.mem_insertionSort _).mpr isEdge), decide_eq_true isKey⟩
  obtain ⟨found, isFound⟩ := Option.isSome_iff_exists.mp isSome
  have foundMem : found ∈ doc.edges := (List.mem_insertionSort _).mp
    (List.mem_reverse.mp (List.mem_of_find?_eq_some isFound))
  have foundKey : junctionPort doc found.to_ = some (node, arm) := by
    simpa using List.find?_some isFound
  rw [isFound, accepted.edge_unique foundMem isEdge foundKey isKey]

end

theorem mem_feedingEdges {node : String} {arm : Direction} {edge : EdgeSpec} :
    (arm, edge) ∈ feedingEdges doc node ↔
      edge ∈ doc.edges ∧ junctionPort doc edge.to_ = some (node, arm) := by
  have isArm : arm ∈ arms := by cases arm <;> decide
  simp only [feedingEdges, List.mem_filterMap, Option.map_eq_some_iff, Prod.mk.injEq]
  constructor
  · rintro ⟨_, -, found, isFound, rfl, rfl⟩
    exact ⟨(List.mem_insertionSort _).mp
      (List.mem_reverse.mp (List.mem_of_find?_eq_some isFound)), by
        simpa using List.find?_some isFound⟩
  · rintro ⟨isEdge, isKey⟩
    exact ⟨arm, isArm, edge, accepted.feeding_eq isEdge isKey, rfl, rfl⟩

/-- Where the vehicles of an arm come from is found. -/
theorem upstreamEntry_eq {edge : EdgeSpec} (isEdge : edge ∈ doc.edges) (arm : Direction) :
    ∃ source ∈ doc.nodes, source.id = edge.from_.node ∧ upstreamEntry doc (arm, edge) =
        .ok (arm, ⟨edge.id, edge.from_.node, source.kind, edge.from_.arm⟩) := by
  obtain ⟨source, isSource, isId, isUpstream⟩ := accepted.upstreamOf_eq isEdge
  refine ⟨source, isSource, isId, ?_⟩
  rw [upstreamEntry, isUpstream]
  rfl

theorem exists_derivedFingerprint (node : String) :
    ∃ fingerprint, derivedFingerprint contract doc node = .ok fingerprint := by
  unfold derivedFingerprint
  cases isDerived : (derivedScenarios doc).lookup node with
  | none => exact ⟨none, rfl⟩
  | some document =>
    obtain ⟨_, _, isSplit, -⟩ := List.lookup_eq_some_iff.mp isDerived
    have isMem : (node, document) ∈ derivedScenarios doc := by simp [isSplit]
    exact ⟨_, if_pos (accepted.modelErrors_eq_nil isMem)⟩

theorem exists_junctionPlan (node : NodeSpec) :
    ∃ junction, junctionPlan contract doc node = .ok junction := by
  obtain ⟨upstream, isUpstream⟩ : ∃ upstream,
      (feedingEdges doc node.id).mapM (upstreamEntry doc) = .ok upstream := by
    refine exists_mapM fun entry isEntry => ?_
    have isEdge := (accepted.mem_feedingEdges.mp isEntry).1
    obtain ⟨source, -, -, isUpstream⟩ := accepted.upstreamEntry_eq isEdge entry.1
    exact ⟨_, isUpstream⟩
  obtain ⟨fingerprint, isFingerprint⟩ := accepted.exists_derivedFingerprint node.id
  exact ⟨_, bind_ok_iff.mpr ⟨upstream, isUpstream,
    bind_ok_iff.mpr ⟨fingerprint, isFingerprint, rfl⟩⟩⟩

theorem exists_planNode {node : NodeSpec} (isNode : node ∈ doc.nodes) :
    ∃ planned, planNode contract doc node.id = .ok planned := by
  obtain ⟨junction, isJunction⟩ := accepted.exists_junctionPlan node
  simp only [planNode, accepted.nodeById_eq isNode, isJunction]
  split_ifs <;> exact ⟨_, rfl⟩

theorem exists_planRoute {route : RouteSpec} (isRoute : route ∈ doc.routes) :
    ∃ planned, planRoute doc route = .ok planned := by
  have follows := accepted.follows isRoute
  obtain ⟨edges, areEdges⟩ : ∃ edges, route.path.mapM (knownEdge doc) = .ok edges := by
    refine exists_mapM fun id isId => ?_
    rw [← follows.path_eq] at isId
    obtain ⟨edge, isEdge, rfl⟩ := List.mem_map.mp isId
    exact ⟨edge, by rw [knownEdge, accepted.edgeById_eq (follows.mem_edges edge isEdge)]⟩
  exact ⟨_, bind_ok_iff.mpr ⟨edges, areEdges, rfl⟩⟩

theorem exists_plan :
    ∃ plan, compileNetwork contract doc = .ok plan ∧ PlannedFrom contract doc plan := by
  obtain ⟨order, isOrder⟩ := accepted.exists_order
  obtain ⟨ends, areEnds⟩ : ∃ ends, doc.sortedEdges.mapM (checkEnds doc) = .ok ends := by
    refine exists_mapM fun edge isEdge => ?_
    exact ⟨(), accepted.checkEnds_ok ((List.mem_insertionSort _).mp isEdge)⟩
  obtain ⟨nodes, areNodes⟩ : ∃ nodes, order.mapM (planNode contract doc) = .ok nodes := by
    refine exists_mapM fun id isId => ?_
    obtain ⟨node, isNode, rfl⟩ := List.mem_map.mp ((accepted.order_perm isOrder).subset isId)
    exact accepted.exists_planNode isNode
  obtain ⟨routes, areRoutes⟩ : ∃ routes, doc.sortedRoutes.mapM (planRoute doc) = .ok routes := by
    refine exists_mapM fun route isRoute => ?_
    exact accepted.exists_planRoute ((List.mem_insertionSort _).mp isRoute)
  refine ⟨⟨order, nodes, doc.sortedEdges.map (planEdge doc), routes⟩, ?_, ?_⟩
  · rw [compileNetwork, isOrder]
    exact bind_ok_iff.mpr ⟨ends, areEnds, bind_ok_iff.mpr ⟨nodes, areNodes,
      bind_ok_iff.mpr ⟨routes, areRoutes, rfl⟩⟩⟩
  · exact ⟨isOrder, areNodes, rfl⟩

end

end Accepted

section

variable {contract : Contract} {doc : NetworkDocument}

/-- What the plan says of a junction, field by field. -/
theorem junctionPlan_spec {node : NodeSpec} {junction : JunctionPlan}
    (isPlan : junctionPlan contract doc node = .ok junction) :
    junction.inflowByArm = (feedingEdges doc node.id).map (fun entry =>
        (entry.1, total (armMovementFlows doc (node.id, entry.1)))) ∧
      (feedingEdges doc node.id).mapM (upstreamEntry doc) = .ok junction.upstream := by
  obtain ⟨upstream, isUpstream, isPlan⟩ := bind_ok_iff.mp isPlan
  obtain ⟨fingerprint, -, isPlan⟩ := bind_ok_iff.mp isPlan
  cases isPlan
  exact ⟨rfl, isUpstream⟩

theorem planNode_spec {id : String} {planned : PlanNode}
    (isPlan : planNode contract doc id = .ok planned) :
    ∃ node, doc.nodeById id = some node ∧ planned.id = node.id ∧ planned.kind = node.kind ∧
      ((node.kind = .junction ∧ ∃ junction, planned.junction = some junction ∧
          junctionPlan contract doc node = .ok junction) ∨
        node.kind ≠ .junction ∧ planned.junction = none) := by
  unfold planNode at isPlan
  cases isNode : doc.nodeById id with
  | none => simp [isNode] at isPlan
  | some node =>
    rw [isNode] at isPlan
    refine ⟨node, rfl, ?_⟩
    by_cases isJunction : node.kind = .junction
    · simp only [isJunction, if_true] at isPlan
      cases isMade : junctionPlan contract doc node with
      | error => simp [isMade, Except.map] at isPlan
      | ok junction =>
        rw [isMade] at isPlan
        cases isPlan
        exact ⟨rfl, isJunction.symm, Or.inl ⟨isJunction, junction, rfl, rfl⟩⟩
    · simp only [isJunction, if_false] at isPlan
      cases isPlan
      exact ⟨rfl, rfl, Or.inr ⟨isJunction, rfl⟩⟩

namespace PlannedFrom

variable {plan : Plan}

variable (planned : PlannedFrom contract doc plan)

include planned

theorem map_id_nodes :
    plan.nodes.map PlanNode.id = plan.order := by
  have sameIds : List.Forall₂ (fun id node => id = PlanNode.id node) plan.order plan.nodes := by
    refine (forall₂_of_mapM planned.nodes).imp fun id planned isPlan => ?_
    obtain ⟨node, isNode, isId, -⟩ := planNode_spec isPlan
    rw [isId, (mem_of_nodeById isNode).2]
  rw [← List.forall₂_map_right_iff, List.forall₂_eq_eq_eq] at sameIds
  exact sameIds.symm

theorem junction_spec {node : PlanNode}
    (isNode : node ∈ plan.nodes) {junction : JunctionPlan}
    (isJunction : node.junction = some junction) :
    ∃ source ∈ doc.nodes, source.id = node.id ∧ source.kind = .junction ∧
      junctionPlan contract doc source = .ok junction := by
  obtain ⟨id, -, isPlan⟩ := exists_of_mem_mapM planned.nodes isNode
  obtain ⟨source, isSource, isId, -, isKind⟩ := planNode_spec isPlan
  obtain ⟨sourceKind, found, isFound, isMade⟩ | ⟨-, isNone⟩ := isKind
  · rw [isJunction, Option.some.injEq] at isFound
    exact ⟨source, (mem_of_nodeById isSource).1, isId.symm, sourceKind, isFound ▸ isMade⟩
  · rw [isJunction] at isNone
    cases isNone

theorem exists_junction (accepted : Accepted contract doc) {source : NodeSpec}
    (isSource : source ∈ doc.nodes)
    (isJunction : source.kind = .junction) :
    ∃ node ∈ plan.nodes, node.id = source.id ∧ ∃ junction, node.junction = some junction ∧
        junctionPlan contract doc source = .ok junction := by
  have inOrder : source.id ∈ plan.order :=
    (accepted.order_perm planned.isOrder).symm.subset (List.mem_map_of_mem isSource)
  obtain ⟨node, isNode, isPlan⟩ := exists_result_of_mem planned.nodes inOrder
  obtain ⟨found, isFound, isId, -, isKind⟩ := planNode_spec isPlan
  rw [accepted.nodeById_eq isSource, Option.some.injEq] at isFound
  subst isFound
  refine ⟨node, isNode, isId, ?_⟩
  obtain ⟨-, junction, isPlanned, isMade⟩ | ⟨notJunction, -⟩ := isKind
  · exact ⟨junction, isPlanned, isMade⟩
  · exact absurd isJunction notJunction

end PlannedFrom

end

end Coupling
end UrbanFlow.Networks
