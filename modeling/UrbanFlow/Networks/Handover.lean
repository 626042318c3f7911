import UrbanFlow.Networks.PlanConservation
import UrbanFlow.Scenario.StrategyIdentity

/-!
# Executing a plan

The junctions of a plan run in its order, each once. An arm that another junction
leads to receives what has left that junction, because it has run before.
-/

namespace UrbanFlow.Networks
namespace Coupling

open Scenario

/-- The entry of a key is found, when keys are not repeated. -/
theorem lookup_of_mem {Key Value : Type} [DecidableEq Key] {entries : List (Key × Value)}
    (nodup : (entries.map Prod.fst).Nodup) {key : Key} {value : Value}
    (isMem : (key, value) ∈ entries) : entries.lookup key = some value := by
  induction entries with
  | nil => cases isMem
  | cons entry _ ih =>
    rw [List.map_cons, List.nodup_cons] at nodup
    obtain rfl | isLater := List.mem_cons.mp isMem
    · exact List.lookup_cons_self
    · have notFirst : key ≠ entry.1 := by
        rintro rfl
        exact nodup.1 (List.mem_map.mpr ⟨_, isLater, rfl⟩)
      rw [List.lookup_cons, beq_false_of_ne notFirst]
      exact ih nodup.2 isLater

section

variable {Memory Metrics : Type} {scenarios : String → Option ScenarioDocument}
  {executor : JunctionRunInput → Memory → JunctionRunResult Metrics × Memory}
  {seed : Int}

def junctionIds (nodes : List PlanNode) : List String :=
  (nodes.filter fun node => node.junction.isSome).map PlanNode.id

section

variable (nodes : List PlanNode) (state : Runs Metrics × Memory)

theorem map_nodeId_foldl :
    (nodes.foldl (runNode scenarios executor seed) state).1.map (fun run => run.1.nodeId) =
      state.1.map (fun run => run.1.nodeId) ++ junctionIds nodes := by
  induction nodes generalizing state with
  | nil => simp [junctionIds]
  | cons node _ ih =>
    rw [List.foldl_cons, ih]
    cases isJunction : node.junction with
    | none => simp [runNode, junctionIds, isJunction]
    | some => simp [runNode, runInput, junctionIds, isJunction]

/-- What has run stays at the front. -/
theorem runs_begin_foldl : state.1 <+: (nodes.foldl (runNode scenarios executor seed) state).1 := by
  induction nodes generalizing state with
  | nil => exact List.prefix_rfl
  | cons node _ ih =>
    rw [List.foldl_cons]
    refine List.IsPrefix.trans ?_ (ih _)
    cases isJunction : node.junction with
    | none => simp only [runNode, isJunction, List.prefix_rfl]
    | some => simp only [runNode, isJunction, List.prefix_append]

end

theorem exists_resultOf {runs : Runs Metrics} {node : String}
    (hasRun : node ∈ runs.map fun run => run.1.nodeId) :
    ∃ run ∈ runs, run.1.nodeId = node ∧ resultOf runs node = some run.2 := by
  obtain ⟨ran, isRan, isNode⟩ := List.mem_map.mp hasRun
  have isSome : (runs.reverse.find? fun run => run.1.nodeId = node).isSome = true := by
    rw [List.find?_isSome]
    exact ⟨ran, List.mem_reverse.mpr isRan, decide_eq_true isNode⟩
  obtain ⟨run, isRun⟩ := Option.isSome_iff_exists.mp isSome
  refine ⟨run, List.mem_reverse.mp (List.mem_of_find?_eq_some isRun), ?_, ?_⟩
  · simpa using List.find?_some isRun
  · rw [resultOf, isRun, Option.map_some]

/-- What a junction that follows another in the order receives from it. -/
theorem received_of_split {before after : List PlanNode} {node source : PlanNode}
    (isEarlier : source ∈ before) (sourceJunction : source.junction.isSome = true)
    {junction : JunctionPlan} (isJunction : node.junction = some junction)
    {arm fromArm : Direction} {edge : String}
    (isUpstream : (arm, ⟨edge, source.id, .junction, some fromArm⟩) ∈ junction.upstream)
    (nodup : (junction.upstream.map Prod.fst).Nodup) (start : Memory) :
    ∃ given ∈ (executeNetwork scenarios executor seed (before ++ node :: after) start).1,
      ∃ received ∈ (executeNetwork scenarios executor seed (before ++ node :: after) start).1,
        given.1.nodeId = source.id ∧ received.1.nodeId = node.id ∧
          received.1.inflowByArm.lookup arm = some ((given.2.departuresByArm fromArm).getD 0) := by
  have isSource : source.id ∈ junctionIds before :=
    List.mem_map_of_mem (List.mem_filter.mpr ⟨isEarlier, sourceJunction⟩)
  have hasRun : source.id ∈ (before.foldl (runNode scenarios executor seed)
      (([], start) : Runs Metrics × Memory)).1.map fun run => run.1.nodeId := by
    rw [map_nodeId_foldl]
    exact List.mem_append_right _ isSource
  obtain ⟨given, isGiven, isId, isResult⟩ := exists_resultOf hasRun
  rw [executeNetwork, List.foldl_append, List.foldl_cons]
  generalize before.foldl (runNode scenarios executor seed)
    (([], start) : Runs Metrics × Memory) = state at isGiven isResult ⊢
  have isFront : (runNode scenarios executor seed state node).1 <+:
      (after.foldl (runNode scenarios executor seed)
        (runNode scenarios executor seed state node)).1 := runs_begin_foldl _ _
  simp only [runNode, isJunction] at isFront ⊢
  refine ⟨given, isFront.subset (List.mem_append_left _ isGiven), _,
    isFront.subset (List.mem_append_right _ (List.mem_singleton_self _)), isId, rfl, ?_⟩
  refine lookup_of_mem ?_ (List.mem_map.mpr ⟨_, isUpstream, ?_⟩)
  · rw [runInput, List.map_map]
    exact nodup
  · simp only [inflow, isResult, Option.bind_some]

end

structure ConservesFlow (doc : NetworkDocument) (plan : Plan) : Prop where
  order_perm : plan.order.Perm (doc.nodes.map NodeSpec.id)
  order_forward : ∀ edge ∈ doc.edges, [edge.from_.node, edge.to_.node].Sublist plan.order
  nodes_in_order : plan.nodes.map PlanNode.id = plan.order
  edge_demand : (plan.edges.map fun edge => (edge.id, edge.demandVph)).Perm
    (doc.edges.map fun edge => (edge.id, usingDemand doc edge))
  arm_inflow : ∀ edge ∈ doc.edges, ∀ node arm, junctionPort doc edge.to_ = some (node, arm) →
      ∃ planned ∈ plan.nodes, planned.id = node ∧ ∃ junction, planned.junction = some junction ∧
          junction.inflowByArm.lookup arm = some (usingDemand doc edge - endingDemand doc edge)
  arm_fed : ∀ planned ∈ plan.nodes, ∀ junction, planned.junction = some junction →
    ∀ entry ∈ junction.inflowByArm,
      ∃ edge ∈ doc.edges, junctionPort doc edge.to_ = some (planned.id, entry.1)
  arm_derived : ∀ node ∈ doc.nodes, node.kind = .junction →
    ∀ document, node.scenario = some (.inline document) →
      ∃ derived, (derivedScenarios doc).lookup node.id = some derived ∧
        ∀ arm spec, document.approaches.arm arm = some spec →
          ∃ written, derived.approaches.arm arm = some written ∧
            (¬ Reached doc node.id arm → written = spec) ∧
            (Reached doc node.id arm → (∀ planned ∈ plan.nodes, planned.id = node.id →
                ∀ junction, planned.junction = some junction →
                  junction.inflowByArm.lookup arm = some written.vehiclesPerHour) ∧
              ∀ turn, turningShare written.turning turn * written.vehiclesPerHour =
                movementDemand doc node.id arm turn)
  junction_balance : ∀ planned ∈ plan.nodes, ∀ junction, planned.junction = some junction →
      ((plan.edges.filter fun edge => edge.from_.node = planned.id).map PlanEdge.demandVph).sum =
        (junction.inflowByArm.map Prod.snd).sum + startingDemand doc planned.id

/-- Each junction runs once, and an arm that another junction leads to receives what
has left it. -/
structure HandsOver {Metrics : Type} (doc : NetworkDocument) (plan : Plan)
    (runs : Runs Metrics) : Prop where
  once : runs.map (fun run => run.1.nodeId) = junctionIds plan.nodes
  nodup : (junctionIds plan.nodes).Nodup
  received : ∀ edge ∈ doc.edges, ∀ source fromArm node arm,
    junctionPort doc edge.from_ = some (source, fromArm) →
      junctionPort doc edge.to_ = some (node, arm) → ∃ given ∈ runs, ∃ received ∈ runs,
          given.1.nodeId = source ∧ received.1.nodeId = node ∧
            received.1.inflowByArm.lookup arm = some ((given.2.departuresByArm fromArm).getD 0)

section

variable {contract : Contract} {doc : NetworkDocument} {plan : Plan}

theorem junctionPort_eq {port : EdgePort} {node : String} {arm : Direction}
    (isPort : junctionPort doc port = some (node, arm)) :
    ∃ source, doc.nodeById port.node = some source ∧ source.kind = .junction ∧
      port.node = node ∧ source.id = node ∧ port.arm = some arm := by
  unfold junctionPort at isPort
  split at isPort
  case h_1 source found isSource isArm =>
    split_ifs at isPort with isJunction
    obtain ⟨rfl, rfl⟩ := Prod.mk.inj (Option.some.inj isPort)
    exact ⟨source, isSource, isJunction, (mem_of_nodeById isSource).2.symm, rfl, isArm⟩
  case h_2 => cases isPort

/-- The arms that are fed are not repeated. -/
theorem feedingEdges_nodup (doc : NetworkDocument) (node : String) :
    ((feedingEdges doc node).map Prod.fst).Nodup := by
  have isSublist : ((feedingEdges doc node).map Prod.fst).Sublist arms := by
    unfold feedingEdges
    generalize arms = some_
    induction some_ with
    | nil => exact List.Sublist.slnil
    | cons arm _ ih =>
      cases isFed : feeding doc node arm with
      | none => simpa [isFed] using ih.cons arm
      | some => simpa [isFed] using ih
  exact isSublist.nodup (by decide)

section

variable (accepted : Accepted contract doc) {node : NodeSpec}

include accepted

theorem lookup_inflowByArm {junction : JunctionPlan}
    (isPlan : junctionPlan contract doc node = .ok junction) {edge : EdgeSpec}
    (isEdge : edge ∈ doc.edges) {arm : Direction}
    (isKey : junctionPort doc edge.to_ = some (node.id, arm)) :
    junction.inflowByArm.lookup arm = some (total (armMovementFlows doc (node.id, arm))) := by
  rw [(junctionPlan_spec isPlan).1]
  refine lookup_of_mem ?_ (List.mem_map.mpr
    ⟨(arm, edge), accepted.mem_feedingEdges.mpr ⟨isEdge, isKey⟩, rfl⟩)
  rw [List.map_map]
  exact feedingEdges_nodup doc node.id

theorem lookup_derivedScenarios (isNode : node ∈ doc.nodes) (isJunction : node.kind = .junction)
    {document : ScenarioDocument}
    (isInline : node.scenario = some (.inline document)) : (derivedScenarios doc).lookup node.id =
      some (deriveScenario (armMovementFlows doc) node.id document) := by
  refine lookup_of_mem ?_ ?_
  · have isSublist : ((derivedScenarios doc).map Prod.fst).Sublist
        (doc.sortedNodes.map NodeSpec.id) := by
      unfold derivedScenarios
      induction doc.sortedNodes with
      | nil => exact List.Sublist.slnil
      | cons first _ ih =>
        rw [List.filterMap_cons]
        split
        case h_1 => exact ih.cons first.id
        case h_2 entry isEntry =>
          have sameId : entry.1 = first.id := by
            split at isEntry
            · split_ifs at isEntry
              cases isEntry
              rfl
            · cases isEntry
          rw [List.map_cons, List.map_cons, sameId]
          exact ih.cons_cons first.id
    exact isSublist.nodup (((List.perm_insertionSort _ _).map NodeSpec.id).nodup_iff.mpr
        accepted.nodes_nodup)
  · refine List.mem_filterMap.mpr ⟨node, (List.mem_insertionSort _).mpr isNode, ?_⟩
    simp only [isInline, isJunction, if_true]

end

theorem arm_deriveScenario (flows : Flows) (node : String) (document : ScenarioDocument)
    (arm : Direction) : (deriveScenario flows node document).approaches.arm arm =
      (document.approaches.arm arm).map (deriveArm (flows (node, arm))) := by
  cases arm <;> rfl

theorem exists_edge_of_reached (accepted : Accepted contract doc) {node : String}
    {arm : Direction} (reached : Reached doc node arm) :
    ∃ edge ∈ doc.edges, junctionPort doc edge.to_ = some (node, arm) := by
  obtain ⟨_, isRoute, _, isPassage, rfl, rfl⟩ := reached
  exact edge_into accepted isRoute isPassage

namespace PlannedFrom

section

variable (accepted : Accepted contract doc) (planned : PlannedFrom contract doc plan)

include accepted planned

theorem edge_demand : (plan.edges.map fun edge => (edge.id, edge.demandVph)).Perm
      (doc.edges.map fun edge => (edge.id, usingDemand doc edge)) := by
  rw [planned.edges, List.map_map]
  refine ((List.perm_insertionSort _ _).map _).trans (List.Perm.of_eq ?_)
  refine List.map_congr_left fun edge _ => ?_
  simp only [Function.comp_apply, planEdge, edgeFlow_eq_usingDemand accepted]

theorem sum_demandVph (node : String) :
    ((plan.edges.filter fun edge => edge.from_.node = node).map PlanEdge.demandVph).sum =
      ((doc.edges.filter fun edge => edge.from_.node = node).map (usingDemand doc)).sum := by
  rw [planned.edges, List.filter_map, List.map_map]
  refine List.Perm.sum_eq ?_
  refine (((List.perm_insertionSort _ _).filter _).map _).trans (List.Perm.of_eq ?_)
  refine List.map_congr_left fun edge _ => ?_
  simp only [Function.comp_apply, planEdge, edgeFlow_eq_usingDemand accepted]

/-- The plan of an accepted network conserves the demand of its routes. -/
theorem conservesFlow : ConservesFlow doc plan where
  order_perm := accepted.order_perm planned.isOrder
  order_forward := fun edge isEdge => accepted.forward planned.isOrder isEdge
  nodes_in_order := planned.map_id_nodes
  edge_demand := planned.edge_demand accepted
  arm_inflow := by
    intro edge isEdge node arm isKey
    obtain ⟨source, isSource, isJunction, -, rfl, -⟩ := junctionPort_eq isKey
    obtain ⟨found, isFound, isId, junction, isPlanned, isPlan⟩ :=
      planned.exists_junction accepted (mem_of_nodeById isSource).1 isJunction
    refine ⟨found, isFound, isId, junction, isPlanned, ?_⟩
    rw [lookup_inflowByArm accepted isPlan isEdge isKey,
      ← total_add_endingDemand accepted isEdge isKey, add_sub_cancel_right]
  arm_fed := by
    intro found isFound junction isPlanned entry isEntry
    obtain ⟨source, isSource, isId, -, isPlan⟩ := planned.junction_spec isFound isPlanned
    rw [(junctionPlan_spec isPlan).1] at isEntry
    obtain ⟨fed, isFed, rfl⟩ := List.mem_map.mp isEntry
    obtain ⟨isEdge, isKey⟩ := accepted.mem_feedingEdges.mp isFed
    exact ⟨fed.2, isEdge, isId ▸ isKey⟩
  arm_derived := by
    intro node isNode isJunction document isInline
    refine ⟨_, lookup_derivedScenarios accepted isNode isJunction isInline, ?_⟩
    intro arm spec isSpec
    refine ⟨deriveArm (armMovementFlows doc (node.id, arm)) spec, ?_, ?_, ?_⟩
    · rw [arm_deriveScenario, isSpec, Option.map_some]
    · intro unreached
      exact deriveArm_unreached unreached spec
    · intro reached
      obtain ⟨isVolume, isTurning⟩ := deriveArm_reached accepted reached spec
      refine ⟨fun found isFound sameId junction isPlanned => ?_, isTurning⟩
      obtain ⟨edge, isEdge, isKey⟩ := exists_edge_of_reached accepted reached
      obtain ⟨source, isSource, isId, -, isPlan⟩ := planned.junction_spec isFound isPlanned
      obtain rfl : source = node := List.inj_on_of_nodup_map accepted.nodes_nodup
        isSource isNode (isId.trans sameId)
      rw [isVolume]
      exact lookup_inflowByArm accepted isPlan isEdge isKey
  junction_balance := by
    intro found isFound junction isPlanned
    obtain ⟨_, _, isId, -, isPlan⟩ := planned.junction_spec isFound isPlanned
    rw [planned.sum_demandVph accepted, sum_leaving_eq accepted,
      (junctionPlan_spec isPlan).1, List.map_map, isId]
    rfl

end

/-- Where the vehicles of a fed arm come from. -/
theorem mem_upstream (accepted : Accepted contract doc) {node : NodeSpec}
    {junction : JunctionPlan} (isPlan : junctionPlan contract doc node = .ok junction)
    {edge : EdgeSpec} (isEdge : edge ∈ doc.edges) {source : String} {arm fromArm : Direction}
    (isKey : junctionPort doc edge.to_ = some (node.id, arm))
    (isFrom : junctionPort doc edge.from_ = some (source, fromArm)) :
    (arm, ⟨edge.id, source, .junction, some fromArm⟩) ∈ junction.upstream := by
  obtain ⟨found, isFound, isJunction, isId, -, isArm⟩ := junctionPort_eq isFrom
  obtain ⟨other, isOther, sameId, isEntry⟩ := accepted.upstreamEntry_eq isEdge arm
  obtain ⟨upstream, isMem, isMade⟩ := exists_result_of_mem (junctionPlan_spec isPlan).2
    (accepted.mem_feedingEdges.mpr ⟨isEdge, isKey⟩)
  have same : other = found := List.inj_on_of_nodup_map accepted.nodes_nodup isOther
    (mem_of_nodeById isFound).1 (sameId.trans (mem_of_nodeById isFound).2.symm)
  rw [isEntry, same, isJunction, isId, isArm] at isMade
  cases isMade
  exact isMem

/-- The arms that vehicles come to are not repeated. -/
theorem upstream_nodup {node : NodeSpec} {junction : JunctionPlan}
    (isPlan : junctionPlan contract doc node = .ok junction) :
    (junction.upstream.map Prod.fst).Nodup := by
  have sameArms : List.Forall₂ (fun entry upstream => Prod.fst entry = Prod.fst upstream)
      (feedingEdges doc node.id) junction.upstream := by
    refine (forall₂_of_mapM (junctionPlan_spec isPlan).2).imp fun entry upstream isMade => ?_
    unfold upstreamEntry at isMade
    cases isFound : upstreamOf doc entry.2 with
    | error => simp [isFound, Except.map] at isMade
    | ok =>
      rw [isFound] at isMade
      cases isMade
      rfl
  have same : List.Forall₂ (· = ·) ((feedingEdges doc node.id).map Prod.fst)
      (junction.upstream.map Prod.fst) :=
    List.forall₂_map_left_iff.mpr (List.forall₂_map_right_iff.mpr sameArms)
  rw [List.forall₂_eq_eq_eq] at same
  rw [← same]
  exact feedingEdges_nodup doc node.id

variable (planned : PlannedFrom contract doc plan)

include planned

variable (accepted : Accepted contract doc)

include accepted

theorem nodes_nodup :
    (plan.nodes.map PlanNode.id).Nodup := by
  rw [planned.map_id_nodes]
  exact (accepted.order_perm planned.isOrder).nodup_iff.mpr accepted.nodes_nodup

/-- A junction that leads to another stands before it in the plan. -/
theorem mem_before
    {edge : EdgeSpec} (isEdge : edge ∈ doc.edges) {before after : List PlanNode}
    {source node : PlanNode} (isSplit : plan.nodes = before ++ node :: after)
    (isSource : source ∈ plan.nodes) (sourceId : source.id = edge.from_.node)
    (nodeId : node.id = edge.to_.node) : source ∈ before := by
  have nodup := planned.nodes_nodup accepted
  have isForward := idxOf_lt_of_sublist nodup
    (planned.map_id_nodes ▸ accepted.forward planned.isOrder isEdge)
  rw [← sourceId, ← nodeId] at isForward
  rw [isSplit, List.map_append, List.map_cons] at isForward nodup
  have nodeNew : node.id ∉ before.map PlanNode.id := fun isOld =>
    (List.nodup_append.mp nodup).2.2 _ isOld _ List.mem_cons_self rfl
  have isIn : source.id ∈ before.map PlanNode.id := by
    by_contra notIn
    rw [List.idxOf_append_of_notMem notIn, List.idxOf_append_of_notMem nodeNew,
      List.idxOf_cons_self] at isForward
    omega
  obtain ⟨other, isOther, sameId⟩ := List.mem_map.mp isIn
  have otherMem : other ∈ plan.nodes := isSplit ▸ List.mem_append_left _ isOther
  rwa [← List.inj_on_of_nodup_map (planned.nodes_nodup accepted) otherMem isSource sameId]

theorem handsOver {Memory Metrics : Type} (scenarios : String → Option ScenarioDocument)
    (executor : JunctionRunInput → Memory → JunctionRunResult Metrics × Memory) (seed : Int)
    (start : Memory) :
    HandsOver doc plan (executeNetwork scenarios executor seed plan.nodes start).1 where
  once := by rw [executeNetwork, map_nodeId_foldl, List.map_nil, List.nil_append]
  nodup := (planned.nodes_nodup accepted).sublist (List.filter_sublist.map _)
  received := by
    intro edge isEdge source fromArm node arm isFrom isKey
    obtain ⟨start_, isStart, startJunction, fromNode, rfl, -⟩ := junctionPort_eq isFrom
    obtain ⟨end_, isEnd, endJunction, toNode, rfl, -⟩ := junctionPort_eq isKey
    obtain ⟨_, isFirst, firstId, _, firstIs, -⟩ :=
      planned.exists_junction accepted (mem_of_nodeById isStart).1 startJunction
    obtain ⟨_, isSecond, secondId, _, secondIs, isPlan⟩ :=
      planned.exists_junction accepted (mem_of_nodeById isEnd).1 endJunction
    obtain ⟨_, _, isSplit⟩ := List.append_of_mem isSecond
    have isEarlier := planned.mem_before accepted isEdge isSplit isFirst
      (firstId.trans fromNode.symm) (secondId.trans toNode.symm)
    have isUpstream := mem_upstream accepted isPlan isEdge isKey isFrom
    rw [← firstId] at isUpstream
    obtain ⟨given, isGiven, received, isReceived, givenId, receivedId, isInflow⟩ :=
      received_of_split isEarlier (by rw [firstIs]; rfl) secondIs isUpstream
        (upstream_nodup isPlan) start
    rw [isSplit]
    exact ⟨given, isGiven, received, isReceived, givenId.trans firstId,
      receivedId.trans secondId, isInflow⟩

end PlannedFrom

end

/-- **An accepted network has a plan, and the plan conserves flow**: every node stands
once in the order and every edge leads forward; edges carry the demand of their
routes; an arm receives what its edge carries, without what ends there; a junction
gives on what it receives and what starts there; and in every execution an arm that a
junction leads to receives that junction's departures. -/
theorem plan_conserves_flow (contract : Contract) (doc : NetworkDocument)
    (noErrors : validateNetwork contract doc = .ok []) :
    ∃ plan, compileNetwork contract doc = .ok plan ∧ ConservesFlow doc plan ∧
      ∀ {Memory Metrics : Type} (scenarios : String → Option ScenarioDocument)
        (executor : JunctionRunInput → Memory → JunctionRunResult Metrics × Memory) (seed : Int)
        (start : Memory),
        HandsOver doc plan (executeNetwork scenarios executor seed plan.nodes start).1 := by
  have accepted : Accepted contract doc := ⟨noErrors⟩
  obtain ⟨plan, isPlan, planned⟩ := accepted.exists_plan
  exact ⟨plan, isPlan, planned.conservesFlow accepted, fun scenarios executor seed start =>
      planned.handsOver accepted scenarios executor seed start⟩

/-- A roundabout of four single-lane arms. -/
def ring : ScenarioDocument where
  junction := .roundabout
  approaches :=
    let arm : ApproachSpec := { lanes := 1, vehiclesPerHour := 360 }
    ⟨some arm, some arm, some arm, some arm⟩
  advanced_distinct := noAdvanced_distinct

theorem tenMetres_pos : (0 : ℚ) < 10 := by norm_num

/-- A route from one gate to another, through the roundabout and a junction that is
described elsewhere. -/
def corridor : NetworkDocument where
  nodes := [⟨"in", .origin, none, none⟩, ⟨"a", .junction, some (.inline ring), none⟩,
      ⟨"b", .junction, some (.ref "second"), none⟩,
      ⟨"out", .destination, none, none⟩]
  edges := [⟨"e1", ⟨"in", none⟩, ⟨"a", some .west⟩, 200, 1, 10, none, tenMetres_pos⟩,
      ⟨"e2", ⟨"a", some .east⟩, ⟨"b", some .west⟩, 200, 1, 10, none, tenMetres_pos⟩,
      ⟨"e3", ⟨"b", some .east⟩, ⟨"out", none⟩, 200, 1, 10, none, tenMetres_pos⟩]
  routes := [⟨"through", "in", "out", ["e1", "e2", "e3"], by simp⟩]
  demand := [⟨"through", 600, none, by norm_num, by norm_num⟩]
  nodes_ne_nil := by simp

/-- A network has been validated without an error. -/
def isValid (contract : Contract) (doc : NetworkDocument) : Bool :=
  match validateNetwork contract doc with
  | .ok [] => true
  | _ => false

theorem noErrors_of_isValid {contract : Contract} {doc : NetworkDocument}
    (valid : isValid contract doc = true) : validateNetwork contract doc = .ok [] := by
  unfold isValid at valid
  split at valid
  case h_1 noErrors => exact noErrors
  case h_2 => cases valid

/-- The corridor has a plan that conserves flow. -/
theorem corridor_conserves_flow :
    ∃ plan, compileNetwork ScenarioDocument.permissive corridor = .ok plan ∧
      ConservesFlow corridor plan := by
  have noErrors := noErrors_of_isValid
    (show isValid ScenarioDocument.permissive corridor = true by decide +kernel)
  obtain ⟨plan, isPlan, conserves, -⟩ :=
    plan_conserves_flow ScenarioDocument.permissive corridor noErrors
  exact ⟨plan, isPlan, conserves⟩

end Coupling
end UrbanFlow.Networks
