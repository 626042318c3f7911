import UrbanFlow.Library.Sums
import UrbanFlow.Networks.Accepted

/-!
# Conservation of flow

What the plan of an accepted network says of edges, arms and junctions, in terms
of the demand of routes: the demand on an edge, what enters an arm, and what
leaves a junction.
-/

namespace UrbanFlow.Networks
namespace Coupling

open Scenario

section

variable (doc : NetworkDocument)

/-- The demand of the routes that satisfy a predicate. -/
def demandWhere (selected : RouteSpec → Prop) [DecidablePred selected] : ℚ :=
  ((doc.routes.filter fun route => selected route).map fun route => doc.demandOf route.id).sum

/-- The demand of the routes that use an edge. -/
def usingDemand (edge : EdgeSpec) : ℚ := demandWhere doc fun route => edge.id ∈ route.path

/-- The demand of the routes that use an edge and end where it leads. -/
def endingDemand (edge : EdgeSpec) : ℚ := demandWhere doc fun route =>
    edge.id ∈ route.path ∧ route.destination = edge.to_.node

def startingDemand (node : String) : ℚ := demandWhere doc fun route => route.origin = node

/-- The demand of the routes that enter a junction by an arm and make a movement
there. -/
def movementDemand (node : String) (arm : Direction) (turn : TurnIntent) : ℚ :=
  demandWhere doc fun route =>
    ∃ passage ∈ (doc.resolveRoute route).1,
      passage.node = node ∧ passage.entryArm = arm ∧ passage.movement = turn

end

section

variable (doc : NetworkDocument)

theorem sortedRoutes_perm : doc.sortedRoutes.Perm doc.routes := List.perm_insertionSort _ _

theorem demandWhere_eq (selected : RouteSpec → Prop) [DecidablePred selected] :
    demandWhere doc selected = (doc.routes.map fun route =>
        if selected route then doc.demandOf route.id else 0).sum :=
  Sums.sum_map_filter selected _ _

theorem edgeFlow_eq (edge : String) : edgeFlow doc edge = (doc.routes.map fun route =>
        (route.path.count edge : ℚ) * doc.demandOf route.id).sum := by
  have perEdge : ∀ (flow : String → ℚ) (vph : ℚ) (path : List String),
      (path.foldl (fun flow other => Function.update flow other (flow other + vph))
        flow) edge = flow edge + (path.count edge : ℚ) * vph := by
    intro flow vph path
    rw [Sums.measure_foldl (fun flow : String → ℚ => flow edge)
      (fun other => if other = edge then vph else 0), Sums.sum_map_ite_const]
    · rw [List.count_eq_countP]
      simp only [beq_eq_decide]
    · intro other _ flow
      by_cases isEdge : other = edge
      · subst isEdge
        simp
      · simp [isEdge, Function.update_of_ne (Ne.symm isEdge)]
  unfold edgeFlow
  rw [Sums.measure_foldl (fun flow : String → ℚ => flow edge) (fun route : RouteSpec =>
      (route.path.count edge : ℚ) * doc.demandOf route.id), zero_add]
  · exact ((sortedRoutes_perm doc).map _).sum_eq
  · intro route _ flow
    exact perEdge flow _ route.path

section

variable (vph : ℚ) (flows : Flows) (passage : Passage) (node : String) (arm : Direction)

theorem addPassage_apply (turn : TurnIntent) : addPassage vph flows passage (node, arm) turn =
    if passage.node = node ∧ passage.entryArm = arm ∧ passage.movement = turn
    then some ((flows (node, arm) turn).getD 0 + vph) else flows (node, arm) turn := by
  by_cases isKey : (passage.node, passage.entryArm) = (node, arm)
  · obtain ⟨isNode, isArm⟩ := Prod.mk.inj isKey
    by_cases isTurn : passage.movement = turn
    · simp [addPassage, isNode, isArm, isTurn]
    · simp [addPassage, isNode, isArm, isTurn, Function.update_of_ne (Ne.symm isTurn)]
  · have notAll : ¬ (passage.node = node ∧ passage.entryArm = arm ∧
        passage.movement = turn) := fun isAll => isKey (by rw [isAll.1, isAll.2.1])
    simp [addPassage, notAll, Function.update_of_ne (Ne.symm isKey)]

theorem addPassage_turn (turn : TurnIntent) :
    (addPassage vph flows passage (node, arm) turn).getD 0 = (flows (node, arm) turn).getD 0 +
        if passage.node = node ∧ passage.entryArm = arm ∧ passage.movement = turn
        then vph else 0 := by
  rw [addPassage_apply]
  split_ifs <;> simp

theorem addPassage_total : total (addPassage vph flows passage (node, arm)) =
      total (flows (node, arm)) +
        if passage.node = node ∧ passage.entryArm = arm then vph else 0 := by
  by_cases isKey : passage.node = node ∧ passage.entryArm = arm
  · cases isTurn : passage.movement <;>
      simp [total, movements, addPassage_turn, isKey, isTurn] <;> ring
  · have notAll : ∀ turn, ¬ (passage.node = node ∧ passage.entryArm = arm ∧
        passage.movement = turn) := fun turn isAll => isKey ⟨isAll.1, isAll.2.1⟩
    simp [total, movements, addPassage_turn, isKey, notAll]

end

theorem measure_armMovementFlows (measure : Flows → ℚ) (selected : Passage → Prop)
    [DecidablePred selected] (adds : ∀ vph flows passage, measure (addPassage vph flows passage) =
      measure flows + if selected passage then vph else 0)
    (isZero : measure (fun _ _ => none) = 0) :
    measure (armMovementFlows doc) = (doc.routes.map fun route =>
        ((doc.resolveRoute route).1.countP (fun passage => selected passage) : ℚ) *
          doc.demandOf route.id).sum := by
  unfold armMovementFlows
  rw [Sums.measure_foldl measure (fun route : RouteSpec =>
      ((doc.resolveRoute route).1.countP (fun passage => selected passage) : ℚ) *
        doc.demandOf route.id), isZero, zero_add]
  · exact ((sortedRoutes_perm doc).map _).sum_eq
  · intro route _ flows
    rw [Sums.measure_foldl measure
      (fun passage => if selected passage then doc.demandOf route.id else 0)
      (fun passage _ flows => adds _ flows passage), Sums.sum_map_ite_const]

section

variable (node : String) (arm : Direction)

theorem total_armMovementFlows :
    total (armMovementFlows doc (node, arm)) = (doc.routes.map fun route =>
        ((doc.resolveRoute route).1.countP (fun passage =>
          passage.node = node ∧ passage.entryArm = arm) : ℚ) * doc.demandOf route.id).sum :=
  measure_armMovementFlows doc (fun flows => total (flows (node, arm))) _
    (fun vph flows passage => addPassage_total vph flows passage node arm)
    (by simp [total, movements])

theorem turn_armMovementFlows (turn : TurnIntent) :
    (armMovementFlows doc (node, arm) turn).getD 0 = (doc.routes.map fun route =>
        ((doc.resolveRoute route).1.countP (fun passage =>
          passage.node = node ∧ passage.entryArm = arm ∧ passage.movement = turn) : ℚ) *
          doc.demandOf route.id).sum :=
  measure_armMovementFlows doc (fun flows => (flows (node, arm) turn).getD 0) _
    (fun vph flows passage => addPassage_turn vph flows passage node arm turn)
    (by simp)

end

end

/-- An earlier node in an order without repetitions. -/
theorem idxOf_lt_of_sublist {order : List String} (nodup : order.Nodup) {first second : String}
    (isForward : [first, second].Sublist order) : order.idxOf first < order.idxOf second := by
  induction order with
  | nil => simp at isForward
  | cons node _ ih =>
    obtain ⟨isNew, nodupLater⟩ := List.nodup_cons.mp nodup
    cases isForward with
    | cons _ isLater =>
      have firstNe : node ≠ first := by
        rintro rfl
        exact isNew (isLater.subset List.mem_cons_self)
      have secondNe : node ≠ second := by
        rintro rfl
        exact isNew (isLater.subset (by simp))
      rw [List.idxOf_cons_ne _ firstNe, List.idxOf_cons_ne _ secondNe]
      exact Nat.succ_lt_succ (ih nodupLater isLater)
    | cons_cons _ isLater =>
      have secondNe : first ≠ second := by
        rintro rfl
        exact isNew (isLater.subset List.mem_cons_self)
      rw [List.idxOf_cons_self, List.idxOf_cons_ne _ secondNe]
      exact Nat.succ_pos _

namespace Accepted

variable {contract : Contract} {doc : NetworkDocument}

section

variable (accepted : Accepted contract doc) {order : List String}
  (isOrder : doc.nodeAdjacency.topologicalOrder = some order)

include accepted isOrder

theorem forward {edge : EdgeSpec} (isEdge : edge ∈ doc.edges) :
    [edge.from_.node, edge.to_.node].Sublist order := by
  obtain ⟨seen, isAccepted⟩ := accepted.edgeAccepted isEdge
  obtain ⟨source, isSource⟩ := isAccepted.from_
  obtain ⟨target, isTarget⟩ := isAccepted.to_
  obtain ⟨sourceMem, sourceId⟩ := mem_of_nodeById isSource.isNode
  obtain ⟨targetMem, targetId⟩ := mem_of_nodeById isTarget.isNode
  refine Kahn.Digraph.forward_of_topologicalOrder isOrder ?_ ?_
  · exact List.mem_dedup.mpr (List.mem_map.mpr ⟨source, sourceMem, sourceId⟩)
  · have targetIsNode : edge.to_.node ∈ doc.nodes.map NodeSpec.id :=
      List.mem_map.mpr ⟨target, targetMem, targetId⟩
    refine (List.mem_insertionSort _).mpr (List.mem_dedup.mpr (List.mem_map.mpr
      ⟨edge, List.mem_filter.mpr ⟨isEdge, ?_⟩, rfl⟩))
    exact decide_eq_true ⟨rfl, isAccepted.from_ne_to.symm, targetIsNode⟩

theorem order_perm : order.Perm (doc.nodes.map NodeSpec.id) := by
  have isPerm : order.Perm (doc.nodes.map NodeSpec.id).dedup :=
    Kahn.Digraph.perm_of_topologicalOrder isOrder
  rwa [accepted.nodes_nodup.dedup] at isPerm

end

/-- An arm is entered by one edge. -/
theorem edge_unique (accepted : Accepted contract doc) {first second : EdgeSpec}
    (firstMem : first ∈ doc.edges) (secondMem : second ∈ doc.edges) {key : String × Direction}
    (firstKey : junctionPort doc first.to_ = some key)
    (secondKey : junctionPort doc second.to_ = some key) : first = second := by
  by_contra different
  have distinct := List.pairwise_filterMap.mp accepted.entries_nodup
  have symmetric : Std.Symm fun first second : EdgeSpec =>
      ∀ key, junctionPort doc first.to_ = some key →
        ∀ other, junctionPort doc second.to_ = some other → key ≠ other :=
    ⟨fun _ _ related key isKey other isOther => (related other isOther key isKey).symm⟩
  exact distinct.forall firstMem secondMem different key firstKey key secondKey rfl

section

variable {route : RouteSpec}

section

variable (accepted : Accepted contract doc) (isRoute : route ∈ doc.routes)

include accepted isRoute

theorem mem_path_iff {edge : EdgeSpec} (isEdge : edge ∈ doc.edges) :
    edge.id ∈ route.path ↔ edge ∈ doc.chain route := by
  have follows := accepted.follows isRoute
  rw [← follows.path_eq, List.mem_map]
  constructor
  · rintro ⟨other, isOther, sameId⟩
    rwa [← List.inj_on_of_nodup_map accepted.edges_nodup
      (follows.mem_edges other isOther) isEdge sameId]
  · intro isMem
    exact ⟨edge, isMem, rfl⟩

/-- A chain has no edge twice. -/
theorem chain_nodup : (doc.chain route).Nodup := by
  have follows := accepted.follows isRoute
  have nodup := follows.nodup
  rw [← follows.path_eq] at nodup
  exact nodup.of_map

theorem passage_between {edges : EdgeSpec × EdgeSpec}
    (arePair : edges ∈ (doc.chain route).zip (doc.chain route).tail) :
    ∃ found, passage edges = some found ∧ found.node = edges.1.to_.node ∧
      junctionPort doc edges.1.to_ = some (found.node, found.entryArm) := by
  have follows := accepted.follows isRoute
  have firstMem : edges.1 ∈ doc.edges := follows.mem_edges _ (List.of_mem_zip arePair).1
  have secondMem : edges.2 ∈ doc.edges :=
    follows.mem_edges _ (List.mem_of_mem_tail (List.of_mem_zip arePair).2)
  obtain ⟨_, firstAccepted⟩ := accepted.edgeAccepted firstMem
  obtain ⟨_, secondAccepted⟩ := accepted.edgeAccepted secondMem
  obtain ⟨node, isTarget⟩ := firstAccepted.to_
  obtain ⟨source, isSource⟩ := secondAccepted.from_
  have same : source = node := by
    have isNode := isSource.isNode
    rw [← follows.connected edges arePair, isTarget.isNode] at isNode
    exact (Option.some.inj isNode).symm
  subst same
  have isJunction : source.kind = .junction := by
    have notDestination := isSource.from_ne rfl
    have notOrigin := isTarget.to_ne rfl
    cases isKind : source.kind with
    | junction => rfl
    | origin => exact absurd isKind notOrigin
    | destination => exact absurd isKind notDestination
  obtain ⟨entry, isEntry⟩ := Option.isSome_iff_exists.mp (isTarget.arm_isSome isJunction)
  obtain ⟨leave, isLeave⟩ := Option.isSome_iff_exists.mp (isSource.arm_isSome isJunction)
  have sameId := (mem_of_nodeById isTarget.isNode).2
  refine ⟨⟨edges.1.to_.node, edges.1.id, edges.2.id, entry, leave,
    movementBetween entry leave⟩, ?_, rfl, ?_⟩
  · simp only [passage, isEntry, isLeave]
  · simp only [junctionPort, isTarget.isNode, isEntry, isJunction, if_true, sameId]

theorem countP_passages (selected : Passage → Prop) [DecidablePred selected]
    (chosen : EdgeSpec × EdgeSpec → Prop) [DecidablePred chosen]
    (agrees : ∀ edges ∈ (doc.chain route).zip (doc.chain route).tail, ∀ found, passage edges = some found → (selected found ↔ chosen edges)) :
    (doc.resolveRoute route).1.countP (fun passage => selected passage) =
      ((doc.chain route).zip (doc.chain route).tail).countP fun edges => chosen edges := by
  rw [(accepted.follows isRoute).passages_eq, List.countP_filterMap]
  refine List.countP_congr fun edges arePair => ?_
  obtain ⟨found, isFound, -⟩ := accepted.passage_between isRoute arePair
  simp [isFound, agrees edges arePair found isFound]

theorem chain_forward {order : List String}
    (isOrder : doc.nodeAdjacency.topologicalOrder = some order) :
    (doc.chain route).Pairwise fun first second =>
      order.idxOf first.to_.node < order.idxOf second.to_.node := by
  have follows := accepted.follows isRoute
  have nodup : order.Nodup := (accepted.order_perm isOrder).nodup_iff.mpr accepted.nodes_nodup
  have isChain : (doc.chain route).IsChain fun first second =>
      order.idxOf first.to_.node < order.idxOf second.to_.node := by
    refine Sums.isChain_of_zip_tail fun edges arePair => ?_
    have secondMem : edges.2 ∈ doc.edges :=
      follows.mem_edges _ (List.mem_of_mem_tail (List.of_mem_zip arePair).2)
    rw [follows.connected edges arePair]
    exact idxOf_lt_of_sublist nodup (accepted.forward isOrder secondMem)
  have transitive : IsTrans EdgeSpec fun first second =>
      order.idxOf first.to_.node < order.idxOf second.to_.node :=
    ⟨fun _ _ _ before after => before.trans after⟩
  exact List.isChain_iff_pairwise.mp isChain

theorem countP_passages_arm {edge : EdgeSpec} (isEdge : edge ∈ doc.edges) {node : String}
    {arm : Direction} (isKey : junctionPort doc edge.to_ = some (node, arm)) :
    ((doc.resolveRoute route).1.countP fun passage =>
        passage.node = node ∧ passage.entryArm = arm) +
      (if edge.id ∈ route.path ∧ route.destination = edge.to_.node then 1 else 0) =
    if edge.id ∈ route.path then 1 else 0 := by
  have follows := accepted.follows isRoute
  have nodup := accepted.chain_nodup isRoute
  obtain ⟨order, isOrder⟩ := accepted.exists_order
  have passes : ((doc.resolveRoute route).1.countP fun passage =>
      passage.node = node ∧ passage.entryArm = arm) = (doc.chain route).dropLast.count edge := by
    rw [accepted.countP_passages isRoute _ (fun edges => edges.1 = edge),
      ← Sums.map_fst_zip_tail, List.count_eq_countP, List.countP_map]
    · refine List.countP_congr fun edges _ => ?_
      simp
    · intro edges arePair found isFound
      obtain ⟨other, isOther, -, otherKey⟩ := accepted.passage_between isRoute arePair
      obtain rfl : found = other := Option.some.inj (isFound.symm.trans isOther)
      constructor
      · rintro ⟨rfl, rfl⟩
        exact accepted.edge_unique
          (follows.mem_edges _ (List.of_mem_zip arePair).1) isEdge otherKey isKey
      · rintro rfl
        rw [isKey, Option.some.injEq, Prod.mk.injEq] at otherKey
        exact ⟨otherKey.1.symm, otherKey.2.symm⟩
  rw [passes]
  simp only [accepted.mem_path_iff isRoute isEdge]
  have isSplit := List.dropLast_append_getLast follows.chain_ne_nil
  have lastTo : ((doc.chain route).getLast follows.chain_ne_nil).to_.node = route.destination :=
    follows.last_eq _ (List.getLast?_eq_some_getLast follows.chain_ne_nil)
  by_cases isMem : edge ∈ (doc.chain route).dropLast
  · have inChain : edge ∈ doc.chain route := List.dropLast_subset _ isMem
    have notLast : route.destination ≠ edge.to_.node := by
      intro same
      have isBefore := (accepted.chain_forward isRoute isOrder).rel_dropLast_getLast isMem
      rw [lastTo, same] at isBefore
      exact lt_irrefl _ isBefore
    have onceIn : (doc.chain route).dropLast.count edge = 1 :=
      List.count_eq_one_of_mem (nodup.sublist (List.dropLast_sublist _)) isMem
    simp [inChain, notLast, onceIn]
  · rw [List.count_eq_zero_of_not_mem isMem]
    by_cases inChain : edge ∈ doc.chain route
    · have isLast : edge = (doc.chain route).getLast follows.chain_ne_nil := by
        rw [← isSplit] at inChain
        exact List.mem_singleton.mp ((List.mem_append.mp inChain).resolve_left isMem)
      simp [inChain, ← lastTo, ← isLast]
    · simp [inChain]

theorem countP_chain_from (node : String) :
    ((doc.chain route).countP fun edge => edge.from_.node = node) =
      (if route.origin = node then 1 else 0) +
        (doc.resolveRoute route).1.countP fun passage => passage.node = node := by
  have follows := accepted.follows isRoute
  have passes : ((doc.resolveRoute route).1.countP fun passage =>
      passage.node = node) = (doc.chain route).tail.countP fun edge => edge.from_.node = node := by
    rw [accepted.countP_passages isRoute _ (fun edges => edges.2.from_.node = node)]
    · conv_rhs => rw [← Sums.map_snd_zip_tail, List.countP_map]
      rfl
    · intro edges arePair found isFound
      obtain ⟨other, isOther, isNode, -⟩ := accepted.passage_between isRoute arePair
      obtain rfl : found = other := Option.some.inj (isFound.symm.trans isOther)
      rw [isNode, follows.connected edges arePair]
  rw [passes]
  cases isChain : doc.chain route with
  | nil => exact absurd isChain follows.chain_ne_nil
  | cons first =>
    have isFirst : first.from_.node = route.origin := follows.head_eq first (by simp [isChain])
    rw [List.countP_cons, List.tail_cons, isFirst]
    simp only [decide_eq_true_eq]
    omega

end

end

end Accepted

end Coupling
end UrbanFlow.Networks
