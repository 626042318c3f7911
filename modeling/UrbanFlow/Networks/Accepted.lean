import UrbanFlow.Networks.Plan
import Mathlib.Data.List.Induction

/-!
# What an accepted network is

The facts about a document that follow from `validate_network` finding no error:
ids are not repeated, every edge joins two arms or gates that may be joined, and
every route is a chain of edges from its origin to its destination.
-/

namespace UrbanFlow.Networks
namespace Coupling

open Scenario

variable {Item Key Issue : Type} {items : List Item} {item : Item}
  {errors : List Item → Item → List Issue}

theorem find?_reverse_of_mem [DecidableEq Key] {key : Item → Key} (nodup : (items.map key).Nodup)
    (isItem : item ∈ items) :
    (items.reverse.find? fun other => key other = key item) = some item := by
  have isSome : (items.reverse.find? fun other => key other = key item).isSome := by
    rw [List.find?_isSome]
    exact ⟨item, List.mem_reverse.mpr isItem, by simp⟩
  obtain ⟨found, isFound⟩ := Option.isSome_iff_exists.mp isSome
  have sameKey : key found = key item := by simpa using List.find?_some isFound
  have foundMem : found ∈ items := List.mem_reverse.mp (List.mem_of_find?_eq_some isFound)
  rw [isFound, List.inj_on_of_nodup_map nodup foundMem isItem sameKey]

theorem errors_eq_nil_of_errorsAfter {seen : List Item}
    (noErrors : errorsAfter errors seen items = []) {earlier later : List Item}
    (isSplit : items = earlier ++ item :: later) : errors (seen ++ earlier) item = [] := by
  induction earlier generalizing seen items with
  | nil =>
    subst isSplit
    rw [List.nil_append, errorsAfter, List.append_eq_nil_iff] at noErrors
    rw [List.append_nil]
    exact noErrors.1
  | cons _ _ ih =>
    subst isSplit
    rw [List.cons_append, errorsAfter, List.append_eq_nil_iff] at noErrors
    simpa using ih noErrors.2 rfl

theorem nodup_of_errorsAfter (noErrors : errorsAfter errors [] items = []) {key : Item → Option Key}
    (refused : ∀ earlier item, errors earlier item = [] → ∀ found, key item = some found → found ∉
      earlier.filterMap key) : (items.filterMap key).Nodup := by
  have splits : ∀ earlier later, items = earlier ++ later → (earlier.filterMap key).Nodup := by
    intro earlier
    induction earlier using List.reverseRecOn with
    | nil => simp
    | append_singleton earlier item ih =>
      intro later isSplit
      have isSplit : items = earlier ++ item :: later := by simpa using isSplit
      have noError := errors_eq_nil_of_errorsAfter noErrors isSplit
      rw [List.nil_append] at noError
      have nodup := ih (item :: later) isSplit
      rw [List.filterMap_append]
      cases isKey : key item with
      | none => simpa [isKey] using nodup
      | some found =>
        have isNew := refused earlier item noError found isKey
        simp only [List.filterMap_cons, isKey, List.filterMap_nil]
        refine List.nodup_append.mpr ⟨nodup, List.nodup_singleton found, ?_⟩
        rintro first isOld second isLast rfl
        exact isNew (List.mem_singleton.mp isLast ▸ isOld)
  exact splits items [] (List.append_nil items).symm

/-- A document that `validate_network` finds no error in. -/
structure Accepted (contract : Contract) (doc : NetworkDocument) : Prop where
  noErrors : validateNetwork contract doc = .ok []

namespace Accepted

variable {contract : Contract} {doc : NetworkDocument}

section

variable (accepted : Accepted contract doc)

include accepted

/-- The checks that found nothing. -/
theorem checks : checkNodes contract doc = .ok [] ∧ checkEdges doc = [] ∧ checkGraph doc = [] ∧
      checkRoutesAndDemand doc [] = [] ∧
      deriveNodeScenarios contract doc = .ok (derivedScenarios doc, []) := by
  have noErrors := accepted.noErrors
  unfold validateNetwork at noErrors
  obtain ⟨nodeErrors, isNodes, noErrors⟩ := bind_ok_iff.mp noErrors
  simp only at noErrors
  split_ifs at noErrors with someError
  · exact absurd (Except.ok.inj noErrors) someError
  · rw [not_not, List.append_eq_nil_iff, List.append_eq_nil_iff,
      List.append_eq_nil_iff] at someError
    obtain ⟨⟨⟨rfl, noEdge⟩, noGraph⟩, noRoute⟩ := someError
    rw [noEdge, noGraph] at noRoute
    obtain ⟨derived, isDerived, noErrors⟩ := bind_ok_iff.mp noErrors
    have noDerived : derived.2 = [] := Except.ok.inj noErrors
    refine ⟨isNodes, noEdge, noGraph, noRoute, ?_⟩
    unfold deriveNodeScenarios at isDerived ⊢
    cases areErrors : (derivedScenarios doc).mapM (derivedErrors contract) with
    | error => simp [areErrors, Except.map] at isDerived
    | ok =>
      rw [areErrors] at isDerived
      cases isDerived
      simp only at noDerived
      simp [Except.map, noDerived]

theorem exists_order : ∃ order, doc.nodeAdjacency.topologicalOrder = some order := by
  have noErrors := accepted.checks.2.2.1
  unfold checkGraph at noErrors
  rw [List.append_eq_nil_iff] at noErrors
  have isSome := noErrors.2
  split_ifs at isSome with isNone
  exact Option.ne_none_iff_exists'.mp (by simpa using isNone)

/-- The ids of nodes are not repeated. -/
theorem nodes_nodup : (doc.nodes.map NodeSpec.id).Nodup := by
  have noErrors := accepted.checks.1
  have splits : ∀ seen nodes, checkNodes.go contract seen nodes = .ok [] →
      (nodes.map NodeSpec.id).Nodup ∧ ∀ node ∈ nodes, node.id ∉ seen := by
    intro seen nodes isOk
    induction nodes generalizing seen with
    | nil => simp
    | cons node _ ih =>
      unfold checkNodes.go at isOk
      obtain ⟨_, _, isOk⟩ := bind_ok_iff.mp isOk
      obtain ⟨others, areOthers, isOk⟩ := bind_ok_iff.mp isOk
      have isNil := Except.ok.inj isOk
      rw [List.append_eq_nil_iff, List.append_eq_nil_iff] at isNil
      obtain ⟨⟨isNew, -⟩, rfl⟩ := isNil
      have notSeen : node.id ∉ seen := by
        intro isSeen
        simp [isSeen] at isNew
      obtain ⟨nodup, areNew⟩ := ih _ areOthers
      refine ⟨?_, ?_⟩
      · rw [List.map_cons, List.nodup_cons]
        refine ⟨fun isLater => ?_, nodup⟩
        obtain ⟨other, isOther, sameId⟩ := List.mem_map.mp isLater
        exact areNew other isOther (by simp [sameId])
      · intro other isOther
        obtain rfl | isLater := List.mem_cons.mp isOther
        · exact notSeen
        · exact fun isSeen => areNew other isLater (by simp [isSeen])
  exact (splits [] doc.nodes noErrors).1

theorem nodeById_eq {node : NodeSpec} (isNode : node ∈ doc.nodes) :
    doc.nodeById node.id = some node :=
  find?_reverse_of_mem accepted.nodes_nodup isNode

end

/-- What there is no error about in an end of an edge. -/
structure PortAccepted (doc : NetworkDocument) (side : Side) (port : EdgePort)
    (taken : List (String × Direction)) (node : NodeSpec) : Prop where
  isNode : doc.nodeById port.node = some node
  arm_isSome : node.kind = .junction → port.arm.isSome = true
  arm_new : node.kind = .junction → ∀ arm, port.arm = some arm → (node.id, arm) ∉ taken
  from_ne : side = .from_ → node.kind ≠ .destination
  to_ne : side = .to_ → node.kind ≠ .origin

theorem portAccepted_of_portErrors {edge : String} {side : Side} {port : EdgePort}
    {taken : List (String × Direction)} (noErrors : portErrors doc edge side port taken = []) :
    ∃ node, PortAccepted doc side port taken node := by
  unfold portErrors at noErrors
  cases isNode : doc.nodeById port.node with
  | none => simp [isNode] at noErrors
  | some node =>
    refine ⟨node, ?_⟩
    rw [isNode] at noErrors
    simp only at noErrors
    by_cases isJunction : node.kind = .junction
    · rw [if_pos isJunction] at noErrors
      cases isArm : port.arm with
      | none => simp [isArm] at noErrors
      | some arm =>
        rw [isArm] at noErrors
        simp only [List.append_eq_nil_iff] at noErrors
        have isNew : (node.id, arm) ∉ taken := by
          intro isTaken
          simp [isTaken] at noErrors
        exact
          { isNode := isNode
            arm_isSome := fun _ => by simp [isArm]
            arm_new := fun _ other isOther => by
              rw [isArm, Option.some.injEq] at isOther
              exact isOther ▸ isNew
            from_ne := fun _ => by simp [isJunction]
            to_ne := fun _ => by simp [isJunction] }
    · rw [if_neg isJunction] at noErrors
      simp only [List.append_eq_nil_iff] at noErrors
      obtain ⟨⟨-, notDestination⟩, notOrigin⟩ := noErrors
      exact
        { isNode := isNode
          arm_isSome := fun isOther => absurd isOther isJunction
          arm_new := fun isOther => absurd isOther isJunction
          from_ne := fun isFrom isDestination => by simp [isFrom, isDestination] at notDestination
          to_ne := fun isTo isOrigin => by simp [isTo, isOrigin] at notOrigin }

/-- What there is no error about in an edge after others. -/
structure EdgeAccepted (doc : NetworkDocument) (seen : List EdgeSpec) (edge : EdgeSpec) : Prop where
  isNew : edge.id ∉ seen.map EdgeSpec.id
  from_ : ∃ node, PortAccepted doc .from_ edge.from_
    (seen.filterMap fun other => junctionPort doc other.from_) node
  to_ : ∃ node, PortAccepted doc .to_ edge.to_
    (seen.filterMap fun other => junctionPort doc other.to_) node
  from_ne_to : edge.from_.node ≠ edge.to_.node

theorem edgeAccepted_of_edgeErrors {seen : List EdgeSpec} {edge : EdgeSpec}
    (noErrors : edgeErrors doc seen edge = []) : EdgeAccepted doc seen edge := by
  simp only [edgeErrors, List.append_eq_nil_iff] at noErrors
  obtain ⟨⟨⟨⟨isNew, isFrom⟩, isTo⟩, isLoop⟩, -⟩ := noErrors
  exact
    { isNew := fun isSeen => by
        rw [if_pos isSeen] at isNew
        cases isNew
      from_ := portAccepted_of_portErrors isFrom
      to_ := portAccepted_of_portErrors isTo
      from_ne_to := fun same => by
        rw [if_pos same] at isLoop
        cases isLoop }

section

variable (accepted : Accepted contract doc)

include accepted

/-- Every edge has been checked after some others. -/
theorem edgeAccepted {edge : EdgeSpec} (isEdge : edge ∈ doc.edges) :
    ∃ seen, EdgeAccepted doc seen edge := by
  obtain ⟨earlier, later, isSplit⟩ := List.append_of_mem isEdge
  exact ⟨[] ++ earlier, edgeAccepted_of_edgeErrors
    (errors_eq_nil_of_errorsAfter accepted.checks.2.1 isSplit)⟩

/-- The ids of edges are not repeated. -/
theorem edges_nodup : (doc.edges.map EdgeSpec.id).Nodup := by
  have refused : ∀ earlier edge, edgeErrors doc earlier edge = [] →
      ∀ found, some edge.id = some found →
        found ∉ earlier.filterMap fun other => some other.id := by
    intro earlier edge noErrors found isId
    cases isId
    rw [List.filterMap_eq_map']
    exact (edgeAccepted_of_edgeErrors noErrors).isNew
  have nodup := nodup_of_errorsAfter accepted.checks.2.1 refused
  rwa [List.filterMap_eq_map'] at nodup

/-- No two edges enter one arm. -/
theorem entries_nodup : (doc.edges.filterMap fun edge => junctionPort doc edge.to_).Nodup := by
  refine nodup_of_errorsAfter accepted.checks.2.1 fun earlier edge noErrors found isFound => ?_
  obtain ⟨node, isPort⟩ := (edgeAccepted_of_edgeErrors noErrors).to_
  unfold junctionPort at isFound
  rw [isPort.isNode] at isFound
  cases isArm : edge.to_.arm with
  | none => simp [isArm] at isFound
  | some arm =>
    rw [isArm] at isFound
    simp only at isFound
    split_ifs at isFound with isJunction
    cases isFound
    exact isPort.arm_new isJunction arm isArm

theorem edgeById_eq {edge : EdgeSpec} (isEdge : edge ∈ doc.edges) :
    doc.edgeById edge.id = some edge :=
  find?_reverse_of_mem accepted.edges_nodup isEdge

end

end Accepted

section

variable {doc : NetworkDocument} {id : String}

theorem mem_of_nodeById {node : NodeSpec}
    (isNode : doc.nodeById id = some node) : node ∈ doc.nodes ∧ node.id = id :=
  ⟨List.mem_reverse.mp (List.mem_of_find?_eq_some isNode), by simpa using List.find?_some isNode⟩

theorem mem_of_edgeById {edge : EdgeSpec}
    (isEdge : doc.edgeById id = some edge) : edge ∈ doc.edges ∧ edge.id = id :=
  ⟨List.mem_reverse.mp (List.mem_of_find?_eq_some isEdge), by simpa using List.find?_some isEdge⟩

end

structure Follows (doc : NetworkDocument) (route : RouteSpec) (chain : List EdgeSpec) : Prop where
  chain_ne_nil : chain ≠ []
  mem_edges : ∀ edge ∈ chain, edge ∈ doc.edges
  path_eq : chain.map EdgeSpec.id = route.path
  nodup : route.path.Nodup
  head_eq : ∀ first ∈ chain.head?, first.from_.node = route.origin
  last_eq : ∀ last ∈ chain.getLast?, last.to_.node = route.destination
  connected : ∀ edges ∈ chain.zip chain.tail, edges.1.to_.node = edges.2.from_.node
  passages_eq : (doc.resolveRoute route).1 = (chain.zip chain.tail).filterMap passage

theorem chain_eq {doc : NetworkDocument} {path : List String}
    (known : (path.filter fun edge => (doc.edgeById edge).isNone) = []) :
    (path.filterMap doc.edgeById).map EdgeSpec.id = path := by
  induction path with
  | nil => rfl
  | cons id _ ih =>
    cases isEdge : doc.edgeById id with
    | none => simp [isEdge] at known
    | some =>
      rw [List.filter_cons_of_neg (by simp [isEdge])] at known
      rw [List.filterMap_cons_some isEdge, List.map_cons, ih known, (mem_of_edgeById isEdge).2]

theorem follows_of_resolveRoute {doc : NetworkDocument} {route : RouteSpec}
    (noErrors : (doc.resolveRoute route).2 = []) : Follows doc route (doc.chain route) := by
  simp only [NetworkDocument.resolveRoute] at noErrors
  split_ifs at noErrors with someUnknown someError
  · exact absurd noErrors someUnknown
  · exact absurd noErrors someError
  · rw [not_not] at someUnknown someError
    have isPath : (doc.chain route).map EdgeSpec.id = route.path :=
      chain_eq (List.map_eq_nil_iff.mp someUnknown)
    have passagesEq : (doc.resolveRoute route).1 =
        ((doc.chain route).zip (doc.chain route).tail).filterMap passage := by
      simp [NetworkDocument.resolveRoute, someUnknown, someError]
    unfold NetworkDocument.chainErrors at someError
    simp only [List.append_eq_nil_iff, List.filterMap_eq_nil_iff] at someError
    obtain ⟨⟨⟨⟨⟨⟨onceEach, isHead⟩, isLast⟩, areConnected⟩, -⟩, -⟩, -⟩ := someError
    exact
      { chain_ne_nil := by
          intro isNil
          rw [isNil, List.map_nil] at isPath
          exact route.path_ne_nil isPath.symm
        mem_edges := by
          intro edge isEdge
          obtain ⟨id, -, isFound⟩ := List.mem_filterMap.mp isEdge
          exact (mem_of_edgeById isFound).1
        path_eq := isPath
        nodup := by
          by_contra twice
          simp [twice] at onceEach
        head_eq := by
          intro first isFirst
          simpa using isHead first (Option.mem_toList.mpr isFirst)
        last_eq := by
          intro last isLastEdge
          simpa using isLast last (Option.mem_toList.mpr isLastEdge)
        connected := by
          intro edges areEdges
          simpa using areConnected edges areEdges
        passages_eq := passagesEq }

namespace Accepted

variable {contract : Contract} {doc : NetworkDocument}

theorem routes_checked (accepted : Accepted contract doc) :
    errorsAfter (routeErrors doc) [] doc.routes = [] ∧
      errorsAfter (demandErrors doc) [] doc.demand = [] := by
  have noErrors := accepted.checks.2.2.2.1
  simp only [checkRoutesAndDemand, List.nil_append] at noErrors
  split_ifs at noErrors with isLate someError
  all_goals simp_all

theorem follows (accepted : Accepted contract doc) {route : RouteSpec}
    (isRoute : route ∈ doc.routes) : Follows doc route (doc.chain route) := by
  obtain ⟨_, _, isSplit⟩ := List.append_of_mem isRoute
  have noErrors := errors_eq_nil_of_errorsAfter accepted.routes_checked.1 isSplit
  unfold routeErrors at noErrors
  rw [List.append_eq_nil_iff, List.map_eq_nil_iff] at noErrors
  exact follows_of_resolveRoute noErrors.2

end Accepted

end Coupling
end UrbanFlow.Networks
