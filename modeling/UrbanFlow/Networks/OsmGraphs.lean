import UrbanFlow.Library.Folds
import UrbanFlow.Networks.OsmPieces

/-!
# What an import gathers

The links of an imported graph are those of the parts that are not skipped, and its
nodes are the ends of these parts.
-/

namespace UrbanFlow.Networks
namespace Osm

section

variable {K : Type} [Field K] [LinearOrder K] [FloorRing K] (distance : K × K → K × K → K)
  (parseFloat : String → Option K)
  (contents : Contents K)

variable {before after : Gathered K} {parts : List Piece} {file : OsmFile K}

/-- A part ends at a node. -/
def Piece.EndsAt (piece : Piece) (id : String) : Prop :=
  piece.nodes.head? = some id ∨ piece.nodes.getLast? = some id

/-- The links of a part that is not skipped, each with its length before rounding. -/
def Piece.measured (piece : Piece) : List (OsmLink K × K) :=
  match piece.nodes.head?, piece.nodes.getLast? with
  | some first, some last =>
    if piece.isSkipped distance contents then []
    else (piece.links distance parseFloat contents first last).map fun link =>
        (link, piece.length distance contents)
  | _, _ => []

/-- All links of an import, each with its length before rounding. -/
def measuredLinks : List (OsmLink K × K) :=
  (pieces contents).flatMap (Piece.measured distance parseFloat contents)

variable {distance parseFloat contents}

omit [Field K] [LinearOrder K] [FloorRing K] in
theorem mem_addNode_iff {nodes after : List (OsmGraphNode K)} {id : String} {gate : Bool}
    (added : addNode contents nodes id gate = some after) (other : String) :
    other ∈ after.map OsmGraphNode.id ↔ other ∈ nodes.map OsmGraphNode.id ∨ other = id := by
  unfold addNode at added
  split at added
  case isTrue isThere =>
    cases added
    constructor
    · exact Or.inl
    · rintro (isMem | rfl)
      · exact isMem
      · exact isThere
  case isFalse =>
    split at added
    · cases added
    · split at added
      · cases added
        simp
      · cases added

structure Adds (distance : K × K → K × K → K) (parseFloat : String → Option K)
    (contents : Contents K) (parts : List Piece) (before after : Gathered K) : Prop where
  links : after.links = before.links ++
    (parts.flatMap (Piece.measured distance parseFloat contents)).map Prod.fst
  nodes : ∀ id, id ∈ after.nodes.map OsmGraphNode.id ↔ id ∈ before.nodes.map OsmGraphNode.id ∨
      ∃ piece ∈ parts, piece.isSkipped distance contents = false ∧ piece.EndsAt id

/-- One part adds its links and its ends. -/
theorem addPiece_adds {piece : Piece}
    (isAdded : addPiece distance parseFloat contents before piece = some after) :
    Adds distance parseFloat contents [piece] before after := by
  unfold addPiece at isAdded
  split at isAdded
  case h_2 => cases isAdded
  case h_1 first last isFirst isLast =>
    split at isAdded
    case isTrue isSkipped =>
      cases isAdded
      refine ⟨?_, fun id => ?_⟩
      · simp [Piece.measured, isFirst, isLast, isSkipped]
      · simp [isSkipped]
    case isFalse notSkipped =>
      rw [Bool.not_eq_true] at notSkipped
      simp only [Option.bind_eq_some_iff] at isAdded
      obtain ⟨_, isWithFirst, _, isWithLast, isAdded⟩ := isAdded
      split at isAdded
      case isFalse => cases isAdded
      case isTrue =>
        cases isAdded
        refine ⟨?_, fun id => ?_⟩
        · simp [Piece.measured, isFirst, isLast, notSkipped, Function.comp_def]
        · rw [mem_addNode_iff isWithLast, mem_addNode_iff isWithFirst, or_assoc]
          simp only [List.mem_singleton, exists_eq_left, notSkipped, true_and,
            Piece.EndsAt, isFirst, isLast, Option.some.injEq, eq_comm (a := id)]

variable (distance parseFloat contents) in
/-- A part that is skipped, or whose ends and links are accepted. -/
def Piece.IsAccepted (piece : Piece) : Prop :=
  ∃ first last, piece.nodes.head? = some first ∧ piece.nodes.getLast? = some last ∧
    (piece.isSkipped distance contents = true ∨
      ((contents.node first).isSome = true ∧ (contents.node last).isSome = true) ∧
        (isGraphId first = true ∧ isGraphId last = true) ∧
          (piece.links distance parseFloat contents first last).all OsmLink.isAccepted = true)

omit [Field K] [LinearOrder K] [FloorRing K] in
theorem addNode_isSome (nodes : List (OsmGraphNode K)) {id : String} (gate : Bool)
    (isThere : (contents.node id).isSome = true) (isAccepted : isGraphId id = true) :
    ∃ after, addNode contents nodes id gate = some after := by
  obtain ⟨node, isNode⟩ := Option.isSome_iff_exists.mp isThere
  unfold addNode
  split
  · exact ⟨nodes, rfl⟩
  · rw [isNode]
    exact ⟨_, rfl⟩

/-- A part that is accepted is imported. -/
theorem addPiece_isSome {piece : Piece}
    (isAccepted : piece.IsAccepted distance parseFloat contents) (gathered : Gathered K) :
    ∃ after, addPiece distance parseFloat contents gathered piece = some after := by
  obtain ⟨first, last, isFirst, isLast, isAccepted⟩ := isAccepted
  simp only [addPiece, isFirst, isLast]
  split
  case isTrue => exact ⟨_, rfl⟩
  case isFalse notSkipped =>
    obtain ⟨⟨isThere, isThere'⟩, ⟨isId, isId'⟩, areLinks⟩ := isAccepted.resolve_left notSkipped
    obtain ⟨withFirst, isWithFirst⟩ := addNode_isSome gathered.nodes
      (decide (usage (usableWays contents) first = 1) && decide (piece.start = 0))
      isThere isId
    obtain ⟨withLast, isWithLast⟩ := addNode_isSome withFirst
      (decide (usage (usableWays contents) last = 1) &&
        decide (piece.finish = piece.way.nds.length - 1)) isThere' isId'
    rw [isWithFirst, Option.bind_some, isWithLast, Option.bind_some, areLinks]
    exact ⟨_, rfl⟩

theorem foldlM_isSome (areAccepted : ∀ piece ∈ parts, piece.IsAccepted distance parseFloat contents)
    (gathered : Gathered K) :
    ∃ after, parts.foldlM (addPiece distance parseFloat contents) gathered = some after := by
  induction parts generalizing gathered with
  | nil => exact ⟨gathered, rfl⟩
  | cons piece _ ih =>
    obtain ⟨middle, isMiddle⟩ := addPiece_isSome (areAccepted piece List.mem_cons_self) gathered
    obtain ⟨after, isAfter⟩ := ih
      (fun other isOther => areAccepted other (List.mem_cons_of_mem piece isOther))
      middle
    refine ⟨after, ?_⟩
    rw [List.foldlM_cons, isMiddle]
    exact isAfter

theorem importOsm_isSome (isRead : readFile parseFloat file = .ok contents)
    (isUsable : usableWays contents ≠ [])
    (areAccepted : ∀ piece ∈ pieces contents, piece.IsAccepted distance parseFloat contents) :
    ∃ result graph, importOsm distance parseFloat file = some result ∧
      result.graph = some graph := by
  obtain ⟨gathered, isGathered⟩ := foldlM_isSome areAccepted ⟨[], [], wayMessages contents⟩
  rw [importOsm, isRead]
  simp only [if_neg isUsable, isGathered]
  exact ⟨_, _, rfl, rfl⟩

theorem foldlM_adds
    (isGathered : parts.foldlM (addPiece distance parseFloat contents) before = some after) :
    Adds distance parseFloat contents parts before after := by
  induction parts generalizing before with
  | nil =>
    cases isGathered
    exact ⟨by simp, by simp⟩
  | cons _ _ ih =>
    rw [List.foldlM_cons, Option.bind_eq_bind, Option.bind_eq_some_iff] at isGathered
    obtain ⟨middle, isMiddle, isLater⟩ := isGathered
    have own := addPiece_adds isMiddle
    have later := ih isLater
    refine ⟨?_, fun id => ?_⟩
    · rw [later.links, own.links]
      simp
    · rw [later.nodes, own.nodes]
      simp [or_assoc]

theorem graph_of_importOsm {result : OsmResult K} {graph : OsmGraph K}
    (isRead : readFile parseFloat file = .ok contents)
    (isImported : importOsm distance parseFloat file = some result)
    (isGraph : result.graph = some graph) :
    graph.links = (measuredLinks distance parseFloat contents).map Prod.fst ∧
      ∀ id, id ∈ graph.nodes.map OsmGraphNode.id ↔ ∃ piece ∈ pieces contents,
          piece.isSkipped distance contents = false ∧ piece.EndsAt id := by
  rw [importOsm, isRead] at isImported
  split at isImported
  case h_1 isError => cases isError
  case h_2 read isOk =>
    cases isOk
    split at isImported
    · cases isImported
      cases isGraph
    · obtain ⟨gathered, isGathered, rfl⟩ := Option.map_eq_some_iff.mp isImported
      cases isGraph
      have adds := foldlM_adds isGathered
      refine ⟨by simpa [measuredLinks] using adds.links, fun id => ?_⟩
      rw [((List.perm_insertionSort _ _).map OsmGraphNode.id).mem_iff, adds.nodes]
      simp

end

end Osm
end UrbanFlow.Networks
