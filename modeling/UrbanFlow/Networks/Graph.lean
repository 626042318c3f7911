import UrbanFlow.Core.Enums
import Mathlib.Data.List.Dedup
import Mathlib.Data.List.Sort

/-!
# The road graph

Nodes and directed links of `urbanflow-graph`, the maps the runners read it
through, the axis of a link, the storage of a link and the rules `validate_graph`
enforces. A map of the source is a function here: it is only ever read at the ids
of the graph, and a link read at another id would be `noLink`.
-/

namespace UrbanFlow.Networks

/-- `kind` of a node. -/
inductive NodeKind
  | junction
  | gate
  deriving DecidableEq, Repr

/-- `control` of a node. -/
inductive NodeControl
  | signal
  deriving DecidableEq, Repr

/-- `GraphNode`; positions are in local metres. -/
structure GraphNode where
  id : String
  x : ℚ
  y : ℚ
  kind : NodeKind := .junction
  control : Option NodeControl := none
  deriving DecidableEq, Repr

/-- `GraphLink`, with what its fields require; `from_` and `to_` are its ends. -/
structure GraphLink where
  id : String
  from_ : String
  to_ : String
  length : ℚ
  lanes : Nat
  speed : ℚ
  length_pos : 0 < length
  lanes_pos : 1 ≤ lanes
  speed_pos : 0 < speed
  deriving DecidableEq, Repr

/-- A metre, a second, a metre a second. -/
theorem unit_pos : (0 : ℚ) < 1 := one_pos

theorem nothing_nonneg : (0 : ℚ) ≤ 0 := le_rfl

theorem singleLane_pos : 1 ≤ 1 := le_rfl

/-- What a link map gives at an id it does not have. -/
def noLink : GraphLink where
  id := ""
  from_ := ""
  to_ := ""
  length := 1
  lanes := 1
  speed := 1
  length_pos := unit_pos
  lanes_pos := singleLane_pos
  speed_pos := unit_pos

/-- What a node map gives at an id it does not have. -/
def noNode : GraphNode where
  id := ""
  x := 0
  y := 0

structure RoadGraph where
  nodes : List GraphNode
  links : List GraphLink
  deriving DecidableEq, Repr

def maxLinkMeters : ℚ := 20000

def maxLanes : Nat := 8

def maxSpeed : ℚ := 45

def maxNodes : Nat := 20000

namespace RoadGraph

/-- `validate_graph` reports no error. -/
structure Valid (graph : RoadGraph) : Prop where
  nodes_ne_nil : graph.nodes ≠ []
  nodes_le : graph.nodes.length ≤ maxNodes
  links_ne_nil : graph.links ≠ []
  node_ids_nodup : (graph.nodes.map GraphNode.id).Nodup
  link_ids_nodup : (graph.links.map GraphLink.id).Nodup
  from_mem : ∀ link ∈ graph.links, link.from_ ∈ graph.nodes.map GraphNode.id
  to_mem : ∀ link ∈ graph.links, link.to_ ∈ graph.nodes.map GraphNode.id
  from_ne_to : ∀ link ∈ graph.links, link.from_ ≠ link.to_
  length_le : ∀ link ∈ graph.links, link.length ≤ maxLinkMeters
  lanes_le : ∀ link ∈ graph.links, link.lanes ≤ maxLanes
  speed_le : ∀ link ∈ graph.links, link.speed ≤ maxSpeed

variable (graph : RoadGraph)

/-- `node_map()`: the last node of an id. -/
def nodeMap (id : String) : GraphNode :=
  (graph.nodes.reverse.find? fun node => node.id = id).getD noNode

/-- `link_map()`: the last link of an id. -/
def linkMap (id : String) : GraphLink :=
  (graph.links.reverse.find? fun link => link.id = id).getD noLink

/-- The links in the order of their ids. -/
def sortedLinks : List GraphLink :=
  graph.links.insertionSort fun first second => first.id ≤ second.id

/-- `outgoing()`. -/
def outgoing (node : String) : List GraphLink :=
  graph.sortedLinks.filter fun link => link.from_ = node

/-- `incoming()`. -/
def incoming (node : String) : List GraphLink :=
  graph.sortedLinks.filter fun link => link.to_ = node

/-- The ids of the nodes in order, each once. -/
def sortedNodes : List String :=
  (graph.nodes.map GraphNode.id).dedup.insertionSort fun first second => first ≤ second

/-- The ids of the links, each once, in the order of the link map. -/
def linkIds : List String := (graph.links.map GraphLink.id).dedup

variable {graph}

section

variable {node : String} {link : GraphLink}

theorem mem_outgoing : link ∈ graph.outgoing node ↔ link ∈ graph.links ∧ link.from_ = node := by
  simp [outgoing, sortedLinks, List.mem_insertionSort]

theorem mem_incoming : link ∈ graph.incoming node ↔ link ∈ graph.links ∧ link.to_ = node := by
  simp [incoming, sortedLinks, List.mem_insertionSort]

end

theorem mem_sortedNodes {node : String} :
    node ∈ graph.sortedNodes ↔ node ∈ graph.nodes.map GraphNode.id := by
  simp only [sortedNodes, List.mem_insertionSort, List.mem_dedup]

theorem Valid.linkMap_eq (valid : graph.Valid) {link : GraphLink} (isLink : link ∈ graph.links) :
    graph.linkMap link.id = link := by
  have isSome : (graph.links.reverse.find? fun other =>
      other.id = link.id).isSome :=
    List.find?_isSome.mpr ⟨link, List.mem_reverse.mpr isLink, by simp⟩
  obtain ⟨found, isFound⟩ := Option.isSome_iff_exists.mp isSome
  have isThere := List.mem_reverse.mp (List.mem_of_find?_eq_some isFound)
  have sameId : found.id = link.id := by simpa using List.find?_some isFound
  rw [linkMap, isFound, Option.getD_some]
  exact List.inj_on_of_nodup_map valid.link_ids_nodup isThere isLink sameId

end RoadGraph

/-- The axis a link is served with. -/
inductive Axis
  | ew
  | ns
  deriving DecidableEq, Repr

/-- East-west where a link is at least as wide as it is high. -/
def RoadGraph.axis (graph : RoadGraph) (link : GraphLink) : Axis :=
  let a := graph.nodeMap link.from_
  let b := graph.nodeMap link.to_
  if |b.y - a.y| ≤ |b.x - a.x| then .ew else .ns

section

variable (link : GraphLink)

def freeFlowSeconds : ℚ := link.length / link.speed

theorem freeFlowSeconds_pos : 0 < freeFlowSeconds link := div_pos link.length_pos link.speed_pos

/-- `SATURATION_PER_LANE`, in vehicles a second. -/
def saturationPerLane : ℚ := 1 / 2

/-- `VEHICLE_SPACE`, in metres. -/
def vehicleSpace : ℚ := 15 / 2

/-- `SIGNAL_CYCLE`, in seconds. -/
def signalCycle : ℚ := 60

theorem signalCycle_ne : signalCycle ≠ 0 := by decide

/-- `_capacity`: the vehicles a link stores. -/
def capacity : Nat := max 1 (link.lanes * link.length / vehicleSpace).floor.toNat

end

structure Flow where
  origin : String
  destination : String
  vehicles_per_hour : ℚ
  deriving DecidableEq, Repr

end UrbanFlow.Networks
