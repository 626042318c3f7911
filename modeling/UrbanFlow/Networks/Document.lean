import UrbanFlow.Library.Kahn
import UrbanFlow.Scenario.Validation
import Mathlib.Data.List.Dedup
import Mathlib.Data.String.Basic

/-!
# Network documents

`urbanflow-network`: nodes that hold junction scenarios or are gates, directed
edges between the arms of nodes, routes along chains of edges and the demand of
each route. The names, the widths and the seeds of a document are left out.
-/

namespace UrbanFlow.Networks
namespace Coupling

open Scenario

/-- `kind` of a node. -/
inductive Kind
  | junction
  | origin
  | destination
  deriving DecidableEq, Repr

/-- The scenario of a junction: a document, or a `ScenarioRef`. -/
inductive ScenarioSource
  | inline (document : ScenarioDocument)
  | ref (ref : String)

structure NodeSpec where
  id : String
  kind : Kind
  scenario : Option ScenarioSource := none
  junctionType : Option JunctionType := none

def NodeSpec.resolvedJunctionType (node : NodeSpec) : Option JunctionType :=
  match node.scenario with
  | some (.inline document) => some document.junction
  | _ => node.junctionType

/-- `EdgePort`: a node, and the arm of a junction. -/
structure EdgePort where
  node : String
  arm : Option Direction := none
  deriving DecidableEq, Repr

structure LaneSpec where
  index : Nat
  movements : Option (List TurnIntent) := none
  width : Option ℚ := none
  deriving DecidableEq, Repr

/-- `EdgeSpec`. -/
@[ext]
structure EdgeSpec where
  id : String
  from_ : EdgePort
  to_ : EdgePort
  lengthMeters : ℚ
  lanes : Nat
  speedLimit : ℚ := 1389 / 100
  laneMetadata : Option (List LaneSpec) := none
  speedLimit_pos : 0 < speedLimit
  deriving Repr

instance : DecidableEq EdgeSpec := fun _ _ => decidable_of_iff _ EdgeSpec.ext_iff.symm

/-- `RouteSpec`: the ids of the edges from the origin to the destination. -/
structure RouteSpec where
  id : String
  origin : String
  destination : String
  path : List String
  path_ne_nil : path ≠ []
  deriving DecidableEq, Repr

structure DemandSpec where
  routeId : String
  vehiclesPerHour : ℚ
  vehicleMix : Option (List (String × ℚ)) := none
  vehiclesPerHour_nonneg : 0 ≤ vehiclesPerHour
  vehiclesPerHour_le : vehiclesPerHour ≤ 7200
  deriving DecidableEq, Repr

/-- `NetworkSimulationSpec`. -/
structure SimulationSpec where
  duration : ℚ := 300
  warmup : ℚ := 30
  deriving DecidableEq, Repr

structure NetworkDocument where
  nodes : List NodeSpec
  edges : List EdgeSpec := []
  routes : List RouteSpec := []
  demand : List DemandSpec := []
  simulation : SimulationSpec := {}
  nodes_ne_nil : nodes ≠ []

namespace NetworkDocument

variable (doc : NetworkDocument)

/-- The node of an id, the last of several. -/
def nodeById (id : String) : Option NodeSpec := doc.nodes.reverse.find? fun node => node.id = id

/-- The edge of an id, the last of several. -/
def edgeById (id : String) : Option EdgeSpec := doc.edges.reverse.find? fun edge => edge.id = id

/-- The demand of a route, `0.0` without one. -/
def demandOf (routeId : String) : ℚ :=
  ((doc.demand.reverse.find? fun item => item.routeId = routeId).map
    DemandSpec.vehiclesPerHour).getD 0

/-- The nodes in the order of their ids. -/
def sortedNodes : List NodeSpec := doc.nodes.insertionSort fun first second => first.id ≤ second.id

/-- The edges in the order of their ids. -/
def sortedEdges : List EdgeSpec := doc.edges.insertionSort fun first second => first.id ≤ second.id

/-- The routes in the order of their ids. -/
def sortedRoutes : List RouteSpec :=
  doc.routes.insertionSort fun first second => first.id ≤ second.id

/-- The nodes that a node leads to, by an edge to another node. -/
def targets (node : String) : List String := ((doc.edges.filter fun edge =>
      edge.from_.node = node ∧ edge.to_.node ≠ node ∧ edge.to_.node ∈ doc.nodes.map NodeSpec.id).map
    fun edge => edge.to_.node).dedup.insertionSort (· ≤ ·)

def nodeAdjacency : Kahn.Digraph String where
  nodes := (doc.nodes.map NodeSpec.id).dedup
  targets := doc.targets
  nodes_nodup := List.nodup_dedup _
  targets_nodup := fun _ => (List.perm_insertionSort _ _).nodup_iff.mpr (List.nodup_dedup _)
  targets_mem := by
    intro node target isTarget
    rw [targets, List.mem_insertionSort, List.mem_dedup, List.mem_map] at isTarget
    obtain ⟨edge, isEdge, rfl⟩ := isTarget
    have isEdge := (List.mem_filter.mp isEdge).2
    rw [decide_eq_true_eq] at isEdge
    exact List.mem_dedup.mpr isEdge.2.2

end NetworkDocument

def movementBetween (entryArm exitArm : Direction) : TurnIntent :=
  let clockwise : Direction → Nat
    | .north => 0
    | .east => 1
    | .south => 2
    | .west => 3
  match (clockwise exitArm + 4 - clockwise entryArm) % 4 with
  | 0 => .uturn
  | 1 => .left
  | 2 => .straight
  | _ => .right

/-- How a route passes a junction. -/
structure Passage where
  node : String
  edgeIn : String
  edgeOut : String
  entryArm : Direction
  exitArm : Direction
  movement : TurnIntent
  deriving DecidableEq, Repr

def passage (edges : EdgeSpec × EdgeSpec) : Option Passage :=
  match edges.1.to_.arm, edges.2.from_.arm with
  | some entry, some leave =>
    some
      { node := edges.1.to_.node
        edgeIn := edges.1.id
        edgeOut := edges.2.id
        entryArm := entry
        exitArm := leave
        movement := movementBetween entry leave }
  | _, _ => none

/-- What is wrong with a route. -/
inductive RouteError
  | unknownEdge (edge : String)
  | edgeUsedTwice
  | firstEdge (edge leaves origin : String)
  | lastEdge (edge enters destination : String)
  | notConnected (before after : String)
  | endNotNode (node : String)
  | originIsDestination (origin : String)
  | destinationIsOrigin (destination : String)
  deriving DecidableEq, Repr

namespace NetworkDocument

variable (doc : NetworkDocument)

section

variable (route : RouteSpec)

/-- The edges of a path that the document has. -/
def chain : List EdgeSpec := route.path.filterMap doc.edgeById

/-- The edges of a path that the document does not have. -/
def unknownEdges : List RouteError :=
  (route.path.filter fun edge => (doc.edgeById edge).isNone).map .unknownEdge

/-- What is wrong with a route whose edges are known. -/
def chainErrors : List RouteError :=
  let chain := doc.chain route
  (if route.path.Nodup then [] else [.edgeUsedTwice]) ++ (chain.head?.toList.filterMap fun first =>
      if first.from_.node ≠ route.origin then
        some (.firstEdge first.id first.from_.node route.origin)
      else none) ++
    (chain.getLast?.toList.filterMap fun last =>
      if last.to_.node ≠ route.destination then
        some (.lastEdge last.id last.to_.node route.destination)
      else none) ++
    ((chain.zip chain.tail).filterMap fun edges =>
      if edges.1.to_.node ≠ edges.2.from_.node then some (.notConnected edges.1.id edges.2.id)
      else none) ++
    (([route.origin, route.destination].filter fun node =>
      (doc.nodeById node).isNone).map .endNotNode) ++
    (if (doc.nodeById route.origin).map NodeSpec.kind = some .destination then
      [.originIsDestination route.origin] else []) ++
    (if (doc.nodeById route.destination).map NodeSpec.kind = some .origin then
      [.destinationIsOrigin route.destination] else [])

/-- `resolve_route`: the passages of a route, and what is wrong with it. -/
def resolveRoute : List Passage × List RouteError :=
  let unknown := doc.unknownEdges route
  if unknown ≠ [] then ([], unknown)
  else
    let errors := doc.chainErrors route
    if errors ≠ [] then ([], errors)
    else
      let chain := doc.chain route
      ((chain.zip chain.tail).filterMap passage, [])

end

end NetworkDocument

end Coupling
end UrbanFlow.Networks
