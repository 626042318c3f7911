import UrbanFlow.Networks.Validation

/-!
# The plan of a network

`compile_network`: the order of the junctions, what the routes bring into each
arm, where it comes from, and the demand and the free-flow times of edges and
routes. The texts that every plan carries are left out.
-/

namespace UrbanFlow.Networks
namespace Coupling

open Scenario

/-- Where the vehicles that enter an arm come from. -/
structure Upstream where
  edge : String
  fromNode : String
  fromKind : Kind
  fromArm : Option Direction
  deriving DecidableEq, Repr

structure JunctionPlan where
  inflowByArm : List (Direction × ℚ)
  turningByArm : List (Direction × List (TurnIntent × ℚ))
  upstream : List (Direction × Upstream)
  scenarioFingerprint : Option String
  scenarioRef : Option String
  deriving DecidableEq, Repr

structure PlanNode where
  id : String
  kind : Kind
  junctionType : Option JunctionType
  junction : Option JunctionPlan
  deriving DecidableEq, Repr

structure PlanEdge where
  id : String
  from_ : EdgePort
  to_ : EdgePort
  lengthMeters : ℚ
  lanes : Nat
  speedLimit : ℚ
  freeFlowSeconds : ℚ
  demandVph : ℚ
  laneMetadata : List LaneSpec
  deriving DecidableEq, Repr

structure PlanRoute where
  id : String
  origin : String
  destination : String
  path : List String
  demandVph : ℚ
  freeFlowSeconds : ℚ
  passages : List Passage
  deriving DecidableEq, Repr

/-- The plan of a network. -/
structure Plan where
  order : List String
  nodes : List PlanNode
  edges : List PlanEdge
  routes : List PlanRoute
  deriving DecidableEq, Repr

/-- Why there is no plan: the `ValueError` of a cycle, the `KeyError` of an id that
the document does not have, the `ValidationError` of a derived scenario. -/
inductive CompileError
  | cycle
  | unknownNode (node : String)
  | unknownEdge (edge : String)
  | invalidScenario (node : String)
  deriving DecidableEq, Repr

/-- The arms, in the order of their names. -/
def arms : List Direction := [.east, .north, .south, .west]

section

variable (doc : NetworkDocument)

/-- The edge into an arm of a junction, the last of several in the order of their
ids. -/
def feeding (node : String) (arm : Direction) : Option EdgeSpec :=
  doc.sortedEdges.reverse.find? fun edge => junctionPort doc edge.to_ = some (node, arm)

/-- Where the vehicles of an edge come from. -/
def upstreamOf (edge : EdgeSpec) : Except CompileError Upstream :=
  match doc.nodeById edge.from_.node with
  | none => .error (.unknownNode edge.from_.node)
  | some source =>
    .ok
      { edge := edge.id
        fromNode := source.id
        fromKind := source.kind
        fromArm := edge.from_.arm }

/-- The edges into the arms of a junction. -/
def feedingEdges (node : String) : List (Direction × EdgeSpec) :=
  arms.filterMap fun arm => (feeding doc node arm).map fun edge => (arm, edge)

/-- Where the vehicles of an arm come from. -/
def upstreamEntry (entry : Direction × EdgeSpec) : Except CompileError (Direction × Upstream) :=
  (upstreamOf doc entry.2).map fun upstream => (entry.1, upstream)

end

def derivedFingerprint (contract : Contract) (doc : NetworkDocument)
    (node : String) : Except CompileError (Option String) :=
  match (derivedScenarios doc).lookup node with
  | none => .ok none
  | some document =>
    if modelErrors document = [] then .ok (some (contract.fingerprint document))
    else .error (.invalidScenario node)

/-- The ends of edges are compared by their parts. -/
theorem lawfulBEq_nodeArm : LawfulBEq (String × Direction) := inferInstance

section

attribute [local instance] lawfulBEq_nodeArm

def junctionPlan (contract : Contract) (doc : NetworkDocument)
    (node : NodeSpec) : Except CompileError JunctionPlan := do
  let flows := armMovementFlows doc
  let fed := feedingEdges doc node.id
  let upstream ← fed.mapM (upstreamEntry doc)
  let fingerprint ← derivedFingerprint contract doc node.id
  pure
    { inflowByArm := fed.map fun entry => (entry.1, total (flows (node.id, entry.1)))
      turningByArm := fed.filterMap fun entry =>
        if (node.id, entry.1) ∈ flowKeys doc then some (entry.1, movements.filterMap fun turn =>
            (shares (flows (node.id, entry.1)) turn).map fun share => (turn, share))
        else none
      upstream := upstream
      scenarioFingerprint := fingerprint
      scenarioRef := if fingerprint.isSome then none else match node.scenario with
          | some (.ref ref) => some ref
          | _ => none }

end

def planNode (contract : Contract) (doc : NetworkDocument)
    (id : String) : Except CompileError PlanNode :=
  match doc.nodeById id with
  | none => .error (.unknownNode id)
  | some node =>
    (if node.kind = .junction then (junctionPlan contract doc node).map some
      else .ok none).map fun junction =>
      { id := node.id
        kind := node.kind
        junctionType := node.resolvedJunctionType
        junction := junction }

section

variable (doc : NetworkDocument)

/-- `edge_flow`: the demand of each route is added on every edge of its path. -/
def edgeFlow : String → ℚ := doc.sortedRoutes.foldl (fun flow route =>
      route.path.foldl (fun flow edge =>
          Function.update flow edge (flow edge + doc.demandOf route.id))
        flow)
    fun _ => 0

def knownEdge (id : String) : Except CompileError EdgeSpec := match doc.edgeById id with
  | none => .error (.unknownEdge id)
  | some edge => .ok edge

def planRoute (route : RouteSpec) : Except CompileError PlanRoute := do
  let edges ← route.path.mapM (knownEdge doc)
  pure
    { id := route.id
      origin := route.origin
      destination := route.destination
      path := route.path
      demandVph := doc.demandOf route.id
      freeFlowSeconds := pyRound (edges.map fun edge => edge.lengthMeters / edge.speedLimit).sum 3
      passages := (doc.resolveRoute route).1 }

def planEdge (edge : EdgeSpec) : PlanEdge where
  id := edge.id
  from_ := edge.from_
  to_ := edge.to_
  lengthMeters := edge.lengthMeters
  lanes := edge.lanes
  speedLimit := edge.speedLimit
  freeFlowSeconds := pyRound (edge.lengthMeters / edge.speedLimit) 3
  demandVph := edgeFlow doc edge.id
  laneMetadata := (edge.laneMetadata.getD []).insertionSort fun first second =>
    first.index ≤ second.index

/-- The nodes at the ends of an edge are looked up. -/
def checkEnds (edge : EdgeSpec) : Except CompileError Unit := match doc.nodeById edge.to_.node with
  | none => .error (.unknownNode edge.to_.node)
  | some target =>
    if target.kind = .junction ∧ edge.to_.arm.isSome then (upstreamOf doc edge).map fun _ => ()
    else .ok ()

end

def compileNetwork (contract : Contract) (doc : NetworkDocument) : Except CompileError Plan :=
  match doc.nodeAdjacency.topologicalOrder with
  | none => .error .cycle
  | some order => do
    let _ ← doc.sortedEdges.mapM (checkEnds doc)
    let nodes ← order.mapM (planNode contract doc)
    let routes ← doc.sortedRoutes.mapM (planRoute doc)
    pure
      { order := order
        nodes := nodes
        edges := doc.sortedEdges.map (planEdge doc)
        routes := routes }

structure JunctionRunInput where
  nodeId : String
  scenario : Option ScenarioDocument
  inflowByArm : List (Direction × ℚ)
  turningByArm : List (Direction × List (TurnIntent × ℚ))
  seed : Int

/-- `JunctionRunResult`: the metrics, and the departures of an arm, if any. -/
structure JunctionRunResult (Metrics : Type) where
  metrics : Metrics
  departuresByArm : Direction → Option ℚ

section

variable {Memory Metrics : Type}

/-- The junctions that have run, each with what it was given. -/
abbrev Runs (Metrics : Type) := List (JunctionRunInput × JunctionRunResult Metrics)

/-- `results.get(node)`. -/
def resultOf (runs : Runs Metrics) (node : String) : Option (JunctionRunResult Metrics) :=
  (runs.reverse.find? fun run => run.1.nodeId = node).map Prod.snd

/-- What an arm receives: the departures of the junction before it, otherwise the
demand of the routes. -/
def inflow (runs : Runs Metrics) (junction : JunctionPlan) (entry : Direction × Upstream) : ℚ :=
  match resultOf runs entry.2.fromNode, entry.2.fromKind with
  | some upstream, .junction => (entry.2.fromArm.bind upstream.departuresByArm).getD 0
  | _, _ => (junction.inflowByArm.lookup entry.1).getD 0

def runInput (scenarios : String → Option ScenarioDocument) (seed : Int) (runs : Runs Metrics)
    (node : String) (junction : JunctionPlan) : JunctionRunInput where
  nodeId := node
  scenario := scenarios node
  inflowByArm := junction.upstream.map fun entry => (entry.1, inflow runs junction entry)
  turningByArm := junction.turningByArm
  seed := seed

section

variable (scenarios : String → Option ScenarioDocument)
  (executor : JunctionRunInput → Memory → JunctionRunResult Metrics × Memory) (seed : Int)

def runNode (state : Runs Metrics × Memory) (node : PlanNode) : Runs Metrics × Memory :=
  match node.junction with
  | none => state
  | some junction =>
    let input := runInput scenarios seed state.1 node.id junction
    let ran := executor input state.2
    (state.1 ++ [(input, ran.1)], ran.2)

/-- `execute_network`, with an executor that may remember what it has run. -/
def executeNetwork (nodes : List PlanNode) (start : Memory) : Runs Metrics × Memory :=
  nodes.foldl (runNode scenarios executor seed) ([], start)

end

end

end Coupling
end UrbanFlow.Networks
