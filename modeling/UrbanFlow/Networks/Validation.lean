import UrbanFlow.Networks.Document

/-!
# Validating a network

`validate_network` on a parsed document: the checks of the nodes, the edges, the
graph, the routes and the demand, in their order, and then of the scenarios that
the demand of the routes derives. Warnings are left out.
-/

namespace UrbanFlow.Networks
namespace Coupling

open Scenario

def maxArmVph : ℚ := 7200

def vehicleClasses : List String := ["car", "suv", "bus", "truck", "motorcycle"]

/-- The end of an edge. -/
inductive Side
  | from_
  | to_
  deriving DecidableEq, Repr

/-- What is wrong with a network. -/
inductive NetworkError
  | duplicateNode (node : String)
  | gateScenario (node : String)
  | noScenario (node : String)
  | scenario (node error : String)
  | junctionType (node : String) (declared actual : JunctionType)
  | duplicateEdge (edge : String)
  | unknownNode (edge : String) (side : Side) (node : String)
  | needsArm (edge : String) (side : Side) (node : String)
  | noSuchArm (edge : String) (side : Side) (arm : Direction) (node : String)
  | armTaken (edge : String) (side : Side) (arm : Direction) (node : String)
  | gateArm (edge : String) (side : Side) (node : String)
  | leavesDestination (edge node : String)
  | entersOrigin (edge node : String)
  | selfLoop (edge node : String)
  | duplicateLaneIndex (edge : String)
  | laneTooHigh (edge : String) (indices : List Nat) (lanes : Nat)
  | disconnected (missing reached : List String)
  | cycle
  | duplicateRoute (route : String)
  | route (route : String) (error : RouteError)
  | demandUnknownRoute (route : String)
  | demandTwice (route : String)
  | unknownClasses (route : String) (classes : List String)
  | negativeShare (route : String)
  | warmup
  | armDemand (arm : Direction) (node : String) (vehiclesPerHour : ℚ)
  | derived (node error : String)
  deriving DecidableEq, Repr

def inlineArms (node : NodeSpec) : Option (List Direction) := match node.scenario with
  | some (.inline document) => some (document.approaches.present.map Prod.fst)
  | _ => none

section

variable (doc : NetworkDocument)

/-- An end of an edge at a junction: the arm that it takes. -/
def junctionPort (port : EdgePort) : Option (String × Direction) :=
  match doc.nodeById port.node, port.arm with
  | some node, some arm => if node.kind = .junction then some (node.id, arm) else none
  | _, _ => none

/-- What is wrong with an end of an edge, when some arms are taken. -/
def portErrors (edge : String) (side : Side) (port : EdgePort)
    (taken : List (String × Direction)) : List NetworkError :=
  match doc.nodeById port.node with
  | none => [.unknownNode edge side port.node]
  | some node =>
    if node.kind = .junction then match port.arm with
      | none => [.needsArm edge side node.id]
      | some arm =>
        (if ((inlineArms node).map fun arms => decide (arm ∈ arms)) = some false then
          [.noSuchArm edge side arm node.id] else []) ++
          (if (node.id, arm) ∈ taken then [.armTaken edge side arm node.id]
          else [])
    else (if port.arm.isSome then [.gateArm edge side node.id] else []) ++
        (if side = .from_ ∧ node.kind = .destination then
          [.leavesDestination edge node.id] else []) ++
        (if side = .to_ ∧ node.kind = .origin then [.entersOrigin edge node.id]
        else [])

def checkLaneMetadata (edge : EdgeSpec) : List NetworkError :=
  let indices := (edge.laneMetadata.getD []).map LaneSpec.index
  let tooHigh := (indices.filter fun index => edge.lanes < index).insertionSort (· ≤ ·)
  (if indices.Nodup then [] else [.duplicateLaneIndex edge.id]) ++
    (if tooHigh = [] then [] else [.laneTooHigh edge.id tooHigh edge.lanes])

/-- What is wrong with an edge after others. -/
def edgeErrors (seen : List EdgeSpec) (edge : EdgeSpec) : List NetworkError :=
  (if edge.id ∈ seen.map EdgeSpec.id then [.duplicateEdge edge.id] else []) ++
    portErrors doc edge.id .from_ edge.from_
      (seen.filterMap fun other => junctionPort doc other.from_) ++
    portErrors doc edge.id .to_ edge.to_ (seen.filterMap fun other => junctionPort doc other.to_) ++
    (if edge.from_.node = edge.to_.node then [.selfLoop edge.id edge.from_.node]
    else []) ++
    checkLaneMetadata edge

def errorsAfter {Item Issue : Type} (errors : List Item → Item → List Issue)
    (seen : List Item) : List Item → List Issue
  | [] => []
  | item :: items => errors seen item ++ errorsAfter errors (seen ++ [item]) items

def checkEdges : List NetworkError := errorsAfter (edgeErrors doc) [] doc.edges

end

/-- What is wrong with the scenario of a node. -/
def scenarioErrors (contract : Contract) (node : NodeSpec) : Except PyMessage (List NetworkError) :=
  if node.kind ≠ .junction then pure (if node.scenario.isSome ∨ node.junctionType.isSome then
      [.gateScenario node.id] else [])
  else match node.scenario with
    | none => pure [.noScenario node.id]
    | some (.ref _) => pure []
    | some (.inline document) => do
      let report ← contract.validateScenario document none
      pure (report.errors.map (.scenario node.id) ++
        (node.junctionType.toList.filterMap fun declared =>
          if declared ≠ document.junction then
            some (.junctionType node.id declared document.junction)
          else none))

def checkNodes (contract : Contract)
    (doc : NetworkDocument) : Except PyMessage (List NetworkError) :=
  go [] doc.nodes
where
  /-- The errors of some nodes after others. -/
  go (seen : List String) : List NodeSpec → Except PyMessage (List NetworkError)
    | [] => pure []
    | node :: nodes => do
      let found ← scenarioErrors contract node
      let others ← go (seen ++ [node.id]) nodes
      pure ((if node.id ∈ seen then [.duplicateNode node.id] else []) ++ found ++ others)

/-- The nodes that are reached from the ones on the stack, however the edges are
directed. A node is put on the stack once. -/
def reach (neighbours : String → List String) : Nat → List String → List String → List String
  | 0, _, reached => reached
  | _ + 1, [], reached => reached
  | fuel + 1, node :: stack, reached =>
    let new := (neighbours node).filter fun other => other ∉ reached
    reach neighbours fuel (new.reverse ++ stack) (reached ++ new)

def checkGraph (doc : NetworkDocument) : List NetworkError :=
  let graph := doc.nodeAdjacency
  let sorted : List String := graph.nodes.insertionSort (· ≤ ·)
  let neighbours : String → List String := fun node =>
    sorted.filter fun other => other ∈ graph.targets node ∨ node ∈ graph.targets other
  let reached := reach neighbours graph.nodes.length (sorted.take 1) (sorted.take 1)
  let missing := sorted.filter fun node => node ∉ reached
  (if missing.isEmpty then []
    else [NetworkError.disconnected missing (reached.insertionSort (· ≤ ·))]) ++
    (if graph.topologicalOrder.isNone then [NetworkError.cycle] else [])

/-- What the routes bring into the arms of the junctions, by movement; a movement
that no route makes has no entry. -/
abbrev Flows := String × Direction → TurnIntent → Option ℚ

/-- The movements, in the order of their names. -/
def movements : List TurnIntent := [.left, .right, .straight, .uturn]

/-- `sum(by_move.values())`. -/
def total (byMove : TurnIntent → Option ℚ) : ℚ :=
  (movements.map fun turn => (byMove turn).getD 0).sum

/-- The demand of a route is added at one of its passages. -/
def addPassage (vph : ℚ) (flows : Flows) (passage : Passage) : Flows :=
  let key := (passage.node, passage.entryArm)
  let byMove := flows key
  Function.update flows key (Function.update byMove passage.movement
      (some ((byMove passage.movement).getD 0 + vph)))

section

variable (doc : NetworkDocument)

def armMovementFlows : Flows := doc.sortedRoutes.foldl (fun flows route =>
      (doc.resolveRoute route).1.foldl (addPassage (doc.demandOf route.id)) flows)
    fun _ _ => none

/-- The keys of the flows: the arms that a passage enters. -/
def flowKeys : List (String × Direction) := (doc.sortedRoutes.flatMap fun route =>
    (doc.resolveRoute route).1.map fun passage => (passage.node, passage.entryArm)).dedup

def shares (byMove : TurnIntent → Option ℚ) (turn : TurnIntent) : Option ℚ :=
  if 0 < total byMove then (byMove turn).map fun vph => vph / total byMove else none

/-- An arm with the volume and the turning of the routes; an arm that no route
reaches keeps its own. -/
def deriveArm (byMove : TurnIntent → Option ℚ) (spec : ApproachSpec) : ApproachSpec :=
  if movements.all fun turn => (byMove turn).isNone then spec
  else
    { spec with
      vehiclesPerHour := total byMove
      turning :=
        { left := (shares byMove .left).getD 0
          straight := (shares byMove .straight).getD 0
          right := (shares byMove .right).getD 0
          uturn := if (shares byMove .uturn).getD 0 = 0 then none else shares byMove .uturn } }

/-- The scenario of a junction with the volumes and the turning of the routes. -/
def deriveScenario (flows : Flows) (node : String)
    (document : ScenarioDocument) : ScenarioDocument :=
  { document with
    approaches :=
      { north := document.approaches.north.map (deriveArm (flows (node, .north)))
        south := document.approaches.south.map (deriveArm (flows (node, .south)))
        east := document.approaches.east.map (deriveArm (flows (node, .east)))
        west := document.approaches.west.map (deriveArm (flows (node, .west))) } }

/-- The fields of an arm that were written and are out of their ranges. -/
def rangeErrors (entry : Direction × ApproachSpec) : List String :=
  let field := "approaches." ++ entry.1.value ++ "."
  let turning := entry.2.turning
  (if 0 ≤ entry.2.vehiclesPerHour ∧ entry.2.vehiclesPerHour ≤ 7200 then []
    else [field ++ "vehiclesPerHour"]) ++
    ([("left", some turning.left), ("straight", some turning.straight),
        ("right", some turning.right), ("uturn", turning.uturn)].filterMap
      fun share =>
        match share.2 with
        | some value =>
          if 0 ≤ value ∧ value ≤ 1 then none
          else some (field ++ "turning." ++ share.1)
        | none => none)

/-- `ScenarioDocument.model_validate` of a derived scenario, whose other fields
come from a document: the fields it refuses. -/
def modelErrors (document : ScenarioDocument) : List String :=
  document.approaches.present.flatMap rangeErrors

/-- The derived scenarios, in the order of their nodes. -/
def derivedScenarios : List (String × ScenarioDocument) := doc.sortedNodes.filterMap fun node =>
    match node.scenario with
    | some (.inline document) =>
      if node.kind = .junction then
        some (node.id, deriveScenario (armMovementFlows doc) node.id document)
      else none
    | _ => none

end

/-- What is wrong with a derived scenario. -/
def derivedErrors (contract : Contract)
    (entry : String × ScenarioDocument) : Except PyMessage (List NetworkError) :=
  if modelErrors entry.2 ≠ [] then pure ((modelErrors entry.2).map (NetworkError.derived entry.1))
  else do
    let report ← contract.validateScenario entry.2 none
    pure (report.errors.map (NetworkError.derived entry.1))

/-- `derive_node_scenarios`: the derived scenarios in the order of their nodes, and
what is wrong with them. -/
def deriveNodeScenarios (contract : Contract) (doc : NetworkDocument) :
    Except PyMessage (List (String × ScenarioDocument) × List NetworkError) :=
  ((derivedScenarios doc).mapM (derivedErrors contract)).map fun errors =>
    (derivedScenarios doc, errors.flatten)

def checkMix (item : DemandSpec) : List NetworkError := match item.vehicleMix with
  | none => []
  | some mix =>
    let unknown := ((mix.map Prod.fst).dedup.filter fun name =>
      name ∉ vehicleClasses).insertionSort (· ≤ ·)
    (if unknown = [] then [] else [.unknownClasses item.routeId unknown]) ++
      (if mix.any fun share => share.2 < 0 then [.negativeShare item.routeId] else [])

section

variable (doc : NetworkDocument)

/-- What is wrong with a route after others. -/
def routeErrors (seen : List RouteSpec) (route : RouteSpec) : List NetworkError :=
  (if route.id ∈ seen.map RouteSpec.id then [.duplicateRoute route.id] else []) ++
    (doc.resolveRoute route).2.map (.route route.id)

/-- What is wrong with a demand after others. -/
def demandErrors (seen : List DemandSpec) (item : DemandSpec) : List NetworkError :=
  (if item.routeId ∈ doc.routes.map RouteSpec.id then [] else [.demandUnknownRoute item.routeId]) ++
    (if item.routeId ∈ seen.map DemandSpec.routeId then [.demandTwice item.routeId]
    else []) ++
    checkMix item

/-- `_check_routes_and_demand`, after the errors found before. -/
def checkRoutesAndDemand (before : List NetworkError) : List NetworkError :=
  let found := errorsAfter (routeErrors doc) [] doc.routes ++
    errorsAfter (demandErrors doc) [] doc.demand ++
    (if doc.simulation.duration ≤ doc.simulation.warmup then [.warmup] else [])
  if before ++ found ≠ [] then found
  else ((flowKeys doc).insertionSort fun first second =>
        first.1 < second.1 ∨ first.1 = second.1 ∧ first.2.value ≤ second.2.value).filterMap
      fun key =>
        if maxArmVph < total (armMovementFlows doc key) then
          some (.armDemand key.2 key.1 (total (armMovementFlows doc key)))
        else none

end

/-- `validate_network`: the errors of a parsed document. -/
def validateNetwork (contract : Contract)
    (doc : NetworkDocument) : Except PyMessage (List NetworkError) := do
  let nodeErrors ← checkNodes contract doc
  let before := nodeErrors ++ checkEdges doc ++ checkGraph doc
  let errors := before ++ checkRoutesAndDemand doc before
  if errors ≠ [] then pure errors
  else
    let derived ← deriveNodeScenarios contract doc
    pure derived.2

end Coupling
end UrbanFlow.Networks
