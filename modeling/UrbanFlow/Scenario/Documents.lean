import UrbanFlow.Scenario.Merge
import UrbanFlow.Strategies.Registry

/-!
# Scenario documents

A scenario document describes a junction and its traffic. `compile_scenario`
turns it into the engine configuration of one strategy: every strategy is
compiled from the same document, and the free-form `advanced` section is merged
into each configuration last. `compile_live_comparison` makes the one
configuration that the side-by-side comparison derives both of its engines from.
-/

namespace UrbanFlow.Scenario

structure Turning where
  left : ℚ
  straight : ℚ
  right : ℚ
  uturn : Option ℚ := none
  deriving DecidableEq, Repr

/-- `Mix`: the share of each vehicle class. -/
structure Mix where
  car : ℚ := 0
  suv : ℚ := 0
  bus : ℚ := 0
  truck : ℚ := 0
  motorcycle : ℚ := 0
  deriving DecidableEq, Repr

/-- `ApproachSpec`: one arm, its incoming lanes and the traffic on it. -/
structure ApproachSpec where
  lanes : Nat
  length : ℚ := 200
  laneUse : Option (List (List TurnIntent)) := none
  roundaboutLaneUse : Option (List (List TurnIntent)) := none
  vehiclesPerHour : ℚ
  turning : Turning := ⟨1 / 5, 3 / 5, 1 / 5, none⟩
  vehicleMix : Option Mix := none
  bearing : Option ℚ := none
  laneWidth : Option ℚ := none
  deriving DecidableEq, Repr

structure Approaches where
  north : Option ApproachSpec
  south : Option ApproachSpec
  east : Option ApproachSpec
  west : Option ApproachSpec
  deriving DecidableEq, Repr

structure RoadSpec where
  laneWidth : ℚ := 7 / 2
  speedLimit : ℚ := 1389 / 100
  laneChanging : Bool := true
  deriving DecidableEq, Repr

structure VehicleSpec where
  mix : Option Mix := none
  types : Option (List (String × Fields)) := none

structure AdaptiveSpec where
  minGreen : ℚ := 10
  maxGreen : ℚ := 50
  extensionStep : ℚ := 5 / 2
  detectionDistance : ℚ := 30
  demandThreshold : Int := 1
  deriving DecidableEq, Repr

structure SignalSpec where
  greenTime : ℚ := 30
  nsGreenTime : Option ℚ := none
  ewGreenTime : Option ℚ := none
  yellowTime : ℚ := 4
  allRedTime : ℚ := 2
  adaptive : AdaptiveSpec := {}
  deriving DecidableEq, Repr

/-- `MeteredPhaseSpec` of the document. -/
structure MeteredPhase where
  entries : List String
  green : ℚ
  minGreen : Option ℚ := none
  maxGreen : Option ℚ := none
  deriving DecidableEq, Repr

structure SpillbackGuardSpec where
  enabled : Bool := false
  stoppedThreshold : Int := 2
  maxHold : ℚ := 10
  deriving DecidableEq, Repr

structure QueueCapSpec where
  enabled : Bool := false
  vehicles : Int := 8
  deriving DecidableEq, Repr

structure EntryMeteringSpec where
  phases : List MeteredPhase
  yellow : ℚ := 3
  allRed : ℚ := 2
  offset : ℚ := 0
  spillbackGuard : Option SpillbackGuardSpec := none
  queueCap : Option QueueCapSpec := none
  deriving DecidableEq, Repr

inductive EntryControl
  | meteredEntry
  | none
  deriving DecidableEq, Repr

structure RoundaboutSpec where
  circulatingLanes : Option Int := Option.none
  innerRadius : ℚ := 10
  outerRadius : ℚ := 20
  criticalGap : ℚ := 4
  followUpTime : ℚ := 5 / 2
  entrySpeed : ℚ := 5
  circulatingSpeed : ℚ := 8
  entryControl : Option EntryControl := Option.none
  entryMetering : Option EntryMeteringSpec := Option.none
  deriving DecidableEq, Repr

inductive ArrivalPattern
  | poisson
  | uniform
  deriving DecidableEq, Repr

structure SimulationSpec where
  duration : ℚ := 300
  warmup : ℚ := 30
  seed : Int := 42
  arrivalPattern : ArrivalPattern := .poisson
  timeStep : ℚ := 1 / 10
  deriving DecidableEq, Repr

/-- `JunctionSpec`: the junction type a document names. -/
inductive JunctionType
  | fixedTimeSignal
  | adaptiveSignal
  | roundabout
  deriving DecidableEq, Repr

structure EntryQueueSpec where
  enabled : Bool := false
  capacity : Option Int := none
  deriving DecidableEq, Repr

inductive DriverAggression
  | standard
  | moderate
  | high
  deriving DecidableEq, Repr

structure TrafficSpec where
  driverAggression : Option DriverAggression := none
  entryQueue : Option EntryQueueSpec := none
  deriving DecidableEq, Repr

/-- `ScenarioDocument`. The keys of a JSON object are distinct. -/
structure ScenarioDocument where
  name : String := "Custom scenario"
  junction : JunctionType
  approaches : Approaches
  roads : RoadSpec := {}
  vehicles : VehicleSpec := {}
  signal : SignalSpec := {}
  roundabout : RoundaboutSpec := {}
  simulation : SimulationSpec := {}
  traffic : Option TrafficSpec := none
  advanced : Option Fields := none
  advanced_distinct : ∀ fields ∈ advanced, Fields.Distinct fields

/-- A document without an advanced section. -/
theorem noAdvanced_distinct : ∀ fields ∈ (none : Option Fields), Fields.Distinct fields :=
  fun _ absent => absurd absent (Option.not_mem_none _)

/-- A key that is only written when there is a value. -/
def optional (key : String) (value : Option PyValue) : Fields := match value with
  | none => []
  | some value => [(key, value)]

/-- The name of a movement. -/
def movement : TurnIntent → String
  | .uturn => "uturn"
  | .left => "left"
  | .straight => "straight"
  | .right => "right"

def laneUseValue (lanes : List (List TurnIntent)) : PyValue :=
  .list (lanes.map fun lane => .list (lane.map fun turn => .str (movement turn)))

/-- The shares of a mix, class by class. -/
def Mix.shares (mix : Mix) : List (String × ℚ) :=
  [("car", mix.car), ("suv", mix.suv), ("bus", mix.bus),
    ("truck", mix.truck), ("motorcycle", mix.motorcycle)]

def mixDict (mix : Mix) : PyValue :=
  let positive := mix.shares.filter fun share => 0 < share.2
  let kept := if positive = [] then mix.shares else positive
  .dict (kept.map fun share => (share.1, .float share.2))

def turningDict (turning : Turning) : PyValue :=
  .dict ([("left", .float turning.left), ("straight", .float turning.straight),
      ("right", .float turning.right)] ++
    optional "uturn" (turning.uturn.map .float))

/-- The name of a driver aggression profile. -/
def DriverAggression.value : DriverAggression → String
  | standard => "standard"
  | moderate => "moderate"
  | high => "high"

/-- The value of `entryControl`. -/
def EntryControl.value : EntryControl → String
  | meteredEntry => "metered_entry"
  | none => "none"

/-- `adaptive.model_dump()`. -/
def AdaptiveSpec.dump (spec : AdaptiveSpec) : PyValue :=
  .dict [("minGreen", .float spec.minGreen), ("maxGreen", .float spec.maxGreen),
      ("extensionStep", .float spec.extensionStep),
      ("detectionDistance", .float spec.detectionDistance),
      ("demandThreshold", .int spec.demandThreshold)]

/-- `model_dump(exclude_none=True)` of a phase. -/
def MeteredPhase.dump (phase : MeteredPhase) : PyValue :=
  .dict ([("entries", .list (phase.entries.map .str)), ("green", .float phase.green)] ++
    optional "minGreen" (phase.minGreen.map .float) ++
    optional "maxGreen" (phase.maxGreen.map .float))

/-- `entryMetering.model_dump(exclude_none=True)`. -/
def EntryMeteringSpec.dump (spec : EntryMeteringSpec) : PyValue :=
  .dict ([("phases", .list (spec.phases.map MeteredPhase.dump)),
      ("yellow", .float spec.yellow), ("allRed", .float spec.allRed),
      ("offset", .float spec.offset)] ++
    optional "spillbackGuard" (spec.spillbackGuard.map fun guard =>
      .dict [("enabled", .bool guard.enabled), ("stoppedThreshold", .int guard.stoppedThreshold),
        ("maxHold", .float guard.maxHold)]) ++
    optional "queueCap" (spec.queueCap.map fun cap =>
      .dict [("enabled", .bool cap.enabled), ("vehicles", .int cap.vehicles)]))

namespace Approaches

def arm (approaches : Approaches) : Direction → Option ApproachSpec
  | .north => approaches.north
  | .south => approaches.south
  | .east => approaches.east
  | .west => approaches.west

def present (approaches : Approaches) : List (Direction × ApproachSpec) :=
  Direction.all.filterMap fun direction =>
    (approaches.arm direction).map fun arm => (direction, arm)

end Approaches

def defaultPhaseSequence : List String :=
  ["ns_green", "ns_yellow", "all_red", "ew_green", "ew_yellow", "all_red"]

def demandVehicleLimit (arrivalRate duration : ℚ) : Int :=
  let expected := max 0 arrivalRate * max 0 duration
  let derived := ⌈expected * (3 / 2)⌉ + 50
  min 5000 (max 200 derived)

def scenarioFormat : String := "urbanflow-scenario"

def strategies : List String := ["fixed_time", "adaptive", "roundabout"]

namespace ScenarioDocument

section

variable (document : ScenarioDocument)

def totalVehiclesPerHour : ℚ :=
  (document.approaches.present.map fun entry => entry.2.vehiclesPerHour).sum

section

variable (isRoundabout : Bool)

/-- One item of `roads.approaches`: the lane use is the one of the junction's
own design. -/
def roadItem (entry : Direction × ApproachSpec) : PyValue :=
  let arm := entry.2
  let laneUse := if isRoundabout then arm.roundaboutLaneUse else arm.laneUse
  .dict ([("direction", .str entry.1.value), ("lanes", .int arm.lanes),
      ("length", .float arm.length)] ++
    optional "laneUse" (laneUse.map laneUseValue) ++
    optional "bearing" (arm.bearing.map .float) ++
    optional "laneWidth" (arm.laneWidth.map .float))

/-- One item of `traffic.approaches`. -/
def trafficItem (entry : Direction × ApproachSpec) : PyValue :=
  .dict ([("direction", .str entry.1.value), ("turnProbabilities", turningDict entry.2.turning)] ++
    optional "vehicleMix" (entry.2.vehicleMix.map mixDict))

/-- `config["simulation"]`. -/
def simulationSection : Fields :=
  let sim := document.simulation
  [("duration", .float sim.duration), ("timeStep", .float sim.timeStep),
    ("warmupTime", .float sim.warmup), ("randomSeed", .int sim.seed)]

/-- `config["geometry"]`. -/
def geometrySection : Fields :=
  let arms := document.approaches.present
  [("intersectionType", .str (if isRoundabout then "roundabout" else "fixed_time_signal")),
    ("intersectionCenter", .dict [("x", .float 0), ("y", .float 0)])] ++
  optional "arms" (if arms.length < Direction.all.length then
    some (.list (arms.map fun entry => .str entry.1.value)) else none) ++
  optional "circulatingLanes"
    (if isRoundabout then document.roundabout.circulatingLanes.map .int else none)

/-- `config["roads"]`. -/
def roadsSection : Fields :=
  let arms := document.approaches.present
  [("approachLength", .float ((arms.map (·.2.length)).foldl max 0)),
    ("laneWidth", .float document.roads.laneWidth),
    ("speedLimit", .float document.roads.speedLimit),
    ("lanesPerApproach", .int ((arms.map (·.2.lanes)).foldl max 0 : Nat)),
    ("approaches", .list (arms.map (roadItem isRoundabout))),
    ("laneChange", .dict [("enabled", .bool document.roads.laneChanging)])]

end

/-- The share of the demand that arrives from a direction. -/
def directionalShare (direction : Direction) : ℚ := match document.approaches.arm direction with
  | some arm => arm.vehiclesPerHour / document.totalVehiclesPerHour
  | none => 0

/-- `config["traffic"]`. -/
def trafficSection : Fields :=
  let rate := document.totalVehiclesPerHour / 3600
  [("arrivalRate", .float rate), ("arrivalDistribution",
      .str (match document.simulation.arrivalPattern with
        | .poisson => "poisson"
        | .uniform => "uniform")),
    ("totalVehicles", .int (demandVehicleLimit rate document.simulation.duration)),
    ("directionalSplit", .dict (Direction.all.map fun direction =>
        (direction.value, .float (document.directionalShare direction)))),
    ("turnProbabilities", turningDict ⟨1 / 5, 3 / 5, 1 / 5, none⟩),
    ("approaches", .list (document.approaches.present.map trafficItem))] ++
  optional "driverAggression" ((document.traffic.bind (·.driverAggression)).map
    fun profile => .str profile.value) ++
  optional "entryQueue" ((document.traffic.bind (·.entryQueue)).bind fun queue =>
      if queue.enabled then some (.dict [("enabled", .bool true),
          ("capacity", (queue.capacity.map PyValue.int).getD .none)])
      else none)

/-- `config["vehicleGeneration"]`. -/
def vehicleGenerationSection : Fields :=
  optional "vehicleMix" (document.vehicles.mix.map mixDict) ++
  optional "vehicleTypes" (document.vehicles.types.bind fun types =>
    if types = [] then none
    else some (.dict (types.map fun entry => (entry.1, .dict entry.2))))

/-- The ring's settings. -/
def ringSettings : Fields :=
  let rb := document.roundabout
  [("innerRadius", .float rb.innerRadius), ("outerRadius", .float rb.outerRadius),
    ("criticalGap", .float rb.criticalGap),
    ("followUpTime", .float rb.followUpTime),
    ("entrySpeed", .float rb.entrySpeed),
    ("circulatingSpeed", .float rb.circulatingSpeed)]

end

/-- The entry control a roundabout strategy is compiled with. -/
def entryControl (document : ScenarioDocument) (strategy : StrategyId) : Option EntryControl :=
  match document.roundabout.entryControl with
  | some control => some control
  | none => if strategy = .meteredEntryRoundabout then some .meteredEntry else none

section

variable (document : ScenarioDocument)

section

variable (strategy : StrategyId)

/-- `config["controller"]`. -/
def controllerSection : Fields := if strategy.IsRoundabout then document.ringSettings ++
    optional "entryControl" ((document.entryControl strategy).map
      fun control => .str control.value) ++
    optional "entryMetering" (document.roundabout.entryMetering.map EntryMeteringSpec.dump)
  else
    let sig := document.signal
    [("straightRightDuration", .float sig.greenTime), ("yellowDuration", .float sig.yellowTime),
      ("allRedDuration", .float sig.allRedTime),
      ("phaseSequence", .list (defaultPhaseSequence.map .str))] ++
    optional "nsGreenDuration" (sig.nsGreenTime.map .float) ++
    optional "ewGreenDuration" (sig.ewGreenTime.map .float) ++
    optional "signalControl"
      (if strategy = .adaptiveSignal then some (.str "adaptive") else none) ++
    optional "adaptive" (if strategy = .adaptiveSignal then some sig.adaptive.dump else none)

/-- The configuration of a strategy, before the `advanced` section. -/
def plainConfig : Fields := [("simulation", .dict document.simulationSection),
    ("geometry", .dict (document.geometrySection (strategy.IsRoundabout))),
    ("roads", .dict (document.roadsSection (strategy.IsRoundabout))),
    ("traffic", .dict document.trafficSection),
    ("vehicleGeneration", .dict document.vehicleGenerationSection),
    ("controller", .dict (document.controllerSection strategy))]

/-- The `advanced` section, empty where the document has none. -/
def advancedFields : Fields := document.advanced.getD []

theorem advancedFields_distinct : Fields.Distinct document.advancedFields := by
  unfold advancedFields
  cases advanced : document.advanced with
  | none => trivial
  | some fields => exact document.advanced_distinct fields advanced

/-- The configuration of a strategy without its `scenario` block. -/
def mergedConfig : Fields :=
  Fields.deepMerge (document.plainConfig strategy) document.advancedFields

end

end

def armCountMessage (arms : List (Direction × ApproachSpec)) : PyMessage :=
  let names := if arms = [] then "none" else ", ".intercalate (arms.map fun entry => entry.1.value)
  [.text "approaches: ", .count arms.length,
    .text (" arm(s) given (" ++ names ++ "); a junction needs 3 or 4 arms. " ++
      "Two arms are a bend in one road, not a junction: give a three-arm " ++
      "(T or Y) or a four-arm junction")]

variable (fingerprint : ScenarioDocument → String)

section

variable (document : ScenarioDocument) (strategy : String)

/-- `config["scenario"]`. -/
def scenarioBlock : Fields := [("format", .str scenarioFormat), ("version", .int 1),
    ("name", .str document.name), ("fingerprint", .str (fingerprint document)),
    ("strategy", .str strategy)]

def compileScenario : Except PyMessage Fields := match StrategyRegistry.resolveId strategy with
  | .error _ =>
    .error [.text "Unknown strategy ", .repr (.str strategy),
      .text "; expected one of ", .str (.list (strategies.map .str))]
  | .ok canonical =>
    if ¬ 0 < document.totalVehiclesPerHour then
      .error [.text ("No traffic: every approach has 0 vehicles per hour. " ++
        "Give at least one approach some demand")]
    else if document.approaches.present.length < 3 then
      .error (armCountMessage document.approaches.present)
    else .ok ((document.mergedConfig canonical).set "scenario"
        (.dict (scenarioBlock fingerprint document strategy)))

end

end ScenarioDocument
end UrbanFlow.Scenario
