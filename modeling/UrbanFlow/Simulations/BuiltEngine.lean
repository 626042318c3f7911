import UrbanFlow.Metering.Builder
import UrbanFlow.Snapshot.DualOrchestrator
import UrbanFlow.Strategies.Resolution

/-!
# The engine of a registered simulation

`register_simulation` resolves the strategy of a configuration, builds an engine and gives
it the controller of the strategy. The layout of the road network and the deadlock
detector are chosen by the engine from its own reading of the configuration. An engine is
consistent exactly when the two readings agree.
-/

namespace UrbanFlow

open Scenario DualOrchestrator StrategyResolution StrategyValidator

/-- The controllers that `create_controller` chooses from. -/
inductive BuiltController
  | fixedTimeSignal
  | adaptiveSignal
  | roundabout
  | signalisedRoundabout (plan : EntryMeteringPlan)
  deriving DecidableEq

namespace BuiltController

def strategy : BuiltController → StrategyId
  | fixedTimeSignal => .fixedTimeSignal
  | adaptiveSignal => .adaptiveSignal
  | roundabout => .conventionalRoundabout
  | signalisedRoundabout _ => .meteredEntryRoundabout

/-- It runs the traffic of a ring. -/
def RunsRing : BuiltController → Prop
  | fixedTimeSignal => False
  | adaptiveSignal => False
  | roundabout => True
  | signalisedRoundabout _ => True

/-- It has a gate at the entries that follows a metering plan. -/
def RunsMeteredEntry : BuiltController → Prop
  | signalisedRoundabout _ => True
  | _ => False

theorem runsRing_iff (controller : BuiltController) :
    controller.RunsRing ↔ controller.strategy.IsRoundabout := by
  cases controller <;> simp [RunsRing, strategy, StrategyId.IsRoundabout]

theorem runsMeteredEntry_iff (controller : BuiltController) : controller.RunsMeteredEntry ↔
      controller.strategy = .meteredEntryRoundabout := by
  cases controller <;> simp [RunsMeteredEntry, strategy]

end BuiltController

structure DeadlockDetector where
  ringOnly : Bool
  deriving DecidableEq, Repr

/-- The layout of the network of an engine, and its detector. -/
structure BuiltEngine where
  isRoundabout : Bool
  deadlockDetector : Option DeadlockDetector
  deriving DecidableEq, Repr

/-- The parts of an entry of the registry that depend on the strategy. -/
structure BuiltSimulation where
  engine : BuiltEngine
  controller : BuiltController
  strategy : StrategyId
  deriving DecidableEq

/-- Why a simulation is not registered. -/
inductive BuildError
  | strategy (error : ResolutionError)
  | raised (message : PyMessage)

/-- The parts whose construction may raise, whatever they build: the parameters of the
strategy, the clock, the roads and the traffic of the engine, the controller of a
strategy, and the metric collector. -/
structure PartBuilders where
  parameters : StrategyId → Fields → Except PyMessage Unit
  clock : Fields → Except PyMessage Unit
  traffic : Fields → Except PyMessage Unit
  controller : StrategyId → Fields → Except PyMessage Unit
  collector : Fields → Except PyMessage Unit

/-- An exception of a part. -/
def raising {α : Type} (result : Except PyMessage α) : Except BuildError α :=
  result.mapError .raised

@[simp] theorem raising_ok_iff {α : Type} {result : Except PyMessage α} {value : α} :
    raising result = .ok value ↔ result = .ok value := by
  cases result <;> simp [raising, Except.mapError]

namespace PartBuilders

variable (parts : PartBuilders)

section

variable (config : Fields)

def isMetered : Bool :=
  (geometryValue config).isText "roundabout" && (entryControlValue config).isText "metered_entry"

/-- The engine sets up its subsystems when there is a configuration. -/
def buildEngine : Except PyMessage BuiltEngine := if config.isEmpty then .ok ⟨false, none⟩ else do
    let geometry ← sectionOrEmpty config "geometry"
    let _ ← sectionOrEmpty config "controller"
    let traffic ← sectionOrEmpty config "traffic"
    parts.traffic config
    .ok
      { isRoundabout := (geometry.get "intersectionType").isText "roundabout"
        deadlockDetector := if (traffic.get "unstructuredTraffic").truthy then
            some ⟨isMetered config⟩
          else if isMetered config then some ⟨true⟩
          else none }

def createController : Except BuildError BuiltController := match resolveStrategy config with
  | .error error => .error (.strategy error)
  | .ok strategy => do
    raising (parts.controller strategy config)
    match strategy with
    | .conventionalRoundabout => .ok .roundabout
    | .meteredEntryRoundabout => do
      let plan ← raising (buildMeteringPlan config)
      .ok (.signalisedRoundabout plan)
    | .adaptiveSignal => .ok .adaptiveSignal
    | .fixedTimeSignal => .ok .fixedTimeSignal

/-- `register_simulation`, up to the slot of the registry. -/
def registerSimulation : Except BuildError BuiltSimulation := match resolveStrategy config with
  | .error error => .error (.strategy error)
  | .ok strategy => do
    raising (parts.parameters strategy config)
    raising (parts.clock config)
    let engine ← raising (parts.buildEngine config)
    let controller ← parts.createController config
    raising (parts.collector config)
    .ok ⟨engine, controller, strategy⟩

end

end PartBuilders

/-- The parts of a simulation fit together. -/
structure BuiltSimulation.Consistent (simulation : BuiltSimulation) : Prop where
  network : simulation.engine.isRoundabout = true ↔ simulation.controller.RunsRing
  controller : simulation.controller.strategy = simulation.strategy
  metered : simulation.controller.RunsMeteredEntry ↔ simulation.strategy = .meteredEntryRoundabout
  detector : simulation.engine.deadlockDetector = some ⟨true⟩ ↔
    simulation.strategy = .meteredEntryRoundabout

/-- The engine reads what the strategy is resolved from: the layout is not left to the
`junction` section, nor the entry control of a ring to the `roundabout` section. -/
structure ReadAlike (config : Fields) : Prop where
  layout : (geometryValue config).isNone = true →
    (sectionOf config "junction").get "type" ≠ .str "roundabout"
  entryControl : geometryValue config = .str "roundabout" →
    (entryControlValue config).isNone = true →
      (sectionOf config "roundabout").get "entryControl" ≠ .str "metered_entry"

namespace PartBuilders

variable {parts : PartBuilders} {config : Fields}

/-- A resolved strategy is a roundabout where the configuration declares one, and metered
where the entry control that is read for it says so. -/
theorem resolved_iff {strategy : StrategyId} (resolved : resolveStrategy config = .ok strategy) :
    (strategy.IsRoundabout ↔ extractGeometryType config = some "roundabout") ∧
      (strategy = .meteredEntryRoundabout ↔ extractGeometryType config = some "roundabout" ∧
          (readEntryControl config).isText "metered_entry" = true) := by
  cases named : extractExplicitStrategy config with
  | none =>
    obtain rfl := resolveStrategy_of_unnamed named resolved
    refine ⟨isRoundabout_inferStrategyIdFromConfig config, ?_⟩
    unfold inferStrategyIdFromConfig
    by_cases isRoundabout : extractGeometryType config = some "roundabout"
    · simp [isRoundabout]
    · simp only [isRoundabout, if_false, false_and, iff_false]
      split <;> simp
  | some =>
    have compatible : validateScenarioStrategyCompatibility config = [] := by
      unfold resolveStrategy at resolved
      split at resolved
      · assumption
      · cases resolved
    obtain ⟨found, isFound, fits⟩ := fits_of_compatible named compatible
    rw [resolveStrategy_of_named named isFound compatible] at resolved
    cases resolved
    refine ⟨fits.isRoundabout_iff, ?_⟩
    constructor
    · rintro rfl
      have isRoundabout : StrategyId.meteredEntryRoundabout.IsRoundabout := Or.inr rfl
      exact ⟨fits.isRoundabout_iff.mp isRoundabout, (fits.metered isRoundabout).mpr rfl⟩
    · rintro ⟨isRoundabout, isMetered⟩
      exact (fits.metered (fits.isRoundabout_iff.mpr isRoundabout)).mp isMetered

/-- The layout that is declared is the one of the `geometry` section, or where that gives
none the one of the `junction` section. -/
theorem extractGeometryType_iff : extractGeometryType config = some "roundabout" ↔
      geometryValue config = .str "roundabout" ∨ ((geometryValue config).isNone = true ∧
          (sectionOf config "junction").get "type" = .str "roundabout") := by
  by_cases absent : (geometryValue config).isNone = true
  · have isNone := PyValue.isNone_iff.mp absent
    simp only [extractGeometryType, isNone, reduceCtorEq, false_or, sectionOf]
    cases config.dictAt "junction" with
    | none => simp [Fields.get]
    | some junction =>
      simp only [Option.bind_some, Option.getD_some]
      cases junction.get "type" <;> simp [PyValue.asText]
  · rw [extractGeometryType_of_notNone absent, PyValue.isText_iff]
    simp [absent]

/-- The entry control that is read is the one of the `controller` section, or where that
gives none the one of the `roundabout` section. -/
theorem readEntryControl_iff : (readEntryControl config).isText "metered_entry" = true ↔
      entryControlValue config = .str "metered_entry" ∨ ((entryControlValue config).isNone = true ∧
          (sectionOf config "roundabout").get "entryControl" = .str "metered_entry") := by
  have isControl : (sectionOf config "controller").get "entryControl" =
      entryControlValue config := by
    unfold sectionOf entryControlValue
    cases config.dictAt "controller" with
    | none => simp [Fields.get]
    | some => simp
  unfold readEntryControl
  rw [isControl]
  by_cases absent : (entryControlValue config).isNone = true
  · have isNone := PyValue.isNone_iff.mp absent
    simp only [isNone, reduceCtorEq, false_or, sectionOf]
    cases config.dictAt "roundabout" with
    | none => simp [Fields.get, PyValue.isText]
    | some => simp [PyValue.isText_iff]
  · simp [absent, PyValue.isText_iff]

theorem sectionOf_of_sectionOrEmpty {key : String} {fields : Fields}
    (isSection : sectionOrEmpty config key = .ok fields) : sectionOf config key = fields := by
  unfold sectionOrEmpty at isSection
  unfold sectionOf
  split at isSection
  · rename_i absent
    have isAbsent : config.dictAt key = none := by
      simp [Fields.dictAt, Option.isNone_iff_eq_none.mp absent]
    rw [isAbsent]
    exact Except.ok.inj isSection
  · unfold objectAt at isSection
    cases isDict : config.dictAt key with
    | none =>
      rw [isDict] at isSection
      cases isSection
    | some =>
      rw [isDict] at isSection
      exact Except.ok.inj isSection

theorem get_intersectionType_sectionOf :
    (sectionOf config "geometry").get "intersectionType" = geometryValue config := by
  unfold sectionOf geometryValue
  cases config.dictAt "geometry" with
  | none => simp [Fields.get]
  | some => simp

theorem isMetered_iff : isMetered config = true ↔ geometryValue config = .str "roundabout" ∧
        entryControlValue config = .str "metered_entry" := by
  simp [isMetered, PyValue.isText_iff]

theorem buildEngine_ok {engine : BuiltEngine} (built : parts.buildEngine config = .ok engine) :
    (engine.isRoundabout = true ↔ geometryValue config = .str "roundabout") ∧
      (engine.deadlockDetector = some ⟨true⟩ ↔ isMetered config = true) := by
  unfold buildEngine at built
  split at built
  · rename_i isEmpty
    obtain rfl := List.isEmpty_iff.mp isEmpty
    cases built
    simp [geometryValue, isMetered, Fields.dictAt, PyValue.isText]
  · obtain ⟨geometry, isGeometry, built⟩ := bind_ok_iff.mp built
    obtain ⟨_, _, built⟩ := bind_ok_iff.mp built
    obtain ⟨traffic, _, built⟩ := bind_ok_iff.mp built
    obtain ⟨_, _, built⟩ := bind_ok_iff.mp built
    cases built
    refine ⟨?_, ?_⟩
    · rw [← get_intersectionType_sectionOf, sectionOf_of_sectionOrEmpty isGeometry]
      exact PyValue.isText_iff
    · simp only
      split
      · simp
      · split <;> simp_all

theorem createController_ok {strategy : StrategyId} {controller : BuiltController}
    (resolved : resolveStrategy config = .ok strategy)
    (created : parts.createController config = .ok controller) :
    controller.strategy = strategy := by
  unfold createController at created
  rw [resolved] at created
  obtain ⟨_, _, created⟩ := bind_ok_iff.mp created
  cases strategy with
  | fixedTimeSignal | adaptiveSignal | conventionalRoundabout => exact Except.ok.inj created ▸ rfl
  | meteredEntryRoundabout =>
    obtain ⟨plan, _, created⟩ := bind_ok_iff.mp created
    exact Except.ok.inj created ▸ rfl

theorem registerSimulation_ok {simulation : BuiltSimulation}
    (registered : parts.registerSimulation config = .ok simulation) :
    resolveStrategy config = .ok simulation.strategy ∧
      parts.buildEngine config = .ok simulation.engine ∧
      simulation.controller.strategy = simulation.strategy := by
  unfold registerSimulation at registered
  split at registered
  · cases registered
  · rename_i strategy resolved
    obtain ⟨_, _, registered⟩ := bind_ok_iff.mp registered
    obtain ⟨_, _, registered⟩ := bind_ok_iff.mp registered
    obtain ⟨engine, isEngine, registered⟩ := bind_ok_iff.mp registered
    obtain ⟨controller, isController, registered⟩ := bind_ok_iff.mp registered
    obtain ⟨_, _, registered⟩ := bind_ok_iff.mp registered
    cases registered
    exact ⟨resolved, raising_ok_iff.mp isEngine, createController_ok resolved isController⟩

/--
The engine of a registered simulation is consistent exactly when its configuration gives
the layout in the `geometry` section and the entry control of a ring in the `controller`
section, where the engine looks for them.
-/
theorem engine_consistent_iff (parts : PartBuilders) (config : Fields)
    (simulation : BuiltSimulation) (registered : parts.registerSimulation config = .ok simulation) :
    simulation.Consistent ↔ ReadAlike config := by
  obtain ⟨resolved, built, isController⟩ := registerSimulation_ok registered
  obtain ⟨isRoundabout, isMetered⟩ := resolved_iff resolved
  obtain ⟨layout, detector⟩ := buildEngine_ok built
  rw [extractGeometryType_iff] at isRoundabout isMetered
  rw [readEntryControl_iff] at isMetered
  rw [isMetered_iff] at detector
  constructor
  · intro consistent
    have layoutAlike : geometryValue config = .str "roundabout" ↔
        simulation.strategy.IsRoundabout := by
      rw [← layout, consistent.network, BuiltController.runsRing_iff, isController]
    refine ⟨?_, ?_⟩
    · intro absent isJunction
      have isRing := layoutAlike.mpr (isRoundabout.mpr (Or.inr ⟨absent, isJunction⟩))
      rw [isRing] at absent
      cases absent
    · intro isRing absent isSection
      have isStrategy := isMetered.mpr ⟨Or.inl isRing, Or.inr ⟨absent, isSection⟩⟩
      have isControl := (detector.mp (consistent.detector.mpr isStrategy)).2
      rw [isControl] at absent
      cases absent
  · intro alike
    have layoutAlike : simulation.strategy.IsRoundabout ↔
        geometryValue config = .str "roundabout" :=
      isRoundabout.trans (or_iff_left fun fallback => alike.layout fallback.1 fallback.2)
    have meteredAlike : simulation.strategy = .meteredEntryRoundabout ↔
        geometryValue config = .str "roundabout" ∧
          entryControlValue config = .str "metered_entry" := by
      rw [isMetered, or_iff_left fun fallback => alike.layout fallback.1 fallback.2]
      refine and_congr_right fun isRing => or_iff_left fun fallback => ?_
      exact alike.entryControl isRing fallback.1 fallback.2
    refine ⟨?_, isController, ?_, ?_⟩
    · rw [layout, BuiltController.runsRing_iff, isController, layoutAlike]
    · rw [BuiltController.runsMeteredEntry_iff, isController]
    · rw [detector, meteredAlike]

/-- Parts that never raise. -/
def plainParts : PartBuilders where
  parameters := fun _ _ => .ok ()
  clock := fun _ => .ok ()
  traffic := fun _ => .ok ()
  controller := fun _ _ => .ok ()
  collector := fun _ => .ok ()

/-- A metered roundabout whose phases are in the `controller` section. -/
def meteredRing (control rest : Fields) : Fields := [("simulation", .dict [("duration", .int 300)]),
    ("geometry", .dict [("intersectionType", .str "roundabout")]),
    ("controller", .dict (("entryMetering", .dict [("phases", .list
      [.dict [("entries", .list [.str "north", .str "south"]), ("green", .int 20)],
        .dict [("entries", .list [.str "east", .str "west"]), ("green", .int 20)]])])
      :: control))] ++ rest

/-- The layout, the detector, the controller and the strategy that are built. -/
def outline (config : Fields) : Option (Bool × Option DeadlockDetector × StrategyId × StrategyId) :=
  (plainParts.registerSimulation config).toOption.map fun simulation =>
    (simulation.engine.isRoundabout, simulation.engine.deadlockDetector,
      simulation.controller.strategy, simulation.strategy)

theorem outline_some {expected : Bool × Option DeadlockDetector × StrategyId × StrategyId}
    (isOutline : outline config = some expected) :
    ∃ simulation, plainParts.registerSimulation config = .ok simulation ∧
      simulation.engine.deadlockDetector = expected.2.1 ∧ simulation.strategy = expected.2.2.2 := by
  unfold outline at isOutline
  cases registered : plainParts.registerSimulation config with
  | error =>
    rw [registered] at isOutline
    cases isOutline
  | ok simulation =>
    rw [registered] at isOutline
    cases isOutline
    exact ⟨simulation, rfl, rfl, rfl⟩

theorem engine_consistent_metered : ∃ simulation, plainParts.registerSimulation
        (meteredRing [("entryControl", .str "metered_entry")] []) = .ok simulation ∧
      (simulation.Consistent ↔
        ReadAlike (meteredRing [("entryControl", .str "metered_entry")] [])) := by
  have isOutline : outline (meteredRing [("entryControl", .str "metered_entry")] []) =
        some (true, some ⟨true⟩, .meteredEntryRoundabout, .meteredEntryRoundabout) := by
    decide
  obtain ⟨simulation, registered, _⟩ := outline_some isOutline
  exact ⟨simulation, registered, engine_consistent_iff plainParts _ simulation registered⟩

/-- The entry control stands in the `roundabout` section: the roundabout is metered, and
has no detector. -/
theorem engine_not_consistent : ∃ simulation, plainParts.registerSimulation (meteredRing []
          [("roundabout", .dict [("entryControl", .str "metered_entry")])]) =
          .ok simulation ∧
      simulation.strategy = .meteredEntryRoundabout ∧
      simulation.engine.deadlockDetector = none ∧ ¬ simulation.Consistent := by
  have isOutline : outline (meteredRing []
          [("roundabout", .dict [("entryControl", .str "metered_entry")])]) =
        some (true, none, .meteredEntryRoundabout, .meteredEntryRoundabout) := by
    decide
  obtain ⟨simulation, registered, noDetector, isStrategy⟩ := outline_some isOutline
  refine ⟨simulation, registered, isStrategy, noDetector, ?_⟩
  intro consistent
  have isDetector := consistent.detector.mpr isStrategy
  rw [noDetector] at isDetector
  cases isDetector

end PartBuilders
end UrbanFlow
