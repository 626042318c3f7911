import UrbanFlow.Scenario.Merge
import UrbanFlow.Strategies.Registry

/-!
# The strategy compatibility validator

Which strategy a configuration names, and whether that strategy, the junction
and its control fit together: `extract_explicit_strategy`,
`validate_layer_combination` and `validate_scenario_strategy_compatibility`,
with every issue in the order the validator finds it.
-/

namespace UrbanFlow

namespace PyValue

/-- `value == text`. -/
def isText (value : PyValue) (text : String) : Bool := match value with
  | str words => words = text
  | _ => false

theorem isText_iff {value : PyValue} {text : String} :
    value.isText text = true ↔ value = .str text := by
  cases value <;> simp [isText]

/-- Whether a value counts as true. -/
def truthy : PyValue → Bool
  | none => false
  | bool value => value
  | int value => value ≠ 0
  | float value => value ≠ 0
  | nan => true
  | infinity _ => true
  | str words => words ≠ ""
  | list items => items.length ≠ 0
  | tuple items => items.length ≠ 0
  | dict items => items.length ≠ 0
  | direction _ => true

def asText : PyValue → Option String
  | str words => some words
  | _ => Option.none

end PyValue

namespace StrategyResolution

/-- The strategy a field names: a string that is not blank and is no pair of
strategies, stripped. -/
def declaredName (value : PyValue) : Option String := match value with
  | .str words =>
    let stripped := pyStrip words.toList
    if stripped ≠ [] ∧ '+' ∉ words.toList then some (String.ofList stripped)
    else none
  | _ => none

/-- The names under which `scenario.strategy` says the scenario is a
roundabout. -/
def roundaboutNames : List String :=
  ["roundabout", "conventional_roundabout", "signalised_roundabout", "metered_entry_roundabout"]

section

variable (config : Fields)

/-- The strategy named at the root of a configuration or in its controller
section. -/
def declaredStrategy : Option String := match declaredName (config.get "strategy") with
  | some named => some named
  | none =>
    (config.dictAt "controller").bind fun controller => declaredName (controller.get "strategy")

/-- `geometry.intersectionType`, null where there is none. -/
def geometryValue : PyValue :=
  ((config.dictAt "geometry").map (·.get "intersectionType")).getD .none

/-- `controller.entryControl`, null where there is none. -/
def entryControlValue : PyValue :=
  ((config.dictAt "controller").map (·.get "entryControl")).getD .none

def extractExplicitStrategy : Option String := match declaredStrategy config with
  | some named => some named
  | none =>
    (config.dictAt "scenario").bind fun scenario =>
      let strategy := scenario.get "strategy"
      (declaredName strategy).bind fun stripped =>
        let geometry := geometryValue config
        let contradicts := ¬ geometry.isNone ∧ ¬ (geometry.isText "roundabout" ↔
              ∃ name ∈ roundaboutNames, strategy.isText name)
        if contradicts then none
        else if strategy.isText "roundabout" ∧
            (entryControlValue config).isText "metered_entry" then
          some "metered_entry_roundabout"
        else some stripped

def extractGeometryType : Option String :=
  let geometry := geometryValue config
  if geometry.isNone then (config.dictAt "junction").bind fun junction =>
      (junction.get "type").asText
  else geometry.asText

end

end StrategyResolution

/-- A typed diagnostic. -/
structure CompatibilityIssue where
  code : String
  message : PyMessage
  layers : List String
  suggestion : PyMessage

/-- The values of a strategy's layers that the compatibility rules read. -/
structure StrategyLayers where
  intersectionType : String
  circulatingLanes : Option (List Int)
  minArms : Int := 3
  maxArms : Int := 4
  topologyType : String
  rule : String
  policy : String
  cycleAware : Bool
  logic : String
  overlay : String := "none"
  deriving DecidableEq, Repr

namespace StrategyValidator

abbrev Issues : Type := List CompatibilityIssue

/-- The issue of a rule that is broken. -/
def issueIf (broken : Prop) [Decidable broken] (issue : CompatibilityIssue) : Issues :=
  if broken then [issue] else []

@[simp] theorem issueIf_eq_nil {broken : Prop} [Decidable broken] {issue : CompatibilityIssue} :
    issueIf broken issue = [] ↔ ¬ broken := by
  simp [issueIf]

section

variable (layers : StrategyLayers)

/-- The rules on the right of way and the geometry it needs. -/
def rightOfWayIssues : Issues := issueIf (layers.rule = "phased_priority")
    { code := "compat.phased_priority_unsupported"
      message := [.text ("Right-of-way rule 'phased_priority' is not " ++
        "implemented in V3.0 (ADR-014 §6, D-SR1)")]
      layers := ["right_of_way"]
      suggestion := [.text ("Use 'signal_over_yield' (metered_entry) mode " ++
        "with entry metering instead.")] } ++
  issueIf (layers.rule = "signal" ∧ layers.intersectionType ≠ "fixed_time_signal")
    { code := "compat.signal_requires_signal_geometry"
      message := [.text ("Signal right-of-way ('signal') requires " ++
        "'fixed_time_signal' geometry; roundabout geometry requires " ++
        "'yield_to_ring' or 'signal_over_yield', got '" ++ layers.rule ++ "'")]
      layers := ["geometry", "right_of_way"]
      suggestion := [.text ("Use 'fixed_time_signal' geometry, or change " ++
        "right-of-way to 'yield_to_ring' or 'signal_over_yield'.")] } ++
  issueIf (layers.rule ∈ ["yield_to_ring", "signal_over_yield"] ∧
      layers.intersectionType ≠ "roundabout")
    { code := "compat.roundabout_yield_requires_roundabout"
      message := [.text ("Right-of-way rule '" ++ layers.rule ++ "' requires " ++
        "'roundabout' geometry; fixed_time_signal geometry requires 'signal' " ++
        "right-of-way, got '" ++ layers.rule ++ "'")]
      layers := ["geometry", "right_of_way"]
      suggestion := [.text ("Use 'roundabout' geometry, or change " ++
        "right-of-way rule to 'signal'.")] }

/-- The rules on the geometry and the movement topology. -/
def topologyIssues : Issues := issueIf (layers.intersectionType = "fixed_time_signal" ∧
      layers.topologyType ≠ "point_based_conflicts")
    { code := "compat.signal_requires_point_topology"
      message := [.text ("fixed_time_signal requires 'point_based_conflicts' " ++
        "topology, got '" ++ layers.topologyType ++ "'")]
      layers := ["geometry", "movement_topology"]
      suggestion := [.text ("Set movement_topology.topology_type to " ++
        "'point_based_conflicts'.")] } ++
  issueIf (layers.intersectionType = "fixed_time_signal" ∧ layers.circulatingLanes ≠ none)
    { code := "compat.signal_forbids_circulating_lanes"
      message := [.text "fixed_time_signal cannot have circulating_lanes specified"]
      layers := ["geometry"]
      suggestion := [.text "Set geometry.circulating_lanes to None."] } ++
  issueIf (layers.intersectionType = "roundabout" ∧ layers.topologyType ≠ "zone_based_conflicts")
    { code := "compat.roundabout_requires_zone_topology"
      message := [.text ("roundabout requires 'zone_based_conflicts' " ++
        "topology, got '" ++ layers.topologyType ++ "'")]
      layers := ["geometry", "movement_topology"]
      suggestion := [.text ("Set movement_topology.topology_type to " ++
        "'zone_based_conflicts'.")] } ++
  issueIf (layers.intersectionType = "roundabout" ∧ layers.circulatingLanes.getD [] = [])
    { code := "compat.roundabout_requires_circulating_lanes"
      message := [.text "roundabout geometry requires circulating_lanes definition"]
      layers := ["geometry"]
      suggestion :=
        [.text "Specify circulating_lanes (e.g. [1] or [1, 2])."] }

/-- A right of way that needs another control policy. -/
def policyIssue (rule policy code suggestion : String) : Issues :=
  issueIf (layers.rule = rule ∧ layers.policy ≠ policy)
    { code := code
      message := [.text ("'" ++ rule ++ "' rule requires '" ++ policy ++
        "' policy, got '" ++ layers.policy ++ "'")]
      layers := ["right_of_way", "control_policy"]
      suggestion := [.text suggestion] }

/-- The rules on the control policy. -/
def policyIssues : Issues :=
  policyIssue layers "signal" "fixed_time_phase_plan" "compat.signal_row_requires_phase_plan"
    "Set control_policy.policy to 'fixed_time_phase_plan'." ++
  policyIssue layers "yield_to_ring" "uncontrolled" "compat.yield_to_ring_requires_uncontrolled"
    ("Set control_policy.policy to 'uncontrolled', or use " ++
      "'signal_over_yield' for metered roundabouts.") ++
  policyIssue layers "signal_over_yield" "metering" "compat.signal_over_yield_requires_metering"
    "Set control_policy.policy to 'metering'." ++
  issueIf (layers.logic = "gap_out_extension" ∧
      layers.policy ∉ ["fixed_time_phase_plan", "metering"])
    { code := "compat.adaptive_unsupported_policy"
      message := [.text ("'gap_out_extension' logic requires a phase plan or " ++
        "metering policy, got '" ++ layers.policy ++ "'")]
      layers := ["control_policy", "adaptation_logic"]
      suggestion := [.text ("Set control_policy.policy to " ++
        "'fixed_time_phase_plan' or 'metering', or set " ++
        "adaptation_logic.logic to 'none'.")] } ++
  issueIf (layers.policy = "uncontrolled" ∧ layers.cycleAware)
    { code := "compat.uncontrolled_cannot_be_cycle_aware"
      message := [.text "Uncontrolled policy cannot be cycle-aware"]
      layers := ["control_policy"]
      suggestion := [.text "Set control_policy.cycle_aware to False."] }

def validateLayerCombination : Issues := issueIf (layers.maxArms < layers.minArms)
    { code := "compat.arms_range_invalid"
      message := [.text "min_arms (", .count layers.minArms,
        .text ") cannot be greater than max_arms (", .count layers.maxArms,
        .text ")"]
      layers := ["geometry"]
      suggestion := [.text "Set min_arms <= max_arms (currently ",
        .count layers.minArms, .text " > ", .count layers.maxArms,
        .text ")."] } ++
  rightOfWayIssues layers ++ topologyIssues layers ++ policyIssues layers ++
  issueIf (layers.overlay ≠ "none")
    { code := "compat.priority_overlay_unsupported"
      message := [.text ("Priority overlay '" ++ layers.overlay ++
        "' is reserved for future scope FS-1 and not implemented in V3.0")]
      layers := ["priority_overlay"]
      suggestion := [.text "Set priority_overlay.overlay to 'none'."] }

end

open StrategyResolution

/-- What the validator reads of a configuration. -/
structure Reading where
  geometry : String
  adaptiveJunction : Bool
  declaredSignalControl : PyValue
  entryControl : PyValue

section

variable (config : Fields)

/-- The section of a configuration, empty where it has none. -/
def sectionOf (key : String) : Fields := (config.dictAt key).getD []

/-- `entryControl` of the controller section, or of a document-style `roundabout`
section where the controller has none. -/
def readEntryControl : PyValue :=
  let control := (sectionOf config "controller").get "entryControl"
  if control.isNone then match config.dictAt "roundabout" with
    | some roundabout => roundabout.get "entryControl"
    | none => control
  else control

/-- The junction and its control. -/
def read : Reading :=
  let declaredGeometry := extractGeometryType config
  { geometry := match declaredGeometry with
      | none => "fixed_time_signal"
      | some "adaptive_signal" => "fixed_time_signal"
      | some other => other
    adaptiveJunction := declaredGeometry = some "adaptive_signal"
    declaredSignalControl := (sectionOf config "controller").get "signalControl"
    entryControl := readEntryControl config }

end

def Reading.signalControl (reading : Reading) : PyValue :=
  if reading.declaredSignalControl.truthy then reading.declaredSignalControl
  else .str "fixed_time"

/-- The mismatch between a named strategy and the configuration. -/
def mismatch (strategy : String) (message : List (MessagePart PyValue)) (layers : List String)
    (suggestion : String) : CompatibilityIssue :=
  { code := "compat.strategy_config_mismatch"
    message := .text ("Strategy '" ++ strategy ++ "' ") :: message
    layers := layers
    suggestion := [.text suggestion] }

section

variable (named : String) (strategy : StrategyId) (reading : Reading)

/-- The geometry a named strategy requires. -/
def geometryMismatch : Issues :=
  let required := if strategy.IsRoundabout then "roundabout" else "fixed_time_signal"
  issueIf (reading.geometry ≠ required) (mismatch named
      [.text ("requires '" ++ required ++ "' geometry, got '" ++ reading.geometry ++ "'")]
      ["geometry", "control_policy"]
      ("Set geometry.intersectionType to '" ++ required ++ "' or change strategy."))

/-- The control a named strategy requires. -/
def controlMismatch : Issues := match strategy with
  | .conventionalRoundabout =>
    issueIf (reading.entryControl.isText "metered_entry") (mismatch named
        [.text ("requires unmetered roundabout control; " ++
          "incompatible with entryControl='metered_entry'")]
        ["right_of_way", "control_policy"]
        "Omit entryControl or use strategy 'metered_entry_roundabout'.")
  | .meteredEntryRoundabout =>
    issueIf (¬ reading.entryControl.isText "metered_entry") (mismatch named
        [.text ("requires entryControl='metered_entry' on roundabout " ++
          "controller, got "), .repr reading.entryControl]
        ["right_of_way", "control_policy"]
        "Set controller.entryControl to 'metered_entry'.")
  | .adaptiveSignal =>
    issueIf (reading.declaredSignalControl.isText "fixed_time") (mismatch named
        [.text "conflicts with controller.signalControl='fixed_time'"]
        ["control_policy", "adaptation_logic"]
        ("Remove controller.signalControl or use strategy " ++ "'fixed_time_signal'."))
  | .fixedTimeSignal =>
    issueIf (reading.signalControl.isText "adaptive") (mismatch named
        [.text "conflicts with controller.signalControl='adaptive'"]
        ["control_policy", "adaptation_logic"]
        "Remove controller.signalControl or use strategy 'adaptive_signal'.")

end

/-- The issues of the strategy a configuration names, and the strategy where it
is registered. -/
def namedStrategyIssues (named : Option String) (reading : Reading) : Issues × Option StrategyId :=
  match named with
  | none => ([], none)
  | some name =>
    match StrategyRegistry.resolveId name with
    | .error _ =>
      ([{ code := "compat.unknown_strategy"
          message := [.text ("Unknown strategy '" ++ name ++ "'")]
          layers := ["control_policy"]
          suggestion := [.text "Choose a registered strategy from ",
            .str (.list (StrategyRegistry.registeredOptions.map .str)),
            .text "."] }], none)
    | .ok strategy =>
      (geometryMismatch name strategy reading ++
        controlMismatch name strategy reading, some strategy)

/-- The layers a configuration amounts to. -/
def layersOf (strategy : Option StrategyId) (reading : Reading) : StrategyLayers :=
  let isRoundabout := reading.geometry = "roundabout"
  let metered := reading.entryControl.isText "metered_entry"
  let policy := if isRoundabout then if metered then "metering" else "uncontrolled"
    else "fixed_time_phase_plan"
  { intersectionType := reading.geometry
    circulatingLanes := if isRoundabout then some [1, 2] else none
    topologyType := if isRoundabout then "zone_based_conflicts" else "point_based_conflicts"
    rule := if isRoundabout then if metered then "signal_over_yield" else "yield_to_ring"
      else "signal"
    policy := policy
    cycleAware := policy = "fixed_time_phase_plan"
    logic := if reading.signalControl.isText "adaptive" ∨
          strategy = some .adaptiveSignal ∨ reading.adaptiveJunction then
        "gap_out_extension"
      else "none" }

def validateScenarioStrategyCompatibility (config : Fields) : Issues :=
  let reading := read config
  let (issues, strategy) := namedStrategyIssues (extractExplicitStrategy config) reading
  let layers := layersOf strategy reading
  issues ++ validateLayerCombination layers ++
    issueIf (reading.geometry = "roundabout" ∧ layers.policy = "metering" ∧
        layers.logic = "gap_out_extension")
      { code := "compat.adaptive_unsupported_policy"
        message := [.text ("Adaptive gap-out extension is not available on a " ++
          "metered-entry roundabout in V3.0; metering follows its " ++
          "fixed-time phase plan")]
        layers := ["control_policy", "adaptation_logic"]
        suggestion := [.text ("Remove controller.signalControl 'adaptive', " ++
          "or use a signalised junction for adaptive control.")] }

end StrategyValidator
end UrbanFlow
