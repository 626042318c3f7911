import UrbanFlow.Strategies.Compatibility

/-!
# Strategy resolution

`resolve_strategy` on a configuration: refused where the strategy it names and
its junction do not fit together, else the strategy it names, else the one its
junction and control amount to.
-/

namespace UrbanFlow.StrategyResolution

open StrategyValidator

variable {config : Fields} {name : String} {strategy : StrategyId}

def inferStrategyIdFromConfig (config : Fields) : StrategyId :=
  let geometry := extractGeometryType config
  let signalControl := (sectionOf config "controller").get "signalControl"
  let entryControl := readEntryControl config
  if geometry = some "roundabout" then
    if entryControl.isText "metered_entry" then .meteredEntryRoundabout
    else .conventionalRoundabout
  else if signalControl.isText "adaptive" ∨ geometry = some "adaptive_signal" then .adaptiveSignal
  else .fixedTimeSignal

/-- Why a configuration has no strategy. -/
inductive ResolutionError
  | incompatible (strategy : Option String) (issues : List CompatibilityIssue)
  | unknown (message : PyMessage)

/-- `resolve_strategy` of a configuration: the descriptor's id. -/
def resolveStrategy (config : Fields) : Except ResolutionError StrategyId :=
  let named := extractExplicitStrategy config
  match validateScenarioStrategyCompatibility config with
  | [] =>
    match named with
    | some name =>
      match StrategyRegistry.resolveId name with
      | .ok strategy => .ok strategy
      | .error message => .error (.unknown message)
    | none => .ok (inferStrategyIdFromConfig config)
  | issues => .error (.incompatible named issues)

theorem resolveStrategy_of_named (named : extractExplicitStrategy config = some name)
    (resolved : StrategyRegistry.resolveId name = .ok strategy)
    (compatible : validateScenarioStrategyCompatibility config = []) :
    resolveStrategy config = .ok strategy := by
  simp [resolveStrategy, compatible, named, resolved]

theorem resolveStrategy_of_unnamed (unnamed : extractExplicitStrategy config = none)
    (resolved : resolveStrategy config = .ok strategy) :
    strategy = inferStrategyIdFromConfig config := by
  unfold resolveStrategy at resolved
  split at resolved
  · simpa [unnamed] using resolved.symm
  · cases resolved

theorem geometry_read_eq_roundabout (config : Fields) :
    (StrategyValidator.read config).geometry = "roundabout" ↔
      extractGeometryType config = some "roundabout" := by
  unfold StrategyValidator.read
  cases geometry : extractGeometryType config with
  | none => simp
  | some words =>
    by_cases isAdaptive : words = "adaptive_signal"
    · simp [isAdaptive]
    · simp

theorem isRoundabout_inferStrategyIdFromConfig (config : Fields) :
    (inferStrategyIdFromConfig config).IsRoundabout ↔
      extractGeometryType config = some "roundabout" := by
  by_cases isRoundabout : extractGeometryType config = some "roundabout"
  · by_cases metered : (readEntryControl config).isText "metered_entry" = true
    · simp [inferStrategyIdFromConfig, isRoundabout, metered, StrategyId.IsRoundabout]
    · simp [inferStrategyIdFromConfig, isRoundabout, metered, StrategyId.IsRoundabout]
  · simp only [inferStrategyIdFromConfig, isRoundabout, if_false, iff_false]
    split <;> simp [StrategyId.IsRoundabout]

theorem extractGeometryType_of_notNone (given : ¬ (geometryValue config).isNone = true) :
    extractGeometryType config = some "roundabout" ↔
      (geometryValue config).isText "roundabout" = true := by
  simp only [extractGeometryType, given]
  cases geometryValue config <;> simp [PyValue.isText, PyValue.asText]

theorem isText_readEntryControl {text : String}
    (given : (entryControlValue config).isText text = true) :
    (readEntryControl config).isText text = true := by
  have isText := PyValue.isText_iff.mp given
  have isControl : (sectionOf config "controller").get "entryControl" = .str text := by
    unfold entryControlValue at isText
    unfold sectionOf
    cases section' : config.dictAt "controller" with
    | none => simp [section'] at isText
    | some => simpa [section'] using isText
  simp [readEntryControl, isControl, PyValue.isNone, PyValue.isText]

/-- A named strategy without issues is registered and fits the geometry and the
control it is read with. -/
structure Fits (strategy : StrategyId) (reading : Reading) : Prop where
  geometry : reading.geometry = if strategy.IsRoundabout then "roundabout" else "fixed_time_signal"
  metered : strategy.IsRoundabout → (reading.entryControl.isText "metered_entry" = true ↔
      strategy = .meteredEntryRoundabout)
  adaptive : strategy = .fixedTimeSignal → ¬ reading.signalControl.isText "adaptive" = true
  fixedTime : strategy = .adaptiveSignal →
    ¬ reading.declaredSignalControl.isText "fixed_time" = true

theorem Fits.isRoundabout_iff (fits : Fits strategy (StrategyValidator.read config)) :
    strategy.IsRoundabout ↔ extractGeometryType config = some "roundabout" := by
  rw [← geometry_read_eq_roundabout, fits.geometry]
  by_cases isRoundabout : strategy.IsRoundabout
  · simp [isRoundabout]
  · simp [isRoundabout]

theorem fits_of_compatible (named : extractExplicitStrategy config = some name)
    (compatible : validateScenarioStrategyCompatibility config = []) :
    ∃ strategy, StrategyRegistry.resolveId name = .ok strategy ∧ Fits strategy (read config) := by
  have noIssues : (namedStrategyIssues (some name) (read config)).1 = [] := by
    simp only [validateScenarioStrategyCompatibility, named, List.append_eq_nil_iff] at compatible
    exact compatible.1.1
  unfold namedStrategyIssues at noIssues
  cases resolved : StrategyRegistry.resolveId name with
  | error => simp [resolved] at noIssues
  | ok strategy =>
    simp only [resolved, List.append_eq_nil_iff] at noIssues
    obtain ⟨geometry, control⟩ := noIssues
    have isGeometry : (read config).geometry = if strategy.IsRoundabout then "roundabout"
        else "fixed_time_signal" := by
      simpa [geometryMismatch] using geometry
    refine ⟨strategy, rfl, isGeometry, ?_, ?_, ?_⟩
    · intro isRoundabout
      rcases isRoundabout with rfl | rfl
      · simpa [controlMismatch] using control
      · simpa [controlMismatch] using control
    · rintro rfl
      simpa [controlMismatch] using control
    · rintro rfl
      simpa [controlMismatch] using control

end UrbanFlow.StrategyResolution
