import UrbanFlow.Scenario.Documents
import UrbanFlow.Strategies.Resolution

/-!
# Validating a scenario

`validate_scenario`: a document is compiled for every strategy it will be run
with, and every configuration is checked. How a message is formatted, the
configuration schema and the contract's rules on anything but the strategy are
parameters.
-/

namespace UrbanFlow.Scenario

/-- A rule of the document that does not depend on the strategy, broken. -/
inductive ScenarioLevelError
  | armCount (arms : List (Direction × ApproachSpec))
  | warmup (warmup duration : ℚ)
  | noTraffic
  | demand (vehiclesPerHour : ℚ)

/-- What validation rests on beside the strategy rules: formatting, the
fingerprint of a document, the configuration schema, and the rules of
`semantic_config_errors` that stand before and after the strategy rule. -/
structure Contract where
  format : PyMessage → String
  describe : ScenarioLevelError → String
  fingerprint : ScenarioDocument → String
  schemaErrors : Fields → List String
  rulesBefore : Fields → List String
  rulesAfter : Fields → List String

/-- What `validate_scenario` reports. -/
structure ValidationReport where
  valid : Bool
  errors : List String
  strategies : List String
  byStrategy : List (String × List String) := []

def formattedMessage (issue : CompatibilityIssue) : PyMessage :=
  issue.message ++ [.text (" (" ++ issue.code ++ ")"), .text " Suggestion: "] ++ issue.suggestion

def junctionStrategy : JunctionType → String
  | .fixedTimeSignal => "fixed_time"
  | .adaptiveSignal => "adaptive"
  | .roundabout => "roundabout"

def strategyTitles : List (String × String) :=
  [("fixed_time", "Fixed-time signal"), ("adaptive", "Adaptive signal"),
    ("roundabout", "Roundabout"),
    ("fixed_time_signal", "Fixed-Time Signal"),
    ("adaptive_signal", "Adaptive (Actuated) Signal"),
    ("conventional_roundabout", "Conventional Roundabout"),
    ("metered_entry_roundabout", "Metered-Entry Roundabout"),
    ("signalised_roundabout", "Metered-Entry Roundabout")]

def scenarioLevelChecks (document : ScenarioDocument) : List ScenarioLevelError :=
  let arms := document.approaches.present
  let sim := document.simulation
  let total := document.totalVehiclesPerHour
  if arms.length < 3 then [.armCount arms]
  else (if sim.duration ≤ sim.warmup then [.warmup sim.warmup sim.duration] else []) ++
    (if ¬ 0 < total then [.noTraffic] else if 10 < total / 3600 then [.demand total] else [])

namespace Contract

variable (contract : Contract)

def strategyCompatibilityErrors (config : Fields) : List String :=
  match StrategyResolution.extractExplicitStrategy config with
  | none => []
  | some _ =>
    (StrategyValidator.validateScenarioStrategyCompatibility config).map
      fun issue => contract.format (formattedMessage issue)

def semanticConfigErrors (config : Fields) : List String :=
  contract.rulesBefore config ++ contract.strategyCompatibilityErrors config ++
    contract.rulesAfter config

/-- What is wrong with the configuration of a strategy. -/
def strategyErrors (document : ScenarioDocument)
    (strategy : String) : Except PyMessage (String × List String) := do
  let config ← document.compileScenario contract.fingerprint strategy
  pure (strategy, contract.schemaErrors config ++ contract.semanticConfigErrors config)

/-- The errors of a strategy in a table of them. -/
def errorsOf (byStrategy : List (String × List String)) (strategy : String) : List String :=
  (byStrategy.lookup strategy).getD []

/-- An error that holds for every strategy is listed once, the others under the
title of their strategy. -/
def listErrors (wanted : List String) (byStrategy : List (String × List String)) : List String :=
  let shared := (errorsOf byStrategy (wanted.headD "")).filter fun error =>
    ∀ strategy ∈ wanted, error ∈ errorsOf byStrategy strategy
  shared ++ wanted.flatMap fun strategy =>
    ((errorsOf byStrategy strategy).filter fun error => error ∉ shared).map fun error =>
        (strategyTitles.lookup strategy).getD "" ++ ": " ++ error

section

variable (document : ScenarioDocument) (strategies : Option (List String))

/-- The strategies to validate for. -/
def wanted : List String := match strategies with
  | some (first :: rest) => first :: rest
  | _ => [junctionStrategy document.junction]

/-- `validate_scenario`, of a document that has been parsed. -/
def validateScenario : Except PyMessage ValidationReport := do
  let wanted := wanted document strategies
  let unknown := wanted.filter fun strategy =>
    ¬ (StrategyRegistry.has strategy ∨ strategy ∈ Scenario.strategies)
  if unknown ≠ [] then
    let available := (StrategyRegistry.registeredOptions ++
      Scenario.strategies).dedup.insertionSort (· ≤ ·)
    pure
      { valid := false
        errors := [contract.format [.text "Unknown strategies ", .str (.list (unknown.map .str)),
            .text "; expected some of ", .str (.list (available.map .str))]]
        strategies := wanted }
  else match scenarioLevelChecks document with
    | [] =>
      let byStrategy ← wanted.mapM (contract.strategyErrors document)
      let errors := listErrors wanted byStrategy
      pure
        { valid := errors.isEmpty
          errors := errors
          strategies := wanted
          byStrategy := byStrategy }
    | errors =>
      pure
        { valid := false
          errors := errors.map contract.describe
          strategies := wanted }

end

theorem listErrors_eq_nil {wanted : List String} {byStrategy : List (String × List String)}
    (noErrors : listErrors wanted byStrategy = []) {strategy : String}
    (isWanted : strategy ∈ wanted) : errorsOf byStrategy strategy = [] := by
  unfold listErrors at noErrors
  simp only [List.append_eq_nil_iff, List.flatMap_eq_nil_iff, List.map_eq_nil_iff] at noErrors
  obtain ⟨noShared, noOthers⟩ := noErrors
  have noneLeft := noOthers strategy isWanted
  rw [noShared] at noneLeft
  simpa using noneLeft

theorem mapM_strategyErrors {document : ScenarioDocument} {wanted : List String}
    {byStrategy : List (String × List String)}
    (checked : wanted.mapM (contract.strategyErrors document) = .ok byStrategy)
    {strategy : String} (isWanted : strategy ∈ wanted) :
    ∃ config, document.compileScenario contract.fingerprint strategy = .ok config ∧
        errorsOf byStrategy strategy = contract.schemaErrors config ++
            contract.semanticConfigErrors config := by
  induction wanted generalizing byStrategy with
  | nil => simp at isWanted
  | cons first _ ih =>
    rw [List.mapM_cons] at checked
    obtain ⟨entry, isFirst, checked⟩ := bind_ok_iff.mp checked
    obtain ⟨entries, areRest, checked⟩ := bind_ok_iff.mp checked
    obtain rfl : entry :: entries = byStrategy := Except.ok.inj checked
    unfold strategyErrors at isFirst
    obtain ⟨config, compiled, isEntry⟩ := bind_ok_iff.mp isFirst
    obtain rfl : (first, contract.schemaErrors config ++
        contract.semanticConfigErrors config) = entry :=
      Except.ok.inj isEntry
    by_cases same : strategy = first
    · subst same
      exact ⟨config, compiled, by simp [errorsOf]⟩
    · obtain ⟨other, otherCompiled, otherErrors⟩ := ih
        areRest ((List.mem_cons.mp isWanted).resolve_left same)
      refine ⟨other, otherCompiled, ?_⟩
      rw [← otherErrors]
      simp [errorsOf, List.lookup_cons, beq_false_of_ne same]

section

variable {document : ScenarioDocument} {strategies : Option (List String)}
  {report : ValidationReport}
  (validated : contract.validateScenario document strategies = .ok report)

include validated

theorem compiled_of_valid (valid : report.valid = true) {strategy : String}
    (isWanted : strategy ∈ report.strategies) :
    ∃ config, document.compileScenario contract.fingerprint strategy = .ok config ∧
        contract.schemaErrors config = [] ∧ contract.semanticConfigErrors config = [] := by
  simp only [validateScenario] at validated
  split at validated
  case isTrue =>
    cases validated
    simp at valid
  case isFalse =>
    split at validated
    case h_2 =>
      cases validated
      simp at valid
    case h_1 =>
      obtain ⟨byStrategy, checked, isReport⟩ := bind_ok_iff.mp validated
      cases isReport
      simp only [List.isEmpty_iff] at valid
      obtain ⟨config, compiled, errors⟩ := contract.mapM_strategyErrors checked isWanted
      rw [listErrors_eq_nil valid isWanted] at errors
      exact ⟨config, compiled, List.append_eq_nil_iff.mp errors.symm⟩

theorem scenarioLevelChecks_of_valid (valid : report.valid = true) :
    scenarioLevelChecks document = [] := by
  simp only [validateScenario] at validated
  split at validated
  case isTrue =>
    cases validated
    simp at valid
  case isFalse =>
    split at validated
    case h_1 noneBroken => exact noneBroken
    case h_2 =>
      cases validated
      simp at valid

theorem valid_of_noErrors (noErrors : report.errors = []) : report.valid = true := by
  simp only [validateScenario] at validated
  split at validated
  case isTrue =>
    cases validated
    cases noErrors
  case isFalse =>
    split at validated
    case h_1 =>
      obtain ⟨byStrategy, -, isReport⟩ := bind_ok_iff.mp validated
      cases isReport
      exact List.isEmpty_iff.mpr noErrors
    case h_2 wrong =>
      cases validated
      exact absurd (List.map_eq_nil_iff.mp noErrors) wrong

theorem strategies_of_ok : report.strategies = wanted document strategies := by
  simp only [validateScenario] at validated
  split at validated
  · cases validated
    rfl
  · split at validated
    · obtain ⟨byStrategy, _, isReport⟩ := bind_ok_iff.mp validated
      cases isReport
      rfl
    · cases validated
      rfl

end

theorem compatible_of_noErrors {config : Fields}
    (noErrors : contract.semanticConfigErrors config = []) {name : String}
    (named : StrategyResolution.extractExplicitStrategy config = some name) :
    StrategyValidator.validateScenarioStrategyCompatibility config = [] := by
  unfold semanticConfigErrors strategyCompatibilityErrors at noErrors
  rw [named] at noErrors
  simp only [List.append_eq_nil_iff, List.map_eq_nil_iff] at noErrors
  exact noErrors.1.2

end Contract
end UrbanFlow.Scenario
