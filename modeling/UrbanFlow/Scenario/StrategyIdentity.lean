import UrbanFlow.Scenario.Compiled
import UrbanFlow.Scenario.Validation

/-!
# The strategy a document is run with

The compiler writes the strategy of a configuration down three times: as its
junction, in its control and by name in the `scenario` block. The `advanced`
section is merged over the first two, and can name a strategy of its own in
places that are read before the `scenario` block. `KeepsStrategy` says which
`advanced` sections leave the strategy alone.
-/

namespace UrbanFlow

open StrategyRegistry StrategyId Fields

namespace Scenario
namespace ScenarioDocument

open StrategyResolution StrategyValidator

attribute [local simp] List.lookup_cons

/-- The entry control the document asks for, its `advanced` section
included. -/
def askedEntryControl (document : ScenarioDocument) : PyValue :=
  let own := (document.roundabout.entryControl.map
    fun control => PyValue.str control.value).getD .none
  match document.advancedFields.lookup "controller" with
  | none => own
  | some (.dict controller) => (controller.lookup "entryControl").getD own
  | some _ => .none

def AsksForMeteredEntry (document : ScenarioDocument) : Prop :=
  document.askedEntryControl.isText "metered_entry" = true

instance : DecidablePred AsksForMeteredEntry := fun document => inferInstanceAs (Decidable
    (document.askedEntryControl.isText "metered_entry" = true))

/-- The strategy a document is expected to run with: the roundabout is the
metered one where the document asks for metered entry. -/
def expectedStrategy (document : ScenarioDocument) (canonical : StrategyId) : StrategyId :=
  if canonical = .conventionalRoundabout ∧ document.AsksForMeteredEntry then .meteredEntryRoundabout
  else canonical

/-- An intersection type, if there is one, is of a strategy's own kind. -/
def OfKind (geometry : PyValue) (canonical : StrategyId) : Prop :=
  geometry.isNone = true ∨ (geometry.isText "roundabout" = true ↔ canonical.IsRoundabout)

/-- The `advanced` section leaves the strategy alone: an intersection type in it
is of the strategy's own kind, and a strategy it names is the expected one. -/
structure KeepsStrategy (document : ScenarioDocument) (canonical : StrategyId) : Prop where
  junction : OfKind (geometryValue document.advancedFields) canonical
  named : ∀ name ∈ declaredStrategy document.advancedFields, resolveId name =
        .ok (document.expectedStrategy canonical)

theorem isRoundabout_expectedStrategy (document : ScenarioDocument) (canonical : StrategyId) :
    (document.expectedStrategy canonical).IsRoundabout ↔ canonical.IsRoundabout := by
  unfold expectedStrategy
  split
  · rename_i asksForIt
    simp [asksForIt.1, IsRoundabout]
  · exact Iff.rfl

section Compiled

variable (fingerprint : ScenarioDocument → String) (document : ScenarioDocument)
variable (canonical : StrategyId) (strategy : String)

/-- The intersection type of a strategy. -/
def ownGeometry : String := if canonical.IsRoundabout then "roundabout" else "fixed_time_signal"

theorem lookup_intersectionType :
    (document.geometrySection (canonical.IsRoundabout)).lookup "intersectionType" =
      some (.str (ownGeometry canonical)) := by
  by_cases isRoundabout : canonical.IsRoundabout
  · simp [geometrySection, isRoundabout, ownGeometry]
  · simp [geometrySection, isRoundabout, ownGeometry]

theorem controllerSection_lookup_strategy :
    (document.controllerSection canonical).lookup "strategy" = none := by
  by_cases isRoundabout : canonical.IsRoundabout
  · simp [controllerSection, isRoundabout, ringSettings, List.lookup_append, lookup_optional]
  · simp [controllerSection, isRoundabout, List.lookup_append, lookup_optional]

theorem get_strategy_labelledConfig :
    (document.labelledConfig fingerprint canonical strategy).get "strategy" =
      document.advancedFields.get "strategy" := by
  unfold Fields.get labelledConfig mergedConfig
  rw [lookup_set_of_ne _ (by decide),
    lookup_deepMerge _ document.advancedFields_distinct]
  cases document.advancedFields.lookup "strategy" with
  | none => simp [plainConfig]
  | some => simp [plainConfig, PyValue.mergeOver_none]

/-- The strategy that a configuration names outside its `scenario` block is the
one its `advanced` section names. -/
theorem declaredStrategy_labelledConfig : declaredStrategy
        (document.labelledConfig fingerprint canonical strategy) =
      declaredStrategy document.advancedFields := by
  have control := document.dictAt_labelledConfig fingerprint canonical strategy
    (by decide) (document.dictAt_controller_plainConfig canonical)
  unfold declaredStrategy
  rw [get_strategy_labelledConfig, control]
  cases found : document.advancedFields.lookup "controller" with
  | none => simp [dictAt, found, Fields.get, declaredName, controllerSection_lookup_strategy]
  | some value =>
    cases value with
    | dict =>
      have distinct := document.advanced_section_distinct found
      simp [dictAt, found, Fields.get_deepMerge_of_none distinct, controllerSection_lookup_strategy]
    | _ => simp [dictAt, found, PyValue.asDict]

theorem geometryValue_labelledConfig :
    geometryValue (document.labelledConfig fingerprint canonical strategy) =
      match document.advancedFields.lookup "geometry" with
      | none => .str (ownGeometry canonical)
      | some (.dict other) => (other.lookup "intersectionType").getD (.str (ownGeometry canonical))
      | some _ => .none := by
  have geometry := document.dictAt_labelledConfig fingerprint canonical strategy
    (by decide) (document.dictAt_geometry_plainConfig canonical)
  unfold geometryValue
  rw [geometry]
  cases found : document.advancedFields.lookup "geometry" with
  | none => simp [Fields.get, lookup_intersectionType]
  | some value =>
    cases value with
    | dict other =>
      have distinct := document.advanced_section_distinct found
      simp only [Option.map_some, Option.getD_some, Fields.get,
        lookup_deepMerge _ distinct, lookup_intersectionType]
      cases other.lookup "intersectionType" with
      | none => rfl
      | some => simp [PyValue.mergeOver_str]
    | _ => rfl

theorem entryControlValue_labelledConfig (conventional : canonical = .conventionalRoundabout) :
    entryControlValue (document.labelledConfig fingerprint canonical strategy) =
      document.askedEntryControl := by
  have control := document.dictAt_labelledConfig fingerprint canonical strategy
    (by decide) (document.dictAt_controller_plainConfig canonical)
  unfold entryControlValue askedEntryControl
  rw [control]
  have own : (document.controllerSection canonical).lookup "entryControl" =
      document.roundabout.entryControl.map fun control => PyValue.str control.value := by
    subst conventional
    cases asked : document.roundabout.entryControl with
    | none | some control =>
      simp [controllerSection, IsRoundabout, ringSettings, List.lookup_append, lookup_optional, entryControl, asked]
  cases found : document.advancedFields.lookup "controller" with
  | none => simp [Fields.get, own]
  | some value =>
    cases value with
    | dict other =>
      have distinct := document.advanced_section_distinct found
      simp only [Option.map_some, Option.getD_some, Fields.get,
        lookup_deepMerge _ distinct, own]
      cases other.lookup "entryControl" with
      | none => rfl
      | some =>
        cases document.roundabout.entryControl with
        | none => simp [PyValue.mergeOver_none]
        | some => simp [PyValue.mergeOver_str]
    | _ => rfl

end Compiled

def strategyNames : List (String × StrategyId) :=
  all.map (fun strategy => (strategy.value, strategy)) ++
    [("fixed_time", .fixedTimeSignal), ("adaptive", .adaptiveSignal),
      ("roundabout", .conventionalRoundabout),
      ("signalised_roundabout", .meteredEntryRoundabout)]

theorem mem_strategyNames {name : String} {canonical : StrategyId}
    (resolved : resolveId name = .ok canonical) :
    (name, canonical) ∈ strategyNames := by
  have isName := name_of_resolveId resolved
  cases canonical <;> simpa [strategyNames, all, value, legacyStrategyAliases] using isName

theorem declaredName_strategyNames :
    ∀ entry ∈ strategyNames, declaredName (.str entry.1) = some entry.1 := by
  decide

theorem roundaboutNames_strategyNames : ∀ entry ∈ strategyNames,
      (∃ name ∈ roundaboutNames, (PyValue.str entry.1).isText name = true) ↔
        entry.2.IsRoundabout := by
  decide

theorem resolveId_metered_entry_roundabout :
    resolveId "metered_entry_roundabout" = .ok .meteredEntryRoundabout := by
  simp [resolveId, legacyStrategyAliases, all, value]

theorem conventional_of_roundabout : ∀ entry ∈ strategyNames, entry.1 = "roundabout" →
      entry.2 = .conventionalRoundabout := by
  decide
section ReadBack

variable {fingerprint : ScenarioDocument → String} {document : ScenarioDocument}
variable {canonical : StrategyId} {strategy : String}

variable (fingerprint document canonical strategy) in
/-- Merging keeps an intersection type of the strategy's own kind so. -/
theorem ofKind_labelledConfig : OfKind (geometryValue
        (document.labelledConfig fingerprint canonical strategy)) canonical ↔
      OfKind (geometryValue document.advancedFields) canonical := by
  have ownKind : OfKind (.str (ownGeometry canonical)) canonical := by
    right
    by_cases isRoundabout : canonical.IsRoundabout
    · simp [ownGeometry, isRoundabout, PyValue.isText]
    · simp [ownGeometry, isRoundabout, PyValue.isText]
  have noKind : OfKind .none canonical := Or.inl rfl
  rw [geometryValue_labelledConfig]
  cases found : document.advancedFields.lookup "geometry" with
  | none => simp [geometryValue, dictAt, found, ownKind, noKind]
  | some value =>
    cases value with
    | dict other =>
      simp only [geometryValue, dictAt, found, Fields.get,
        Option.bind_some, PyValue.asDict_dict, Option.map_some,
        Option.getD_some]
      cases other.lookup "intersectionType" with
      | none => simp [ownKind, noKind]
      | some => exact Iff.rfl
    | _ => simp [geometryValue, dictAt, found, PyValue.asDict, noKind]

theorem get_strategy_scenarioBlock :
    Fields.get (scenarioBlock fingerprint document strategy) "strategy" = .str strategy := by
  simp [Fields.get, scenarioBlock]

/-- The `scenario` block of a configuration contradicts its junction when the
`advanced` section gives an intersection type of another kind. -/
theorem contradicts_iff (resolved : resolveId strategy = .ok canonical)
    {geometry : PyValue} : (¬ geometry.isNone = true ∧ ¬ (geometry.isText "roundabout" = true ↔
        ∃ name ∈ roundaboutNames, (PyValue.str strategy).isText name = true)) ↔
      ¬ OfKind geometry canonical := by
  rw [roundaboutNames_strategyNames _ (mem_strategyNames resolved)]
  exact not_or.symm

variable (fingerprint) in
/-- What is read from a configuration that names no strategy outside its
`scenario` block. -/
theorem extractExplicitStrategy_labelledConfig
    (resolved : resolveId strategy = .ok canonical)
    (unnamed : declaredStrategy document.advancedFields = none)
    (ofKind : OfKind (geometryValue document.advancedFields) canonical) :
    extractExplicitStrategy (document.labelledConfig fingerprint canonical strategy) =
      if strategy = "roundabout" ∧ document.AsksForMeteredEntry then some "metered_entry_roundabout"
      else some strategy := by
  have isName := mem_strategyNames resolved
  have agrees := mt (contradicts_iff resolved).mp
    (not_not_intro ((ofKind_labelledConfig fingerprint document canonical strategy).mpr ofKind))
  unfold extractExplicitStrategy
  rw [declaredStrategy_labelledConfig, unnamed, dictAt_scenario_labelledConfig]
  simp only [Option.bind_some, get_strategy_scenarioBlock, declaredName_strategyNames _ isName]
  rw [if_neg agrees]
  by_cases isRoundabout : strategy = "roundabout"
  · have conventional := conventional_of_roundabout _ isName isRoundabout
    rw [entryControlValue_labelledConfig _ _ _ _ conventional]
    simp [AsksForMeteredEntry, isRoundabout, PyValue.isText]
  · simp [isRoundabout, PyValue.isText]

theorem extractExplicitStrategy_labelledConfig_of_not
    (resolved : resolveId strategy = .ok canonical)
    (unnamed : declaredStrategy document.advancedFields = none)
    (otherKind : ¬ OfKind (geometryValue document.advancedFields) canonical) :
    extractExplicitStrategy (document.labelledConfig fingerprint canonical strategy) = none := by
  have contradicts := (contradicts_iff resolved).mpr
    (mt (ofKind_labelledConfig fingerprint document canonical strategy).mp otherKind)
  unfold extractExplicitStrategy
  rw [declaredStrategy_labelledConfig, unnamed, dictAt_scenario_labelledConfig]
  simp only [Option.bind_some, get_strategy_scenarioBlock,
    declaredName_strategyNames _ (mem_strategyNames resolved)]
  rw [if_pos contradicts]

/-- A strategy that is a roundabout exactly where the junction is read as one is
of the kind of its intersection type. -/
theorem ofKind_of_isRoundabout_iff {config : Fields}
    (sameKind : canonical.IsRoundabout ↔ extractGeometryType config = some "roundabout") :
    OfKind (geometryValue config) canonical := by
  by_cases given : (geometryValue config).isNone = true
  · exact Or.inl given
  · exact Or.inr ((extractGeometryType_of_notNone given).symm.trans sameKind.symm)

theorem ofKind_expectedStrategy {geometry : PyValue}
    (ofKind : OfKind geometry (document.expectedStrategy canonical)) :
    OfKind geometry canonical := by
  unfold OfKind at ofKind ⊢
  rwa [isRoundabout_expectedStrategy] at ofKind

end ReadBack

section Valid

variable {contract : Contract} {document : ScenarioDocument} {canonical : StrategyId}
variable {strategy : String}

theorem resolveStrategy_iff_of_named {name : String}
    (named : declaredStrategy document.advancedFields = some name)
    (noErrors : contract.semanticConfigErrors (document.labelledConfig
      contract.fingerprint canonical strategy) = []) :
    resolveStrategy (document.labelledConfig contract.fingerprint canonical strategy) =
      .ok (document.expectedStrategy canonical) ↔ document.KeepsStrategy canonical := by
  have extracted : extractExplicitStrategy (document.labelledConfig
      contract.fingerprint canonical strategy) = some name := by
    unfold extractExplicitStrategy
    rw [declaredStrategy_labelledConfig, named]
  have compatible := contract.compatible_of_noErrors noErrors extracted
  obtain ⟨run, resolved, fits⟩ := fits_of_compatible extracted compatible
  rw [resolveStrategy_of_named extracted resolved compatible]
  constructor
  · intro same
    obtain rfl : run = document.expectedStrategy canonical := Except.ok.inj same
    refine ⟨?_, ?_⟩
    · rw [← ofKind_labelledConfig contract.fingerprint document canonical strategy]
      exact ofKind_expectedStrategy (ofKind_of_isRoundabout_iff fits.isRoundabout_iff)
    · intro other isOther
      obtain rfl : name = other := by simpa [named] using isOther
      exact resolved
  · intro keeps
    have same := resolved.symm.trans (keeps.named name named)
    rw [Except.ok.inj same]

/-- A configuration whose strategy is only named in its `scenario` block is run
with that strategy where its junction is of the same kind. -/
theorem resolveStrategy_iff_of_unnamed
    (isCanonical : resolveId strategy = .ok canonical)
    (unnamed : declaredStrategy document.advancedFields = none)
    (noErrors : contract.semanticConfigErrors (document.labelledConfig
      contract.fingerprint canonical strategy) = []) :
    resolveStrategy (document.labelledConfig contract.fingerprint canonical strategy) =
      .ok (document.expectedStrategy canonical) ↔ document.KeepsStrategy canonical := by
  constructor
  · intro resolved
    refine ⟨?_, by simp [unnamed]⟩
    by_contra otherKind
    have inferred := resolveStrategy_of_unnamed
      (extractExplicitStrategy_labelledConfig_of_not isCanonical unnamed otherKind) resolved
    have sameKind := isRoundabout_inferStrategyIdFromConfig
      (document.labelledConfig contract.fingerprint canonical strategy)
    rw [← inferred] at sameKind
    exact otherKind ((ofKind_labelledConfig contract.fingerprint document canonical strategy).mp
        (ofKind_expectedStrategy (ofKind_of_isRoundabout_iff sameKind)))
  · intro keeps
    have extracted := extractExplicitStrategy_labelledConfig
      contract.fingerprint isCanonical unnamed keeps.junction
    by_cases renamed : strategy = "roundabout" ∧ document.AsksForMeteredEntry
    · rw [if_pos renamed] at extracted
      have compatible := contract.compatible_of_noErrors noErrors extracted
      have conventional : canonical = .conventionalRoundabout :=
        conventional_of_roundabout _ (mem_strategyNames isCanonical) renamed.1
      rw [resolveStrategy_of_named extracted resolveId_metered_entry_roundabout compatible]
      simp [expectedStrategy, conventional, renamed.2]
    · rw [if_neg renamed] at extracted
      have compatible := contract.compatible_of_noErrors noErrors extracted
      rw [resolveStrategy_of_named extracted isCanonical compatible]
      obtain ⟨run, resolved, fits⟩ := fits_of_compatible extracted compatible
      obtain rfl : canonical = run := Except.ok.inj (isCanonical.symm.trans resolved)
      have notMetered : ¬ (canonical = .conventionalRoundabout ∧ document.AsksForMeteredEntry) := by
        rintro ⟨conventional, asksForIt⟩
        have metered := (fits.metered (Or.inl conventional)).mp (isText_readEntryControl ?_)
        · simp [conventional] at metered
        · rw [entryControlValue_labelledConfig _ _ _ _ conventional]
          exact asksForIt
      simp [expectedStrategy, notMetered]

end Valid

/-- A document that is valid for a strategy is run with that strategy, the
roundabout being the metered one where the document asks for it, exactly when
its `advanced` section leaves the strategy alone. -/
theorem runsAsLabelled_iff_keepsStrategy (contract : Contract) (document : ScenarioDocument)
    (strategies : Option (List String)) (report : ValidationReport)
    (validated : contract.validateScenario document strategies = .ok report)
    (valid : report.valid = true) (strategy : String) (isWanted : strategy ∈ report.strategies)
    (canonical : StrategyId) (isCanonical : resolveId strategy = .ok canonical) :
    (∃ config, document.compileScenario contract.fingerprint strategy = .ok config ∧
        resolveStrategy config = .ok (document.expectedStrategy canonical)) ↔
      document.KeepsStrategy canonical := by
  obtain ⟨config, compiled, _, noErrors⟩ := contract.compiled_of_valid validated valid isWanted
  obtain rfl := eq_labelledConfig isCanonical compiled
  have same : resolveStrategy (document.labelledConfig contract.fingerprint canonical strategy) =
      .ok (document.expectedStrategy canonical) ↔
      document.KeepsStrategy canonical := by
    cases named : declaredStrategy document.advancedFields with
    | some name => exact resolveStrategy_iff_of_named named noErrors
    | none => exact resolveStrategy_iff_of_unnamed isCanonical named noErrors
  constructor
  · rintro ⟨other, otherCompiled, resolved⟩
    obtain rfl := eq_labelledConfig isCanonical otherCompiled
    exact same.mp resolved
  · intro keeps
    exact ⟨_, compiled, same.mpr keeps⟩

/-- A contract without further rules. -/
def permissive : Contract :=
  { format := fun _ => ""
    describe := fun _ => ""
    fingerprint := fun _ => ""
    schemaErrors := fun _ => []
    rulesBefore := fun _ => []
    rulesAfter := fun _ => [] }

/-- A junction of four single-lane arms, with an `advanced` section. -/
def fourArms (advanced : Fields) (distinct : Distinct advanced) : ScenarioDocument :=
  let arm : ApproachSpec := { lanes := 1, vehiclesPerHour := 360 }
  { junction := .roundabout
    approaches := ⟨some arm, some arm, some arm, some arm⟩
    advanced := some advanced
    advanced_distinct := by
      rintro fields ⟨⟩
      exact distinct }

theorem plain_distinct : Distinct [] := by simp [Distinct]

theorem overridden_distinct : Distinct
      [("geometry", .dict [("intersectionType", .str "fixed_time_signal")])] := by
  simp [Distinct, PyValue.Distinct]

def validStrategies (contract : Contract) (document : ScenarioDocument)
    (strategies : Option (List String)) : Option (List String) :=
  match contract.validateScenario document strategies with
  | .ok report => if report.valid = true then some report.strategies else none
  | .error _ => none

theorem exists_report {contract : Contract} {document : ScenarioDocument}
    {strategies : Option (List String)} {wanted : List String}
    (isValid : validStrategies contract document strategies = some wanted) :
    ∃ report, contract.validateScenario document strategies = .ok report ∧
        report.valid = true ∧ report.strategies = wanted := by
  unfold validStrategies at isValid
  split at isValid
  case h_1 report validated =>
    rw [Option.ite_none_right_eq_some] at isValid
    exact ⟨report, validated, isValid.1, Option.some.inj isValid.2⟩
  case h_2 => cases isValid

/-- A document without `advanced` settings is run as the roundabout it is
labelled with. -/
theorem runsAsLabelled_fourArms : ∃ config,
      (fourArms [] plain_distinct).compileScenario permissive.fingerprint
          "roundabout" = .ok config ∧
        resolveStrategy config = .ok .conventionalRoundabout := by
  obtain ⟨report, validated, valid, areWanted⟩ : ∃ report,
      permissive.validateScenario (fourArms [] plain_distinct) (some ["roundabout"]) = .ok report ∧
        report.valid = true ∧ report.strategies = ["roundabout"] :=
    exists_report (by decide +kernel)
  have keeps : (fourArms [] plain_distinct).KeepsStrategy .conventionalRoundabout :=
    { junction := Or.inl (by decide)
      named := by
        have unnamed : declaredStrategy (fourArms [] plain_distinct).advancedFields = none := by
          decide
        simp [unnamed] }
  have expected : (fourArms [] plain_distinct).expectedStrategy
      .conventionalRoundabout = .conventionalRoundabout := by
    decide
  rw [← expected]
  exact (runsAsLabelled_iff_keepsStrategy permissive _ (some ["roundabout"])
    report validated valid "roundabout" (by simp [areWanted])
    .conventionalRoundabout (by rfl)).mpr keeps

def strategyRun (contract : Contract) (document : ScenarioDocument)
    (strategy : String) : Option StrategyId :=
  match document.compileScenario contract.fingerprint strategy with
  | .ok config =>
    match resolveStrategy config with
    | .ok run => some run
    | .error _ => none
  | .error _ => none

/-- An intersection type in the `advanced` section: the document is valid as a
roundabout, and is run as a fixed-time signal. -/
theorem runs_as_signal : validStrategies permissive (fourArms _ overridden_distinct)
        (some ["roundabout"]) = some ["roundabout"] ∧
      (fourArms _ overridden_distinct).expectedStrategy
        .conventionalRoundabout = .conventionalRoundabout ∧
      strategyRun permissive (fourArms _ overridden_distinct) "roundabout" =
        some .fixedTimeSignal := by
  decide +kernel

end ScenarioDocument
end Scenario
end UrbanFlow
