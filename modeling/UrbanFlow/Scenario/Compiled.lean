import UrbanFlow.Scenario.Documents

/-!
# Compiled configurations

What a compiled configuration holds: a section is the strategy's own, merged
with the section of that name in `advanced`; the `scenario` block is written
last.
-/

namespace UrbanFlow.Scenario

open Fields

theorem lookup_optional (key other : String) (value : Option PyValue) :
    (optional key value).lookup other = if other = key then value else none := by
  cases value with
  | none => simp [optional]
  | some =>
    by_cases same : other = key
    · simp [optional, same]
    · simp [optional, same, lookup_cons_of_ne same]

namespace ScenarioDocument

variable (fingerprint : ScenarioDocument → String) (document : ScenarioDocument)
variable (canonical : StrategyId) (strategy : String)

/-- The configuration of a strategy, with its `scenario` block. -/
def labelledConfig : Fields := (document.mergedConfig canonical).set "scenario"
    (.dict (scenarioBlock fingerprint document strategy))

variable {fingerprint document canonical strategy}

theorem eq_labelledConfig {config : Fields}
    (isCanonical : StrategyRegistry.resolveId strategy = .ok canonical)
    (compiled : document.compileScenario fingerprint strategy = .ok config) :
    config = document.labelledConfig fingerprint canonical strategy := by
  unfold compileScenario at compiled
  rw [isCanonical] at compiled
  simp only at compiled
  split at compiled
  case isTrue => cases compiled
  case isFalse =>
    split at compiled
    case isTrue => cases compiled
    case isFalse => exact (Except.ok.inj compiled).symm

variable (fingerprint document canonical strategy)

theorem lookup_labelledConfig {key : String} (notScenario : key ≠ "scenario") :
    (document.labelledConfig fingerprint canonical strategy).lookup key =
      match document.advancedFields.lookup key with
      | none => (document.plainConfig canonical).lookup key
      | some value => some (value.mergeOver ((document.plainConfig canonical).lookup key)) := by
  unfold labelledConfig mergedConfig
  rw [lookup_set_of_ne _ notScenario]
  exact lookup_deepMerge _ document.advancedFields_distinct key

theorem dictAt_labelledConfig {key : String} {inner : Fields} (notScenario : key ≠ "scenario")
    (isSection : (document.plainConfig canonical).dictAt key = some inner) :
    (document.labelledConfig fingerprint canonical strategy).dictAt key =
      match document.advancedFields.lookup key with
      | none => some inner
      | some (.dict other) => some (deepMerge inner other)
      | some _ => none := by
  have unlabelled : (document.labelledConfig fingerprint canonical strategy).dictAt key =
        (document.mergedConfig canonical).dictAt key := by
    unfold dictAt labelledConfig
    rw [lookup_set_of_ne _ notScenario]
  exact unlabelled.trans (dictAt_deepMerge document.advancedFields_distinct isSection)

theorem dictAt_scenario_labelledConfig :
    (document.labelledConfig fingerprint canonical strategy).dictAt "scenario" =
      some (scenarioBlock fingerprint document strategy) := by
  unfold labelledConfig
  rw [dictAt_eq_some, lookup_set_self]

theorem dictAt_controller_plainConfig : (document.plainConfig canonical).dictAt "controller" =
      some (document.controllerSection canonical) := by
  simp [dictAt, plainConfig, List.lookup_cons]

theorem dictAt_geometry_plainConfig : (document.plainConfig canonical).dictAt "geometry" =
      some (document.geometrySection (canonical.IsRoundabout)) := by
  simp [dictAt, plainConfig, List.lookup_cons]

theorem dictAt_roads_plainConfig : (document.plainConfig canonical).dictAt "roads" =
      some (document.roadsSection (canonical.IsRoundabout)) := by
  simp [dictAt, plainConfig, List.lookup_cons]

variable {document} in
theorem advanced_section_distinct {key : String} {other : Fields}
    (found : document.advancedFields.lookup key = some (.dict other)) : Distinct other := by
  have distinct := document.advancedFields_distinct.lookup found
  rwa [PyValue.Distinct] at distinct

/-- The section of `advanced` under a key, empty where it has none. -/
def advancedSection (key : String) : Fields := (document.advancedFields.dictAt key).getD []

theorem advancedSection_distinct (key : String) :
    Distinct (document.advancedSection key) := by
  unfold advancedSection
  cases isSection : document.advancedFields.dictAt key with
  | none => trivial
  | some => exact advanced_section_distinct (dictAt_eq_some.mp isSection)

section

variable {key : String} {inner : Fields} (notScenario : key ≠ "scenario")
  (isSection : (document.plainConfig canonical).dictAt key = some inner)

include notScenario isSection

theorem dictAt_labelledConfig_of_isSome
    (isObject : ((document.labelledConfig fingerprint canonical strategy).dictAt key).isSome = true) :
    (document.labelledConfig fingerprint canonical strategy).dictAt key =
      some (deepMerge inner (document.advancedSection key)) := by
  have merged := document.dictAt_labelledConfig fingerprint canonical strategy notScenario isSection
  rw [merged] at isObject ⊢
  unfold advancedSection dictAt
  cases found : document.advancedFields.lookup key with
  | none => simp [deepMerge]
  | some value =>
    cases value with
    | dict => simp
    | _ => simp [found] at isObject

/-- A section that is an object wherever it is given is one. -/
theorem isSome_dictAt_labelledConfig
    (isObject : ∀ value, (document.labelledConfig fingerprint canonical strategy).lookup key = some value → value.asDict.isSome = true) :
    ((document.labelledConfig fingerprint canonical strategy).dictAt key).isSome = true := by
  rw [dictAt]
  cases found : (document.labelledConfig fingerprint canonical strategy).lookup key with
  | some value => simpa using isObject value found
  | none =>
    rw [lookup_labelledConfig _ _ _ _ notScenario, dictAt_eq_some.mp isSection] at found
    split at found <;> cases found

end

theorem lookup_labelledConfig_eq (other : StrategyId) (otherStrategy : String) {key : String}
    (isShared : key ∉ ["geometry", "roads", "controller", "scenario"]) :
    (document.labelledConfig fingerprint canonical strategy).lookup key =
      (document.labelledConfig fingerprint other otherStrategy).lookup key := by
  simp only [List.mem_cons, List.not_mem_nil, or_false, not_or] at isShared
  obtain ⟨notGeometry, notRoads, notController, notScenario⟩ := isShared
  have samePlain : (document.plainConfig canonical).lookup key =
      (document.plainConfig other).lookup key := by
    simp [plainConfig, List.lookup_cons, beq_false_of_ne notGeometry,
      beq_false_of_ne notRoads, beq_false_of_ne notController]
  rw [lookup_labelledConfig _ _ _ _ notScenario,
    lookup_labelledConfig _ _ _ _ notScenario, samePlain]

end ScenarioDocument
end UrbanFlow.Scenario
