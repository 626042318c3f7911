import UrbanFlow.Scenario.StrategyIdentity
import UrbanFlow.Snapshot.DualOrchestrator

/-!
# The live comparison and the experiments

What the signal and the roundabout of the live comparison of a document have in
common with the configurations an experiment on that document measures.
-/

namespace UrbanFlow.DualOrchestrator

open Scenario ScenarioDocument StrategyValidator StrategyResolution Fields

/-! ## The two junctions of a document -/

/-- What the configuration schema says of the sections that the comparison
reads: geometry and control are objects, and a setting of the ring is a finite
number. -/
structure ChecksSections (contract : Contract) : Prop where
  objects : ∀ config, contract.schemaErrors config = [] →
    ∀ key ∈ ["geometry", "controller"], ∀ value,
      config.lookup key = some value → (value.asDict).isSome = true
  numbers : ∀ config, contract.schemaErrors config = [] →
    contract.semanticConfigErrors config = [] →
      ∀ control, config.dictAt "controller" = some control →
        ∀ key ∈ settingKeys, ∀ value, control.lookup key = some value →
          ∃ number, value.number = some number

/-- What two approaches have in common when their lane use is left out. -/
def withoutLaneUse (approaches : PyValue) : PyValue := match approaches with
  | .list items =>
    .list (items.map fun item =>
      match item with
      | .dict fields => .dict (fields.filter fun field => field.1 ≠ "laneUse")
      | other => other)
  | other => other

/-- The signal of the comparison and the signal compiled for an experiment. -/
structure SameSignal (document : ScenarioDocument) (intersectionType : String)
    (live compiled ringConfig : Fields) : Prop where
  junction : geometryValue live = .str "fixed_time_signal"
  sameJunction : (document.advancedSection "geometry").lookup "intersectionType" = none →
      geometryValue live = geometryValue compiled
  control : intersectionType ≠ "roundabout" →
    live.lookup "controller" = compiled.lookup "controller"
  timing : ∀ key ∉ signalSwitch,
    (sectionOf ringConfig "controller").lookup key = none →
      (sectionOf live "controller").lookup key =
        (sectionOf compiled "controller").lookup key
  roads : live.lookup "roads" = compiled.lookup "roads"
  traffic : live.lookup "traffic" = compiled.lookup "traffic"

/-- The roundabout of the comparison and the roundabout compiled for an
experiment. -/
structure SameRoundabout (document : ScenarioDocument) (live compiled : Fields) : Prop where
  junction : geometryValue live = .str "roundabout"
  sameJunction : (document.advancedSection "geometry").lookup "intersectionType" = none →
      geometryValue live = geometryValue compiled
  ringLanes : (sectionOf live "geometry").lookup "circulatingLanes" =
      (sectionOf compiled "geometry").lookup "circulatingLanes"
  settings : ∀ key ∈ settingKeys, ((sectionOf live "controller").get key).number =
      ((sectionOf compiled "controller").get key).number
  entries : ∀ key ∈ entryKeys, (sectionOf live "controller").get key =
      (sectionOf compiled "controller").get key
  approaches : withoutLaneUse ((sectionOf live "roads").get "approaches") =
      withoutLaneUse ((sectionOf compiled "roads").get "approaches")
  roads : ∀ key ≠ "approaches", (sectionOf live "roads").get key =
      (sectionOf compiled "roads").get key
  traffic : live.lookup "traffic" = compiled.lookup "traffic"

/-! ## The sections of the compiled configurations -/

section Compiled

variable (contract : Contract) (document : ScenarioDocument) (canonical : StrategyId)
variable (strategy : String)

/-- The configuration of a strategy. -/
def compiledConfig : Fields := document.labelledConfig contract.fingerprint canonical strategy

/-- Its control section. -/
def compiledControl : Fields :=
  deepMerge (document.controllerSection canonical) (document.advancedSection "controller")

def compiledGeometry : Fields :=
  deepMerge (document.geometrySection (canonical.IsRoundabout))
    (document.advancedSection "geometry")

variable {contract}

section

variable (checks : ChecksSections contract)
  (noErrors : contract.schemaErrors (compiledConfig contract document canonical strategy) = [])

include checks noErrors

theorem dictAt_controller_compiledConfig :
    (compiledConfig contract document canonical strategy).dictAt
      "controller" = some (compiledControl document canonical) := by
  have isSection := document.dictAt_controller_plainConfig canonical
  exact document.dictAt_labelledConfig_of_isSome _ canonical strategy (by decide) isSection
    (document.isSome_dictAt_labelledConfig _ canonical strategy (by decide)
      isSection (checks.objects _ noErrors "controller" (by simp)))

theorem dictAt_geometry_compiledConfig :
    (compiledConfig contract document canonical strategy).dictAt
      "geometry" = some (compiledGeometry document canonical) := by
  have isSection := document.dictAt_geometry_plainConfig canonical
  exact document.dictAt_labelledConfig_of_isSome _ canonical strategy (by decide) isSection
    (document.isSome_dictAt_labelledConfig _ canonical strategy (by decide)
      isSection (checks.objects _ noErrors "geometry" (by simp)))

end

theorem isSome_green_compiledControl (isSignal : ¬ canonical.IsRoundabout) :
    ((compiledControl document canonical).lookup "straightRightDuration").isSome = true := by
  apply isSome_lookup_deepMerge (document.advancedSection_distinct _)
  simp [controllerSection, isSignal]

theorem isSome_setting_compiledControl {key : String} (isKey : key ∈ settingKeys) :
    ((compiledControl document .conventionalRoundabout).lookup key).isSome = true := by
  apply isSome_lookup_deepMerge (document.advancedSection_distinct _)
  simp only [settingKeys, List.mem_cons, List.not_mem_nil, or_false] at isKey
  rcases isKey with rfl | rfl | rfl | rfl | rfl | rfl <;>
    simp [controllerSection, StrategyId.IsRoundabout,
      ringSettings, List.lookup_cons]

/-- What a signal has in place of a ring's entry control can only be what the
`advanced` section gives both of them. -/
theorem isNone_entry_compiledControl (isSignal : ¬ canonical.IsRoundabout) {key : String}
    (isKey : key ∈ entryKeys)
    (ringHasNone : ((compiledControl document .conventionalRoundabout).get key).isNone = true) :
    ((compiledControl document canonical).get key).isNone = true := by
  have distinct := document.advancedSection_distinct "controller"
  have signalHasNone : (document.controllerSection canonical).lookup key = none := by
    simp only [entryKeys, List.mem_cons, List.not_mem_nil, or_false] at isKey
    rcases isKey with rfl | rfl <;>
      simp [controllerSection, isSignal, List.lookup_append,
        lookup_optional, List.lookup_cons]
  unfold compiledControl at ringHasNone ⊢
  rw [Fields.get_deepMerge_of_none distinct signalHasNone]
  unfold Fields.get at ringHasNone ⊢
  rw [lookup_deepMerge _ distinct] at ringHasNone
  cases found : (document.advancedSection "controller").lookup key with
  | none => rfl
  | some =>
    rw [found] at ringHasNone
    simpa [PyValue.isNone_mergeOver] using ringHasNone

/-- The geometry of a compiled configuration is its strategy's own kind, where
the `advanced` section gives no other. -/
theorem get_intersectionType_compiledGeometry
    (notGiven : (document.advancedSection "geometry").lookup "intersectionType" = none) :
    (compiledGeometry document canonical).get "intersectionType" =
      .str (if canonical.IsRoundabout then "roundabout" else "fixed_time_signal") := by
  unfold compiledGeometry Fields.get
  rw [lookup_deepMerge_of_none _ (document.advancedSection_distinct _) notGiven]
  simp [geometrySection]

theorem lookup_circulatingLanes_liveGeometry (intersectionType : String)
    (isSignal : ¬ canonical.IsRoundabout) :
    (liveGeometry (compiledGeometry document canonical)
        (compiledGeometry document .conventionalRoundabout)
        intersectionType).lookup "circulatingLanes" =
      (compiledGeometry document .conventionalRoundabout).lookup "circulatingLanes" := by
  have distinct := document.advancedSection_distinct "geometry"
  unfold liveGeometry
  rw [lookup_set_of_ne _ (by decide)]
  cases found : (compiledGeometry document .conventionalRoundabout).lookup "circulatingLanes" with
  | some => simp
  | none =>
    simp only [compiledGeometry, lookup_deepMerge _ distinct] at found ⊢
    split at found
    case h_2 => cases found
    case h_1 =>
      simp [geometrySection, isSignal, List.lookup_append,
        lookup_optional, List.lookup_cons]

/-! ## Roads and traffic -/

theorem withoutLaneUse_roadItems (arms : List (Direction × ApproachSpec)) (one other : Bool) :
    withoutLaneUse (.list (arms.map (roadItem one))) =
      withoutLaneUse (.list (arms.map (roadItem other))) := by
  simp only [withoutLaneUse, List.map_map, PyValue.list.injEq]
  apply List.map_congr_left
  rintro ⟨direction, arm⟩ _
  have keepsOnly : ∀ laneUse : Option PyValue, (Scenario.optional "laneUse" laneUse).filter
        (fun field => decide (field.1 ≠ "laneUse")) = [] := by
    intro laneUse
    cases laneUse <;> simp [Scenario.optional]
  simp only [roadItem, Function.comp_apply, List.filter_append, keepsOnly]

theorem roadsSection_eq (one other : Bool) {key : String} (notApproaches : key ≠ "approaches") :
    (document.roadsSection one).lookup key = (document.roadsSection other).lookup key := by
  simp [roadsSection, List.lookup_cons, beq_false_of_ne notApproaches]

theorem lookup_approaches_roadsSection (isRoundabout : Bool) :
    (document.roadsSection isRoundabout).lookup "approaches" =
      some (.list (document.approaches.present.map (roadItem isRoundabout))) := by
  simp [roadsSection, List.lookup_cons]

variable (contract) in
/-- The roads of a document do not depend on the strategy, its lane use left
out. -/
theorem roads_compiledConfig (other : StrategyId) (otherStrategy : String) :
    let roads := sectionOf
      (compiledConfig contract document canonical strategy) "roads"
    let otherRoads := sectionOf
      (compiledConfig contract document other otherStrategy) "roads"
    (∀ key ≠ "approaches", roads.get key = otherRoads.get key) ∧
      withoutLaneUse (roads.get "approaches") = withoutLaneUse (otherRoads.get "approaches") := by
  have plain := withoutLaneUse_roadItems document.approaches.present
    canonical.IsRoundabout other.IsRoundabout
  unfold sectionOf compiledConfig
  rw [document.dictAt_labelledConfig _ canonical strategy (by decide)
      (document.dictAt_roads_plainConfig canonical),
    document.dictAt_labelledConfig _ other otherStrategy (by decide)
      (document.dictAt_roads_plainConfig other)]
  cases found : document.advancedFields.lookup "roads" with
  | none =>
    constructor
    · intro key notApproaches
      simp only [Option.getD_some, Fields.get]
      rw [roadsSection_eq document canonical.IsRoundabout other.IsRoundabout notApproaches]
    · simpa [Fields.get, lookup_approaches_roadsSection] using plain
  | some value =>
    cases value with
    | dict advanced =>
      have distinct := advanced_section_distinct found
      simp only [Option.getD_some, Fields.get, lookup_deepMerge _ distinct]
      constructor
      · intro key notApproaches
        rw [roadsSection_eq document _ _ notApproaches]
      · rw [lookup_approaches_roadsSection, lookup_approaches_roadsSection]
        cases advanced.lookup "approaches" with
        | none => exact plain
        | some => simp
    | _ => simp

end Compiled

/-! ## The two junctions -/

theorem lookup_controller_roundaboutView_of_ne (signal ring : Fields) {key : String}
    (isTiming : key ∉ signalSwitch) (notRing : ring.lookup key = none) :
    (roundaboutView signal ring).lookup key = signal.lookup key := by
  unfold roundaboutView
  rw [lookup_update, notRing]
  have kept := lookup_filter signal (fun name => decide (name ∉ signalSwitch)) key
  simpa [isTiming] using kept

/-- The control the live configuration holds. -/
def liveControlSection (signal ring : Fields) (intersectionType : String) : Fields :=
  if intersectionType = "roundabout" then roundaboutView signal ring
  else signal

section

variable {signal ring : Fields} (intersectionType : String)

theorem signalController_liveControlSection
    (hasGreen : (signal.lookup "straightRightDuration").isSome = true) :
    signalController (liveControlSection signal ring intersectionType) =
      liveControlSection signal ring intersectionType := by
  have keepsGreen : ((liveControlSection signal ring intersectionType).lookup
      "straightRightDuration").isSome = true := by
    unfold liveControlSection
    split
    · have kept := lookup_filter signal
        (fun name => decide (name ∉ signalSwitch)) "straightRightDuration"
      have isTiming : "straightRightDuration" ∉ signalSwitch := by decide
      simp only [isTiming, not_false_eq_true, decide_true, if_true] at kept
      unfold roundaboutView
      rw [lookup_update, kept]
      cases ring.lookup "straightRightDuration" with
      | some => rfl
      | none => exact hasGreen
    · exact hasGreen
  unfold signalController
  rw [if_pos ⟨"straightRightDuration", by simp [timingKeys], keepsGreen⟩]

/-- What meters the entries of the ring is what the ring's own control says. -/
theorem firstGiven_liveControlSection {key : String} (isKey : key ∈ entryKeys)
    (signalHasNone : (ring.get key).isNone = true → (signal.get key).isNone = true) :
    (firstGiven [ring, liveControlSection signal ring intersectionType]
      key).getD .none = ring.get key := by
  by_cases ringHasNone : (ring.get key).isNone = true
  · have liveHasNone : ((liveControlSection signal ring
        intersectionType).get key).isNone = true := by
      unfold liveControlSection
      split
      · have isTiming : key ∉ signalSwitch := by
          simp only [entryKeys, List.mem_cons, List.not_mem_nil, or_false] at isKey
          rcases isKey with rfl | rfl <;> decide
        cases found : ring.lookup key with
        | none =>
          unfold Fields.get
          rw [lookup_controller_roundaboutView_of_ne signal ring isTiming found]
          exact signalHasNone ringHasNone
        | some =>
          simp only [Fields.get, found, Option.getD_some] at ringHasNone
          simp [Fields.get, roundaboutView,
            lookup_update, found, ringHasNone]
      · exact signalHasNone ringHasNone
    simp [firstGiven, liveHasNone, PyValue.isNone_iff.mp ringHasNone]
  · simp [firstGiven, ringHasNone]

end

section Sides

variable {document : ScenarioDocument} {canonical : StrategyId} {intersectionType : String}
variable {signalConfig ringConfig live : Fields}

theorem geometryValue_engineConfig (config geometry control : Fields) (engine : String) :
    geometryValue (engineConfig config geometry control engine) = .str engine := by
  simp [geometryValue, dictAt_geometry_engineConfig, Fields.get]

theorem sameSignal (isSignal : ¬ canonical.IsRoundabout)
    (parts : LiveParts signalConfig (compiledControl document canonical)
      (compiledGeometry document canonical)
      (compiledControl document .conventionalRoundabout)
      (compiledGeometry document .conventionalRoundabout) intersectionType live)
    (signalControl : signalConfig.dictAt "controller" = some (compiledControl document canonical))
    (signalGeometry : signalConfig.dictAt "geometry" = some (compiledGeometry document canonical))
    (ringControl : ringConfig.dictAt "controller" =
      some (compiledControl document .conventionalRoundabout))
    (geometry : Fields) :
    SameSignal document intersectionType (engineConfig live geometry
        (liveControlSection (compiledControl document canonical)
          (compiledControl document .conventionalRoundabout) intersectionType)
        "fixed_time_signal")
      signalConfig ringConfig := by
  refine
    { junction := geometryValue_engineConfig _ _ _ _
      sameJunction := ?_
      control := ?_
      timing := ?_
      roads := ?_
      traffic := ?_ }
  · intro notGiven
    rw [geometryValue_engineConfig, geometryValue, signalGeometry]
    simp [get_intersectionType_compiledGeometry document canonical notGiven, isSignal]
  · intro notRoundabout
    have isControl := dictAt_controller_engineConfig live geometry
      (liveControlSection (compiledControl document canonical)
        (compiledControl document .conventionalRoundabout) intersectionType)
      "fixed_time_signal"
    rw [dictAt_eq_some.mp isControl, dictAt_eq_some.mp signalControl]
    simp [liveControlSection, notRoundabout]
  · intro key isTiming notRing
    simp only [sectionOf, ringControl, signalControl,
      dictAt_controller_engineConfig, Option.getD_some] at notRing ⊢
    unfold liveControlSection
    split
    · exact lookup_controller_roundaboutView_of_ne _ _ isTiming notRing
    · rfl
  · rw [lookup_engineConfig _ _ _ _ (by decide) (by decide)]
    exact parts.others "roads" (by decide)
  · rw [lookup_engineConfig _ _ _ _ (by decide) (by decide)]
    exact parts.others "traffic" (by decide)

theorem sameRoundabout {contract : Contract} {signalStrategy : String}
    (isSignal : ¬ canonical.IsRoundabout) (parts : LiveParts
      (compiledConfig contract document canonical signalStrategy)
      (compiledControl document canonical)
      (compiledGeometry document canonical)
      (compiledControl document .conventionalRoundabout)
      (compiledGeometry document .conventionalRoundabout) intersectionType live)
    (isRing : ringConfig = compiledConfig contract document .conventionalRoundabout "roundabout")
    (ringGeometry : ringConfig.dictAt "geometry" =
      some (compiledGeometry document .conventionalRoundabout))
    (ringControl : ringConfig.dictAt "controller" =
      some (compiledControl document .conventionalRoundabout))
    {control : Fields}
    (settings : ∀ key ∈ settingKeys, (control.get key).number =
      ((compiledControl document .conventionalRoundabout).get key).number)
    (entries : ∀ key ∈ entryKeys, control.get key =
      (firstGiven [compiledControl document .conventionalRoundabout,
        liveControlSection (compiledControl document canonical)
          (compiledControl document .conventionalRoundabout)
          intersectionType] key).getD .none) :
    SameRoundabout document (engineConfig live
        (liveGeometry (compiledGeometry document canonical)
          (compiledGeometry document .conventionalRoundabout)
          intersectionType)
        control "roundabout")
      ringConfig := by
  have roads := (lookup_engineConfig live (liveGeometry (compiledGeometry document canonical)
    (compiledGeometry document .conventionalRoundabout) intersectionType) control "roundabout"
    (by decide) (by decide)).trans (parts.others "roads" (by decide))
  have sameRoads := roads_compiledConfig contract document canonical
    signalStrategy .conventionalRoundabout "roundabout"
  rw [← isRing] at sameRoads
  refine
    { junction := geometryValue_engineConfig _ _ _ _
      sameJunction := ?_
      ringLanes := ?_
      settings := ?_
      entries := ?_
      approaches := ?_
      roads := ?_
      traffic := ?_ }
  · intro notGiven
    rw [geometryValue_engineConfig, geometryValue, ringGeometry]
    simp [get_intersectionType_compiledGeometry document
      .conventionalRoundabout notGiven, StrategyId.IsRoundabout]
  · simp only [sectionOf, ringGeometry,
      dictAt_geometry_engineConfig, Option.getD_some]
    rw [lookup_set_of_ne _ (by decide)]
    exact lookup_circulatingLanes_liveGeometry document canonical intersectionType isSignal
  · intro key isKey
    simp only [sectionOf, ringControl,
      dictAt_controller_engineConfig, Option.getD_some]
    exact settings key isKey
  · intro key isKey
    simp only [sectionOf, ringControl,
      dictAt_controller_engineConfig, Option.getD_some]
    rw [entries key isKey]
    exact firstGiven_liveControlSection intersectionType isKey
      (isNone_entry_compiledControl document canonical isSignal isKey)
  · simpa only [sectionOf, dictAt, roads] using sameRoads.2
  · intro key notApproaches
    simpa only [sectionOf, dictAt, roads] using
      sameRoads.1 key notApproaches
  · rw [lookup_engineConfig _ _ _ _ (by decide) (by decide),
      parts.others "traffic" (by decide), isRing]
    exact document.lookup_labelledConfig_eq _ _ _ _ _ (by decide)

end Sides

/-- The signals that a comparison may show. -/
theorem signal_canonical {signalStrategy : String}
    (isSignal : signalStrategy ∈ ["fixed_time", "adaptive"]) :
    ∃ canonical, StrategyRegistry.resolveId signalStrategy = .ok canonical ∧
      ¬ canonical.IsRoundabout := by
  simp only [List.mem_cons, List.not_mem_nil, or_false] at isSignal
  rcases isSignal with rfl | rfl
  · exact ⟨.fixedTimeSignal, rfl, by decide⟩
  · exact ⟨.adaptiveSignal, rfl, by decide⟩

/-- For a document that is valid for its signal and for the roundabout, the two
junctions of the live comparison are the two that are compiled for an
experiment, but for the lane use of the roundabout and the keys of its control
that are no settings of a ring. -/
theorem liveComparison_agrees (contract : Contract) (checks : ChecksSections contract)
    (parseFloat : String → Option PyValue) (document : ScenarioDocument)
    (signalStrategy intersectionType : String)
    (isSignal : signalStrategy ∈ ["fixed_time", "adaptive"]) (report : ValidationReport)
    (validated : contract.validateScenario document
      (some [signalStrategy, "roundabout"]) = .ok report)
    (valid : report.valid = true) :
    ∃ signalConfig ringConfig live signal ring,
      document.compileScenario contract.fingerprint signalStrategy = .ok signalConfig ∧
        document.compileScenario contract.fingerprint "roundabout" = .ok ringConfig ∧
        document.compileLiveComparison contract.fingerprint signalStrategy
          intersectionType = .ok live ∧
        signalAndRoundaboutConfigs parseFloat live = .ok (signal, ring) ∧
        SameSignal document intersectionType signal signalConfig ringConfig ∧
        SameRoundabout document ring ringConfig := by
  obtain ⟨canonical, isCanonical, notRoundabout⟩ := signal_canonical isSignal
  have areWanted : report.strategies = [signalStrategy, "roundabout"] :=
    contract.strategies_of_ok validated
  have signalWanted : signalStrategy ∈ report.strategies := by simp [areWanted]
  have ringWanted : "roundabout" ∈ report.strategies := by simp [areWanted]
  obtain ⟨signalConfig, signalCompiled, signalNoErrors, _⟩ :=
    contract.compiled_of_valid validated valid signalWanted
  obtain ⟨ringConfig, ringCompiled, ringNoErrors, ringNoSemantic⟩ :=
    contract.compiled_of_valid validated valid ringWanted
  obtain rfl : signalConfig = compiledConfig contract document canonical signalStrategy :=
    eq_labelledConfig isCanonical signalCompiled
  have isRing : ringConfig =
      compiledConfig contract document .conventionalRoundabout "roundabout" :=
    eq_labelledConfig rfl ringCompiled
  have signalControl := dictAt_controller_compiledConfig document canonical
    signalStrategy checks signalNoErrors
  have signalGeometry := dictAt_geometry_compiledConfig document canonical
    signalStrategy checks signalNoErrors
  have ringControl : ringConfig.dictAt "controller" =
      some (compiledControl document .conventionalRoundabout) := by
    rw [isRing] at ringNoErrors ⊢
    exact dictAt_controller_compiledConfig document _ _ checks ringNoErrors
  have ringGeometry : ringConfig.dictAt "geometry" =
      some (compiledGeometry document .conventionalRoundabout) := by
    rw [isRing] at ringNoErrors ⊢
    exact dictAt_geometry_compiledConfig document _ _ checks ringNoErrors
  obtain ⟨live, isLive, parts⟩ := compileLiveComparison_parts contract.fingerprint
      intersectionType isSignal signalCompiled ringCompiled signalControl
      signalGeometry (document.dictAt_scenario_labelledConfig _ _ _)
      ringControl ringGeometry
  have numbers : ∀ key ∈ settingKeys, ∃ value number,
      (compiledControl document .conventionalRoundabout).lookup key =
        some value ∧ value.number = some number := by
    intro key isKey
    obtain ⟨value, found⟩ := Option.isSome_iff_exists.mp
      (isSome_setting_compiledControl document isKey)
    obtain ⟨number, isNumber⟩ := checks.numbers ringConfig ringNoErrors
      ringNoSemantic _ ringControl key isKey value found
    exact ⟨value, number, found, isNumber⟩
  obtain ⟨control, isControl, settings, entries⟩ := roundaboutController_ok parseFloat
      (liveGeometry (compiledGeometry document canonical)
        (compiledGeometry document .conventionalRoundabout) intersectionType)
      (liveControlSection (compiledControl document canonical)
        (compiledControl document .conventionalRoundabout) intersectionType)
      numbers
  have engines := signalAndRoundaboutConfigs_eq parseFloat parts.geometry
    parts.control parts.ringControl isControl
  rw [← liveControlSection, signalController_liveControlSection
    intersectionType (isSome_green_compiledControl document canonical notRoundabout)] at engines
  exact ⟨_, ringConfig, live, _, _, signalCompiled, ringCompiled, isLive, engines,
    sameSignal notRoundabout parts signalControl signalGeometry ringControl _,
    sameRoundabout notRoundabout parts isRing ringGeometry ringControl settings entries⟩

/-- The rules on the sections that the comparison reads. -/
def sectionRules : Contract :=
  { permissive with
    schemaErrors := fun config =>
      (["geometry", "controller"].filter fun key =>
        match config.lookup key with
        | some value => value.asDict.isNone
        | none => false) ++
      (settingKeys.filter fun key =>
        match (sectionOf config "controller").lookup key with
        | some value => value.number.isNone
        | none => false) }

theorem sectionRules_checks : ChecksSections sectionRules := by
  refine ⟨?_, ?_⟩
  · intro config noErrors key isSection value found
    simp only [sectionRules, List.append_eq_nil_iff, List.filter_eq_nil_iff] at noErrors
    have isObject := noErrors.1 key isSection
    simp only [found] at isObject
    simpa [Option.isSome_iff_ne_none] using isObject
  · intro config noErrors _ control isControl key isKey value found
    simp only [sectionRules, List.append_eq_nil_iff, List.filter_eq_nil_iff] at noErrors
    have isNumber := noErrors.2 key isKey
    simp only [sectionOf, isControl, Option.getD_some, found] at isNumber
    exact Option.isSome_iff_exists.mp (by simpa [Option.isSome_iff_ne_none] using isNumber)

/-- A plain junction of four arms, beside itself as a roundabout. -/
theorem liveComparison_fourArms : ∃ signalConfig ringConfig live signal ring,
      (fourArms [] plain_distinct).compileScenario
          sectionRules.fingerprint "adaptive" = .ok signalConfig ∧
        (fourArms [] plain_distinct).compileScenario
            sectionRules.fingerprint "roundabout" = .ok ringConfig ∧
        (fourArms [] plain_distinct).compileLiveComparison
            sectionRules.fingerprint "adaptive" "fixed_time_signal" =
          .ok live ∧
        signalAndRoundaboutConfigs (fun _ => none) live = .ok (signal, ring) ∧
        SameSignal (fourArms []
            plain_distinct) "fixed_time_signal" signal
          signalConfig ringConfig ∧
        SameRoundabout (fourArms []
          plain_distinct) ring ringConfig := by
  obtain ⟨report, validated, valid, _⟩ : ∃ report,
      sectionRules.validateScenario (fourArms [] plain_distinct)
          (some ["adaptive", "roundabout"]) = .ok report ∧
        report.valid = true ∧ report.strategies = ["adaptive", "roundabout"] :=
    exists_report (by decide +kernel)
  exact liveComparison_agrees sectionRules sectionRules_checks (fun _ => none)
    _ "adaptive" "fixed_time_signal" (by simp) report validated valid

def controlKeys (config : Except PyMessage Fields) : List String := match config with
  | .ok fields => (sectionOf fields "controller").map Prod.fst
  | .error _ => []

/-- The two engines of a document. -/
def liveEngines (contract : Contract) (document : ScenarioDocument)
    (signalStrategy intersectionType : String) : Except PyMessage (Fields × Fields) := do
  let live ← document.compileLiveComparison contract.fingerprint signalStrategy intersectionType
  signalAndRoundaboutConfigs (fun _ => none) live

/-- The control sections differ: the ring's has a reserved key beside its
settings, and in a roundabout view the signal has lost its adaptive control. -/
theorem control_sections_differ :
    let document := fourArms [] plain_distinct
    validStrategies sectionRules document
        (some ["adaptive", "roundabout"]) = some ["adaptive", "roundabout"] ∧
      "circulatingLanes" ∈ controlKeys ((liveEngines sectionRules document
        "adaptive" "fixed_time_signal").map Prod.snd) ∧
      "circulatingLanes" ∉ controlKeys (document.compileScenario
        sectionRules.fingerprint "roundabout") ∧
      "signalControl" ∉ controlKeys ((liveEngines sectionRules document
        "adaptive" "roundabout").map Prod.fst) ∧
      "signalControl" ∈ controlKeys (document.compileScenario
        sectionRules.fingerprint "adaptive") := by
  decide +kernel

end UrbanFlow.DualOrchestrator
