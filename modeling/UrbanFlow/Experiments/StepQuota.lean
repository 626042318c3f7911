import Mathlib.Algebra.BigOperators.Ring.List
import UrbanFlow.Experiments.CommonRandomNumbers

/-!
# The quota of engine steps

A request is prepared without an exception exactly when no rule raises on the
configuration of an alternative and the duration of the base can be divided by the
time step of every alternative. The runs of an accepted request stay within their
quota, and their engine steps do when no alternative's document lasts longer than the
base: the quota is computed from the duration of the base.
-/

namespace UrbanFlow.Uncertainty

open Scenario ScenarioDocument PreparationContext

/-! ## Preparing without an exception -/

/-- A duration can be divided by a time step: the step is neither zero nor NaN, and the
quotient has a float. -/
def StepReading.Divides (duration : ℚ) : StepReading → Prop
  | .number step => step ≠ 0 ∧ |duration / step| < floatLimit
  | .infinite => True
  | _ => False

theorem ceilQuotient_ok_iff {duration : ℚ} {reading : StepReading} :
    (∃ steps, ceilQuotient duration reading = .ok steps) ↔ reading.Divides duration := by
  cases reading with
  | number step =>
    by_cases isZero : step = 0
    · simp [ceilQuotient, StepReading.Divides, isZero]
    · by_cases tooLarge : floatLimit ≤ |duration / step|
      · simp [ceilQuotient, StepReading.Divides, isZero, tooLarge]
      · simp [ceilQuotient, StepReading.Divides, isZero, tooLarge, not_le.mp tooLarge]
  | _ => simp [ceilQuotient, StepReading.Divides]

namespace PreparationContext

variable {Law Analysis : Type}

section

variable (context : PreparationContext Law Analysis) (base : ScenarioDocument)
  (spec : AlternativeSpec)

/-- No rule raises on the configuration of an alternative that is checked. -/
def RulesReturn : Prop := context.specErrors spec = [] →
    ∀ document, context.alternativeDocument base spec.patch = .ok document →
      scenarioLevelChecks document = [] → ∀ config,
          document.compileScenario context.contract.fingerprint spec.strategy = .ok config →
            context.rulesRaise config = none

/-- The duration of the base can be divided by the time step of an alternative. -/
def StepDivides : Prop := context.specErrors spec = [] →
    ∀ document, context.alternativeDocument base spec.patch = .ok document →
      (context.stepReading document spec.strategy).Divides base.simulation.duration

end

/-- What a payload must meet to be prepared: only one that is resolved can fail. -/
def PreparesQuietly (context : PreparationContext Law Analysis) (payload : PyValue) : Prop :=
  ∀ fields request base, payload = .dict fields → payload.depth ≤ maxDocumentDepth →
    context.parseRequest payload = .ok request →
    context.parseScenario (.dict request.scenario) = .ok base →
    (request.alternatives.getD []).length ≤ maxAlternatives →
      (∀ spec ∈ request.specs, context.RulesReturn base spec) ∧ (2 ≤ request.specs.length →
          ∀ spec ∈ request.specs, context.StepDivides base spec)

variable {context : PreparationContext Law Analysis} {request : ExperimentRequest Law}
variable {base : ScenarioDocument}

section

variable {document : ScenarioDocument} {strategy : String} (isStrategy : strategy ∈ strategies)

include isStrategy

theorem exists_compileScenario (levelChecks : scenarioLevelChecks document = []) :
    ∃ config, document.compileScenario context.contract.fingerprint strategy = .ok config := by
  dsimp only [scenarioLevelChecks] at levelChecks
  split at levelChecks
  · cases levelChecks
  · next enoughArms =>
      have demand := (List.append_eq_nil_iff.mp levelChecks).2
      have someTraffic : 0 < document.totalVehiclesPerHour := by
        by_contra noTraffic
        rw [if_pos noTraffic] at demand
        cases demand
      have known : ∃ canonical, StrategyRegistry.resolveId strategy = .ok canonical := by
        simp only [strategies, List.mem_cons, List.not_mem_nil, or_false] at isStrategy
        obtain rfl | rfl | rfl := isStrategy
        · exact ⟨.fixedTimeSignal, rfl⟩
        · exact ⟨.adaptiveSignal, rfl⟩
        · exact ⟨_, rfl⟩
      obtain ⟨canonical, isCanonical⟩ := known
      unfold compileScenario
      rw [isCanonical]
      simp only
      rw [if_neg (not_not.mpr someTraffic), if_neg enoughArms]
      exact ⟨_, rfl⟩

theorem exists_validateScenario : ∃ report,
      context.contract.validateScenario document (some [strategy]) = .ok report := by
  dsimp only [Contract.validateScenario]
  split
  · exact ⟨_, rfl⟩
  · split
    · next levelChecks =>
        have compiles : ∃ config, document.compileScenario
            context.contract.fingerprint strategy = .ok config :=
          exists_compileScenario isStrategy levelChecks
        obtain ⟨config, compiled⟩ := compiles
        have checked : ∃ byStrategy, (Contract.wanted document (some [strategy])).mapM
              (context.contract.strategyErrors document) = .ok byStrategy := by
          apply exists_mapM
          intro wanted isWanted
          obtain rfl := List.mem_singleton.mp isWanted
          exact ⟨_, bind_ok_iff.mpr ⟨config, compiled, rfl⟩⟩
        obtain ⟨byStrategy, isChecked⟩ := checked
        exact ⟨_, bind_ok_iff.mpr ⟨byStrategy, isChecked, rfl⟩⟩
    · exact ⟨_, rfl⟩

theorem exists_checkScenario_iff :
    (∃ report, context.checkScenario document strategy = .ok report) ↔
      (scenarioLevelChecks document = [] → ∀ config,
        document.compileScenario context.contract.fingerprint strategy = .ok config →
          context.rulesRaise config = none) := by
  have validated : ∃ report, context.contract.validateScenario document
      (some [strategy]) = .ok report := exists_validateScenario isStrategy
  constructor
  · rintro ⟨report, isChecked⟩ levelChecks config compiled
    unfold checkScenario at isChecked
    rw [if_pos (List.isEmpty_iff.mpr levelChecks)] at isChecked
    obtain ⟨other, otherCompiled, isChecked⟩ := bind_ok_iff.mp isChecked
    cases compiled.symm.trans otherCompiled
    split at isChecked
    · cases isChecked
    · assumption
  · intro quiet
    unfold checkScenario
    by_cases levelChecks : scenarioLevelChecks document = []
    · have compiles : ∃ config, document.compileScenario
          context.contract.fingerprint strategy = .ok config :=
        exists_compileScenario isStrategy levelChecks
      obtain ⟨config, compiled⟩ := compiles
      obtain ⟨report, isReport⟩ := validated
      rw [if_pos (List.isEmpty_iff.mpr levelChecks)]
      refine ⟨report, bind_ok_iff.mpr ⟨config, compiled, ?_⟩⟩
      rw [quiet levelChecks config compiled]
      exact isReport
    · rw [if_neg (fun isEmpty => levelChecks (List.isEmpty_iff.mp isEmpty))]
      exact validated

end

theorem exists_resolveAlternative_iff {spec : AlternativeSpec} :
    (∃ resolved, context.resolveAlternative base spec = .ok resolved) ↔
      context.RulesReturn base spec := by
  unfold resolveAlternative RulesReturn
  by_cases right : context.specErrors spec = []
  · have isStrategy : spec.strategy ∈ strategies := by
      by_contra unknown
      unfold specErrors at right
      rw [if_neg unknown] at right
      cases right
    cases parsed : context.alternativeDocument base spec.patch with
    | error => simp [right]
    | ok document =>
      have checked : (∃ report, context.checkScenario document spec.strategy =
          .ok report) ↔ _ := exists_checkScenario_iff isStrategy
      simp only [right, ne_eq, not_true_eq_false, if_false, Except.ok.injEq,
        forall_eq', forall_const, ← checked]
      constructor
      · rintro ⟨resolved, isResolved⟩
        obtain ⟨report, isReport, -⟩ := bind_ok_iff.mp isResolved
        exact ⟨report, isReport⟩
      · rintro ⟨report, isReport⟩
        exact ⟨_, bind_ok_iff.mpr ⟨report, isReport, rfl⟩⟩
  · simp [right]

theorem exists_runSteps_iff {spec : AlternativeSpec} {resolved : ResolvedAlternative}
    (isResolved : context.resolveAlternative base spec = .ok resolved) :
    (∃ steps, context.runSteps base.simulation.duration resolved = .ok steps) ↔
      context.StepDivides base spec := by
  obtain ⟨sameSpec, isDocument⟩ := resolveAlternative_ok isResolved
  unfold runSteps StepDivides
  rw [isDocument, sameSpec]
  by_cases right : context.specErrors spec = []
  · cases parsed : context.alternativeDocument base spec.patch with
    | error => simp [right, Except.toOption]
    | ok => simp [right, Except.toOption, ceilQuotient_ok_iff]
  · simp [right]

theorem exists_simulationSteps_iff {specs : List AlternativeSpec}
    {resolved : List ResolvedAlternative}
    (areResolved : specs.mapM (context.resolveAlternative base) = .ok resolved)
    {counts : RunCounts} : (∃ steps, context.simulationSteps resolved counts base = .ok steps) ↔
      ∀ spec ∈ specs, context.StepDivides base spec := by
  have perCell : (∃ steps, context.simulationSteps resolved counts base = .ok steps) ↔
      ∃ perCell, resolved.mapM (context.runSteps base.simulation.duration) = .ok perCell := by
    unfold simulationSteps
    rw [exists_bind_iff]
    exact exists_congr fun perCell => and_iff_left ⟨_, rfl⟩
  rw [perCell, exists_mapM_iff]
  constructor
  · intro counted spec isSpec
    obtain ⟨alternative, isMember, isMade⟩ := exists_result_of_mem areResolved isSpec
    exact (exists_runSteps_iff isMade).mp (counted alternative isMember)
  · intro divides alternative isMember
    obtain ⟨spec, isSpec, isMade⟩ := exists_of_mem_mapM areResolved isMember
    exact (exists_runSteps_iff isMade).mpr (divides spec isSpec)

theorem exists_prepareAlternatives_iff
    (few : (request.alternatives.getD []).length ≤ maxAlternatives) :
    (∃ prepared, context.prepareAlternatives request base = .ok prepared) ↔
      (∀ spec ∈ request.specs, context.RulesReturn base spec) ∧ (2 ≤ request.specs.length →
          ∀ spec ∈ request.specs, context.StepDivides base spec) := by
  have rules : (∃ resolved, request.specs.mapM (context.resolveAlternative base) =
      .ok resolved) ↔ ∀ spec ∈ request.specs, context.RulesReturn base spec := by
    rw [exists_mapM_iff]
    exact forall₂_congr fun spec _ => exists_resolveAlternative_iff
  unfold prepareAlternatives
  rw [if_neg (not_lt.mpr few), ← rules, exists_bind_iff]
  constructor
  · rintro ⟨resolved, areResolved, isPrepared⟩
    refine ⟨⟨resolved, areResolved⟩, fun several => ?_⟩
    rw [if_neg (not_lt.mpr (by rwa [length_of_mapM areResolved])), exists_bind_iff] at isPrepared
    obtain ⟨steps, isSteps, -⟩ := isPrepared
    exact (exists_simulationSteps_iff areResolved).mp ⟨steps, isSteps⟩
  · rintro ⟨⟨resolved, areResolved⟩, divides⟩
    refine ⟨resolved, areResolved, ?_⟩
    by_cases several : resolved.length < 2
    · rw [if_pos several]
      exact ⟨_, rfl⟩
    · have enough : 2 ≤ request.specs.length := by
        rw [← length_of_mapM areResolved]
        exact not_lt.mp several
      obtain ⟨steps, isSteps⟩ := (exists_simulationSteps_iff areResolved).mpr (divides enough)
      rw [if_neg several, exists_bind_iff]
      exact ⟨steps, isSteps, _, rfl⟩

/-- A payload is prepared without an exception exactly when no rule raises and every
time step that is counted with divides the duration. -/
theorem exists_prepare_iff (payload : PyValue) :
    (∃ prepared, context.prepare payload = .ok prepared) ↔ context.PreparesQuietly payload := by
  unfold PreparesQuietly prepare
  cases payload with
  | dict fields =>
    by_cases tooDeep : maxDocumentDepth < (PyValue.dict fields).depth
    · simp [tooDeep, not_le.mpr tooDeep]
    · rw [if_neg tooDeep]
      cases isRequest : context.parseRequest (.dict fields) with
      | error => simp
      | ok request =>
        dsimp only
        cases isBase : context.parseScenario (.dict request.scenario) with
        | error =>
          refine iff_of_true ⟨_, rfl⟩ ?_
          rintro _ request' base' - - sameRequest sameBase -
          cases sameRequest
          rw [isBase] at sameBase
          cases sameBase
        | ok base =>
          by_cases few : (request.alternatives.getD []).length ≤ maxAlternatives
          · rw [exists_prepareAlternatives_iff few]
            constructor
            · rintro quiet _ request' base' - - sameRequest sameBase -
              cases sameRequest
              cases isBase.symm.trans sameBase
              exact quiet
            · intro quiet
              exact quiet fields request base rfl (not_lt.mp tooDeep) rfl isBase few
          · have refused : ∃ prepared, context.prepareAlternatives request base = .ok prepared := by
              unfold prepareAlternatives
              rw [if_pos (not_le.mp few)]
              exact ⟨_, rfl⟩
            refine iff_of_true refused ?_
            rintro _ request' base' - - sameRequest - few'
            cases sameRequest
            exact absurd few' few
  | _ => simp

end PreparationContext
/-! ## What is executed -/

def ticksForDuration (timeStep duration : ℚ) : Int := max 0 ⌈duration / timeStep - 1 / 10 ^ 9⌉

/-- The ticks of a run: its duration on the clock of its configuration. -/
def SimTask.ticks (task : SimTask) : Int :=
  ticksForDuration ((simulationNumber task.config "timeStep").getD (1 / 10)) task.duration

/-- A run that does not last longer has no more ticks than the quota counts. -/
theorem ticksForDuration_le {timeStep duration longest : ℚ} (positive : 0 < timeStep)
    (nonneg : 0 ≤ longest) (shorter : duration ≤ longest) :
    ticksForDuration timeStep duration ≤ ⌈longest / timeStep⌉ := by
  apply max_le (Int.ceil_nonneg (div_nonneg nonneg positive.le))
  apply Int.ceil_le_ceil
  have quotient : duration / timeStep ≤ longest / timeStep := by gcongr
  have slack : (0 : ℚ) ≤ 1 / 10 ^ 9 := by positivity
  linarith

namespace EnsembleContext

variable {Law Analysis : Type} {context : EnsembleContext Law Analysis}
variable {spec : UncertaintySpec Law} {alternatives : List RunAlternative}
variable {condition : Condition}

section

variable {weight : PlannedRun → Int} {bound : RunAlternative → Int}
  (nonneg : ∀ alternative ∈ alternatives, 0 ≤ bound alternative)

include nonneg

theorem sum_planned_le
    (bounded : ∀ run ∈ context.planned spec alternatives condition, ∀ alternative, alternatives[run.pos]? = some alternative → weight run ≤ bound alternative) :
    ((context.planned spec alternatives condition).map weight).sum ≤
      condition.seeds.length * (alternatives.map bound).sum := by
  have boundNonneg : 0 ≤ (alternatives.map bound).sum := by
    apply List.sum_nonneg
    intro value isValue
    obtain ⟨alternative, isAlternative, rfl⟩ := List.mem_map.mp isValue
    exact nonneg alternative isAlternative
  unfold planned at bounded ⊢
  cases built : context.conditionRuns spec alternatives condition with
  | error => simpa using mul_nonneg (by positivity) boundNonneg
  | ok runs =>
    rw [built] at bounded
    rw [((List.perm_insertionSort _ runs).map weight).sum_eq]
    obtain ⟨lists, areLists, isFlat⟩ := bind_ok_iff.mp built
    cases isFlat
    have flattened : (lists.flatten.map weight).sum ≤ (alternatives.zipIdx.map fun entry =>
          (condition.seeds.length : Int) * bound entry.1).sum := by
      apply sum_map_flatten_le_of_mapM areLists
      rintro ⟨alternative, pos⟩ isAt results isMade
      obtain ⟨others, areOthers, sameMade⟩ := exists_result_of_mem areLists isAt
      cases isMade.symm.trans sameMade
      obtain ⟨perturbed, -, isMade⟩ := bind_ok_iff.mp isMade
      obtain ⟨check, -, isMade⟩ := bind_ok_iff.mp isMade
      split at isMade
      · rw [← nsmul_eq_mul, ← List.length_zipIdx (l := condition.seeds)]
        apply sum_map_le_of_mapM isMade
        intro run isRun
        apply bounded run
        · apply (List.perm_insertionSort _ _).mem_iff.mpr
          exact List.mem_flatten.mpr ⟨results, areOthers, isRun⟩
        · obtain ⟨seed, -, ofSeed⟩ := exists_of_mem_mapM isMade isRun
          obtain ⟨task, -, isRun⟩ := bind_ok_iff.mp ofSeed
          cases isRun
          exact List.mem_zipIdx_iff_getElem?.mp isAt
      · cases isMade
    apply flattened.trans_eq
    rw [List.sum_map_mul_left, ← Function.comp_def bound, ← List.map_map, List.zipIdx_map_fst]

/-- What the runs of an ensemble weigh. -/
theorem sum_entries_le
    (bounded : ∀ condition ∈ context.sampleConditions spec, ∀ run ∈ context.planned spec alternatives condition, ∀ alternative, alternatives[run.pos]? = some alternative → weight run ≤ bound alternative) :
    ((context.entries spec alternatives).map fun entry => weight entry.toPlannedRun).sum ≤
      (alternatives.map bound).sum * spec.conditions * spec.replications := by
  have each : ∀ condition ∈ context.sampleConditions spec,
      ((context.planned spec alternatives condition).map weight).sum ≤
        spec.replications * (alternatives.map bound).sum := by
    intro condition isSampled
    have sameLength : condition.seeds.length = spec.replications := by
      obtain ⟨index, -, rfl⟩ := List.mem_map.mp isSampled
      simp
    rw [← sameLength]
    exact sum_planned_le nonneg (bounded condition isSampled)
  have conditionCount : (context.sampleConditions spec).length = spec.conditions := by
    simp [sampleConditions]
  calc ((context.entries spec alternatives).map fun entry =>
          weight entry.toPlannedRun).sum
      = ((context.sampleConditions spec).map fun condition =>
          ((context.planned spec alternatives condition).map weight).sum).sum := by
        unfold entries
        rw [List.map_flatMap, List.flatMap_def, List.sum_flatten, List.map_map]
        simp only [Function.comp_def, List.map_map]
    _ ≤ (context.sampleConditions spec).length •
          (spec.replications * (alternatives.map bound).sum) := by
        rw [← List.length_map (f := fun condition =>
          ((context.planned spec alternatives condition).map weight).sum)]
        apply List.sum_le_card_nsmul
        intro value isValue
        obtain ⟨condition, isSampled, rfl⟩ := List.mem_map.mp isValue
        exact each condition isSampled
    _ = (alternatives.map bound).sum * spec.conditions * spec.replications := by
        rw [conditionCount, nsmul_eq_mul]
        ring

end

end EnsembleContext
/-! ## The quotas of an accepted request -/

/-- The schema and the rules let a time step through only when it is a positive
number. -/
def TimesSteps (contract : Contract) : Prop :=
  ∀ config, contract.schemaErrors config = [] → contract.semanticConfigErrors config = [] →
      ∃ settings, config.dictAt "simulation" = some settings ∧
        ∀ value, settings.lookup "timeStep" = some value →
          ∃ step, value.number = some step ∧ 0 < step

theorem isSome_timeStep {fingerprint : ScenarioDocument → String} {document : ScenarioDocument}
    {strategy : String} {config settings : Fields}
    (compiled : document.compileScenario fingerprint strategy = .ok config)
    (isSection : config.dictAt "simulation" = some settings) :
    (settings.lookup "timeStep").isSome = true := by
  obtain ⟨canonical, isCanonical⟩ := exists_canonical compiled
  obtain rfl := eq_labelledConfig isCanonical compiled
  have plain : (document.plainConfig canonical).dictAt "simulation" =
      some document.simulationSection := by
    simp [Fields.dictAt, plainConfig]
  rw [dictAt_labelledConfig fingerprint document canonical strategy
    (by decide) plain] at isSection
  split at isSection
  · cases isSection
    rfl
  · next found =>
      cases isSection
      exact Fields.isSome_lookup_deepMerge (advanced_section_distinct found) rfl
  · cases isSection

namespace PreparationContext

variable {Law Analysis : Type} {context : PreparationContext Law Analysis}

/-- The steps that the quota counts for a run of an alternative. -/
def allowance (context : PreparationContext Law Analysis) (base : ScenarioDocument)
    (alternative : RunAlternative) : Int :=
  ((ceilQuotient base.simulation.duration
    (context.stepReading alternative.document alternative.strategy)).toOption).getD 0

theorem sum_allowance {base : ScenarioDocument} {prepared : Prepared Law} {perCell : List Int}
    (counted : prepared.alternatives.mapM
      (context.runSteps base.simulation.duration) = .ok perCell) :
    (prepared.runAlternatives.map (context.allowance base)).sum = perCell.sum := by
  have itemByItem := forall₂_of_mapM counted
  unfold Prepared.runAlternatives
  clear counted
  generalize prepared.alternatives = resolved at itemByItem ⊢
  induction itemByItem with
  | nil => rfl
  | cons isCounted others ih =>
    rename_i alternative steps _ _
    rw [List.sum_cons, ← ih, List.filterMap_cons]
    unfold runSteps at isCounted
    cases isDocument : alternative.document with
    | none =>
      rw [isDocument] at isCounted
      cases isCounted
      simp
    | some =>
      rw [isDocument] at isCounted
      simp [allowance, isCounted, Except.toOption]

theorem stepReading_of_number {document : ScenarioDocument} {strategy : String} {config : Fields}
    {step : ℚ}
    (compiled : document.compileScenario context.contract.fingerprint strategy = .ok config)
    (isNumber : simulationNumber config "timeStep" = some step) :
    context.stepReading document strategy = .number step ∨
      context.stepReading document strategy = .overflow := by
  obtain ⟨value, isValue, isStep⟩ := Option.bind_eq_some_iff.mp isNumber
  unfold stepReading
  rw [compiled]
  dsimp only
  rw [isValue]
  cases value with
  | int number =>
    cases isStep
    by_cases tooLarge : floatLimit ≤ |(number : ℚ)|
    · exact Or.inr (by simp [readStep, tooLarge])
    · exact Or.inl (by simp [readStep, tooLarge])
  | float =>
    cases isStep
    exact Or.inl rfl
  | _ => cases isStep

end PreparationContext

namespace AcceptedRequest

variable {Law Analysis : Type} {context : PreparationContext Law Analysis}
variable {request : ExperimentRequest Law} {base : ScenarioDocument} {prepared : Prepared Law}

section

variable (accepted : AcceptedRequest context request base prepared)

include accepted

theorem exists_perCell : ∃ perCell,
      prepared.alternatives.mapM (context.runSteps base.simulation.duration) = .ok perCell ∧
        perCell.sum * request.uncertainty.conditions * request.uncertainty.replications ≤
          maxSimulationStepsPerExperiment := by
  obtain ⟨steps, isSteps, bounded⟩ := accepted.steps
  obtain ⟨perCell, isCell, isSteps⟩ := bind_ok_iff.mp isSteps
  cases isSteps
  exact ⟨perCell, isCell, bounded⟩

theorem allowance_eq (timed : TimesSteps context.contract) {alternative : RunAlternative}
    (isRun : alternative ∈ prepared.runAlternatives) :
    ∃ step, 0 < step ∧ simulationSetting alternative.document "timeStep"
          alternative.document.simulation.timeStep = some step ∧
        context.allowance base alternative = ⌈base.simulation.duration / step⌉ := by
  obtain ⟨config, compiled, noSchema, noRules⟩ := accepted.compiled isRun
  obtain ⟨settings, isSection, isTimed⟩ := timed config noSchema noRules
  obtain ⟨value, isValue⟩ := Option.isSome_iff_exists.mp (isSome_timeStep compiled isSection)
  obtain ⟨step, isNumber, positive⟩ := isTimed value isValue
  have isStep : simulationNumber config "timeStep" = some step := by
    simp [simulationNumber, isSection, isValue, isNumber]
  refine ⟨step, positive, ?_, ?_⟩
  · rw [← isStep]
    exact (simulationNumber_compileScenario compiled rfl rfl).symm
  · obtain ⟨perCell, isCell, -⟩ := accepted.exists_perCell
    obtain ⟨resolved, isResolved, isAlternative⟩ := List.mem_filterMap.mp isRun
    obtain ⟨document, isDocument, rfl⟩ := Option.map_eq_some_iff.mp isAlternative
    obtain ⟨steps, -, isSteps⟩ := exists_result_of_mem isCell isResolved
    unfold runSteps at isSteps
    rw [isDocument] at isSteps
    unfold allowance
    dsimp only at isSteps ⊢
    rw [isSteps]
    obtain isReading | isReading := stepReading_of_number compiled isStep
    · dsimp only at isSteps isReading
      rw [isReading, ceilQuotient, if_neg positive.ne'] at isSteps
      split at isSteps
      · cases isSteps
      · exact (Except.ok.inj isSteps).symm
    · dsimp only at isSteps isReading
      rw [isReading] at isSteps
      cases isSteps

theorem length_entries_le : (context.entries request.uncertainty prepared.runAlternatives).length ≤
      maxRunsPerExperiment := by
  have counted : ((context.entries request.uncertainty
      prepared.runAlternatives).map fun _ => (1 : Int)).sum ≤
        (prepared.runAlternatives.map fun _ => (1 : Int)).sum *
          request.uncertainty.conditions * request.uncertainty.replications :=
    EnsembleContext.sum_entries_le (fun _ _ => zero_le_one) fun _ _ _ _ _ _ => le_rfl
  have fewer : prepared.runAlternatives.length ≤ prepared.alternatives.length :=
    List.length_filterMap_le _ _
  have quota : request.uncertainty.conditions * prepared.alternatives.length *
      request.uncertainty.replications ≤ maxRunsPerExperiment := accepted.runs
  simp only [List.map_const', List.sum_replicate, nsmul_eq_mul, mul_one] at counted
  have within : (context.entries request.uncertainty
      prepared.runAlternatives).length ≤ prepared.runAlternatives.length *
        request.uncertainty.conditions * request.uncertainty.replications := by
    exact_mod_cast counted
  calc (context.entries request.uncertainty prepared.runAlternatives).length
      ≤ prepared.runAlternatives.length * request.uncertainty.conditions *
          request.uncertainty.replications := within
    _ ≤ prepared.alternatives.length * request.uncertainty.conditions *
          request.uncertainty.replications := by gcongr
    _ = request.uncertainty.conditions * prepared.alternatives.length *
          request.uncertainty.replications := by
        rw [Nat.mul_comm prepared.alternatives.length]
    _ ≤ maxRunsPerExperiment := quota

theorem sum_ticks_le (timed : TimesSteps context.contract) (lasting : 0 ≤ base.simulation.duration)
    (shorter : ∀ alternative ∈ prepared.runAlternatives, alternative.document.simulation.duration ≤ base.simulation.duration) :
    ((context.entries request.uncertainty prepared.runAlternatives).map
        fun entry => entry.task.ticks).sum ≤ maxSimulationStepsPerExperiment := by
  obtain ⟨perCell, isCell, quota⟩ := accepted.exists_perCell
  refine le_trans ?_ quota
  rw [← sum_allowance isCell]
  refine @EnsembleContext.sum_entries_le _ _ _ _ _ (fun run => run.task.ticks) _ ?_ ?_
  · intro alternative isRun
    obtain ⟨step, positive, -, isAllowance⟩ := accepted.allowance_eq timed isRun
    rw [isAllowance]
    exact Int.ceil_nonneg (div_nonneg lasting positive.le)
  · intro condition _ run isPlanned alternative isAt
    have isRun := List.mem_of_getElem? isAt
    obtain ⟨step, positive, isStep, isAllowance⟩ := accepted.allowance_eq timed isRun
    obtain ⟨_, _, foundAt, -, isDuration, isSet⟩ :=
      EnsembleContext.simulationSetting_planned isPlanned
    cases isAt.symm.trans foundAt
    have isNumber : simulationNumber run.task.config "timeStep" = some step := by
      rw [← isStep]
      exact isSet rfl rfl
    unfold SimTask.ticks
    rw [isAllowance, isNumber, isDuration]
    exact ticksForDuration_le positive lasting (shorter _ isRun)

end

end AcceptedRequest
namespace PreparationContext

variable {Law Analysis : Type}

section

variable {context : PreparationContext Law Analysis} {payload : PyValue}

theorem parseScenario_ok {document : ScenarioDocument}
    (isParsed : context.parseScenario payload = .ok document) :
    ∃ fields, context.parseDocument fields = .ok document := by
  dsimp only [parseScenario] at isParsed
  split at isParsed
  · split at isParsed
    · split_ifs at isParsed
      exact ⟨_, isParsed⟩
    · cases isParsed
  · cases isParsed

theorem base_parsed {prepared : Prepared Law} {base : ScenarioDocument}
    (isPrepared : context.prepare payload = .ok prepared) (isBase : prepared.base = some base) :
    ∃ fields, context.parseDocument fields = .ok base := by
  unfold prepare at isPrepared
  split at isPrepared
  · split at isPrepared
    · cases isPrepared
      cases isBase
    · split at isPrepared
      · cases isPrepared
        cases isBase
      · split at isPrepared
        · cases isPrepared
          cases isBase
        · next parsed =>
            obtain ⟨-, sameBase⟩ := prepareAlternatives_ok isPrepared
            cases isBase.symm.trans sameBase
            exact parseScenario_ok parsed
  · cases isPrepared
    cases isBase

end

end PreparationContext

/-! ## A step of zero, and a document that lasts longer -/

/-- A schema that wants a positive time step. -/
def timedContract : Contract :=
  { permissive with
    schemaErrors := fun config =>
      match config.dictAt "simulation" with
      | none => ["simulation is not of type object"]
      | some settings =>
        match settings.lookup "timeStep" with
        | none => []
        | some value =>
          if value.number.any fun step => 0 < step then []
          else ["timeStep is not a positive number"] }

theorem timesSteps_timedContract : TimesSteps timedContract := by
  intro config noSchema _
  dsimp only [timedContract] at noSchema
  split at noSchema
  · cases noSchema
  · next settings isSection =>
      refine ⟨settings, isSection, fun value isValue => ?_⟩
      rw [isValue] at noSchema
      dsimp only at noSchema
      split at noSchema
      · next positive =>
          obtain ⟨step, isStep, positive⟩ := (Option.any_eq_true _ _).mp positive
          exact ⟨step, isStep, of_decide_eq_true positive⟩
      · cases noSchema

theorem zeroStep_distinct (step : ℚ) :
    Fields.Distinct [("simulation", .dict [("timeStep", .float step)])] := by
  simp [Fields.Distinct, PyValue.Distinct]

/-- The preparation of a request on a junction of four arms, whose duration and whose
time step in `advanced` are read. -/
def clockContext (request : ExperimentRequest Unit) :
    PreparationContext Unit (List (Option Exclusion)) :=
  { fourArmsContext request with
    contract := timedContract
    parseDocument := fun fields =>
      let document := match fields.dictAt "advanced" with
        | some [("simulation", .dict [("timeStep", .float step)])] =>
          fourArms _ (zeroStep_distinct step)
        | _ => fourArms [] plain_distinct
      match (fields.dictAt "simulation").bind (·.lookup "duration") with
      | some (.float duration) =>
        if 1 ≤ duration then
          .ok { document with
            simulation := { document.simulation with duration := duration } }
        else .error ["duration should be greater than or equal to 1"]
      | _ => .ok document
    dumpDocument := fun document =>
      [("format", .str scenarioFormat), ("version", .int 1),
        ("junction", .dict [("type", .str "roundabout")]),
        ("simulation", .dict [("duration", .float document.simulation.duration)]),
        ("advanced", .dict document.advancedFields)] }

theorem duration_clockContext {request : ExperimentRequest Unit} (fields : Fields)
    (document : ScenarioDocument)
    (isParsed : (clockContext request).parseDocument fields = .ok document) :
    1 ≤ document.simulation.duration := by
  dsimp only [clockContext] at isParsed
  split at isParsed
  · split_ifs at isParsed with long
    cases isParsed
    exact long
  · cases isParsed
    have default : (1 : ℚ) ≤ 300 := by norm_num
    split
    · exact default
    · exact default

/-- What an accepted request runs on the junction of four arms. -/
def executedSteps (context : PreparationContext Unit (List (Option Exclusion)))
    (request : ExperimentRequest Unit) (prepared : Prepared Unit) : Int :=
  ((context.entries request.uncertainty prepared.runAlternatives).map
    fun entry => entry.task.ticks).sum

/-- A patch whose `advanced` section sets a time step of zero. -/
def zeroStep : Fields := [("advanced", .dict [("simulation", .dict [("timeStep", .float 0)])])]

/-- A patch that puts another scenario, of an hour in steps of 0.05 s, in the place of
the base. -/
def replacing : Fields := [("junction", .none), ("scenario", .dict (fourArmsScenario ++
      [("simulation", .dict [("duration", .float 3600)]), ("advanced", .dict
          [("simulation", .dict [("timeStep", .float (1 / 20))])])]))]

end UrbanFlow.Uncertainty
