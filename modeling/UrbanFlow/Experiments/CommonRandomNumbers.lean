import UrbanFlow.Experiments.AcceptedRequests
import UrbanFlow.Experiments.Resumption
import UrbanFlow.Uncertainty.FactorMapping

/-!
# Common random numbers

The alternatives of an experiment are compared on common random numbers when the
configurations of a replication share its engine seed, the duration and the warm-up,
and those of two replications differ. A patch may not name the `simulation` section,
but the `advanced` section is merged over the compiled one last: the comparison is
kept exactly when no alternative's document sets another seed, duration or warm-up
there.
-/

namespace UrbanFlow.Uncertainty

open Scenario ScenarioDocument

/-! ## What a configuration runs with -/

/-- The number that a configuration holds in its `simulation` section. -/
def simulationNumber (config : Fields) (key : String) : Option ℚ :=
  ((config.dictAt "simulation").bind (·.lookup key)).bind PyValue.number

/-- What stands in the `simulation` section of a compiled document where the document
itself has `own`: an `advanced` section overrides it. -/
def simulationSetting (document : ScenarioDocument) (key : String) (own : ℚ) : Option ℚ :=
  match document.advancedFields.lookup "simulation" with
  | none => some own
  | some (.dict settings) => ((settings.lookup key).map PyValue.number).getD (some own)
  | some _ => none

structure CommonRandomNumbers (seeds : List Nat) (runs : List PlannedRun) : Prop where
  seeded : ∀ run ∈ runs, ∃ seed, seeds[run.rep]? = some seed ∧
    simulationNumber run.task.config "randomSeed" = some (seed : ℚ)
  shared : ∀ run ∈ runs, ∀ other ∈ runs, run.rep = other.rep →
    simulationNumber run.task.config "randomSeed" =
        simulationNumber other.task.config "randomSeed" ∧
      simulationNumber run.task.config "duration" = simulationNumber other.task.config "duration" ∧
      simulationNumber run.task.config "warmupTime" =
        simulationNumber other.task.config "warmupTime"
  distinct : ∀ run ∈ runs, ∀ other ∈ runs, run.rep ≠ other.rep → run.task.config ≠ other.task.config

/-- The documents agree on the clock of a run, and none replaces an engine seed. -/
structure SharesSimulation (documents : List ScenarioDocument) (seeds : List Nat) : Prop where
  seeded : ∀ document ∈ documents, seeds.Nodup ∧
    ∀ seed ∈ seeds, simulationSetting document "randomSeed" seed = some (seed : ℚ)
  clocks : ∀ document ∈ documents, ∀ other ∈ documents, seeds ≠ [] →
    simulationSetting document "duration" document.simulation.duration =
        simulationSetting other "duration" other.simulation.duration ∧
      simulationSetting document "warmupTime" document.simulation.warmup =
        simulationSetting other "warmupTime" other.simulation.warmup

theorem sharesSimulation_iff {documents : List ScenarioDocument} {seeds : List Nat} :
    SharesSimulation documents seeds ↔ (∀ document ∈ documents, seeds.Nodup ∧ ∀ seed ∈ seeds,
        simulationSetting document "randomSeed" seed = some (seed : ℚ)) ∧
      ∀ document ∈ documents, ∀ other ∈ documents, seeds ≠ [] →
        simulationSetting document "duration" document.simulation.duration =
            simulationSetting other "duration" other.simulation.duration ∧
          simulationSetting document "warmupTime" document.simulation.warmup =
            simulationSetting other "warmupTime" other.simulation.warmup :=
  ⟨fun shares => ⟨shares.seeded, shares.clocks⟩, fun both => ⟨both.1, both.2⟩⟩

instance decidableSharesSimulation (documents : List ScenarioDocument)
    (seeds : List Nat) : Decidable (SharesSimulation documents seeds) :=
  decidable_of_iff' _ sharesSimulation_iff

theorem SharesSimulation.of_subset {documents others : List ScenarioDocument} {seeds : List Nat}
    (shares : SharesSimulation documents seeds)
    (subset : ∀ document ∈ others, document ∈ documents) : SharesSimulation others seeds :=
  ⟨fun document isOther => shares.seeded document (subset document isOther),
    fun document isOther other otherOther => shares.clocks document
      (subset document isOther) other (subset other otherOther)⟩

section Settings

variable {fingerprint : ScenarioDocument → String}
variable {modelErrors : ScenarioDocument → Option PyMessage} {document other : ScenarioDocument}
variable {strategy : String}

theorem simulationNumber_compileScenario {config : Fields}
    (compiled : document.compileScenario fingerprint strategy = .ok config) {key : String}
    {own : PyValue} {value : ℚ} (isOwn : document.simulationSection.lookup key = some own)
    (isNumber : own.number = some value) :
    simulationNumber config key = simulationSetting document key value := by
  obtain ⟨canonical, isCanonical⟩ := exists_canonical compiled
  obtain rfl := eq_labelledConfig isCanonical compiled
  have notDict : (some own).bind PyValue.asDict = none := by
    cases own <;> simp_all [PyValue.number, PyValue.asDict]
  have isSection : (document.plainConfig canonical).dictAt "simulation" =
      some document.simulationSection := by
    simp [Fields.dictAt, plainConfig]
  unfold simulationNumber simulationSetting
  rw [dictAt_labelledConfig fingerprint document canonical strategy
    (by decide) isSection]
  cases found : document.advancedFields.lookup "simulation" with
  | none => simp [isOwn, isNumber]
  | some held =>
    cases held with
    | dict settings =>
      have distinct := advanced_section_distinct found
      simp only [Option.bind_some]
      rw [Fields.lookup_deepMerge _ distinct, isOwn]
      cases settings.lookup key with
      | none => simp [isNumber]
      | some written => simp [written.mergeOver_of_asDict notDict]
    | _ => rfl

/-- What the documents of a run set for its clock and its seed. -/
structure SameSimulation (document other : ScenarioDocument) : Prop where
  own : other.simulation = document.simulation
  advanced : other.advancedFields.lookup "simulation" = document.advancedFields.lookup "simulation"

theorem SameSimulation.trans {first second third : ScenarioDocument}
    (one : SameSimulation first second) (next : SameSimulation second third) :
    SameSimulation first third :=
  ⟨next.own.trans one.own, next.advanced.trans one.advanced⟩

theorem SameSimulation.simulationSetting_eq (same : SameSimulation document other) (key : String)
    (own : ℚ) : simulationSetting other key own = simulationSetting document key own := by
  unfold simulationSetting
  rw [same.advanced]

theorem sameSimulation_withGeneration (target : ObjectFields) :
    SameSimulation document (withGeneration document target) :=
  ⟨rfl, lookup_advancedFields_withGeneration target (by decide)⟩

theorem sameSimulation_changedBy (value : Option ℚ)
    {change : ScenarioDocument → ℚ → ScenarioDocument}
    (same : ∀ document value, SameSimulation document (change document value))
    (document : ScenarioDocument) : SameSimulation document (changedBy value change document) := by
  cases value with
  | none => exact ⟨rfl, rfl⟩
  | some value => exact same document value

theorem sameSimulation_applyIf {value : Option ℚ}
    {apply : ScenarioDocument → ℚ → Except PyMessage ScenarioDocument}
    (writes : ∀ scale, apply document scale = .ok other →
      ∃ target, other = withGeneration document target)
    (isApplied : applyIf value apply document = .ok other) : SameSimulation document other := by
  cases value with
  | none =>
    cases isApplied
    exact ⟨rfl, rfl⟩
  | some scale =>
    obtain ⟨target, rfl⟩ := writes scale isApplied
    exact sameSimulation_withGeneration target

/-- The factors leave the clock and the seed. -/
theorem sameSimulation_applyFactors {factors : List Factor} {values : String → ℚ}
    (isApplied : applyFactors fingerprint modelErrors document factors values = .ok other) :
    SameSimulation document other := by
  obtain ⟨shifted, first, second, stages⟩ := stages_of_applyFactors isApplied
  have structural : SameSimulation document shifted := by
    rw [structural_ok stages.structural]
    refine (sameSimulation_changedBy _ ?_ _).trans
      ((sameSimulation_changedBy _ ?_ _).trans (sameSimulation_changedBy _ ?_ _))
    all_goals exact fun _ _ => ⟨rfl, rfl⟩
  have headway : SameSimulation shifted first := sameSimulation_applyIf (fun _ isScaled =>
      (@rescaled_of_scaleIdm fingerprint modelErrors _ _ .fixedTimeSignal "" _ _
        isScaled).1) stages.headway
  have acceleration : SameSimulation first second := sameSimulation_applyIf (fun _ isScaled =>
      (@rescaled_of_scaleIdm fingerprint modelErrors _ _ .fixedTimeSignal "" _ _
        isScaled).1) stages.acceleration
  have speed : SameSimulation second other := sameSimulation_applyIf (fun _ isScaled =>
      (@range_of_scaleDesiredSpeed fingerprint modelErrors _ _ .fixedTimeSignal "" _
        isScaled).1) stages.speed
  exact ((structural.trans headway).trans acceleration).trans speed

end Settings

namespace EnsembleContext

variable {Law Analysis : Type} {context : EnsembleContext Law Analysis}
variable {spec : UncertaintySpec Law} {alternatives : List RunAlternative}
variable {condition : Condition}

/-! ## The runs of a condition -/

theorem simTask_config {alternative : RunAlternative} {perturbed : ScenarioDocument}
    {rep seed : Nat} {task : SimTask}
    (isTask : context.simTask condition alternative perturbed rep seed = .ok task) :
    { perturbed with
        simulation := { perturbed.simulation with seed := seed }
      : ScenarioDocument }.compileScenario
        context.contract.fingerprint alternative.strategy = .ok task.config := by
  obtain ⟨config, compiled, isTask⟩ := bind_ok_iff.mp isTask
  cases isTask
  exact compiled

section

variable {run : PlannedRun} (isPlanned : run ∈ context.planned spec alternatives condition)

include isPlanned

theorem simulationSetting_planned : ∃ alternative seed, alternatives[run.pos]? = some alternative ∧
      condition.seeds[run.rep]? = some seed ∧
      run.task.duration = alternative.document.simulation.duration ∧
      ∀ {key own value}, { alternative.document with
            simulation := { alternative.document.simulation with seed := seed }
          : ScenarioDocument }.simulationSection.lookup key = some own →
        own.number = some value → simulationNumber run.task.config key =
            simulationSetting alternative.document key value := by
  obtain ⟨alternative, perturbed, seed, isAt, isPerturbed, isSeed, isTask⟩ := mem_planned isPlanned
  have same := sameSimulation_applyFactors isPerturbed
  have compiled := simTask_config isTask
  refine ⟨alternative, seed, isAt, isSeed, ?_, ?_⟩
  · obtain ⟨config, -, isTask⟩ := bind_ok_iff.mp isTask
    rw [← Except.ok.inj isTask, ← same.own]
  · intro key own value isOwn isNumber
    rw [← same.simulationSetting_eq key value]
    apply simulationNumber_compileScenario compiled _ isNumber
    rw [← isOwn, simulationSection, simulationSection, same.own]

theorem simulationNumber_planned : ∃ alternative seed, alternatives[run.pos]? = some alternative ∧
      condition.seeds[run.rep]? = some seed ∧
      simulationNumber run.task.config "randomSeed" =
        simulationSetting alternative.document "randomSeed" seed ∧
      simulationNumber run.task.config "duration" =
        simulationSetting alternative.document "duration" alternative.document.simulation.duration ∧
      simulationNumber run.task.config "warmupTime" =
        simulationSetting alternative.document "warmupTime"
          alternative.document.simulation.warmup := by
  obtain ⟨alternative, seed, isAt, isSeed, -, isSet⟩ := simulationSetting_planned isPlanned
  exact ⟨alternative, seed, isAt, isSeed, isSet rfl rfl, isSet rfl rfl, isSet rfl rfl⟩

end

theorem exists_planned (isBuilt : context.excluded spec alternatives condition = none)
    {pos rep : Nat} {alternative : RunAlternative} {seed : Nat}
    (isAt : alternatives[pos]? = some alternative) (isSeed : condition.seeds[rep]? = some seed) :
    ∃ run ∈ context.planned spec alternatives condition, run.pos = pos ∧ run.rep = rep := by
  unfold excluded at isBuilt
  unfold planned
  cases built : context.conditionRuns spec alternatives condition with
  | error => simp [built] at isBuilt
  | ok =>
    obtain ⟨lists, areLists, isFlat⟩ := bind_ok_iff.mp built
    cases isFlat
    have isMember : (alternative, pos) ∈ alternatives.zipIdx :=
      List.mem_zipIdx_iff_getElem?.mpr isAt
    have seedMember : (seed, rep) ∈ condition.seeds.zipIdx :=
      List.mem_zipIdx_iff_getElem?.mpr isSeed
    obtain ⟨list, isList, isMade⟩ := exists_result_of_mem areLists isMember
    obtain ⟨perturbed, -, isMade⟩ := bind_ok_iff.mp isMade
    obtain ⟨check, -, isMade⟩ := bind_ok_iff.mp isMade
    split at isMade
    · obtain ⟨run, isRun, isHere⟩ := exists_result_of_mem isMade seedMember
      obtain ⟨task, -, isHere⟩ := bind_ok_iff.mp isHere
      cases isHere
      refine ⟨⟨rep, pos, task⟩, ?_, rfl, rfl⟩
      rw [List.mem_insertionSort]
      exact List.mem_flatten.mpr ⟨list, isList, isRun⟩
    · cases isMade

theorem config_eq_of_seed {run other : PlannedRun}
    (isPlanned : run ∈ context.planned spec alternatives condition)
    (otherPlanned : other ∈ context.planned spec alternatives condition)
    (samePos : run.pos = other.pos)
    (sameSeed : condition.seeds[run.rep]? = condition.seeds[other.rep]?) :
    run.task.config = other.task.config := by
  obtain ⟨_, _, _, isAt, isPerturbed, isSeed, isTask⟩ := mem_planned isPlanned
  obtain ⟨alternative', perturbed', seed', otherAt, otherPerturbed, otherSeed,
    otherTask⟩ := mem_planned otherPlanned
  rw [samePos] at isAt
  cases isAt.symm.trans otherAt
  cases isPerturbed.symm.trans otherPerturbed
  rw [sameSeed] at isSeed
  cases isSeed.symm.trans otherSeed
  exact Except.ok.inj ((simTask_config isTask).symm.trans (simTask_config otherTask))

/-! ## The comparison -/

section

variable (isBuilt : context.excluded spec alternatives condition = none)
  {alternative : RunAlternative} (isAlternative : alternative ∈ alternatives)

include isBuilt isAlternative

theorem exists_planned_of_mem {rep seed : Nat} (isSeed : condition.seeds[rep]? = some seed) :
    ∃ run ∈ context.planned spec alternatives condition,
      alternatives[run.pos]? = some alternative ∧ run.rep = rep := by
  obtain ⟨pos, isAt⟩ := List.mem_iff_getElem?.mp isAlternative
  obtain ⟨run, isPlanned, rfl, sameRep⟩ := exists_planned isBuilt isAt isSeed
  exact ⟨run, isPlanned, isAt, sameRep⟩

theorem nodup_of_distinct
    (distinct : ∀ run ∈ context.planned spec alternatives condition, ∀ other ∈ context.planned spec alternatives condition, run.rep ≠ other.rep → run.task.config ≠ other.task.config) :
    condition.seeds.Nodup := by
  refine List.nodup_iff_getElem?_ne_getElem?.mpr ?_
  intro first second before inside sameSeed
  have isFirst := List.getElem?_eq_getElem (before.trans inside)
  have isSecond := List.getElem?_eq_getElem inside
  obtain ⟨pos, isAt⟩ := List.mem_iff_getElem?.mp isAlternative
  obtain ⟨run, isPlanned, runPos, runRep⟩ := exists_planned isBuilt isAt isFirst
  obtain ⟨other, otherPlanned, otherPos, otherRep⟩ := exists_planned isBuilt isAt isSecond
  refine distinct run isPlanned other otherPlanned (by omega) ?_
  apply config_eq_of_seed isPlanned otherPlanned (runPos.trans otherPos.symm)
  rw [runRep, otherRep]
  exact sameSeed

end

theorem sharesSimulation_of_common (isBuilt : context.excluded spec alternatives condition = none)
    (common : CommonRandomNumbers condition.seeds (context.planned spec alternatives condition)) :
    SharesSimulation (alternatives.map RunAlternative.document) condition.seeds where
  seeded := by
    intro document isDocument
    obtain ⟨alternative, isAlternative, rfl⟩ := List.mem_map.mp isDocument
    refine ⟨nodup_of_distinct isBuilt isAlternative common.distinct, ?_⟩
    intro seed isSeed
    obtain ⟨rep, isSeedAt⟩ := List.mem_iff_getElem?.mp isSeed
    obtain ⟨run, isPlanned, isAt, rfl⟩ := exists_planned_of_mem isBuilt isAlternative isSeedAt
    obtain ⟨found, seed', foundAt, otherSeed, isSet, -⟩ := simulationNumber_planned isPlanned
    cases isAt.symm.trans foundAt
    cases isSeedAt.symm.trans otherSeed
    obtain ⟨seed', otherSeed, isNumber⟩ := common.seeded run isPlanned
    cases isSeedAt.symm.trans otherSeed
    rw [← isSet, isNumber]
  clocks := by
    intro document isDocument document' otherDocument someSeed
    obtain ⟨alternative, isAlternative, rfl⟩ := List.mem_map.mp isDocument
    obtain ⟨other, isOther, rfl⟩ := List.mem_map.mp otherDocument
    have isSeedAt := List.getElem?_eq_getElem (List.length_pos_of_ne_nil someSeed)
    obtain ⟨run, isPlanned, isAt, isRep⟩ := exists_planned_of_mem isBuilt isAlternative isSeedAt
    obtain ⟨run', otherPlanned, otherAt, otherRep⟩ := exists_planned_of_mem isBuilt isOther isSeedAt
    obtain ⟨-, sameDuration, sameWarmup⟩ := common.shared run isPlanned run'
      otherPlanned (isRep.trans otherRep.symm)
    obtain ⟨found, _, foundAt, -, -, isDuration, isWarmup⟩ := simulationNumber_planned isPlanned
    obtain ⟨found', _, foundAt', -, -, isDuration', isWarmup'⟩ :=
      simulationNumber_planned otherPlanned
    cases isAt.symm.trans foundAt
    cases otherAt.symm.trans foundAt'
    rw [← isDuration, ← isDuration', ← isWarmup, ← isWarmup']
    exact ⟨sameDuration, sameWarmup⟩

section

variable (shares : SharesSimulation (alternatives.map RunAlternative.document) condition.seeds)

include shares

/-- The runs of documents that share the simulation have the derived seed. -/
theorem seeded_of_shares {run : PlannedRun}
    (isPlanned : run ∈ context.planned spec alternatives condition) :
    ∃ seed, condition.seeds[run.rep]? = some seed ∧
      simulationNumber run.task.config "randomSeed" = some (seed : ℚ) := by
  obtain ⟨alternative, seed, isAt, isSeed, isSet, -⟩ := simulationNumber_planned isPlanned
  refine ⟨seed, isSeed, isSet.trans ?_⟩
  exact (shares.seeded _ (List.mem_map_of_mem (List.mem_of_getElem? isAt))).2 seed
    (List.mem_of_getElem? isSeed)

theorem common_of_sharesSimulation : CommonRandomNumbers condition.seeds
      (context.planned spec alternatives condition) where
  seeded := fun _ isPlanned => seeded_of_shares shares isPlanned
  shared := by
    intro run isPlanned other otherPlanned sameRep
    obtain ⟨alternative, seed, isAt, isSeed, -, isDuration, isWarmup⟩ :=
      simulationNumber_planned isPlanned
    obtain ⟨alternative', _, otherAt, -, -, isDuration', isWarmup'⟩ :=
      simulationNumber_planned otherPlanned
    obtain ⟨common, isCommon, isNumber⟩ := seeded_of_shares shares isPlanned
    obtain ⟨common', isCommon', isNumber'⟩ := seeded_of_shares shares otherPlanned
    rw [sameRep] at isCommon
    cases isCommon.symm.trans isCommon'
    obtain ⟨sameDuration, sameWarmup⟩ := shares.clocks
      _ (List.mem_map_of_mem (List.mem_of_getElem? isAt))
      _ (List.mem_map_of_mem (List.mem_of_getElem? otherAt))
      (List.ne_nil_of_mem (List.mem_of_getElem? isSeed))
    refine ⟨isNumber.trans isNumber'.symm, ?_, ?_⟩
    · rw [isDuration, isDuration', sameDuration]
    · rw [isWarmup, isWarmup', sameWarmup]
  distinct := by
    intro run isPlanned other otherPlanned otherRep sameConfig
    obtain ⟨alternative, -, isAt, -⟩ := simulationNumber_planned isPlanned
    obtain ⟨seed, isSeed, isNumber⟩ := seeded_of_shares shares isPlanned
    obtain ⟨seed', otherSeed, otherNumber⟩ := seeded_of_shares shares otherPlanned
    have sameNumber : (seed : ℚ) = seed' := by
      rw [sameConfig, otherNumber] at isNumber
      exact (Option.some.inj isNumber).symm
    obtain rfl : seed = seed' := by exact_mod_cast sameNumber
    have noRepeat := (shares.seeded _ (List.mem_map_of_mem (List.mem_of_getElem? isAt))).1
    exact otherRep ((List.getElem?_inj (List.getElem?_eq_some_iff.mp isSeed).1
      noRepeat).mp (isSeed.trans otherSeed.symm))

end

end EnsembleContext

namespace PreparationContext

variable {Law Analysis : Type}

/-- The documents that the patches of a request make of its base. -/
def alternativeDocuments (context : PreparationContext Law Analysis)
    (request : ExperimentRequest Law) (base : ScenarioDocument) : List ScenarioDocument :=
  request.specs.filterMap fun spec => (context.alternativeDocument base spec.patch).toOption

variable {context : PreparationContext Law Analysis} {request : ExperimentRequest Law}
variable {base : ScenarioDocument} {prepared : Prepared Law}

theorem mem_runDocuments_iff (accepted : AcceptedRequest context request base prepared)
    {document : ScenarioDocument} :
    document ∈ prepared.runAlternatives.map RunAlternative.document ↔
      document ∈ context.alternativeDocuments request base := by
  constructor
  · intro isRun
    obtain ⟨alternative, isAlternative, rfl⟩ := List.mem_map.mp isRun
    obtain ⟨spec, isSpec, isMade⟩ := accepted.alternativeDocument_eq isAlternative
    exact List.mem_filterMap.mpr ⟨spec, isSpec, by rw [isMade]; rfl⟩
  · intro isMade
    obtain ⟨spec, isSpec, isMade⟩ := List.mem_filterMap.mp isMade
    cases parsed : context.alternativeDocument base spec.patch with
    | error => simp [parsed, Except.toOption] at isMade
    | ok =>
      rw [parsed] at isMade
      cases isMade
      obtain ⟨alternative, isRun, rfl⟩ := accepted.exists_runAlternative isSpec parsed
      exact List.mem_map_of_mem isRun

/-- The engine seeds that are derived for the replications of a condition. -/
def derivedSeeds (context : PreparationContext Law Analysis) (spec : UncertaintySpec Law)
    (index : Nat) : List Nat :=
  (List.range spec.replications).map (context.deriveSeed spec.seed index)

/-- The alternatives of an accepted experiment are compared on common random numbers
in a condition exactly when the documents that their patches make share the
simulation. -/
theorem commonRandomNumbers_iff {payload : PyValue}
    (isPrepared : context.prepare payload = .ok prepared) (noErrors : prepared.errors = [])
    (isRequest : prepared.request = some request) (isBase : prepared.base = some base)
    {condition : Condition} (isSampled : condition ∈ context.sampleConditions request.uncertainty)
    (isBuilt : context.excluded request.uncertainty prepared.runAlternatives condition = none) :
    CommonRandomNumbers (context.derivedSeeds request.uncertainty condition.index)
        (context.planned request.uncertainty prepared.runAlternatives condition) ↔
      SharesSimulation (context.alternativeDocuments request base)
        (context.derivedSeeds request.uncertainty condition.index) := by
  have accepted := acceptedRequest_of_prepare isPrepared noErrors isRequest isBase
  have sameSeeds : context.derivedSeeds request.uncertainty condition.index = condition.seeds := by
    obtain ⟨index, -, rfl⟩ := List.mem_map.mp isSampled
    rfl
  rw [sameSeeds]
  constructor
  · intro common
    exact (EnsembleContext.sharesSimulation_of_common isBuilt common).of_subset
      fun document isMade => (mem_runDocuments_iff accepted).mpr isMade
  · intro shares
    exact EnsembleContext.common_of_sharesSimulation (shares.of_subset
      fun document isRun => (mem_runDocuments_iff accepted).mp isRun)

/-- The request, the base and the alternatives of a payload that is prepared without
errors. -/
def readAccepted (context : PreparationContext Law Analysis) (payload : PyValue) :
    Option (ExperimentRequest Law × ScenarioDocument × Prepared Law) :=
  match context.prepare payload with
  | .ok prepared =>
    if prepared.errors.isEmpty then prepared.request.bind fun request =>
        prepared.base.map fun base => (request, base, prepared)
    else none
  | .error _ => none

theorem readAccepted_eq_some {payload : PyValue}
    (isRead : context.readAccepted payload = some (request, base, prepared)) :
    context.prepare payload = .ok prepared ∧ prepared.errors = [] ∧
      prepared.request = some request ∧ prepared.base = some base := by
  unfold readAccepted at isRead
  split at isRead
  · next found isPrepared =>
      split at isRead
      · next noErrors =>
          obtain ⟨request', isRequest, isRead⟩ := Option.bind_eq_some_iff.mp isRead
          obtain ⟨base', isBase, isRead⟩ := Option.map_eq_some_iff.mp isRead
          cases isRead
          exact ⟨isPrepared, List.isEmpty_iff.mp noErrors, isRequest, isBase⟩
      · cases isRead
  · cases isRead

end PreparationContext

/-! ## An alternative with a seed of its own -/

theorem reseeded_distinct (seed : Int) :
    Fields.Distinct [("simulation", .dict [("randomSeed", .int seed)])] := by
  simp [Fields.Distinct, PyValue.Distinct]

/-- The preparation of a request on a junction of four arms, whose `advanced` section
may set a seed. -/
def fourArmsContext (request : ExperimentRequest Unit) :
    PreparationContext Unit (List (Option Exclusion)) :=
  { listingContext with
    parseRequest := fun _ => .ok request
    parseDocument := fun fields =>
      match fields.dictAt "advanced" with
      | some [("simulation", .dict [("randomSeed", .int seed)])] =>
        .ok (fourArms _ (reseeded_distinct seed))
      | _ => .ok (fourArms [] plain_distinct)
    dumpDocument := fun document =>
      [("format", .str scenarioFormat), ("version", .int 1),
        ("junction", .dict [("type", .str "roundabout")]),
        ("advanced", .dict document.advancedFields)]
    parseFloat := fun _ => none
    rulesRaise := fun _ => none }

/-- A scenario of four single-lane arms. -/
def fourArmsScenario : Fields :=
  let arm : PyValue := .dict [("lanes", .int 1), ("vehiclesPerHour", .float 360)]
  [("junction", .dict [("type", .str "roundabout")]), ("approaches", .dict
      [("north", arm), ("south", arm), ("east", arm), ("west", arm)])]

section

variable (conditions : Nat) (patch : Fields)

/-- A request that compares a fixed-time and an adaptive signal, the latter with a
patch, in some conditions of two replications. -/
def signalsRequest : ExperimentRequest Unit where
  scenario := fourArmsScenario
  alternatives := some [⟨"fixed", "", "fixed_time", []⟩, ⟨"actuated", "", "adaptive", patch⟩]
  uncertainty :=
    { scaledDemand with
      conditions := conditions
      replications := 2 }

/-- The payload of such a request. -/
def signalsPayload : PyValue := .dict [("scenario", .dict fourArmsScenario), ("alternatives", .list
        [.dict [("id", .str "fixed"), ("strategy", .str "fixed_time")],
          .dict [("id", .str "actuated"), ("strategy", .str "adaptive"), ("patch", .dict patch)]]),
      ("uncertainty", .dict [("factors", .list
          [.dict [("id", .str "demand"), ("kind", .str "demand_scale"),
            ("distribution", .dict [("kind", .str "uniform")]),
            ("bounds", .list [.float (1 / 2), .float 2]),
            ("rationale", .str "counts")]]),
          ("conditions", .int conditions), ("replications", .int 2), ("seed", .int 7)])]

end

/-- Two signals on an unchanged junction are compared on common random numbers. -/
theorem unpatched_common : ∃ request base prepared condition,
      (fourArmsContext (signalsRequest 2 [])).prepare (signalsPayload 2 []) = .ok prepared ∧
      prepared.errors = [] ∧ prepared.request = some request ∧ prepared.base = some base ∧
      condition ∈ (fourArmsContext (signalsRequest 2 [])).sampleConditions request.uncertainty ∧
      (fourArmsContext (signalsRequest 2 [])).excluded request.uncertainty
        prepared.runAlternatives condition = none ∧
      CommonRandomNumbers ((fourArmsContext (signalsRequest 2 [])).derivedSeeds
          request.uncertainty condition.index)
        ((fourArmsContext (signalsRequest 2 [])).planned request.uncertainty
          prepared.runAlternatives condition) := by
  generalize isContext : fourArmsContext (signalsRequest 2 []) = context
  have found : (context.readAccepted (signalsPayload 2 [])).any (fun (request, base, prepared) =>
        (context.sampleConditions request.uncertainty).any fun condition =>
          (context.excluded request.uncertainty prepared.runAlternatives condition).isNone &&
          decide (SharesSimulation (context.alternativeDocuments request base)
            (context.derivedSeeds request.uncertainty condition.index))) =
        true := by
    subst isContext
    decide +kernel
  obtain ⟨⟨request, base, prepared⟩, isRead, found⟩ := (Option.any_eq_true _ _).mp found
  obtain ⟨condition, isSampled, found⟩ := List.any_eq_true.mp found
  obtain ⟨isBuilt, shares⟩ := Bool.and_eq_true_iff.mp found
  have isBuilt := Option.isNone_iff_eq_none.mp isBuilt
  obtain ⟨isPrepared, noErrors, isRequest, isBase⟩ := PreparationContext.readAccepted_eq_some isRead
  exact ⟨request, base, prepared, condition, isPrepared, noErrors, isRequest, isBase,
    isSampled, isBuilt,
    (PreparationContext.commonRandomNumbers_iff isPrepared noErrors isRequest isBase
      isSampled isBuilt).mpr (of_decide_eq_true shares)⟩

/-- A patch whose `advanced` section sets the seed. -/
def reseeding : Fields := [("advanced", .dict [("simulation", .dict [("randomSeed", .int 42)])])]

/-- A run that does not have the engine seed of its replication. -/
def hasOtherSeed (context : PreparationContext Unit (List (Option Exclusion)))
    (request : ExperimentRequest Unit) (prepared : Prepared Unit) (condition : Condition) : Bool :=
  (context.planned request.uncertainty prepared.runAlternatives condition).any fun run =>
      (context.derivedSeeds request.uncertainty condition.index)[run.rep]?.any fun seed =>
          simulationNumber run.task.config "randomSeed" ≠ some (seed : ℚ)

theorem not_common_of_hasOtherSeed {context : PreparationContext Unit (List (Option Exclusion))}
    {request : ExperimentRequest Unit} {prepared : Prepared Unit} {condition : Condition}
    (hasOther : hasOtherSeed context request prepared condition = true) :
    ¬ CommonRandomNumbers (context.derivedSeeds request.uncertainty condition.index)
        (context.planned request.uncertainty prepared.runAlternatives condition) := by
  intro common
  obtain ⟨run, isPlanned, other⟩ := List.any_eq_true.mp hasOther
  obtain ⟨seed, isSeed, isNumber⟩ := common.seeded run isPlanned
  rw [isSeed] at other
  simp [isNumber] at other

/-- A request whose patch sets a seed is accepted, and the patched alternative runs
every replication with that seed. -/
theorem reseeding_not_common : ∃ request base prepared condition,
      (fourArmsContext (signalsRequest 2 reseeding)).prepare (signalsPayload 2 reseeding) =
        .ok prepared ∧ prepared.errors = [] ∧ prepared.request = some request ∧
      prepared.base = some base ∧
      condition ∈ (fourArmsContext (signalsRequest 2 reseeding)).sampleConditions
        request.uncertainty ∧
      (fourArmsContext (signalsRequest 2 reseeding)).excluded request.uncertainty
        prepared.runAlternatives condition = none ∧
      ¬ CommonRandomNumbers ((fourArmsContext (signalsRequest 2 reseeding)).derivedSeeds
          request.uncertainty condition.index)
        ((fourArmsContext (signalsRequest 2 reseeding)).planned request.uncertainty
          prepared.runAlternatives condition) := by
  generalize isContext : fourArmsContext (signalsRequest 2 reseeding) = context
  have found : (context.readAccepted (signalsPayload 2 reseeding)).any
      (fun (request, _, prepared) =>
        (context.sampleConditions request.uncertainty).any fun condition =>
          (context.excluded request.uncertainty prepared.runAlternatives
            condition).isNone && hasOtherSeed context request prepared condition) =
        true := by
    subst isContext
    decide +kernel
  obtain ⟨⟨request, base, prepared⟩, isRead, found⟩ := (Option.any_eq_true _ _).mp found
  obtain ⟨condition, isSampled, found⟩ := List.any_eq_true.mp found
  obtain ⟨isBuilt, other⟩ := Bool.and_eq_true_iff.mp found
  obtain ⟨isPrepared, noErrors, isRequest, isBase⟩ := PreparationContext.readAccepted_eq_some isRead
  exact ⟨request, base, prepared, condition, isPrepared, noErrors, isRequest, isBase,
    isSampled, Option.isNone_iff_eq_none.mp isBuilt, not_common_of_hasOtherSeed other⟩

end UrbanFlow.Uncertainty
