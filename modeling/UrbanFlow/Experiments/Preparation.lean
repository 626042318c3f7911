import UrbanFlow.Uncertainty.Ensemble

/-!
# Preparing an experiment

`prepare` validates a request without simulating anything: every alternative is the base
scenario with a merge patch applied, and the runs and the engine steps of the whole
experiment are held against the quotas. Parsing a request and a document, dumping a
document, and what the configuration rules raise are parameters. The arithmetic is exact,
and a quotient overflows where its nearest float does. Warnings are left out.
-/

namespace UrbanFlow

mutual

def PyValue.mergePatch (target : PyValue) : PyValue → PyValue
  | .dict patch => .dict (Fields.mergePatch (target.asDict.getD []) patch)
  | value => value

/-- What `merge_patch` does with the items of a patch: a null deletes a key. -/
def Fields.mergePatch (result : Fields) : List (String × PyValue) → Fields
  | [] => result
  | (key, .none) :: rest => Fields.mergePatch (result.filter fun item => item.1 ≠ key) rest
  | (key, value) :: rest =>
    Fields.mergePatch (result.set key ((result.get key).mergePatch value)) rest

end

mutual

/-- How many levels a JSON value nests. -/
def PyValue.depth : PyValue → Nat
  | .list items => PyValue.listDepth items + 1
  | .dict items => Fields.depth items + 1
  | _ => 1

def PyValue.listDepth : List PyValue → Nat
  | [] => 0
  | item :: rest => max item.depth (PyValue.listDepth rest)

/-- The deepest value of an object. -/
def Fields.depth : List (String × PyValue) → Nat
  | [] => 0
  | (_, value) :: rest => max value.depth (Fields.depth rest)

end

namespace Uncertainty

open Scenario

structure AlternativeSpec where
  id : String
  label : String := ""
  strategy : String
  patch : Fields := []

/-- `ExperimentRequest`: what its preparation reads. -/
structure ExperimentRequest (Law : Type) where
  scenario : Fields
  alternatives : Option (List AlternativeSpec) := none
  baseline : Option String := none
  uncertainty : UncertaintySpec Law

structure ResolvedAlternative where
  spec : AlternativeSpec
  document : Option ScenarioDocument
  fingerprint : Option String
  errors : List String := []

/-- `counts`. -/
structure RunCounts where
  conditions : Nat
  alternatives : Nat
  replications : Nat
  totalRuns : Nat
  deriving DecidableEq, Repr

structure Prepared (Law : Type) where
  request : Option (ExperimentRequest Law) := none
  base : Option ScenarioDocument := none
  alternatives : List ResolvedAlternative := []
  baseline : Option String := none
  counts : Option RunCounts := none
  errors : List String := []

def forbiddenPatchRoots : List String := ["simulation", "format", "version"]

def maxDocumentDepth : Nat := 24

def maxAlternatives : Nat := 6

def maxRunsPerExperiment : Nat := 2000

def maxSimulationStepsPerExperiment : Int := 2500000

def defaultStrategyAlternatives : List AlternativeSpec := strategies.map fun strategy =>
    { id := strategy
      label := (strategyTitles.lookup strategy).getD ""
      strategy := strategy }

/-- The alternatives of a request, the default ones where it gives none. -/
def ExperimentRequest.specs {Law : Type} (request : ExperimentRequest Law) : List AlternativeSpec :=
  match request.alternatives with
  | some (first :: rest) => first :: rest
  | _ => defaultStrategyAlternatives

def quotaError (name : String) (message : PyMessage) : PyMessage :=
  .text ("quota " ++ name ++ ": ") :: message

def runCounts {Law : Type} (spec : UncertaintySpec Law) (alternatives : Nat) : RunCounts :=
  { conditions := spec.conditions
    alternatives := alternatives
    replications := spec.replications
    totalRuns := spec.totalRuns alternatives }

/-- What `float(value)` of a time step gives: a number, no number, an infinity, nothing
that the caller catches, or an `OverflowError` that it does not. -/
inductive StepReading
  | number (step : ℚ)
  | nan
  | infinite
  | refused
  | overflow
  deriving DecidableEq

/-- The numbers from here on are rounded to an infinite float. -/
def floatLimit : ℚ := 2 ^ 1024 - 2 ^ 970

/-- `float(value)`. -/
def readStep (parseFloat : String → Option PyValue) : PyValue → StepReading
  | .int value => if floatLimit ≤ |(value : ℚ)| then .overflow else .number value
  | .bool value => .number (if value then 1 else 0)
  | .float value => .number value
  | .nan => .nan
  | .infinity _ => .infinite
  | .str words =>
    match parseFloat words with
    | some (.float value) => .number value
    | some .nan => .nan
    | some (.infinity _) => .infinite
    | _ => .refused
  | _ => .refused

/-- `math.ceil(duration / step)`. -/
def ceilQuotient (duration : ℚ) : StepReading → Except PyMessage Int
  | .number step =>
    if step = 0 then .error [.text "float division by zero"]
    else if floatLimit ≤ |duration / step| then
      .error [.text "cannot convert float infinity to integer"]
    else .ok ⌈duration / step⌉
  | .infinite => .ok 0
  | .nan => .error [.text "cannot convert float NaN to integer"]
  | .refused => .error [.text "no time step"]
  | .overflow => .error [.text "int too large to convert to float"]

/-- What preparing a request rests on beside the ensemble: the parsers of a request and of
a document, the dump of a document, `float` of a text, and what the rules raise on a
configuration. -/
structure PreparationContext (Law Analysis : Type)
    extends EnsembleContext Law Analysis where
  parseRequest : PyValue → Except (List String) (ExperimentRequest Law)
  parseDocument : Fields → Except (List String) ScenarioDocument
  dumpDocument : ScenarioDocument → Fields
  parseFloat : String → Option PyValue
  rulesRaise : Fields → Option PyMessage

namespace PreparationContext

variable {Law Analysis : Type} (context : PreparationContext Law Analysis)

/-- `version == SCENARIO_VERSION`. -/
def isVersion : PyValue → Bool
  | .int value => value = 1
  | .float value => value = 1
  | .bool value => value
  | _ => false

def parseScenario (payload : PyValue) : Except (List String) ScenarioDocument :=
  let notObject := .error ["A scenario must be a JSON object"]
  match payload with
  | .dict fields =>
    let body := if (fields.lookup "junction").isNone then (fields.lookup "scenario").getD payload
      else payload
    match body with
    | .dict body =>
      let format := (body.lookup "format").getD (.str scenarioFormat)
      let version := (body.lookup "version").getD (.int 1)
      if ¬ format.isText scenarioFormat then .error [context.contract.format
          [.text "Not an UrbanFlow scenario: format is ", .repr format,
            .text ", expected ", .repr (.str scenarioFormat)]]
      else if ¬ isVersion version then
        .error [context.contract.format [.text "Scenario version ", .repr version,
            .text (" is not supported by this server, which reads " ++ "version 1")]]
      else context.parseDocument body
    | _ => notObject
  | _ => notObject

/-- `validate_scenario` for one strategy: the rules may raise on its configuration. -/
def checkScenario (document : ScenarioDocument)
    (strategy : String) : Except PyMessage ValidationReport := do
  if (scenarioLevelChecks document).isEmpty then
    let config ← document.compileScenario context.contract.fingerprint strategy
    match context.rulesRaise config with
    | some message => .error message
    | none => pure ()
  context.contract.validateScenario document (some [strategy])

def specErrors (spec : AlternativeSpec) : List String :=
  let bad := (spec.patch.map Prod.fst).filter fun key => key ∈ forbiddenPatchRoots
  (if spec.strategy ∈ strategies then [] else [context.contract.format
      [.text (spec.id ++ ": unknown strategy "), .repr (.str spec.strategy),
        .text "; expected one of ", .str (.list (strategies.map .str))]]) ++
  (if bad = [] then [] else [context.contract.format
      [.text (spec.id ++ ": patch may not change "), .str (.list (bad.map .str)),
        .text ("; seeds, duration and warm-up are shared by every " ++ "alternative")]])

def alternativeDocument (base : ScenarioDocument)
    (patch : Fields) : Except (List String) ScenarioDocument :=
  context.parseScenario ((PyValue.dict (context.dumpDocument base)).mergePatch (.dict patch))

def resolveAlternative (base : ScenarioDocument)
    (spec : AlternativeSpec) : Except PyMessage ResolvedAlternative :=
  let errors := context.specErrors spec
  if errors ≠ [] then .ok ⟨spec, none, none, errors⟩
  else match context.alternativeDocument base spec.patch with
    | .error errors => .ok ⟨spec, none, none, errors.map (spec.id ++ ": " ++ ·)⟩
    | .ok document => do
      let check ← context.checkScenario document spec.strategy
      pure
        { spec := spec
          document := some document
          fingerprint := some (context.contract.fingerprint document)
          errors := if check.valid then []
            else check.errors.map (spec.id ++ ": " ++ ·) }

/-- The time step of a document: the one of its compiled configuration, and its own
where that cannot be read. -/
def stepReading (document : ScenarioDocument) (strategy : String) : StepReading :=
  let own := StepReading.number document.simulation.timeStep
  match document.compileScenario context.contract.fingerprint strategy with
  | .error _ => own
  | .ok config =>
    match (config.dictAt "simulation").bind (·.lookup "timeStep") with
    | none => own
    | some value =>
      match readStep context.parseFloat value with
      | .refused => own
      | reading => reading

/-- The steps of a run of an alternative; none for one without a document. -/
def runSteps (duration : ℚ) (alternative : ResolvedAlternative) : Except PyMessage Int :=
  match alternative.document with
  | none => .ok 0
  | some document => ceilQuotient duration (context.stepReading document alternative.spec.strategy)

def simulationSteps (alternatives : List ResolvedAlternative) (counts : RunCounts)
    (base : ScenarioDocument) : Except PyMessage Int := do
  let perCell ← alternatives.mapM (context.runSteps base.simulation.duration)
  pure (perCell.sum * counts.conditions * counts.replications)

/-- What is wrong with the alternatives taken together, and with each of them. -/
def alternativeErrors (factors : List Factor) (resolved : List ResolvedAlternative) : List String :=
  (if (resolved.map (·.spec.id)).Nodup then [] else ["alternative ids must be unique"]) ++
  (if resolved.length < 2 then ["an experiment needs at least two alternatives"] else []) ++
  resolved.flatMap fun alternative =>
    alternative.errors ++ match alternative.document with
      | none => []
      | some document => (preflight document factors).map (alternative.spec.id ++ ": " ++ ·)

def baselineErrors (baseline : Option String) (resolved : List ResolvedAlternative) : List String :=
  match baseline with
  | none => []
  | some baseline =>
    if baseline ∈ resolved.map (·.spec.id) then []
    else [context.contract.format [.text "baseline ", .repr (.str baseline),
        .text " is not one of the alternatives"]]

/-- The quotas of runs and of engine steps. -/
def quotaErrors (counts : RunCounts) (steps : Int) (duration : ℚ) : List String :=
  (if maxRunsPerExperiment < counts.totalRuns then
    [context.contract.format (quotaError "maxRunsPerExperiment"
      [.count counts.conditions, .text " conditions x ",
        .count counts.alternatives, .text " alternatives x ",
        .count counts.replications, .text " replications = ",
        .count counts.totalRuns, .text " runs, at most ",
        .count maxRunsPerExperiment, .text " allowed"])]
    else []) ++
  (if maxSimulationStepsPerExperiment < steps then
    [context.contract.format (quotaError "maxSimulationStepsPerExperiment"
      [.count counts.totalRuns, .text " runs of ", .general duration,
        .text " s need ", .count steps, .text " engine steps, at most ",
        .count maxSimulationStepsPerExperiment,
        .text (" allowed (steps = duration / time step; a smaller time step " ++ "costs more)")])]
    else [])

/-- `prepare`, of a request with a base scenario. -/
def prepareAlternatives (request : ExperimentRequest Law)
    (base : ScenarioDocument) : Except PyMessage (Prepared Law) :=
  let given := (request.alternatives.getD []).length
  if maxAlternatives < given then .ok
      { request := some request
        base := some base
        errors := [context.contract.format (quotaError "maxAlternatives"
          [.count given, .text " alternatives given, at most ",
            .count maxAlternatives, .text " allowed"])] }
  else do
    let resolved ← request.specs.mapM (context.resolveAlternative base)
    let baseline := match request.baseline with
      | none | some "" => resolved.head?.map (·.spec.id)
      | some baseline => some baseline
    let errors := alternativeErrors (request.uncertainty.factors.map Prod.fst) resolved ++
        context.baselineErrors baseline resolved
    let prepared : Prepared Law :=
      { request := some request
        base := some base
        alternatives := resolved
        baseline := baseline
        errors := errors }
    if resolved.length < 2 then pure prepared
    else
      let counts := runCounts request.uncertainty resolved.length
      let steps ← context.simulationSteps resolved counts base
      pure { prepared with
          counts := some counts
          errors := errors ++ context.quotaErrors counts steps base.simulation.duration }

def prepare (payload : PyValue) : Except PyMessage (Prepared Law) := match payload with
  | .dict _ =>
    if maxDocumentDepth < payload.depth then
      .ok { errors := [context.contract.format
        [.text "The document is nested more than ", .count maxDocumentDepth,
          .text " levels deep"]] }
    else match context.parseRequest payload with
      | .error errors => .ok { errors := errors }
      | .ok request =>
        match context.parseScenario (.dict request.scenario) with
        | .error errors =>
          .ok
            { request := some request
              errors := errors.map ("scenario: " ++ ·) }
        | .ok base => context.prepareAlternatives request base
  | _ => .ok { errors := ["An experiment must be a JSON object"] }

end PreparationContext

def Prepared.runAlternatives {Law : Type} (prepared : Prepared Law) : List RunAlternative :=
  prepared.alternatives.filterMap fun alternative =>
    alternative.document.map fun document =>
      ⟨alternative.spec.id, alternative.spec.strategy, document⟩

end Uncertainty
end UrbanFlow
