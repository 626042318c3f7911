import UrbanFlow.Library.Tables
import UrbanFlow.Scenario.Validation
import UrbanFlow.Uncertainty.Apply

/-!
# The ensemble runner

`run_ensemble` and `run_experiment`: every condition that is sampled is run for
every alternative and replication, in one batch. Runs that a checkpoint holds
are not run again. The sampler's arithmetic, the seeds, the fingerprints and the
analysis are parameters; a dictionary whose order nothing reads is a function of
its keys.
-/

namespace UrbanFlow.Uncertainty

open Scenario

inductive PrimaryIndicator
  | averageDelay
  | medianDelay
  | p95Delay
  deriving DecidableEq, Repr

/-- The name of the indicator among the metrics. -/
def PrimaryIndicator.value : PrimaryIndicator → String
  | averageDelay => "averageDelay"
  | medianDelay => "medianDelay"
  | p95Delay => "p95Delay"

/-- `UncertaintySpec`. What the sampler draws a factor from, its distribution and
bounds, stands beside it. -/
structure UncertaintySpec (Law : Type) where
  factors : List (Factor × Law)
  conditions : Nat
  replications : Nat := 2
  seed : Nat
  primaryIndicator : PrimaryIndicator := .averageDelay
  tieTolerance : Option ℚ := none

structure RunAlternative where
  id : String
  strategy : String
  document : ScenarioDocument

structure Condition where
  index : Nat
  values : List (String × ℚ)
  strata : List (String × Nat)
  seeds : List Nat

/-- `values[factor]`. -/
def Condition.valueOf (condition : Condition) (factor : String) : ℚ :=
  (condition.values.lookup factor).getD 0

/-- `run_counts`: the total number of runs. -/
def UncertaintySpec.totalRuns {Law : Type} (spec : UncertaintySpec Law)
    (alternatives : Nat) : Nat :=
  spec.conditions * alternatives * spec.replications

def preflight (base : ScenarioDocument) (factors : List Factor) : List String :=
  let kinds := factors.map Factor.kind
  let traffic := base.advancedFields.get "traffic"
  let generation := base.advancedFields.get "vehicleGeneration"
  let trafficKeys := ((traffic.asDict).getD []).map Prod.fst
  let generationKeys := ((generation.asDict).getD []).map Prod.fst
  (if FactorKind.mixShift ∈ kinds then (if declaredMixes base = [] then
      ["mix_shift needs the base scenario to declare a vehicle mix " ++
        "(vehicles.mix or an approach vehicleMix); without one the engine uses " ++
        "its legacy single-car population"]
      else []) ++
    (if "vehicleMix" ∈ generationKeys then ["mix_shift would be overridden by " ++
        "advanced.vehicleGeneration.vehicleMix in the base scenario; remove it " ++
        "from advanced"]
      else [])
    else []) ++
  (if FactorKind.demandScale ∈ kinds ∧
      ∃ key ∈ ["arrivalRate", "directionalSplit", "totalVehicles", "approaches"],
        key ∈ trafficKeys then
    ["demand_scale would be overridden by advanced.traffic in the base " ++
      "scenario; remove its demand keys from advanced"]
    else []) ++
  (if (FactorKind.turningShift ∈ kinds ∨ FactorKind.mixShift ∈ kinds) ∧
      "approaches" ∈ trafficKeys then
    ["turning_shift/mix_shift would be overridden by " ++
      "advanced.traffic.approaches in the base scenario; remove it from advanced"]
    else [])

structure SimTask where
  config : Fields
  geometry : String
  duration : ℚ
  label : String
  cost : ℚ

/-- The result of a run, and what a checkpoint keeps of one. -/
structure RunReport where
  metrics : Option Fields := none

/-- `result.get("metrics") or {}`. -/
def RunReport.read (report : RunReport) : Fields := report.metrics.getD []

/-- `{"metrics": dict(result.get("metrics") or {})}`. -/
def RunReport.kept (report : RunReport) : RunReport where
  metrics := some report.read

/-- What the pool returns for a task: its result, the exception it raised, or
that it was never run. -/
inductive TaskOutcome
  | report (report : RunReport)
  | raised
  | cancelled

/-- A checkpoint: the metrics of the runs that finished, by `run_key`. -/
abbrev Checkpoint : Type := String → Option RunReport

def runKey (condition replication : Nat) (alternative : String) : String :=
  toString condition ++ ":" ++ toString replication ++ ":" ++ alternative

/-- Why a condition is excluded. -/
inductive Exclusion
  | validationFailed
  | runFailed
  | vehicleLimit
  | noCompletedVehicles
  | nonFinite
  | incompleteCancelled
  deriving DecidableEq, Repr

/-- The reasons in the order of `_PRECEDENCE`; the last one is never noted. -/
def Exclusion.precedence : Exclusion → Nat
  | validationFailed => 0
  | runFailed => 1
  | vehicleLimit => 2
  | noCompletedVehicles => 3
  | nonFinite => 4
  | incompleteCancelled => 5

structure ConditionResult where
  index : Nat
  strata : List (String × Nat)
  outcomes : String → Option (List PyValue) := fun _ => none
  exclusion : Option Exclusion := none

section

variable (report : RunReport)

/-- `_indicator`: a number, not a boolean. -/
def indicator (name : String) : PyValue := match report.read.get name with
  | .int value => .float value
  | .float value => .float value
  | .infinity negative => .infinity negative
  | _ => .nan

def isFinite : PyValue → Bool
  | .float _ => true
  | _ => false

/-- `bool(value)`. -/
def truthy : PyValue → Bool
  | .none => false
  | .bool value => value
  | .int value => value ≠ 0
  | .float value => value ≠ 0
  | .nan => true
  | .infinity _ => true
  | .str text => text ≠ ""
  | .list items => ¬ items.isEmpty
  | .tuple items => ¬ items.isEmpty
  | .dict items => ¬ items.isEmpty
  | .direction _ => true

def nothingCompleted : Bool := match report.read.get "throughput" with
  | .int value => value < 1
  | .float value => value < 1
  | .infinity negative => negative
  | _ => false

def limitReached : Bool := truthy (report.read.get "vehicleLimitReached")

end

/-- What `analyze` is told beside the conditions. -/
structure AnalysisSettings where
  alternatives : List String
  baseline : String
  replications : Nat
  factorIds : List String
  primaryIndicator : PrimaryIndicator
  tieTolerance : Option ℚ
  seed : Nat
  predeclared : Bool

/-- What `analyze` raises. -/
inductive AnalysisError
  | valueError (message : String)
  | other (message : String)
  deriving DecidableEq, Repr

/-- What the ensemble rests on beside the scenario rules: the draws of the
sampler (the value and the stratum of a factor in a condition), the engine seeds,
the fingerprint of a specification, the analysis and its fingerprint. -/
structure EnsembleContext (Law Analysis : Type) where
  contract : Contract
  modelErrors : ScenarioDocument → Option PyMessage
  sampleFactor : Factor × Law → Nat → Nat → Nat → ℚ × Nat
  deriveSeed : Nat → Nat → Nat → Nat
  fingerprint : UncertaintySpec Law → String
  analyze : List ConditionResult → AnalysisSettings → Except AnalysisError Analysis
  resultFingerprint : Analysis → String

/-- `EnsembleRefusedError`, and the executor returning another number of results
than tasks. -/
inductive EnsembleError
  | refused (errors : List PyMessage)
  | executorResults
  | analysis (error : AnalysisError)

/-- One run of a condition, under its replication and the position of its
alternative. -/
structure PlannedRun where
  rep : Nat
  pos : Nat
  task : SimTask

/-- One run of the ensemble. -/
structure PlannedEntry extends PlannedRun where
  index : Nat

def checkAlternatives (alternatives : List RunAlternative) : List PyMessage :=
  let ids := alternatives.map RunAlternative.id
  (if alternatives.length < 2 then
    [[.text "an experiment needs at least two alternatives"]] else []) ++
  (if ids.Nodup then [] else [[.text "alternative ids must be unique"]]) ++
  (alternatives.filter fun alt => alt.strategy ∉ strategies).map
    fun alt => [.text (alt.id ++ ": unknown strategy "), .repr (.str alt.strategy)]

/-- The scheduling hint: roundabout runs are heavier. -/
def roundaboutCost : ℚ := 3 / 2

namespace EnsembleContext

variable {Law Analysis : Type} (context : EnsembleContext Law Analysis)
variable (spec : UncertaintySpec Law) (alternatives : List RunAlternative)

def sampleConditions : List Condition := (List.range spec.conditions).map fun i =>
    { index := i
      values := spec.factors.map fun factor =>
        (factor.1.id, (context.sampleFactor factor spec.conditions spec.seed i).1)
      strata := spec.factors.map fun factor =>
        (factor.1.id, (context.sampleFactor factor spec.conditions spec.seed i).2)
      seeds := (List.range spec.replications).map (context.deriveSeed spec.seed i) }

section

variable (condition : Condition)

/-- The task of an alternative under one of the engine seeds. -/
def simTask (alternative : RunAlternative) (perturbed : ScenarioDocument)
    (rep seed : Nat) : Except PyMessage SimTask := do
  let document := { perturbed with simulation := { perturbed.simulation with seed := seed } }
  let isRoundabout := alternative.strategy = "roundabout"
  let config ← document.compileScenario context.contract.fingerprint alternative.strategy
  pure
    { config := config
      geometry := if isRoundabout then "roundabout" else "signal"
      duration := document.simulation.duration
      label := "condition " ++ toString condition.index ++ " · rep " ++
        toString rep ++ " · " ++ alternative.id
      cost := if isRoundabout then roundaboutCost else 1 }

/-- The runs of an alternative in a condition. -/
def alternativeRuns (pos : Nat)
    (alternative : RunAlternative) : Except PyMessage (List PlannedRun) := do
  let perturbed ← applyFactors context.contract.fingerprint context.modelErrors
    alternative.document (spec.factors.map Prod.fst) condition.valueOf
  let check ← context.contract.validateScenario perturbed (some [alternative.strategy])
  if check.valid then condition.seeds.zipIdx.mapM fun (seed, rep) => do
      let task ← context.simTask condition alternative perturbed rep seed
      pure { rep := rep, pos := pos, task := task }
  else .error [.text ("; ".intercalate (check.errors.take 2))]

/-- The runs of a condition, or why it cannot be built. -/
def conditionRuns : Except PyMessage (List PlannedRun) := do
  let runs ← alternatives.zipIdx.mapM fun (alternative, pos) =>
    context.alternativeRuns spec condition pos alternative
  pure runs.flatten

/-- `planned.get(condition.index, [])`, in the order of replication and
alternative. -/
def planned : List PlannedRun := match context.conditionRuns spec alternatives condition with
  | .error _ => []
  | .ok runs => runs.insertionSort fun first second =>
    first.rep < second.rep ∨ first.rep = second.rep ∧ first.pos ≤ second.pos

/-- `excluded.get(condition.index)`. -/
def excluded : Option Exclusion := match context.conditionRuns spec alternatives condition with
  | .error _ => some .validationFailed
  | .ok _ => none

end

/-- The batch, in the order of condition, replication and alternative. -/
def entries : List PlannedEntry := (context.sampleConditions spec).flatMap fun condition =>
    (context.planned spec alternatives condition).map fun run =>
      { run with index := condition.index }

end EnsembleContext

section

variable (alternatives : List RunAlternative)

/-- The id of the alternative at a position. -/
def idAt (pos : Nat) : String := (alternatives[pos]?.map RunAlternative.id).getD ""

/-- `key_of[i]`. -/
def PlannedEntry.key (entry : PlannedEntry) : String :=
  runKey entry.index entry.rep (idAt alternatives entry.pos)

end

/-- The result of every run: what the checkpoint holds of it, else the next of
the fresh results. -/
def collect (alternatives : List RunAlternative) (done : Checkpoint) :
    List PlannedEntry → List TaskOutcome → List (PlannedEntry × TaskOutcome)
  | [], _ => []
  | entry :: rest, fresh =>
    match done (entry.key alternatives), fresh with
    | some report, fresh => (entry, .report report) :: collect alternatives done rest fresh
    | none, outcome :: fresh => (entry, outcome) :: collect alternatives done rest fresh
    | none, [] => (entry, .report {}) :: collect alternatives done rest []

/-- The metrics that fresh results add to the checkpoint, by key. -/
def freshReports (alternatives : List RunAlternative)
    (results : List (PlannedEntry × TaskOutcome)) : List (String × RunReport) :=
  results.filterMap fun (entry, outcome) =>
    match outcome with
    | .report report => some (entry.key alternatives, report.kept)
    | _ => none

/-- `cancelled_conditions`. -/
def incompleteConditions (results : List (PlannedEntry × TaskOutcome)) : List Nat :=
  results.filterMap fun (entry, outcome) =>
    match outcome with
    | .cancelled => some entry.index
    | _ => none

/-- `outcomes` and `failures`. -/
structure Gathered where
  outcomes : Nat → String → Option (List PyValue) := fun _ _ => none
  failures : Nat → Option Exclusion := fun _ => none

namespace Gathered

section

variable (gathered : Gathered) (index : Nat)

def noteFailure (reason : Exclusion) : Gathered := match gathered.failures index with
  | none =>
    { gathered with
      failures := Function.update gathered.failures index (some reason) }
  | some current =>
    if reason.precedence < current.precedence then
      { gathered with
        failures := Function.update gathered.failures index (some reason) }
    else gathered

/-- `per_alt.append(value)`. -/
def append (alternative : String) (value : PyValue) : Gathered :=
  { gathered with
    outcomes := Function.update gathered.outcomes index
      (Function.update (gathered.outcomes index) alternative
        (some (((gathered.outcomes index alternative).getD []) ++ [value]))) }

end

/-- One pass of the loop over the results. -/
def gather (name : String) (alternatives : List RunAlternative) (gathered : Gathered)
    (result : PlannedEntry × TaskOutcome) : Gathered :=
  let index := result.1.index
  let alternative := idAt alternatives result.1.pos
  match result.2 with
  | .cancelled => gathered
  | .raised => (gathered.append index alternative .nan).noteFailure index .runFailed
  | .report report =>
    let value := indicator report name
    let gathered := gathered.append index alternative value
    let gathered := if limitReached report then gathered.noteFailure index .vehicleLimit
      else gathered
    let gathered := if nothingCompleted report then gathered.noteFailure index .noCompletedVehicles
      else gathered
    if isFinite value then gathered else gathered.noteFailure index .nonFinite

end Gathered

structure EnsembleRun where
  conditions : List ConditionResult
  runsPlanned : Nat
  runsExecuted : Nat
  cancelled : Bool
  checkpoint : Checkpoint
  runsFromCheckpoint : Nat

/-- What `run_experiment` returns. -/
inductive ExperimentOutcome (Analysis : Type)
  | cancelled (specFingerprint : String) (analysis : Option Analysis) (checkpoint : Checkpoint)
  | completed (specFingerprint resultFingerprint : String) (analysis : Analysis)
      (checkpoint : Checkpoint)

namespace EnsembleContext

variable {Law Analysis : Type} (context : EnsembleContext Law Analysis)
variable (spec : UncertaintySpec Law) (alternatives : List RunAlternative)

/-- What the analysis is given of a condition. -/
def conditionResult (incomplete : List Nat) (gathered : Gathered)
    (condition : Condition) : ConditionResult :=
  let reason := (context.excluded spec alternatives condition).or
    ((if condition.index ∈ incomplete then some .incompleteCancelled
      else none).or (gathered.failures condition.index))
  { index := condition.index
    strata := condition.strata
    outcomes := if reason.isSome then fun _ => none else gathered.outcomes condition.index
    exclusion := reason }

/-- What `preflight` finds wrong with the alternatives. -/
def preflightProblems : List PyMessage := alternatives.flatMap fun alt =>
    (preflight alt.document (spec.factors.map Prod.fst)).map fun problem =>
      [.text (alt.id ++ ": " ++ problem)]

/-- The runs that the checkpoint does not hold. -/
def todo (done : Checkpoint) : List PlannedEntry :=
  (context.entries spec alternatives).filter fun entry => (done (entry.key alternatives)).isNone

/-- What `run_ensemble` makes of the fresh results. -/
def ensembleRun (done : Checkpoint) (fresh : List TaskOutcome) : EnsembleRun :=
  let entries := context.entries spec alternatives
  let todo := context.todo spec alternatives done
  let results := collect alternatives done entries fresh
  let incomplete := incompleteConditions (todo.zip fresh)
  let gathered := results.foldl (Gathered.gather spec.primaryIndicator.value alternatives) {}
  { conditions := (context.sampleConditions spec).map
      (context.conditionResult spec alternatives incomplete gathered)
    runsPlanned := spec.totalRuns alternatives.length
    runsExecuted := entries.length
    cancelled := ¬ incomplete.isEmpty
    checkpoint := Memo.record (fun key => (done key).map RunReport.kept)
      (freshReports alternatives (todo.zip fresh))
    runsFromCheckpoint := entries.length - todo.length }

def runEnsemble (executor : List SimTask → List TaskOutcome)
    (done : Checkpoint) : Except EnsembleError EnsembleRun :=
  let problems := preflightProblems spec alternatives
  let todo := context.todo spec alternatives done
  let fresh := if todo = [] then [] else executor (todo.map fun entry => entry.task)
  if checkAlternatives alternatives ≠ [] then .error (.refused (checkAlternatives alternatives))
  else if problems ≠ [] then .error (.refused problems)
  else if fresh.length ≠ todo.length then .error .executorResults
  else .ok (context.ensembleRun spec alternatives done fresh)

section

variable (baseline : String)

/-- What `run_experiment` tells the analysis. -/
def settings : AnalysisSettings where
  alternatives := alternatives.map RunAlternative.id
  baseline := baseline
  replications := spec.replications
  factorIds := spec.factors.map fun factor => factor.1.id
  primaryIndicator := spec.primaryIndicator
  tieTolerance := spec.tieTolerance
  seed := spec.seed
  predeclared := context.fingerprint spec ≠ ""

/-- What `run_experiment` makes of the ensemble: only one that was not cancelled
is fingerprinted. -/
def analysed (run : EnsembleRun) : Except EnsembleError (ExperimentOutcome Analysis) :=
  let specFingerprint := context.fingerprint spec
  match context.analyze run.conditions (context.settings spec alternatives baseline) with
  | .ok analysis =>
    if run.cancelled then .ok (.cancelled specFingerprint (some analysis) run.checkpoint)
    else
      .ok (.completed specFingerprint (context.resultFingerprint analysis) analysis run.checkpoint)
  | .error (.valueError message) =>
    -- Too little finished to analyse; the checkpoint is still kept.
    if run.cancelled then .ok (.cancelled specFingerprint none run.checkpoint)
    else .error (.analysis (.valueError message))
  | .error error => .error (.analysis error)

def runExperiment (executor : List SimTask → List TaskOutcome)
    (done : Checkpoint) : Except EnsembleError (ExperimentOutcome Analysis) := do
  let run ← context.runEnsemble spec alternatives executor done
  context.analysed spec alternatives baseline run

end

end EnsembleContext
end UrbanFlow.Uncertainty
