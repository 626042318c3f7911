import UrbanFlow.Scenario.StrategyIdentity
import UrbanFlow.Uncertainty.EnsembleRuns

/-!
# Resumed experiments

A cancelled experiment keeps the metrics of the runs that finished and is resumed
from them. However often it is cancelled and resumed, and whatever has finished
each time, the experiment that completes has the result of one that was never
interrupted. A checkpoint that is written and read back holds the same values.
-/

namespace UrbanFlow.Uncertainty

open Scenario

/-- What happens to one background run of an experiment: whether it was cancelled
while it was queued, which runs the pool reaches, and whether a cancellation has
been requested by its end. -/
structure Session where
  cancelledQueued : Bool := false
  reached : Nat → Bool := fun _ => true
  cancelRequested : Bool := false

/-- How a background run ends. -/
inductive SessionEnd (Analysis : Type)
  | settled (checkpoint : Checkpoint)
  | completed (resultFingerprint : String) (analysis : Analysis)
  | failed (error : EnsembleError)

namespace EnsembleContext

variable {Law Analysis : Type} (context : EnsembleContext Law Analysis)
variable (spec : UncertaintySpec Law) (alternatives : List RunAlternative) (baseline : String)
variable (simulate : SimTask → Option RunReport)

/-- `_run`, from the checkpoint that it is started with. -/
def runSession (checkpoint : Checkpoint) (session : Session) : SessionEnd Analysis :=
  if session.cancelledQueued then .settled checkpoint
  else match context.runExperiment spec alternatives baseline
        (pool simulate session.reached) checkpoint with
    | .error error => .failed error
    | .ok (.cancelled _ _ checkpoint) => .settled checkpoint
    | .ok (.completed _ resultFingerprint analysis checkpoint) =>
      if session.cancelRequested then .settled checkpoint
      else .completed resultFingerprint analysis

/-- An experiment that is resumed after every cancellation, until it completes or
fails: `resume` starts it with the checkpoint of the record. -/
def runSessions (checkpoint : Checkpoint) : List Session → SessionEnd Analysis
  | [] => .settled checkpoint
  | session :: rest =>
    match context.runSession spec alternatives baseline simulate checkpoint session with
    | .settled next => runSessions next rest
    | .completed resultFingerprint analysis => .completed resultFingerprint analysis
    | .failed error => .failed error

/-- The experiment run once, without an interruption. -/
def uninterrupted : SessionEnd Analysis :=
  context.runSession spec alternatives baseline simulate Memo.empty {}

variable {context spec alternatives baseline simulate} {reached : Nat → Bool}
variable {checkpoint : Checkpoint}

theorem runExperiment_ok {outcome : ExperimentOutcome Analysis}
    (isOutcome : context.runExperiment spec alternatives baseline
      (pool simulate reached) checkpoint = .ok outcome) :
    checkAlternatives alternatives = [] ∧ preflightProblems spec alternatives = [] ∧
      context.analysed spec alternatives baseline
        (context.pooledRun spec alternatives simulate reached checkpoint) = .ok outcome := by
  obtain ⟨run, isRun, isAnalysed⟩ := bind_ok_iff.mp isOutcome
  rw [runEnsemble_pool] at isRun
  split at isRun
  · cases isRun
  · next accepted =>
      split at isRun
      · cases isRun
      · next noProblem =>
          cases isRun
          exact ⟨not_not.mp accepted, not_not.mp noProblem, isAnalysed⟩

theorem runExperiment_of_accepted (accepted : checkAlternatives alternatives = [])
    (noProblem : preflightProblems spec alternatives = []) :
    context.runExperiment spec alternatives baseline (pool simulate reached) checkpoint =
      context.analysed spec alternatives baseline
        (context.pooledRun spec alternatives simulate reached checkpoint) := by
  unfold runExperiment
  rw [runEnsemble_pool, accepted, noProblem]
  rfl

theorem nodup_of_accepted (accepted : checkAlternatives alternatives = []) :
    (alternatives.map RunAlternative.id).Nodup := by
  by_contra notNodup
  simp [checkAlternatives, notNodup] at accepted

theorem analysed_ok {run : EnsembleRun} {outcome : ExperimentOutcome Analysis}
    (isOutcome : context.analysed spec alternatives baseline run = .ok outcome) :
    (∃ fingerprint analysis, outcome = .cancelled fingerprint analysis run.checkpoint) ∨
    ∃ analysis, run.cancelled = false ∧ context.analyze run.conditions
          (context.settings spec alternatives baseline) = .ok analysis ∧
        outcome = .completed (context.fingerprint spec)
          (context.resultFingerprint analysis) analysis run.checkpoint := by
  unfold analysed at isOutcome
  split at isOutcome
  · next analysis isAnalysis =>
      split at isOutcome
      · exact Or.inl ⟨_, _, (Except.ok.inj isOutcome).symm⟩
      · next notCancelled =>
          exact Or.inr ⟨analysis, by simpa using notCancelled, isAnalysis,
            (Except.ok.inj isOutcome).symm⟩
  · split at isOutcome
    · exact Or.inl ⟨_, _, (Except.ok.inj isOutcome).symm⟩
    · cases isOutcome
  · cases isOutcome

section

variable (sound : Memo.Sound (context.Reproduces spec alternatives simulate) checkpoint)
  {session : Session}

include sound

theorem runSession_sound {next : Checkpoint}
    (isSettled : context.runSession spec alternatives baseline simulate checkpoint session = .settled next) :
    Memo.Sound (context.Reproduces spec alternatives simulate) next := by
  unfold runSession at isSettled
  split at isSettled
  · cases isSettled
    exact sound
  · split at isSettled
    · cases isSettled
    · next isOutcome =>
        obtain ⟨accepted, _, isAnalysed⟩ := runExperiment_ok isOutcome
        cases isSettled
        obtain ⟨_, _, isCancelled⟩ | ⟨_, _, _, isCompleted⟩ := analysed_ok isAnalysed
        · cases isCancelled
          exact checkpoint_sound (nodup_of_accepted accepted) sound
        · cases isCompleted
    · next isOutcome =>
        obtain ⟨accepted, _, isAnalysed⟩ := runExperiment_ok isOutcome
        split at isSettled
        · cases isSettled
          obtain ⟨_, _, isCancelled⟩ | ⟨_, _, _, isCompleted⟩ := analysed_ok isAnalysed
          · cases isCancelled
          · cases isCompleted
            exact checkpoint_sound (nodup_of_accepted accepted) sound
        · cases isSettled

theorem runSession_completed {resultFingerprint : String} {analysis : Analysis}
    (isCompleted : context.runSession spec alternatives baseline simulate checkpoint session = .completed resultFingerprint analysis) :
    context.uninterrupted spec alternatives baseline simulate =
      .completed resultFingerprint analysis := by
  unfold runSession at isCompleted
  split at isCompleted
  · cases isCompleted
  · split at isCompleted
    · cases isCompleted
    · cases isCompleted
    · next isOutcome =>
        split at isCompleted
        · cases isCompleted
        · cases isCompleted
          obtain ⟨accepted, noProblem, isAnalysed⟩ := runExperiment_ok isOutcome
          obtain ⟨_, _, isCancelled⟩ | ⟨_, notCancelled, isAnalysis, isResult⟩ :=
            analysed_ok isAnalysed
          · cases isCancelled
          · cases isResult
            have everything : (context.pooledRun spec alternatives simulate
                (fun _ => true) Memo.empty).cancelled = false :=
              cancelled_pooledRun_everything
            rw [conditions_eq_everyCondition sound notCancelled,
              ← conditions_eq_everyCondition (Memo.sound_empty _) everything]
              at isAnalysis
            unfold uninterrupted runSession
            rw [runExperiment_of_accepted accepted noProblem]
            simp [analysed, isAnalysis, everything]

end

theorem runSessions_completed
    (sound : Memo.Sound (context.Reproduces spec alternatives simulate) checkpoint)
    {sessions : List Session} {resultFingerprint : String} {analysis : Analysis}
    (completes : context.runSessions spec alternatives baseline simulate
      checkpoint sessions = .completed resultFingerprint analysis) :
    context.uninterrupted spec alternatives baseline simulate =
      .completed resultFingerprint analysis := by
  induction sessions generalizing checkpoint with
  | nil => cases completes
  | cons _ _ ih =>
    unfold runSessions at completes
    split at completes
    · next isSettled => exact ih (runSession_sound sound isSettled) completes
    · next isCompleted =>
        cases completes
        exact runSession_completed sound isCompleted
    · cases completes

/-- An experiment that completes after any number of cancellations and resumes
has the analysis and the fingerprint of one that was never interrupted. -/
theorem resumed_eq_uninterrupted (sessions : List Session) {resultFingerprint : String}
    {analysis : Analysis} (completes : context.runSessions spec alternatives baseline simulate
      Memo.empty sessions = .completed resultFingerprint analysis) :
    context.uninterrupted spec alternatives baseline simulate =
      .completed resultFingerprint analysis :=
  runSessions_completed (Memo.sound_empty _) completes

end EnsembleContext

def listingContext : EnsembleContext Unit (List (Option Exclusion)) where
  contract := ScenarioDocument.permissive
  modelErrors := fun _ => none
  sampleFactor := fun _ _ _ i => (1 + i, i)
  deriveSeed := fun seed condition replication => seed + 10 * condition + replication
  fingerprint := fun spec => toString spec.seed
  analyze := fun conditions _ => .ok (conditions.map ConditionResult.exclusion)
  resultFingerprint := fun exclusions => toString exclusions.length

/-- Two conditions, in each of which the demand is scaled. -/
def scaledDemand : UncertaintySpec Unit where
  factors := [(⟨"demand", .demandScale⟩, ())]
  conditions := 2
  replications := 1
  seed := 7

/-- A signal and a roundabout for the same junction. -/
def signalAndRoundabout : List RunAlternative :=
  let document := ScenarioDocument.fourArms [] ScenarioDocument.plain_distinct
  [⟨"signal", "fixed_time", document⟩, ⟨"ring", "roundabout", document⟩]

/-- The signal raises in the second condition. -/
def simulateDelay (task : SimTask) : Option RunReport :=
  if task.label = "condition 1 · rep 0 · signal" then none
  else some ⟨some [("averageDelay", .float 12), ("throughput", .int 30)]⟩

/-- The experiment is cancelled after its first run, resumed, cancelled while it
is queued, and resumed again. -/
def cancelledTwice : List Session :=
  [{ reached := fun i => i = 0, cancelRequested := true }, { cancelledQueued := true }, {}]

def SessionEnd.result {Analysis : Type} : SessionEnd Analysis → Option (String × Analysis)
  | .completed resultFingerprint analysis => some (resultFingerprint, analysis)
  | _ => none

theorem SessionEnd.eq_completed {Analysis : Type} {ended : SessionEnd Analysis}
    {result : String × Analysis} (isResult : ended.result = some result) :
    ended = .completed result.1 result.2 := by
  unfold SessionEnd.result at isResult
  split at isResult
  · cases isResult
    rfl
  · cases isResult

theorem cancelledTwice_uninterrupted :
    listingContext.uninterrupted scaledDemand signalAndRoundabout "signal" simulateDelay =
      .completed "2" [none, some .runFailed] := by
  have isResult : (listingContext.runSessions scaledDemand signalAndRoundabout
      "signal" simulateDelay Memo.empty cancelledTwice).result =
        some ("2", [none, some .runFailed]) := by
    decide +kernel
  exact EnsembleContext.resumed_eq_uninterrupted cancelledTwice (SessionEnd.eq_completed isResult)

end UrbanFlow.Uncertainty
