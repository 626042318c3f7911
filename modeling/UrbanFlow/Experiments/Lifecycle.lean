import UrbanFlow.Experiments.ServiceRuns

/-!
# The life of an experiment

The service with its `_progress`: under each experiment the `Progress` of the run
that has begun and not yet settled, and which of these objects a cancel has
reached. A run settles in one locked part and cleans up in a later one, and what
another thread does in between meets that cleanup.
-/

namespace UrbanFlow

/-- The service and the `Progress` objects, each named by its run. -/
structure TrackedService where
  service : ExperimentService
  progress : Nat → Option Nat := fun _ => none
  cancelled : Nat → Bool := fun _ => false

/-- The run settles its experiment as cancelled rather than complete it. -/
def ExperimentRecord.Settles (outcome : RunOutcome) (record : ExperimentRecord) : Prop :=
  outcome = .cancelled ∨ outcome = .completed ∧ record.cancelRequested = true

instance (outcome : RunOutcome) : DecidablePred (ExperimentRecord.Settles outcome) :=
  fun record => inferInstanceAs (Decidable (outcome = .cancelled ∨
      outcome = .completed ∧ record.cancelRequested = true))

instance : DecidablePred ExperimentRecord.Kept :=
  fun record => inferInstanceAs (Decidable (record.inMemory = true ∨ record.onDisk = true))

namespace TrackedService

/-- `_progress` after a step: a run files its `Progress` when it begins, and
whichever is filed is dropped when a run settles and when it cleans up. -/
def progressAfter (tracked : TrackedService) : ServiceStep → Nat → Option Nat
  | .runStart run =>
    match tracked.service.runAt run .submitted with
    | none => tracked.progress
    | some background =>
      match tracked.service.records[background.experiment]? with
      | none => tracked.progress
      | some record =>
        Function.update tracked.progress background.experiment
          (if record.cancelRequested then none else some run)
  | .runFinish run outcome =>
    match tracked.service.runAt run .working with
    | none => tracked.progress
    | some background =>
      match tracked.service.records[background.experiment]? with
      | none => tracked.progress
      | some record =>
        if record.Settles outcome then Function.update tracked.progress background.experiment none
        else tracked.progress
  | .runLeave run =>
    match tracked.service.runAt run .leaving with
    | none => tracked.progress
    | some background => Function.update tracked.progress background.experiment none
  | _ => tracked.progress

def cancelAccepted (service : ExperimentService) : ServiceStep → Option Nat
  | .cancel userId experiment =>
    (service.getRecord userId experiment).bind fun record =>
      if record.Busy then some experiment else none
  | _ => none

def deleteAccepted (service : ExperimentService) : ServiceStep → Option Nat
  | .delete userId experiment =>
    (service.getRecord userId experiment).bind fun record =>
      if record.Busy ∨ record.settling then none else some experiment
  | _ => none

/-- Which `Progress` objects are cancelled after a step. -/
def cancelledAfter (tracked : TrackedService) (step : ServiceStep) : Nat → Bool :=
  match (cancelAccepted tracked.service step).bind tracked.progress with
  | none => tracked.cancelled
  | some run => Function.update tracked.cancelled run true

def step (tracked : TrackedService) (step : ServiceStep) : TrackedService :=
  { service := tracked.service.step step
    progress := tracked.progressAfter step
    cancelled := tracked.cancelledAfter step }

end TrackedService

/-- The changes of status that the lifecycle allows. -/
def MayMove (step : ServiceStep) : ExperimentStatus → ExperimentStatus → Prop
  | .queued, .running => True
  | .queued, .cancelled => True
  | .running, .completed => True
  | .running, .failed => True
  | .running, .cancelled => True
  | .cancelled, .queued => step = .resumeMark
  | old, new => old = new

/-- A run that has been handed over and has not ended its work. -/
def BackgroundRun.Going (background : BackgroundRun) : Prop :=
  background.phase = .submitted ∨ background.phase = .working

instance : DecidablePred BackgroundRun.Going := fun background => inferInstanceAs (Decidable
    (background.phase = .submitted ∨ background.phase = .working))

/-- A run of the service with its `Progress` objects, from the records that an
earlier process left. -/
structure TrackedRun where
  stored : List ExperimentRecord
  idle : ∀ record ∈ stored, ¬ record.Busy ∧ ¬ record.settling
  steps : Nat → ServiceStep

namespace TrackedRun

variable (run : TrackedRun)

/-- The service before step `n`. -/
def trackedAt (n : Nat) : TrackedService :=
  Machine.stateAt TrackedService.step { service := { records := run.stored } } run.steps n

/-- What every interleaving is to keep. -/
structure Lawful : Prop where
  /-- The status of an experiment moves along its lifecycle. -/
  moves : ∀ (n experiment : Nat) (old new : ExperimentRecord),
    (run.trackedAt n).service.records[experiment]? = some old →
      (run.trackedAt (n + 1)).service.records[experiment]? = some new →
        MayMove (run.steps n) old.status new.status
  /-- At most one run of an experiment is going and not cancelled. -/
  single : ∀ (n index other : Nat) (background another : BackgroundRun),
    (run.trackedAt n).service.runs[index]? = some background →
      (run.trackedAt n).service.runs[other]? = some another →
        background.experiment = another.experiment → background.Going → another.Going →
            (run.trackedAt n).cancelled index = false →
              (run.trackedAt n).cancelled other = false → index = other
  /-- An accepted cancel reaches the `Progress` of a run in progress. -/
  reaches : ∀ n experiment : Nat,
    TrackedService.cancelAccepted (run.trackedAt n).service (run.steps n) = some experiment →
      ∀ (index : Nat) (background : BackgroundRun),
        (run.trackedAt n).service.runs[index]? = some background →
          background.experiment = experiment → background.phase = .working →
              (run.trackedAt (n + 1)).cancelled index = true
  /-- A deleted experiment is never shown again. -/
  gone : ∀ n experiment : Nat,
    TrackedService.deleteAccepted (run.trackedAt n).service (run.steps n) = some experiment →
      ∀ later > n, ∀ record : ExperimentRecord,
        (run.trackedAt later).service.records[experiment]? = some record → ¬ record.Kept

end TrackedRun

namespace TrackedService

/-- A run does not raise once its experiment is cancelled, and its cleanup finds
the experiment kept, settled and without a run at work. -/
def Meets (tracked : TrackedService) : ServiceStep → Prop
  | .runFinish run .raised =>
    ∀ background ∈ tracked.service.runAt run .working,
      ∀ record ∈ tracked.service.records[background.experiment]?, record.cancelRequested = false
  | .runLeave run =>
    ∀ background ∈ tracked.service.runAt run .leaving,
      (∀ record ∈ tracked.service.records[background.experiment]?,
        record.Kept ∧ ¬ record.settling) ∧
      ∀ other ∈ tracked.service.runs,
        other.experiment = background.experiment → other.phase ≠ .working
  | _ => True

end TrackedService
end UrbanFlow
