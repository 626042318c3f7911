import Mathlib.Data.List.Basic

/-!
# The experiment service

Submissions, resumes, cancellations, deletions and background runs, as steps
between which other threads may take theirs. A submission checks its quotas and
stores its record under the submit lock; a resume checks under the submit lock
and marks its record under the state lock, which it holds throughout; everything
else holds the state lock for one step. Experiments are numbered in the order
they were created.
-/

namespace UrbanFlow

/-- The `status` of a record. -/
inductive ExperimentStatus
  | queued
  | running
  | completed
  | failed
  | cancelled
  deriving DecidableEq, Repr

/-- A record, and whether the store keeps it in memory and on disk. -/
structure ExperimentRecord where
  userId : String
  status : ExperimentStatus
  settling : Bool := false
  cancelRequested : Bool := false
  inMemory : Bool := true
  onDisk : Bool := true
  deriving DecidableEq, Repr

/-- How far a background run of an experiment has got: not started, at work, or
about to leave `_run` through its `finally`. -/
inductive RunPhase
  | submitted
  | working
  | leaving
  | done
  deriving DecidableEq, Repr

structure BackgroundRun where
  experiment : Nat
  phase : RunPhase := .submitted
  deriving DecidableEq, Repr

/-- Which of its first two checks a submission has passed. -/
inductive SubmitPhase
  | userChecked
  | totalChecked
  deriving DecidableEq, Repr

/-- How far a resume has got: it has passed a check, or it has marked its record
queued, which was like `previous` before. -/
inductive ResumePhase
  | userChecked
  | totalChecked
  | marked (previous : ExperimentRecord)
  deriving DecidableEq, Repr

/-- The submission that holds the submit lock. -/
structure PendingSubmit where
  userId : String
  phase : SubmitPhase
  deriving DecidableEq, Repr

/-- The resume that holds the state lock. -/
structure PendingResume where
  userId : String
  experiment : Nat
  phase : ResumePhase
  deriving DecidableEq, Repr

/-- State of the service; `starting` are the experiments submitted but not yet
handed to the job registry. -/
structure ExperimentService where
  records : List ExperimentRecord
  submitting : Option PendingSubmit := none
  resuming : Option PendingResume := none
  starting : List Nat := []
  runs : List BackgroundRun := []
  deriving DecidableEq, Repr

structure QuotaExceeded where
  quota : String
  message : String
  deriving DecidableEq, Repr

def maxActiveExperiments : Nat := 2

def maxActiveExperimentsPerUser : Nat := 1

def maxStoredExperimentsPerUser : Nat := 50

namespace ExperimentRecord

/-- The record is queued or running. -/
def Busy (record : ExperimentRecord) : Prop := record.status = .queued ∨ record.status = .running

instance : DecidablePred Busy :=
  fun record => inferInstanceAs (Decidable (record.status = .queued ∨ record.status = .running))

/-- `active` counts the record: it is in memory, and queued, running or
settling. -/
def Active (record : ExperimentRecord) : Prop := record.inMemory ∧ (record.Busy ∨ record.settling)

instance : DecidablePred Active := fun record => inferInstanceAs
    (Decidable (record.inMemory = true ∧ (record.Busy ∨ record.settling = true)))

def Of (user : Option String) (record : ExperimentRecord) : Prop :=
  ∀ userId ∈ user, record.userId = userId

instance (user : Option String) : DecidablePred (Of user) :=
  fun record => inferInstanceAs (Decidable (∀ userId ∈ user, record.userId = userId))

def put (record : ExperimentRecord) : ExperimentRecord :=
  { record with inMemory := true, onDisk := true }

/-- The store's `delete`. -/
def delete (record : ExperimentRecord) : ExperimentRecord :=
  { record with inMemory := false, onDisk := false }

/-- `get` finds the record for a user. -/
def Found (userId : String) (record : ExperimentRecord) : Prop :=
  (record.inMemory ∨ record.onDisk) ∧ record.userId = userId

instance (userId : String) : DecidablePred (Found userId) :=
  fun record => inferInstanceAs (Decidable
    ((record.inMemory = true ∨ record.onDisk = true) ∧ record.userId = userId))

section

variable (record : ExperimentRecord)

def settleCancelled : ExperimentRecord :=
  { record with status := .cancelled, settling := false }.put

/-- What `cancel` does to a queued or running record. -/
def cancel : ExperimentRecord :=
  { record with
    status := .cancelled
    settling := true
    cancelRequested := true }.put

/-- What `resume` does to a record before it starts its run. -/
def mark : ExperimentRecord :=
  { record with
    status := .queued
    settling := false
    cancelRequested := false }

/-- The first locked part of `_run`. -/
def start : ExperimentRecord := if record.cancelRequested then record.settleCancelled
  else { record with status := .running }.put

/-- The last locked part of `_run`. -/
def leave : ExperimentRecord := { record with settling := false }.put

end

end ExperimentRecord

/-- How the work of a background run ends. -/
inductive RunOutcome
  | cancelled
  | completed
  | raised
  deriving DecidableEq, Repr

/-- The locked part of `_run` after the work. -/
def ExperimentRecord.finish (outcome : RunOutcome) (record : ExperimentRecord) : ExperimentRecord :=
  match outcome with
  | .raised => { record with status := .failed, cancelRequested := false }
  | .cancelled => record.settleCancelled
  | .completed =>
    if record.cancelRequested then record.settleCancelled
    else { record with status := .completed }

/-- A locked or unlocked part of one of the service's methods. What other
modules decide is part of the step: whether a request is valid, whether its
simulated seconds could be reserved, whether the job registry took the job. -/
inductive ServiceStep
  | submitCheckUser (userId : String)
  | submitCheckTotal
  | submitPut (reserved : Bool)
  | submitStart (experiment : Nat) (accepted : Bool)
  | resumeCheckUser (userId : String) (experiment : Nat) (valid : Bool)
  | resumeCheckTotal (reserved : Bool)
  | resumeMark
  | resumeStart (accepted : Bool)
  | cancel (userId : String) (experiment : Nat)
  | delete (userId : String) (experiment : Nat)
  | runStart (run : Nat)
  | runFinish (run : Nat) (outcome : RunOutcome)
  | runLeave (run : Nat)
  deriving DecidableEq, Repr

namespace ExperimentService

/-- `active`, of one user or of all. -/
def active (user : Option String) (service : ExperimentService) : Nat :=
  service.records.countP fun record => record.Active ∧ record.Of user

section

variable (userId : String) (service : ExperimentService)

def countStored : Nat := service.records.countP fun record => record.Found userId

/-- The first check of `_check_quotas`. -/
def checkUser : Except QuotaExceeded Unit :=
  if maxActiveExperimentsPerUser ≤ service.active (some userId) then
    .error ⟨"maxActiveExperimentsPerUser",
      "you already have 1 experiment running; wait for it to finish"⟩
  else .ok ()

end

/-- The second check of `_check_quotas`. -/
def checkTotal (service : ExperimentService) : Except QuotaExceeded Unit :=
  if maxActiveExperiments ≤ service.active none then .error ⟨"maxActiveExperiments",
      "the server is already running 2 experiments; try again shortly"⟩
  else .ok ()

/-- The third check of `_check_quotas`, for a new record. -/
def checkStored (userId : String) (service : ExperimentService) : Except QuotaExceeded Unit :=
  if maxStoredExperimentsPerUser ≤ service.countStored userId then
    .error ⟨"maxStoredExperimentsPerUser", "you already keep 50 experiments; delete one first"⟩
  else .ok ()

/-- No thread holds the submit lock. -/
def SubmitFree (service : ExperimentService) : Prop :=
  service.submitting = none ∧ ∀ pending ∈ service.resuming, pending.phase ≠ .userChecked

instance : DecidablePred SubmitFree :=
  fun service => inferInstanceAs (Decidable (service.submitting = none ∧
    ∀ pending ∈ service.resuming, pending.phase ≠ .userChecked))

def change (experiment : Nat) (update : ExperimentRecord → ExperimentRecord)
    (service : ExperimentService) : ExperimentService :=
  { service with records := service.records.modify experiment update }

section

variable (run : Nat) (phase : RunPhase) (service : ExperimentService)

/-- The service with a background run in another phase. -/
def setPhase : ExperimentService :=
  { service with
    runs := service.runs.modify run fun background =>
      { background with phase := phase } }

/-- The background run that may take its next step, in a phase. -/
def runAt : Option BackgroundRun := if service.resuming = none then
    service.runs[run]?.filter fun background => background.phase = phase
  else none

end

/-- The record that a method under the state lock finds for a user. -/
def getRecord (userId : String) (experiment : Nat)
    (service : ExperimentService) : Option ExperimentRecord :=
  if service.resuming = none then
    service.records[experiment]?.filter fun record => record.Found userId
  else none

/-- One step. A step whose lock is held by another thread, or that raises,
changes nothing but the locks. -/
def step (service : ExperimentService) : ServiceStep → ExperimentService
  | .submitCheckUser userId =>
    if service.SubmitFree then match service.checkUser userId with
      | .ok () => { service with submitting := some ⟨userId, .userChecked⟩ }
      | .error _ => service
    else service
  | .submitCheckTotal =>
    match service.submitting with
    | some ⟨userId, .userChecked⟩ =>
      match service.checkTotal with
      | .ok () => { service with submitting := some ⟨userId, .totalChecked⟩ }
      | .error _ => { service with submitting := none }
    | _ => service
  | .submitPut reserved =>
    match service.submitting with
    | some ⟨userId, .totalChecked⟩ =>
      match service.checkStored userId, reserved with
      | .ok (), true =>
        { service with
          submitting := none
          records := service.records ++ [{ userId := userId, status := .queued }]
          starting := service.records.length :: service.starting }
      | _, _ => { service with submitting := none }
    | _ => service
  | .submitStart experiment accepted =>
    if experiment ∈ service.starting then
      let started :=
        { service with
          starting := service.starting.filter (· ≠ experiment) }
      if accepted then { started with runs := started.runs ++ [{ experiment := experiment }] }
      else started.change experiment .delete
    else service
  | .resumeCheckUser userId experiment valid =>
    match service.getRecord userId experiment with
    | some record =>
      if record.status = .cancelled ∧ ¬ record.settling ∧ valid ∧ service.SubmitFree then
        match service.checkUser userId with
        | .ok () =>
          { service with
            resuming := some ⟨userId, experiment, .userChecked⟩ }
        | .error _ => service
      else service
    | none => service
  | .resumeCheckTotal reserved =>
    match service.resuming with
    | some ⟨userId, experiment, .userChecked⟩ =>
      match service.checkTotal, reserved with
      | .ok (), true =>
        { service with
          resuming := some ⟨userId, experiment, .totalChecked⟩ }
      | _, _ => { service with resuming := none }
    | _ => service
  | .resumeMark =>
    match service.resuming with
    | some ⟨userId, experiment, .totalChecked⟩ =>
      match service.records[experiment]? with
      | some previous =>
        { service.change experiment .mark with
          resuming := some ⟨userId, experiment, .marked previous⟩ }
      | none => service
    | _ => service
  | .resumeStart accepted =>
    match service.resuming with
    | some ⟨_, experiment, .marked previous⟩ =>
      let released := { service with resuming := none }
      if accepted then
        { released.change experiment .put with
          runs := service.runs ++ [{ experiment := experiment }] }
      else released.change experiment fun _ => previous
    | _ => service
  | .cancel userId experiment =>
    match service.getRecord userId experiment with
    | some record => if record.Busy then service.change experiment .cancel else service
    | none => service
  | .delete userId experiment =>
    match service.getRecord userId experiment with
    | some record =>
      if record.Busy ∨ record.settling then service
      else service.change experiment .delete
    | none => service
  | .runStart run =>
    match service.runAt run .submitted with
    | some background =>
      let next := match service.records[background.experiment]? with
        | some record => if record.cancelRequested then .done else .working
        | none => .done
      (service.change background.experiment .start).setPhase run next
    | none => service
  | .runFinish run outcome =>
    match service.runAt run .working with
    | some background =>
      (service.change background.experiment (.finish outcome)).setPhase run .leaving
    | none => service
  | .runLeave run =>
    match service.runAt run .leaving with
    | some background => (service.change background.experiment .leave).setPhase run .done
    | none => service

end ExperimentService
end UrbanFlow
