import Mathlib.Data.List.Basic

/-!
# The planning service

Submissions, background jobs and deletions of planning studies, as the steps
between which other threads may take theirs: nothing but single store and
registry operations is locked. A submission counts the active studies, stores
its record and saves it, and hands it to the job registry; the job's worker
changes the status of that same record and puts it back; a deletion looks the
study up, takes it out of memory and then removes its row. Studies are numbered
in the order they were created.
-/

namespace UrbanFlow.Planning

/-- The `status` of a record. -/
inductive Status
  | queued
  | running
  | completed
  | failed
  deriving DecidableEq, Repr

/-- A record. A stored result and an error are kept as their texts. -/
structure Record where
  userId : String
  name : String
  status : Status := .queued
  result : Option String := none
  error : Option String := none
  deriving DecidableEq, Repr

/-- Which step of its submission or of its background job a study is at: its
record is in memory, and saved; the registry has refused it; its job waits, runs
the study, has written the outcome into the record, has put the record, has saved
it, and has ended. -/
inductive Stage
  | kept
  | saved
  | refused
  | submitted
  | running
  | settled
  | keptAgain
  | savedAgain
  | finished
  deriving DecidableEq, Repr

/-- A study: its record, whether the store's dictionary holds it, its row in the
database, and how far its own threads have got. -/
structure Study where
  record : Record
  inMemory : Bool := true
  row : Option Record := none
  stage : Stage := .kept
  deriving DecidableEq, Repr

/-- How far a deletion has got: it has found its study settled, or has taken it
out of memory. -/
inductive DeletionPhase
  | checked
  | popped
  | done
  deriving DecidableEq, Repr

/-- A deletion under way. -/
structure Deletion where
  study : Nat
  phase : DeletionPhase := .checked
  deriving DecidableEq, Repr

/-- A submission that has counted the active studies and not yet stored its
record. -/
structure Submission where
  userId : String
  name : String
  deriving DecidableEq, Repr

/-- State of the service. `refused` and `deleted` remember whose submission the
registry refused and whose deletion has returned. -/
structure Service where
  persist : Bool := true
  studies : List Study := []
  submissions : List Submission := []
  deletions : List Deletion := []
  refused : List Nat := []
  deleted : List Nat := []
  deriving DecidableEq, Repr

def maxActivePlanningJobs : Nat := 2

/-- `MAX_ACTIVE_JOBS` of the job registry. -/
def maxActiveJobs : Nat := 4

def interruptedError : String :=
  "Interrupted by a server restart before it finished; run the study again."

/-- The status is queued or running. -/
def Status.Busy (status : Status) : Prop := status = .queued ∨ status = .running

instance : DecidablePred Status.Busy :=
  fun status => inferInstanceAs (Decidable (status = .queued ∨ status = .running))

namespace Record

/-- `mark_interrupted`, of one row. -/
def markInterrupted (record : Record) : Record := if record.status.Busy then
    { record with status := .failed, error := some interruptedError }
  else record

/-- What `_execute` writes when `run_study` has returned or raised. -/
def settle (outcome : Except String String) (record : Record) : Record := match outcome with
  | .ok result => { record with result := some result, status := .completed }
  | .error message => { record with error := some message, status := .failed }

end Record

namespace Study

/-- The study is queued or running. -/
def Busy (study : Study) : Prop := study.record.status.Busy

instance : DecidablePred Busy := fun study => inferInstanceAs (Decidable study.record.status.Busy)

/-- The submission's count takes the study in: the store's dictionary holds it,
queued or running. -/
def Active (study : Study) : Prop := study.inMemory ∧ study.Busy

instance : DecidablePred Active :=
  fun study => inferInstanceAs (Decidable (study.inMemory = true ∧ study.Busy))

/-- The registry counts the study's job: it has been submitted and has no
`finished_at`. -/
def JobUnfinished (study : Study) : Prop := study.stage = .submitted ∨ study.stage = .running ∨
    study.stage = .settled ∨ study.stage = .keptAgain ∨
    study.stage = .savedAgain

instance : DecidablePred JobUnfinished :=
  fun study => inferInstanceAs (Decidable (study.stage = .submitted ∨ study.stage = .running ∨
      study.stage = .settled ∨ study.stage = .keptAgain ∨
      study.stage = .savedAgain))

/-- The record that `get` finds, whoever asks: the one in memory or else the
row, where the store persists. -/
def lookUp (persist : Bool) (study : Study) : Option Record :=
  if study.inMemory then some study.record
  else if persist then study.row
  else none

/-- A study that an earlier process saved. -/
def ofRow (row : Record) : Study where
  record := row.markInterrupted
  inMemory := false
  row := some row.markInterrupted
  stage := .finished

end Study

/-- A step of a submission, of a job's worker or of a deletion. What other
modules decide is part of the step: what a run of the study yields and whether
the database takes a write. -/
inductive Step
  | submitCount (userId name : String)
  | submitKeep (submission : Nat)
  | submitSave (study : Nat) (written : Bool)
  | submitStart (study : Nat)
  | jobStart (study : Nat)
  | jobSettle (study : Nat) (outcome : Except String String)
  | jobKeep (study : Nat)
  | jobSave (study : Nat) (written : Bool)
  | jobFinish (study : Nat)
  | deleteCheck (userId : String) (study : Nat)
  | deletePop (deletion : Nat)
  | deleteRow (deletion : Nat) (written : Bool)

namespace Service

/-- `active` in `submit`. -/
def active (service : Service) : Nat := service.studies.countP fun study => study.Active

/-- `active` in the registry's `submit`. -/
def unfinishedJobs (service : Service) : Nat :=
  service.studies.countP fun study => study.JobUnfinished

/-- The store's `get`. -/
def get (userId : String) (study : Nat) (service : Service) : Option Record :=
  (service.studies[study]?.bind (Study.lookUp service.persist)).filter
    fun record => record.userId = userId

section

variable (study : Nat)

/-- The study, if its own threads are at a stage. -/
def studyAt (stage : Stage) (service : Service) : Option Study :=
  service.studies[study]?.filter fun found => found.stage = stage

def change (update : Study → Study) (service : Service) : Service :=
  { service with studies := service.studies.modify study update }

/-- A thread of the study takes its next step. -/
def advance (stage : Stage) (update : Study → Study) (service : Service) : Service :=
  if (service.studyAt study stage).isSome then service.change study update
  else service

end

def save (written : Bool) (service : Service) (study : Study) : Option Record :=
  if service.persist ∧ written then some study.record else study.row

section

variable (deletion : Nat) (phase : DeletionPhase) (service : Service)

/-- The deletion, if it is at a phase. -/
def deletionAt : Option Deletion :=
  service.deletions[deletion]?.filter fun found => found.phase = phase

/-- The service with a deletion in another phase. -/
def setPhase : Service :=
  { service with
    deletions := service.deletions.modify deletion fun found =>
      { found with phase := phase } }

end

section

variable (study : Nat) (service : Service)

/-- The submission of a study ends refused, if the registry refused it. -/
def noteRefused : Service := if (service.studyAt study .refused).isSome then
    { service with refused := study :: service.refused }
  else service

/-- The deletion of a study has returned. -/
def returned : Service := { service with deleted := study :: service.deleted }

end

/-- One step. A step that is not its thread's next one, or that raises before it
has changed anything, changes nothing. -/
def step (service : Service) : Step → Service
  | .submitCount userId name =>
    if maxActivePlanningJobs ≤ service.active then service
    else
      { service with
        submissions := service.submissions ++ [⟨userId, name⟩] }
  | .submitKeep submission =>
    match service.submissions[submission]? with
    | some ⟨userId, name⟩ =>
      { service with
        submissions := service.submissions.eraseIdx submission
        studies := service.studies ++ [{ record := { userId := userId, name := name } }] }
    | none => service
  | .submitSave study written =>
    service.advance study .kept fun found =>
      { found with row := service.save written found, stage := .saved }
  | .submitStart study =>
    if maxActiveJobs ≤ service.unfinishedJobs then (service.advance study .saved fun found =>
        { found with stage := .refused }).noteRefused study
    else service.advance study .saved fun found => { found with stage := .submitted }
  | .jobStart study =>
    service.advance study .submitted fun found =>
      { found with
        record := { found.record with status := .running }
        stage := .running }
  | .jobSettle study outcome =>
    service.advance study .running fun found =>
      { found with
        record := found.record.settle outcome
        stage := .settled }
  | .jobKeep study =>
    service.advance study .settled fun found => { found with inMemory := true, stage := .keptAgain }
  | .jobSave study written =>
    service.advance study .keptAgain fun found =>
      { found with row := service.save written found, stage := .savedAgain }
  | .jobFinish study =>
    service.advance study .savedAgain fun found => { found with stage := .finished }
  | .deleteCheck userId study =>
    match service.get userId study with
    | some record =>
      if record.status.Busy then service
      else
        { service with
          deletions := service.deletions ++ [{ study := study }] }
    | none => service
  | .deletePop deletion =>
    match service.deletionAt deletion .checked with
    | some found =>
      let popped := service.change found.study fun study => { study with inMemory := false }
      if service.persist then popped.setPhase deletion .popped
      else (popped.setPhase deletion .done).returned found.study
    | none => service
  | .deleteRow deletion written =>
    match service.deletionAt deletion .popped with
    | some found =>
      let after := service.setPhase deletion .done
      if written then (after.change found.study fun study =>
          { study with row := none }).returned found.study
      else after
    | none => service

end Service
end UrbanFlow.Planning
