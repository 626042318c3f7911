import Mathlib.Algebra.Order.Ring.Rat
import UrbanFlow.Experiments.Service
import UrbanFlow.Library.Ledger

/-!
# Simulated seconds

What one user's experiments reserve and give back of the user's daily simulated
seconds. A run reports how many runs of the ensemble have finished by its end; a
checkpoint is modelled by how many finished runs it holds. A restart loses what
is not persisted. Beside the usage that the store keeps stands a ledger of what
was reserved and given back for each experiment on each day. The arithmetic is
exact.
-/

namespace UrbanFlow

/-- The parts of a prepared request that its cost depends on. -/
structure PreparedRuns where
  duration : ℚ
  totalRuns : Nat
  duration_pos : 0 < duration

/-- `_simulated_seconds`, of a number of runs. -/
def PreparedRuns.simulatedSeconds (prepared : PreparedRuns) (runs : Nat) : ℚ :=
  prepared.duration * runs

/-- What the accounting reads of a record, and how far its background run has
got. -/
structure AccountedRecord where
  prepared : PreparedRuns
  usageDay : Nat
  reservedSeconds : ℚ
  status : ExperimentStatus := .queued
  settling : Bool := false
  cancelRequested : Bool := false
  checkpoint : Option Nat := none
  run : RunPhase := .submitted

def maxDailySimulatedSecondsPerUser : ℚ := 86400

/-- The user's experiments, the user's rows of `uf_usage` by day, the ledger of
what was reserved and given back, and how many runs of each experiment have
finished. A deleted experiment has no record. -/
structure ExperimentAccounts where
  records : List (Option AccountedRecord) := []
  usage : Nat → ℚ := fun _ => 0
  ledger : Ledger Nat Nat ℚ := Ledger.empty
  finished : Nat → Nat := fun _ => 0

namespace AccountedRecord

section

variable (record : AccountedRecord)

/-- How many finished runs the checkpoint holds. -/
def kept : Nat := record.checkpoint.getD 0

/-- `kept` of `_settle_cancelled`: the seconds of the runs that finished. -/
def keptSeconds (checkpoint : Nat) : ℚ :=
  let total := record.prepared.totalRuns
  let done := min checkpoint total
  if total = 0 then 0 else record.reservedSeconds * done / total

/-- The record that `_settle_cancelled` leaves. -/
def settleCancelled (checkpoint : Nat) : AccountedRecord :=
  { record with
    reservedSeconds := record.keptSeconds checkpoint
    checkpoint := some checkpoint
    status := .cancelled
    settling := false
    run := .done }

/-- What a process that starts reads back of a record, after
`mark_interrupted`. -/
def restarted : AccountedRecord :=
  { record with
    status := match record.status with
      | .queued => .failed
      | .running => .failed
      | other => other
    settling := false
    cancelRequested := false
    run := .done }

end

end AccountedRecord

/-- An operation. A submission and a resume read the day once when they reserve
and once for the record; `admitted` and `started` say whether the quotas on the
number of experiments and the job registry let them pass. The runner of a run
reports how many more runs finished. -/
inductive AccountStep
  | submit (prepared : PreparedRuns) (reservedOn recordedOn : Nat) (admitted started : Bool)
  | runStart (experiment : Nat)
  | runFinish (experiment : Nat) (outcome : RunOutcome) (finished : Nat)
  | cancel (experiment : Nat)
  | resume (experiment : Nat) (reservedOn recordedOn : Nat) (admitted started : Bool)
  | delete (experiment : Nat)
  | restart

namespace ExperimentAccounts

section

variable (accounts : ExperimentAccounts)

section

variable (experiment day : Nat) (seconds : ℚ)

/-- `reserve`: the seconds are added if the day's total stays within the
limit. -/
def reserve : Option ExperimentAccounts :=
  if maxDailySimulatedSecondsPerUser < accounts.usage day + seconds then none
  else some { accounts with
      usage := Function.update accounts.usage day (accounts.usage day + seconds)
      ledger := accounts.ledger.charge experiment day seconds }

/-- `release`: reserved seconds are given back, floored at zero. -/
def release : ExperimentAccounts := if seconds ≤ 0 then accounts else
    { accounts with
      usage := Function.update accounts.usage day (max 0 (accounts.usage day - seconds))
      ledger := accounts.ledger.refund experiment day seconds }

end

/-- The record of an experiment that has not been deleted. -/
def recordOf (experiment : Nat) : Option AccountedRecord := accounts.records[experiment]?.join

def put (experiment : Nat) (record : AccountedRecord) : ExperimentAccounts :=
  { accounts with records := accounts.records.set experiment (some record) }

end

def settleCancelled (accounts : ExperimentAccounts) (experiment : Nat) (record : AccountedRecord)
    (checkpoint : Nat) : ExperimentAccounts :=
  let released := accounts.release experiment record.usageDay
    (record.reservedSeconds - record.keptSeconds checkpoint)
  { released.put experiment (record.settleCancelled checkpoint) with
    finished := Function.update accounts.finished experiment checkpoint }

def submit (accounts : ExperimentAccounts) (prepared : PreparedRuns) (reservedOn recordedOn : Nat)
    (admitted started : Bool) : ExperimentAccounts :=
  let cost := prepared.simulatedSeconds prepared.totalRuns
  let experiment := accounts.records.length
  if maxDailySimulatedSecondsPerUser < cost ∨ ¬ admitted then accounts
  else match accounts.reserve experiment reservedOn cost with
    | none => accounts
    | some reserved =>
      if started then
        { reserved with
          records := accounts.records ++ [some
              { prepared := prepared
                usageDay := recordedOn
                reservedSeconds := cost }] }
      else
        { reserved.release experiment recordedOn cost with
          records := accounts.records ++ [none] }

section

variable (accounts : ExperimentAccounts) (experiment : Nat) (record : AccountedRecord)

/-- The first locked part of `_run`. -/
def runStart : ExperimentAccounts := if record.run ≠ .submitted then accounts
  else if record.cancelRequested then accounts.settleCancelled experiment record record.kept
  else accounts.put experiment { record with status := .running, run := .working }

/-- The end of `_run`: its runner has simulated runs that the checkpoint does
not hold yet. -/
def runFinish (outcome : RunOutcome) (finished : Nat) : ExperimentAccounts :=
  let checkpoint := record.kept + min finished (record.prepared.totalRuns - record.kept)
  if record.run ≠ .working then accounts
  else match outcome with
    | .raised =>
      accounts.put experiment { record with
          status := .failed
          cancelRequested := false
          settling := false
          run := .done }
    | .cancelled => accounts.settleCancelled experiment record checkpoint
    | .completed =>
      if record.cancelRequested then accounts.settleCancelled experiment record checkpoint
      else
        { accounts.put experiment { record with
              status := .completed
              checkpoint := none
              settling := false
              run := .done } with
          finished :=
            Function.update accounts.finished experiment checkpoint }

def cancel : ExperimentAccounts := if record.status = .queued ∨ record.status = .running then
    accounts.put experiment { record with
        status := .cancelled
        settling := true
        cancelRequested := true }
  else accounts

def resume (reservedOn recordedOn : Nat) (admitted started : Bool) : ExperimentAccounts :=
  let remaining := record.prepared.totalRuns - record.kept
  let cost := record.prepared.simulatedSeconds remaining
  if record.status ≠ .cancelled ∨ record.settling ∨ ¬ admitted then accounts
  else match accounts.reserve experiment reservedOn cost with
    | none => accounts
    | some reserved =>
      if started then
        reserved.put experiment { record with
            status := .queued
            cancelRequested := false
            settling := false
            usageDay := recordedOn
            reservedSeconds := record.reservedSeconds + cost
            run := .submitted }
      else reserved.release experiment recordedOn cost

def delete : ExperimentAccounts :=
  if record.status = .queued ∨ record.status = .running ∨ record.settling then accounts
  else { accounts with records := accounts.records.set experiment none }

end

section

variable (accounts : ExperimentAccounts)

def onRecord (experiment : Nat)
    (operate : AccountedRecord → ExperimentAccounts) : ExperimentAccounts :=
  match accounts.recordOf experiment with
  | none => accounts
  | some record => operate record

def step : AccountStep → ExperimentAccounts
  | .submit prepared reservedOn recordedOn admitted started =>
    accounts.submit prepared reservedOn recordedOn admitted started
  | .runStart experiment => accounts.onRecord experiment (accounts.runStart experiment)
  | .runFinish experiment outcome finished =>
    accounts.onRecord experiment fun record => accounts.runFinish experiment record outcome finished
  | .cancel experiment => accounts.onRecord experiment (accounts.cancel experiment)
  | .resume experiment reservedOn recordedOn admitted started =>
    accounts.onRecord experiment fun record =>
      accounts.resume experiment record reservedOn recordedOn admitted started
  | .delete experiment => accounts.onRecord experiment (accounts.delete experiment)
  | .restart =>
    { accounts with
      records := accounts.records.map (·.map AccountedRecord.restarted) }

end

end ExperimentAccounts
end UrbanFlow
