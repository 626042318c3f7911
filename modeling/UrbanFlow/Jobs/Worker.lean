import UrbanFlow.Jobs.QueueRuns
import UrbanFlow.Jobs.Spec

/-!
# The job worker

A worker between two accesses to what it shares with others: the queue, the run
store and the runner. What it does next, and where that leaves it, is one
function of its stage and of what the access answers.
-/

namespace UrbanFlow

/-- The objects of a run: `job.json`, `metrics.parquet` and `manifest.json`. -/
inductive ObjectName
  | jobRecord
  | metrics
  | manifest
  deriving DecidableEq, Repr

/-- `runs/<run id>/<name>`. -/
abbrev ObjectKey : Type := String × ObjectName

/-- What a runner returns, with the seconds the recorder measured, as rounded. -/
structure Study where
  manifest : String
  seedRuns : String
  computeSeconds : ℚ
  deriving DecidableEq

/-- The usage record that `_store` writes. -/
structure UsageRecord where
  jobId : String
  runId : String
  tenant : String
  idempotencyKey : String
  workerId : String
  attempt : Nat
  computeSeconds : ℚ
  costTags : Dict String String
  deriving DecidableEq

inductive StoredObject
  | record (record : UsageRecord)
  | table (geometry : JobGeometry) (seedRuns : String)
  | manifest (manifest : String)
  deriving DecidableEq

/-- The objects of a storage backend. -/
abbrev RunObjects : Type := ObjectKey → Option StoredObject

/-- `has_run`: the manifest marks a run as complete. -/
def RunObjects.hasRun (objects : RunObjects) (runId : String) : Bool :=
  (objects (runId, .manifest)).isSome

/-- `Outcome`. -/
inductive JobOutcome
  | completed
  | duplicate
  | retry
  | rejected
  | stale
  deriving DecidableEq, Repr

structure JobResult where
  messageId : Uuid
  outcome : JobOutcome
  runId : Option String
  detail : String
  deriving DecidableEq, Repr

/-- What `handle` does next with a message it has read. `recording`,
`puttingTable` and `puttingManifest` write an object; `saving` is at the
existence check of `save_run`. -/
inductive JobTask
  | checking
  | extending
  | running
  | recording (study : Study)
  | saving (study : Study)
  | puttingTable (study : Study)
  | puttingManifest (study : Study)
  | finishing (outcome : JobOutcome) (detail : String)
  | retrying (detail : String)
  deriving DecidableEq

inductive WorkerStage
  | idle
  | rejecting (delivery : Delivery) (runId : Option String) (reason : String)
  | handling (delivery : Delivery) (message : JobMessage) (task : JobTask)
  deriving DecidableEq

/-- A `Worker`: the deliveries of its batch that it has not started, whether it
has been asked to stop, and the results so far. -/
structure Worker where
  batch : List Delivery := []
  stopping : Bool := false
  stage : WorkerStage := .idle
  results : List JobResult := []
  deriving DecidableEq

/-- What an access answers. A runner returns a study or raises; an access to the
store is done or raises, and one that raises late has written its object. -/
inductive Reply
  | done
  | returned (study : Study)
  | valueError (exc : String)
  | failed (exc : String)
  | failedLate (exc : String)

namespace Reply

/-- What the access raises. -/
def raised : Reply → Option String
  | done => none
  | returned _ => none
  | valueError exc => some exc
  | failed exc => some exc
  | failedLate exc => some exc

/-- An access that writes has written. -/
def Writes : Reply → Prop
  | valueError _ => False
  | failed _ => False
  | _ => True

instance : DecidablePred Writes := fun reply => by cases reply <;> unfold Writes <;> infer_instance

end Reply

/-- What one action of a worker does: at most one call of the queue and one
write, and the worker after it. -/
structure Move where
  call : Option QueueCall := none
  put : Option (ObjectKey × StoredObject) := none
  next : Worker

/-- What a worker is constructed with. -/
structure WorkerSettings where
  batchSize : Int := 1
  workerId : String := "worker-0"

def retryDelay (receiveCount : Nat) : ℚ := min 300 (5 * 2 ^ (receiveCount - 1))

namespace Worker

/-- The worker once a message is handled, with its result. -/
def report (result : JobResult) (worker : Worker) : Worker :=
  { worker with stage := .idle, results := worker.results ++ [result] }

def goOn (delivery : Delivery) (message : JobMessage) (task : JobTask) (worker : Worker) : Worker :=
  { worker with stage := .handling delivery message task }

/-- `handle`, up to its first access. -/
def firstStage (codec : JobCodec) (delivery : Delivery) : WorkerStage :=
  match codec.fromJson delivery.body with
  | .error exc => .rejecting delivery none (pyPrefix 240 ("malformed message: " ++ exc))
  | .ok message =>
    if message.maxReceives < delivery.receiveCount then
      .rejecting delivery (some message.runId) "retry budget exhausted"
    else .handling delivery message .checking

/-- A write of `_store`, and what it leads to. -/
def write (delivery : Delivery) (message : JobMessage) (name : ObjectName) (object : StoredObject)
    (task : JobTask) (reply : Reply) (worker : Worker) : Move where
  put := if reply.Writes then some ((message.runId, name), object) else none
  next := worker.goOn delivery message (match reply.raised with
    | some exc => .retrying (pyPrefix 240 ("could not store the run: " ++ exc))
    | none => task)

/-- `handle`, at an access. -/
def handle (settings : WorkerSettings) (jobs : QueueWorld) (objects : RunObjects) (reply : Reply)
    (delivery : Delivery) (message : JobMessage) (worker : Worker) : JobTask → Move
  | .checking =>
    { next := worker.goOn delivery message (match reply.raised with
        | some exc => .retrying ("run store unavailable: " ++ exc)
        | none =>
          if objects.hasRun message.runId then .finishing .duplicate "run already stored"
          else .extending) }
  | .extending =>
    { call := some (.extend delivery message.visibilityTimeoutSeconds)
      next := match jobs.queue.extend delivery message.visibilityTimeoutSeconds jobs.now with
        | .ok _ => worker.goOn delivery message .running
        | .error _ => worker.report ⟨delivery.messageId, .stale, message.runId, "receipt expired"⟩ }
  | .running =>
    { next := match reply with
        | .done => worker
        | .returned study => worker.goOn delivery message (.recording study)
        | .valueError exc =>
          { worker with
            stage := .rejecting delivery (some message.runId)
              (pyPrefix 240 ("invalid job: " ++ exc)) }
        | .failed exc | .failedLate exc =>
          worker.goOn delivery message (.retrying (pyPrefix 240 ("run failed: " ++ exc))) }
  | .recording study =>
    worker.write delivery message .jobRecord (.record
        { jobId := message.jobId
          runId := message.runId
          tenant := message.tenant
          idempotencyKey := message.idempotencyKey
          workerId := settings.workerId
          attempt := delivery.receiveCount
          computeSeconds := study.computeSeconds
          costTags := message.costTags })
      (.saving study) reply
  | .saving study =>
    { next := worker.goOn delivery message (match reply.raised with
        | some exc => .retrying (pyPrefix 240 ("could not store the run: " ++ exc))
        | none =>
          -- `RunExistsError`: a parallel delivery stored it first.
          if objects.hasRun message.runId then .finishing .completed ""
          else .puttingTable study) }
  | .puttingTable study =>
    worker.write delivery message .metrics
      (.table message.run.geometry study.seedRuns) (.puttingManifest study)
      reply
  | .puttingManifest study =>
    worker.write delivery message .manifest (.manifest study.manifest)
      (.finishing .completed "") reply
  | .finishing outcome detail =>
    { call := some (.ack delivery)
      next := match jobs.queue.ack delivery with
        | .ok _ => worker.report ⟨delivery.messageId, outcome, message.runId, detail⟩
        | .error _ => worker.report ⟨delivery.messageId, .stale, message.runId,
              "ack after timeout"⟩ }
  | .retrying detail =>
    { call := some (.nack delivery (retryDelay delivery.receiveCount))
      next := worker.report ⟨delivery.messageId, .retry, message.runId, detail⟩ }

/-- One action of a worker: between messages `run_once` receives a batch, hands
one back when it has been asked to stop, or starts the next message. -/
def act (codec : JobCodec) (queue : QueueSettings) (settings : WorkerSettings) (jobs : QueueWorld)
    (objects : RunObjects) (reply : Reply) (worker : Worker) : Move :=
  match worker.stage with
  | .idle =>
    match worker.batch with
    | [] =>
      if worker.stopping then { next := worker }
      else
        { call := some (.receive settings.batchSize none)
          next := { worker with
            batch := (jobs.queue.receive queue settings.batchSize none jobs.now).2 } }
    | delivery :: rest =>
      if worker.stopping then
        { call := some (.nack delivery 0)
          next := { worker with batch := rest } }
      else
        { next := { worker with
            batch := rest
            stage := firstStage codec delivery } }
  | .rejecting delivery runId reason =>
    { call := some (.reject delivery reason)
      next := worker.report ⟨delivery.messageId, .rejected, runId, reason⟩ }
  | .handling delivery message task =>
    worker.handle settings jobs objects reply delivery message task

end Worker

/-- What the parties of a pipeline are constructed with; workers are named by
`ω`. -/
structure PipelineSettings (ω : Type) where
  codec : JobCodec
  queue : QueueSettings
  worker : ω → WorkerSettings

/-- The queue with its history, the objects stored and the workers. -/
structure Pipeline (ω : Type) where
  jobs : QueueWorld := {}
  objects : RunObjects := fun _ => none
  workers : ω → Worker := fun _ => {}

/-- A job is submitted, a text is sent, time goes by, a worker is asked to stop,
it is killed and started again, or it acts. -/
inductive PipelineEvent (ω : Type)
  | submit (submission : Submission)
  | send (body : String) (idempotencyKey : Option String)
  | advance (seconds : ℚ) (forward : 0 ≤ seconds)
  | requestStop (worker : ω)
  | restart (worker : ω)
  | work (worker : ω) (reply : Reply)

namespace Pipeline

variable {ω : Type} [DecidableEq ω]

section

variable (settings : PipelineSettings ω)

def call (made : QueueCall) (pipeline : Pipeline ω) : Pipeline ω :=
  { pipeline with jobs := pipeline.jobs.step settings.queue made }

/-- The state of one worker changes. -/
def setWorker (name : ω) (worker : Worker) (pipeline : Pipeline ω) : Pipeline ω :=
  { pipeline with workers := Function.update pipeline.workers name worker }

/-- The move of a worker that acts. -/
def moveOf (name : ω) (reply : Reply) (pipeline : Pipeline ω) : Move :=
  (pipeline.workers name).act settings.codec settings.queue
    (settings.worker name) pipeline.jobs pipeline.objects reply

def apply (name : ω) (move : Move) (pipeline : Pipeline ω) : Pipeline ω :=
  { jobs := move.call.elim pipeline.jobs (pipeline.jobs.step settings.queue)
    objects := move.put.elim pipeline.objects fun written =>
      Function.update pipeline.objects written.1 (some written.2)
    workers := Function.update pipeline.workers name move.next }

def step (pipeline : Pipeline ω) : PipelineEvent ω → Pipeline ω
  | .submit submission =>
    match submission.buildMessage settings.codec with
    | .error _ => pipeline
    | .ok message =>
      pipeline.call settings (.send (settings.codec.toJson message) (some message.idempotencyKey))
  | .send body idempotencyKey => pipeline.call settings (.send body idempotencyKey)
  | .advance seconds forward => pipeline.call settings (.advance seconds forward)
  | .requestStop name => pipeline.setWorker name { pipeline.workers name with stopping := true }
  | .restart name => pipeline.setWorker name {}
  | .work name reply => pipeline.apply settings name (pipeline.moveOf settings name reply)

end

end Pipeline
end UrbanFlow
