import UrbanFlow.Jobs.Provenance
import UrbanFlow.Jobs.Worker

/-!
# Workers sharing a queue and a run store

Every interleaving of submissions, workers, timeouts, failures and stops. What a
worker holds has been delivered to it, and it acknowledges a message only when
the run of the message is stored.
-/

namespace UrbanFlow

open Worker

/-- The worker is about to acknowledge its message. -/
def JobTask.Finishes : JobTask → Prop
  | .finishing _ _ => True
  | _ => False

/-- The delivery and message of a worker that is inside `save_run`, past its
existence check. -/
def WorkerStage.pastCheck : WorkerStage → Option (Delivery × JobMessage)
  | .handling delivery message (.puttingTable _) => some (delivery, message)
  | .handling delivery message (.puttingManifest _) => some (delivery, message)
  | _ => none

namespace Worker

variable {codec : JobCodec} {queue : QueueSettings} {settings : WorkerSettings}
variable {jobs : QueueWorld} {objects : RunObjects} {reply : Reply}
variable {delivery : Delivery} {message : JobMessage} {worker : Worker}

/-- Handling a message ends, is refused by the runner, or goes on with the same
message. -/
inductive Leads
    (objects : RunObjects)
    (reply : Reply)
    (delivery : Delivery)
    (message : JobMessage)
    (task : JobTask)
    (move : Move) : Prop
  | ends (isIdle : move.next.stage = .idle)
  | refused (exc reason : String) (isRefused : reply = .valueError exc)
      (wasRunning : task = .running)
      (isRejecting : move.next.stage = .rejecting delivery (some message.runId) reason)
  | goesOn (next : JobTask) (isHandling : move.next.stage = .handling delivery message next)
      (finishes : next.Finishes → objects.hasRun message.runId = true ∨
        ∃ object, move.put = some ((message.runId, .manifest), object))
      (passes : (WorkerStage.handling delivery message next).pastCheck.isSome →
        (WorkerStage.handling delivery message task).pastCheck.isSome ∨
          objects.hasRun message.runId = false)

theorem Leads.plain {task : JobTask} {move : Move} (next : JobTask)
    (isHandling : move.next.stage = .handling delivery message next) (unfinished : ¬ next.Finishes)
    (before : (WorkerStage.handling delivery message next).pastCheck = none) :
    Leads objects reply delivery message task move := by
  apply Leads.goesOn next isHandling
  · exact fun isLast => absurd isLast unfinished
  · intro isPast
    rw [before] at isPast
    exact absurd isPast (by simp)

theorem write_leads {name : ObjectName} {object : StoredObject} {task next : JobTask}
    (finishes : next.Finishes → name = .manifest)
    (passes : (WorkerStage.handling delivery message next).pastCheck.isSome →
      (WorkerStage.handling delivery message task).pastCheck.isSome) :
    Leads objects reply delivery message task
      (worker.write delivery message name object next reply) := by
  cases isRaised : reply.raised with
  | some exc =>
    apply Leads.plain (.retrying (pyPrefix 240 ("could not store the run: " ++ exc)))
    · simp only [write, isRaised]
      rfl
    · exact id
    · rfl
  | none =>
    have writes : reply.Writes := by
      cases reply with
      | done | returned study => trivial
      | valueError exc | failed exc | failedLate exc =>
        exact absurd isRaised (by simp [Reply.raised])
    apply Leads.goesOn next
    · simp only [write, isRaised]
      rfl
    · intro isLast
      rw [← finishes isLast]
      exact .inr ⟨object, if_pos writes⟩
    · exact fun isPast => .inl (passes isPast)

section

variable {task : JobTask}

theorem handle_leads (isHandling : worker.stage = .handling delivery message task) :
    Leads objects reply delivery message task
      (worker.handle settings jobs objects reply delivery message task) := by
  cases task with
  | checking =>
    cases isRaised : reply.raised with
    | some exc =>
      apply Leads.plain (.retrying ("run store unavailable: " ++ exc))
      · simp only [handle, isRaised]
        rfl
      · exact id
      · rfl
    | none =>
      cases isStored : objects.hasRun message.runId with
      | true =>
        apply Leads.goesOn (.finishing .duplicate "run already stored")
        · simp only [handle, isRaised, isStored]
          rfl
        · exact fun _ => .inl isStored
        · exact nofun
      | false =>
        apply Leads.plain .extending
        · simp only [handle, isRaised, isStored]
          rfl
        · exact id
        · rfl
  | extending =>
    cases extended : jobs.queue.extend delivery message.visibilityTimeoutSeconds jobs.now with
    | error =>
      apply Leads.ends
      simp only [handle, extended]
      rfl
    | ok =>
      apply Leads.plain .running
      · simp only [handle, extended]
        rfl
      · exact id
      · rfl
  | running =>
    cases reply with
    | done => exact .plain .running isHandling id rfl
    | returned study => exact .plain (.recording study) rfl id rfl
    | valueError exc => exact .refused exc _ rfl rfl rfl
    | failed exc | failedLate exc =>
      exact .plain (.retrying (pyPrefix 240 ("run failed: " ++ exc))) rfl id rfl
  | recording =>
    apply write_leads False.elim
    exact nofun
  | saving study =>
    cases isRaised : reply.raised with
    | some exc =>
      apply Leads.plain (.retrying (pyPrefix 240 ("could not store the run: " ++ exc)))
      · simp only [handle, isRaised]
        rfl
      · exact id
      · rfl
    | none =>
      cases isStored : objects.hasRun message.runId with
      | true =>
        apply Leads.goesOn (.finishing .completed "")
        · simp only [handle, isRaised, isStored]
          rfl
        · exact fun _ => .inl isStored
        · exact nofun
      | false =>
        apply Leads.goesOn (.puttingTable study)
        · simp only [handle, isRaised, isStored]
          rfl
        · exact False.elim
        · exact fun _ => .inr isStored
  | puttingTable =>
    apply write_leads False.elim
    exact fun _ => rfl
  | puttingManifest =>
    apply write_leads
    · exact fun _ => rfl
    · exact fun _ => rfl
  | finishing =>
    apply Leads.ends
    cases acked : jobs.queue.ack delivery with
    | error stale | ok after =>
      simp only [handle, acked]
      rfl
  | retrying => exact .ends rfl

theorem handle_call {made : QueueCall}
    (isMade : (worker.handle settings jobs objects reply delivery message task).call = some made) :
    (∃ seconds, made = .extend delivery seconds) ∨ (∃ seconds, made = .nack delivery seconds) ∨
      (made = .ack delivery ∧ task.Finishes) := by
  cases task with
  | extending => exact .inl ⟨_, (Option.some.inj isMade).symm⟩
  | retrying => exact .inr (.inl ⟨_, (Option.some.inj isMade).symm⟩)
  | finishing => exact .inr (.inr ⟨(Option.some.inj isMade).symm, trivial⟩)
  | checking | running | recording study | saving study | puttingTable study
  | puttingManifest => exact nomatch isMade

theorem handle_put {written : ObjectKey × StoredObject}
    (isWritten : (worker.handle settings jobs objects reply delivery message task).put = some written) :
    written.1.1 = message.runId ∧ (written.1.2 = .jobRecord ∨
      (WorkerStage.handling delivery message task).pastCheck = some (delivery, message)) := by
  have write_put {name : ObjectName} {object : StoredObject} {next : JobTask}
      (isPut : (worker.write delivery message name object next reply).put = some written) :
      written.1 = (message.runId, name) := by
    dsimp only [write] at isPut
    split at isPut
    · rw [← Option.some.inj isPut]
    · exact nomatch isPut
  cases task with
  | recording =>
    have isKey := write_put isWritten
    exact ⟨congrArg Prod.fst isKey, .inl (congrArg Prod.snd isKey)⟩
  | puttingTable study | puttingManifest study =>
    exact ⟨congrArg Prod.fst (write_put isWritten), .inr rfl⟩
  | checking | extending | running | saving study | finishing outcome detail | retrying detail =>
    exact nomatch isWritten

end

theorem handle_batch (task : JobTask) : (worker.handle settings jobs objects reply delivery message
      task).next.batch = worker.batch := by
  cases task with
  | extending =>
    dsimp only [handle]
    split
    · rfl
    · rfl
  | running => cases reply <;> rfl
  | finishing =>
    dsimp only [handle]
    split
    · rfl
    · rfl
  | checking | recording study | saving study | puttingTable study | puttingManifest study
  | retrying => rfl

theorem firstStage_cases (codec : JobCodec) (delivery : Delivery) :
    (∃ runId reason, firstStage codec delivery = .rejecting delivery runId reason ∧
      ∀ message, codec.fromJson delivery.body = .ok message →
        message.maxReceives < delivery.receiveCount) ∨
    ∃ message, codec.fromJson delivery.body = .ok message ∧
      firstStage codec delivery = .handling delivery message .checking := by
  unfold firstStage
  cases isRead : codec.fromJson delivery.body with
  | error => exact .inl ⟨_, _, rfl, fun message isOk => nomatch isOk⟩
  | ok message =>
    dsimp only
    split
    · next spent =>
        refine .inl ⟨_, _, rfl, fun other isOther => ?_⟩
        rw [← Except.ok.inj isOther]
        exact spent
    · exact .inr ⟨message, rfl, rfl⟩

end Worker

namespace Pipeline

variable {ω : Type} [DecidableEq ω] {settings : PipelineSettings ω} {pipeline : Pipeline ω}

/-- An `ack` is made by a worker that finishes, a `reject` by one that rejects. -/
structure Makes (pipeline : Pipeline ω) (made : QueueCall) : Prop where
  acks : ∀ delivery, made = .ack delivery → ∃ name message task,
    (pipeline.workers name).stage = .handling delivery message task ∧ task.Finishes
  rejects : ∀ delivery reason, made = .reject delivery reason → ∃ name runId,
      (pipeline.workers name).stage = .rejecting delivery runId reason

omit [DecidableEq ω] in
/-- A call that settles nothing for good. -/
theorem Makes.other {made : QueueCall} (noAck : ∀ delivery, made ≠ .ack delivery)
    (noReject : ∀ delivery reason, made ≠ .reject delivery reason) : pipeline.Makes made where
  acks delivery isAck := absurd isAck (noAck delivery)
  rejects delivery reason isReject := absurd isReject (noReject delivery reason)

omit [DecidableEq ω] in
/-- An action's call. -/
theorem moveOf_makes {name : ω} {reply : Reply} {made : QueueCall}
    (isMade : (pipeline.moveOf settings name reply).call = some made) : pipeline.Makes made := by
  unfold moveOf act at isMade
  cases isStage : (pipeline.workers name).stage with
  | idle =>
    rw [isStage] at isMade
    dsimp only at isMade
    split at isMade
    · split at isMade
      · exact nomatch isMade
      · rw [← Option.some.inj isMade]
        exact .other (by simp) (by simp)
    · split at isMade
      · rw [← Option.some.inj isMade]
        exact .other (by simp) (by simp)
      · exact nomatch isMade
  | rejecting _ runId =>
    rw [isStage] at isMade
    rw [← Option.some.inj isMade]
    refine ⟨by simp, fun other otherReason isReject => ?_⟩
    obtain ⟨rfl, rfl⟩ := QueueCall.reject.inj isReject
    exact ⟨name, runId, isStage⟩
  | handling _ message task =>
    rw [isStage] at isMade
    rcases handle_call isMade with
      ⟨seconds, rfl⟩ | ⟨seconds, rfl⟩ | ⟨rfl, finishes⟩
    · exact .other (by simp) (by simp)
    · exact .other (by simp) (by simp)
    · refine ⟨fun other isAck => ?_, by simp⟩
      rw [← QueueCall.ack.inj isAck]
      exact ⟨name, message, task, isStage, finishes⟩

theorem step_jobs (settings : PipelineSettings ω) (event : PipelineEvent ω) :
    (pipeline.step settings event).jobs = pipeline.jobs ∨
      ∃ made, (pipeline.step settings event).jobs = pipeline.jobs.step settings.queue made ∧
          pipeline.Makes made := by
  cases event with
  | submit submission =>
    dsimp only [step]
    cases submission.buildMessage settings.codec with
    | error => exact .inl rfl
    | ok message =>
      exact .inr ⟨.send (settings.codec.toJson message)
        (some message.idempotencyKey), rfl, .other (by simp) (by simp)⟩
  | send body idempotencyKey =>
    exact .inr ⟨.send body idempotencyKey, rfl, .other (by simp) (by simp)⟩
  | advance seconds forward =>
    exact .inr ⟨.advance seconds forward, rfl, .other (by simp) (by simp)⟩
  | requestStop name | restart name => exact .inl rfl
  | work name reply =>
    dsimp only [step, apply]
    cases isMade : (pipeline.moveOf settings name reply).call with
    | none => exact .inl rfl
    | some made => exact .inr ⟨made, rfl, moveOf_makes isMade⟩

/-- An event writes at most one object. A worker writes it, of the run of the
message it handles: the job record, or another once it is past the check. -/
theorem step_objects (event : PipelineEvent ω) (key : ObjectKey) :
    (pipeline.step settings event).objects key = pipeline.objects key ∨
      (((pipeline.step settings event).objects key).isSome ∧
        ∃ name reply delivery message task, event = .work name reply ∧
          (pipeline.workers name).stage = .handling delivery message task ∧ key.1 = message.runId ∧
          (key.2 = .jobRecord ∨ (pipeline.workers name).stage.pastCheck =
            some (delivery, message))) := by
  cases event with
  | submit submission =>
    dsimp only [step]
    cases submission.buildMessage settings.codec with
    | error complaint | ok message => exact .inl rfl
  | send body idempotencyKey | advance seconds forward | requestStop name | restart name =>
    exact .inl rfl
  | work name reply =>
    dsimp only [step, apply]
    cases isPut : (pipeline.moveOf settings name reply).put with
    | none => exact .inl rfl
    | some =>
      dsimp only [Option.elim_some]
      rw [Function.update_apply]
      split
      · next isKey =>
          subst isKey
          refine .inr ⟨rfl, name, reply, ?_⟩
          unfold moveOf act at isPut
          cases isStage : (pipeline.workers name).stage with
          | idle =>
            rw [isStage] at isPut
            dsimp only at isPut
            split at isPut
            · split at isPut
              · exact nomatch isPut
              · exact nomatch isPut
            · split at isPut
              · exact nomatch isPut
              · exact nomatch isPut
          | rejecting =>
            rw [isStage] at isPut
            exact nomatch isPut
          | handling delivery message task =>
            rw [isStage] at isPut
            exact ⟨delivery, message, task, rfl, rfl, handle_put isPut⟩
      · exact .inl rfl

theorem hasRun_step {runId : String} (isStored : pipeline.objects.hasRun runId = true)
    (event : PipelineEvent ω) : (pipeline.step settings event).objects.hasRun runId = true := by
  unfold RunObjects.hasRun at isStored ⊢
  rcases step_objects event (runId, ObjectName.manifest) with same | ⟨some, _⟩
  · rw [same]
    exact isStored
  · exact some

end Pipeline

/-- A stage is about a message that was delivered; one that finishes it is about
a stored run. -/
def WorkerStage.Sound (codec : JobCodec) (delivered : List Delivery)
    (objects : RunObjects) : WorkerStage → Prop
  | .idle => True
  | .rejecting delivery _ _ => delivery ∈ delivered
  | .handling delivery message task =>
    delivery ∈ delivered ∧ codec.fromJson delivery.body = .ok message ∧
      (task.Finishes → objects.hasRun message.runId = true)

structure Worker.Sound (codec : JobCodec) (delivered : List Delivery) (objects : RunObjects)
    (worker : Worker) : Prop where
  batch : ∀ delivery ∈ worker.batch, delivery ∈ delivered
  stage : worker.stage.Sound codec delivered objects

/-- An acknowledged message was delivered, could be read, and its run is
stored. -/
def AcknowledgedStored (codec : JobCodec) (history : QueueHistory) (objects : RunObjects) : Prop :=
  ∀ messageId ∈ history.acknowledged, ∃ delivery ∈ history.delivered,
    delivery.messageId = messageId ∧ ∃ message, codec.fromJson delivery.body = .ok message ∧
        objects.hasRun message.runId = true

namespace Pipeline

variable {ω : Type} [DecidableEq ω] {settings : PipelineSettings ω} {pipeline : Pipeline ω}

structure Sound (settings : PipelineSettings ω) (pipeline : Pipeline ω) : Prop where
  jobs : QueueWorld.Sound settings.queue pipeline.jobs
  traced : pipeline.jobs.Traced
  workers : ∀ name, (pipeline.workers name).Sound settings.codec
    pipeline.jobs.history.delivered pipeline.objects
  acknowledged : AcknowledgedStored settings.codec pipeline.jobs.history pipeline.objects

/-- Nothing delivered is forgotten. -/
theorem delivered_step {delivery : Delivery}
    (isDelivered : delivery ∈ pipeline.jobs.history.delivered) (event : PipelineEvent ω) :
    delivery ∈ (pipeline.step settings event).jobs.history.delivered := by
  rcases step_jobs settings event with same | ⟨made, isMade, _⟩
  · rw [same]
    exact isDelivered
  · rw [isMade]
    exact QueueWorld.delivered_step isDelivered made

theorem sound_later {worker : Worker}
    (sound : worker.Sound settings.codec pipeline.jobs.history.delivered pipeline.objects)
    (event : PipelineEvent ω) :
    worker.Sound settings.codec (pipeline.step settings event).jobs.history.delivered
      (pipeline.step settings event).objects := by
  refine ⟨fun delivery member => delivered_step (sound.batch delivery member) event, ?_⟩
  have stage := sound.stage
  cases isStage : worker.stage with
  | idle => trivial
  | rejecting =>
    rw [isStage] at stage
    exact delivered_step stage event
  | handling =>
    rw [isStage] at stage
    obtain ⟨isDelivered, isRead, finishes⟩ := stage
    exact ⟨delivered_step isDelivered event, isRead,
      fun isLast => hasRun_step (finishes isLast) event⟩

theorem handle_sound {name : ω} {reply : Reply} {delivery : Delivery} {message : JobMessage}
    {task : JobTask} (sound : (pipeline.workers name).Sound settings.codec
      pipeline.jobs.history.delivered pipeline.objects)
    (isStage : (pipeline.workers name).stage = .handling delivery message task) :
    (pipeline.moveOf settings name reply).next.stage.Sound settings.codec
      (pipeline.step settings (.work name reply)).jobs.history.delivered
      (pipeline.step settings (.work name reply)).objects := by
  have stage := sound.stage
  rw [isStage] at stage
  obtain ⟨isDelivered, isRead, _⟩ := stage
  have later : delivery ∈ (pipeline.step settings (.work name reply)).jobs.history.delivered :=
    delivered_step isDelivered _
  have leads : Leads pipeline.objects reply delivery message task
      (pipeline.moveOf settings name reply) := by
    unfold moveOf act
    rw [isStage]
    exact handle_leads isStage
  cases leads with
  | ends isIdle =>
    rw [isIdle]
    trivial
  | refused _ _ _ _ isRejecting =>
    rw [isRejecting]
    exact later
  | goesOn _ isHandling finishes =>
    rw [isHandling]
    refine ⟨later, isRead, fun isLast => ?_⟩
    rcases finishes isLast with isStored | ⟨object, isPut⟩
    · exact hasRun_step isStored _
    · unfold RunObjects.hasRun
      dsimp only [step, apply]
      rw [isPut, Option.elim_some, Function.update_self]
      rfl

omit [DecidableEq ω] in
/-- Between messages a worker that is asked to stop does nothing more than hand
back its batch; another receives a batch or starts the next message. -/
theorem moveOf_idle {name : ω} (settings : PipelineSettings ω) (reply : Reply)
    (isIdle : (pipeline.workers name).stage = .idle) :
    ((pipeline.moveOf settings name reply).next = pipeline.workers name ∧
        (pipeline.moveOf settings name reply).call = none) ∨
      ((pipeline.moveOf settings name reply).next = { pipeline.workers name with
            batch := (pipeline.jobs.queue.receive settings.queue
              (settings.worker name).batchSize none pipeline.jobs.now).2 } ∧
        (pipeline.moveOf settings name reply).call =
          some (.receive (settings.worker name).batchSize none)) ∨
      ∃ first rest, (pipeline.workers name).batch = first :: rest ∧
        ((pipeline.moveOf settings name reply).next = { pipeline.workers name with batch := rest } ∨
          (pipeline.moveOf settings name reply).next = { pipeline.workers name with
              batch := rest
              stage := firstStage settings.codec first }) := by
  unfold moveOf act
  rw [isIdle]
  cases (pipeline.workers name).batch with
  | nil =>
    dsimp only
    split
    · exact .inl ⟨rfl, rfl⟩
    · exact .inr (.inl ⟨by rw [isIdle], rfl⟩)
  | cons first rest =>
    refine .inr (.inr ⟨first, rest, rfl, ?_⟩)
    dsimp only
    split
    · exact .inl (by rw [isIdle])
    · exact .inr rfl

theorem work_sound {name : ω} (reply : Reply) (sound : (pipeline.workers name).Sound settings.codec
      pipeline.jobs.history.delivered pipeline.objects) :
    (pipeline.moveOf settings name reply).next.Sound settings.codec
      (pipeline.step settings (.work name reply)).jobs.history.delivered
      (pipeline.step settings (.work name reply)).objects := by
  have kept : ∀ delivery ∈ (pipeline.workers name).batch, delivery ∈
      (pipeline.step settings (.work name reply)).jobs.history.delivered :=
    fun delivery member => delivered_step (sound.batch delivery member) _
  cases isStage : (pipeline.workers name).stage with
  | handling =>
    refine ⟨?_, handle_sound sound isStage⟩
    unfold moveOf act
    rw [isStage]
    dsimp only
    rw [handle_batch]
    exact kept
  | rejecting =>
    unfold moveOf act
    rw [isStage]
    exact ⟨kept, trivial⟩
  | idle =>
    have begins := moveOf_idle settings reply isStage
    rcases begins with
      ⟨isNext, _⟩ | ⟨isNext, isCall⟩ | ⟨first, rest, isBatch, isNext⟩
    · rw [isNext]
      exact sound_later sound _
    · rw [isNext]
      refine ⟨fun delivery member => ?_, ?_⟩
      · dsimp only [step, apply]
        rw [isCall]
        exact List.mem_append_right _ member
      · rw [isStage]
        trivial
    · have firstKept := kept first (isBatch ▸ List.mem_cons_self)
      have restKept : ∀ delivery ∈ rest, delivery ∈ (pipeline.step settings
          (.work name reply)).jobs.history.delivered :=
        fun delivery member => kept delivery (isBatch ▸ List.mem_cons_of_mem _ member)
      rcases isNext with isNext | isNext
      · rw [isNext]
        refine ⟨restKept, ?_⟩
        rw [isStage]
        trivial
      · rw [isNext]
        refine ⟨restKept, ?_⟩
        dsimp only
        rcases firstStage_cases settings.codec first with
          ⟨_, _, isFirst, _⟩ | ⟨_, isRead, isFirst⟩
        · rw [isFirst]
          exact firstKept
        · rw [isFirst]
          exact ⟨firstKept, isRead, False.elim⟩

theorem step_sound (sound : Sound settings pipeline) (event : PipelineEvent ω) :
    Sound settings (pipeline.step settings event) := by
  have jobs : QueueWorld.Sound settings.queue (pipeline.step settings event).jobs ∧
        (pipeline.step settings event).jobs.Traced := by
    rcases step_jobs settings event with same | ⟨made, isMade, _⟩
    · rw [same]
      exact ⟨sound.jobs, sound.traced⟩
    · rw [isMade]
      exact ⟨QueueWorld.step_sound sound.jobs made,
        QueueWorld.step_traced sound.jobs sound.traced made⟩
  refine ⟨jobs.1, jobs.2, fun name => ?_, ?_⟩
  · have later := sound_later (sound.workers name) event
    cases event with
    | submit submission =>
      have same : (pipeline.step settings (.submit submission)).workers = pipeline.workers := by
        dsimp only [step]
        cases submission.buildMessage settings.codec <;> rfl
      rw [same]
      exact later
    | send body idempotencyKey | advance seconds forward => exact later
    | requestStop =>
      dsimp only [step, setWorker] at later ⊢
      rw [Function.update_apply]
      split
      · next isStopped =>
          subst isStopped
          exact ⟨later.batch, later.stage⟩
      · exact later
    | restart =>
      dsimp only [step, setWorker] at later ⊢
      rw [Function.update_apply]
      split
      · exact ⟨nofun, trivial⟩
      · exact later
    | work actor reply =>
      change (Function.update pipeline.workers actor _ name).Sound _ _ _
      rw [Function.update_apply]
      split
      · next isActor =>
          subst isActor
          exact work_sound reply (sound.workers name)
      · exact later
  · intro messageId isAcknowledged
    have old (member : messageId ∈ pipeline.jobs.history.acknowledged) : ∃ delivery ∈
            (pipeline.step settings event).jobs.history.delivered,
          delivery.messageId = messageId ∧ ∃ message,
            settings.codec.fromJson delivery.body = .ok message ∧
              (pipeline.step settings event).objects.hasRun message.runId =
                true := by
      obtain ⟨delivery, isDelivered, isOf, message, isRead, isStored⟩ :=
        sound.acknowledged messageId member
      exact ⟨delivery, delivered_step isDelivered event, isOf, message, isRead,
        hasRun_step isStored event⟩
    rcases step_jobs settings event with
      same | ⟨made, isMade, makes⟩
    · rw [same] at isAcknowledged
      exact old isAcknowledged
    · rw [isMade] at isAcknowledged
      rcases QueueWorld.acknowledged_cases isAcknowledged with
        member | ⟨delivery, isAck, isOf⟩
      · exact old member
      · obtain ⟨name, message, task, isStage, isLast⟩ := makes.acks delivery isAck
        have stage := (sound.workers name).stage
        rw [isStage] at stage
        obtain ⟨isDelivered, isRead, finishes⟩ := stage
        exact ⟨delivery, delivered_step isDelivered event, isOf, message,
          isRead, hasRun_step (finishes isLast) event⟩

end Pipeline
end UrbanFlow
