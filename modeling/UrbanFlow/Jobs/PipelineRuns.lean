import UrbanFlow.Jobs.Pipeline

/-!
# Every interleaving of workers

Runs of a pipeline: any number of workers, in any order, with any failures. A
message is gone without being dead-lettered only once its run is stored; a
stored run is changed only by a worker that was already writing it; and what was
dead-lettered had been delivered too often or was refused by the runner.
-/

namespace UrbanFlow

open Pipeline

/-- A pipeline and what happens in it. -/
structure PipelineRun (ω : Type) where
  settings : PipelineSettings ω
  events : Nat → PipelineEvent ω

namespace Pipeline

variable {ω : Type} [DecidableEq ω] {settings : PipelineSettings ω} {pipeline : Pipeline ω}

/-- An event leaves a worker's stage alone or ends it, or is an action of the worker that
leads to a rejection, to the first stage of a message or on with the same message. -/
theorem stage_step (settings : PipelineSettings ω) (event : PipelineEvent ω) (name : ω) :
    let before := (pipeline.workers name).stage
    let after := ((pipeline.step settings event).workers name).stage
    after = before ∨ after = .idle ∨
    (∃ delivery runId reason, after = .rejecting delivery runId reason ∧
      ((∀ message, settings.codec.fromJson delivery.body = .ok message →
        message.maxReceives < delivery.receiveCount) ∨
      ∃ exc message, event = .work name (.valueError exc) ∧
        before = .handling delivery message .running)) ∨
    ∃ delivery message next, after = .handling delivery message next ∧
      (next = .checking ∨ ∃ task, before = .handling delivery message task ∧
        ((WorkerStage.handling delivery message next).pastCheck.isSome →
          (WorkerStage.handling delivery message task).pastCheck.isSome ∨
            pipeline.objects.hasRun message.runId = false)) := by
  cases event with
  | submit submission =>
    dsimp only [step]
    cases submission.buildMessage settings.codec with
    | error | ok => exact .inl rfl
  | send | advance => exact .inl rfl
  | requestStop =>
    dsimp only [step, setWorker]
    rw [Function.update_apply]
    split
    · next isStopped =>
        subst isStopped
        exact .inl rfl
    · exact .inl rfl
  | restart =>
    dsimp only [step, setWorker]
    rw [Function.update_apply]
    split
    · exact .inr (.inl rfl)
    · exact .inl rfl
  | work _ reply =>
    dsimp only [step, apply]
    rw [Function.update_apply]
    split
    · next isActor =>
        subst isActor
        cases isStage : (pipeline.workers name).stage with
        | idle =>
          rcases moveOf_idle settings reply isStage with
            ⟨isNext, _⟩ | ⟨isNext, _⟩ | ⟨first, rest, _, isNext | isNext⟩
          · exact .inl (isNext ▸ isStage)
          · exact .inl (isNext ▸ isStage)
          · exact .inl (isNext ▸ isStage)
          · rw [isNext]
            rcases Worker.firstStage_cases settings.codec first with
              ⟨runId, reason, isRejecting, spent⟩ | ⟨message, _, isHandling⟩
            · exact .inr (.inr (.inl ⟨first, runId, reason, isRejecting, .inl spent⟩))
            · exact .inr (.inr (.inr ⟨first, message, _, isHandling, .inl rfl⟩))
        | rejecting =>
          refine .inr (.inl ?_)
          unfold moveOf Worker.act
          rw [isStage]
          rfl
        | handling delivery message task =>
          have leads : Worker.Leads pipeline.objects reply delivery message task
              (pipeline.moveOf settings name reply) := by
            unfold moveOf Worker.act
            rw [isStage]
            exact Worker.handle_leads isStage
          cases leads with
          | ends isIdle => exact .inr (.inl isIdle)
          | refused exc _ isRefused wasRunning isRejecting =>
            subst isRefused wasRunning
            exact .inr (.inr (.inl ⟨_, _, _, isRejecting, .inr ⟨exc, message, rfl, rfl⟩⟩))
          | goesOn next isHandling _ passes =>
            exact .inr (.inr (.inr ⟨_, _, next, isHandling, .inr ⟨task, rfl, passes⟩⟩))
    · exact .inl rfl

section

variable {name : ω} {delivery : Delivery}

theorem pastCheck_step {message : JobMessage} {event : PipelineEvent ω}
    (isPast : ((pipeline.step settings event).workers name).stage.pastCheck = some (delivery, message)) :
    (pipeline.workers name).stage.pastCheck = some (delivery, message) ∨
      pipeline.objects.hasRun message.runId = false := by
  rcases stage_step settings event name with
    same | isIdle | ⟨_, _, _, isRejecting, _⟩ | ⟨held, read, next, isHandling, before⟩
  · exact .inl (same ▸ isPast)
  · rw [isIdle] at isPast
    exact nomatch isPast
  · rw [isRejecting] at isPast
    exact nomatch isPast
  · rw [isHandling] at isPast
    rcases before with rfl | ⟨task, isStage, passes⟩
    · exact nomatch isPast
    · have ofHeld (task : JobTask)
          (isSome : (WorkerStage.handling held read task).pastCheck.isSome) :
          (WorkerStage.handling held read task).pastCheck = some (held, read) := by
        cases task <;> first | rfl | exact nomatch isSome
      have isSome : (WorkerStage.handling held read next).pastCheck.isSome := by
        rw [isPast]
        rfl
      rw [ofHeld next isSome] at isPast
      obtain ⟨rfl, rfl⟩ := Prod.mk.inj (Option.some.inj isPast)
      rw [isStage]
      exact (passes isSome).imp_left (ofHeld task)

/-- A worker gets to reject a message it could read when the message has been
received too often, or when the runner refuses it. -/
theorem rejecting_step {runId : Option String} {reason : String} {event : PipelineEvent ω}
    (isRejecting : ((pipeline.step settings event).workers name).stage = .rejecting delivery runId reason) :
    (pipeline.workers name).stage = .rejecting delivery runId reason ∨
      (∀ message, settings.codec.fromJson delivery.body = .ok message →
        message.maxReceives < delivery.receiveCount) ∨
      ∃ exc message, event = .work name (.valueError exc) ∧ (pipeline.workers name).stage =
          .handling delivery message .running := by
  rcases stage_step settings event name with
    same | isIdle | ⟨_, _, _, rejects, why⟩ | ⟨_, _, _, isHandling, _⟩
  · exact .inl (same ▸ isRejecting)
  · rw [isIdle] at isRejecting
    exact nomatch isRejecting
  · rw [rejects] at isRejecting
    obtain ⟨rfl, _, _⟩ := WorkerStage.rejecting.inj isRejecting
    exact .inr why
  · rw [isHandling] at isRejecting
    exact nomatch isRejecting

end

end Pipeline

def WorkerStage.handledId : WorkerStage → Option Uuid
  | .handling delivery _ _ => some delivery.messageId
  | _ => none

namespace PipelineRun

variable {ω : Type} [DecidableEq ω] (run : PipelineRun ω)

section

variable (n : Nat)

/-- The pipeline before event `n`. -/
def pipelineAt : Pipeline ω := Machine.stateAt (step run.settings) {} run.events n

def historyAt : QueueHistory := (run.pipelineAt n).jobs.history

def stageAt (name : ω) : WorkerStage := ((run.pipelineAt n).workers name).stage

/-- The text of a message is a valid job message. -/
def Reads (body : String) (message : JobMessage) : Prop :=
  run.settings.codec.fromJson body = .ok message

/-- The run with an id is completely stored before event `n`. -/
def StoredAt (runId : String) : Prop := (run.pipelineAt n).objects.hasRun runId = true

section

variable (messageId : Uuid)

/-- The queue keeps a message. -/
def LiveAt : Prop := messageId ∈ (run.pipelineAt n).jobs.queue.entries.map QueueEntry.messageId

def DeadAt : Prop := messageId ∈ (run.historyAt n).deadLettered.map DeadLetter.messageId

/-- At event `n` the runner refuses a message with a `ValueError`. -/
def RefusedAt : Prop := ∃ name exc delivery message, run.events n = .work name (.valueError exc) ∧
    run.stageAt n name = .handling delivery message .running ∧ delivery.messageId = messageId

end

end

variable {m : Nat} {message : JobMessage}

/-- What a run says about every job in it. -/
structure Answerable : Prop where
  storedBeforeGone : ∀ n messageId body message,
    (messageId, body) ∈ (run.historyAt n).accepted → run.Reads body message →
    ¬ run.LiveAt n messageId → ¬ run.DeadAt n messageId → run.StoredAt n message.runId
  staysStored : ∀ n m runId, n ≤ m → run.StoredAt n runId → run.StoredAt m runId
  changedByEarlier : ∀ n m runId name, n ≤ m → run.StoredAt n runId → name ≠ .jobRecord →
    (run.pipelineAt (m + 1)).objects (runId, name) ≠ (run.pipelineAt m).objects (runId, name) →
      ∃ worker reply delivery message, run.events m = .work worker reply ∧ message.runId = runId ∧
        ∀ k, n ≤ k → k ≤ m → (run.stageAt k worker).pastCheck = some (delivery, message)
  deadForReason : ∀ n letter message,
    letter ∈ (run.historyAt n).deadLettered → run.Reads letter.body message →
      run.settings.queue.maxReceives ≤ (run.historyAt n).deliveredCount letter.messageId ∨
        message.maxReceives < (run.historyAt n).deliveredCount letter.messageId ∨
        ∃ k < n, run.RefusedAt k letter.messageId

theorem pipelineAt_succ (n : Nat) : run.pipelineAt (n + 1) =
      (run.pipelineAt n).step run.settings (run.events n) :=
  Machine.stateAt_succ _ _ _ n

theorem sound (n : Nat) : Sound run.settings (run.pipelineAt n) := by
  apply Machine.invariant (Sound run.settings)
  · refine ⟨⟨Ledger.empty run.settings.queue, rfl⟩, ?_, fun name => ?_, ?_⟩
    · exact nofun
    · exact ⟨nofun, trivial⟩
    · exact nofun
  · intro pipeline event isSound
    exact step_sound isSound event

theorem staysStored {n : Nat} {runId : String} (later : n ≤ m) (isStored : run.StoredAt n runId) :
    run.StoredAt m runId := by
  induction m, later using Nat.le_induction with
  | base => exact isStored
  | succ m _ ih =>
    unfold StoredAt
    rw [pipelineAt_succ]
    exact hasRun_step ih (run.events m)

theorem pastCheck_since {n : Nat} {name : ω} {delivery : Delivery} (later : n ≤ m)
    (isStored : run.StoredAt n message.runId)
    (isPast : (run.stageAt m name).pastCheck = some (delivery, message)) :
    ∀ k, n ≤ k → k ≤ m → (run.stageAt k name).pastCheck = some (delivery, message) := by
  induction m, later using Nat.le_induction with
  | base =>
    intro k first last
    rw [Nat.le_antisymm last first]
    exact isPast
  | succ _ later ih =>
    intro k first last
    rcases Nat.le_succ_iff.mp last with earlier | isLast
    · refine ih ?_ k first earlier
      unfold stageAt at isPast
      rw [pipelineAt_succ] at isPast
      apply (pastCheck_step isPast).resolve_right
      have stillStored := run.staysStored later isStored
      unfold StoredAt at stillStored
      rw [stillStored]
      simp
    · rw [isLast]
      exact isPast

theorem changedByEarlier {n : Nat} {runId : String} {name : ObjectName} (later : n ≤ m)
    (isStored : run.StoredAt n runId) (notRecord : name ≠ .jobRecord)
    (changes : (run.pipelineAt (m + 1)).objects (runId, name) ≠ (run.pipelineAt m).objects (runId,
      name)) :
    ∃ worker reply delivery message, run.events m = .work worker reply ∧ message.runId = runId ∧
      ∀ k, n ≤ k → k ≤ m → (run.stageAt k worker).pastCheck = some (delivery, message) := by
  rw [pipelineAt_succ] at changes
  rcases step_objects (run.events m) (runId, name) with
    same | ⟨_, worker, reply, delivery, message, task, isEvent, _, isRun, what⟩
  · exact absurd same changes
  · have isPast := what.resolve_left notRecord
    dsimp only at isRun
    subst isRun
    exact ⟨worker, reply, delivery, message, isEvent, rfl,
      run.pastCheck_since later isStored isPast⟩

theorem rejectedForReason {n : Nat} {name : ω} {delivery : Delivery} {runId : Option String}
    {reason : String} (isRejecting : run.stageAt n name = .rejecting delivery runId reason)
    (reads : run.Reads delivery.body message) :
    message.maxReceives < delivery.receiveCount ∨ ∃ k < n, run.RefusedAt k delivery.messageId := by
  induction n with
  | zero => exact nomatch isRejecting
  | succ n ih =>
    unfold stageAt at isRejecting
    rw [pipelineAt_succ] at isRejecting
    rcases rejecting_step isRejecting with
      same | spent | ⟨exc, read, isEvent, isStage⟩
    · rcases ih same with spent | ⟨k, earlier, refused⟩
      · exact .inl spent
      · exact .inr ⟨k, Nat.lt_succ_of_lt earlier, refused⟩
    · exact .inl (spent message reads)
    · exact .inr ⟨n, Nat.lt_succ_self n, name, exc, delivery, read, isEvent, isStage, rfl⟩

theorem deadForReason {n : Nat} {letter : DeadLetter}
    (isDead : letter ∈ (run.historyAt n).deadLettered) (reads : run.Reads letter.body message) :
    run.settings.queue.maxReceives ≤ (run.historyAt n).deliveredCount letter.messageId ∨
      message.maxReceives < (run.historyAt n).deliveredCount letter.messageId ∨
      ∃ k < n, run.RefusedAt k letter.messageId := by
  induction n with
  | zero => exact absurd isDead List.not_mem_nil
  | succ n ih =>
    have isSound := run.sound n
    have soundAfter := run.sound (n + 1)
    unfold historyAt at isDead ih ⊢
    rw [pipelineAt_succ] at isDead soundAfter ⊢
    rcases step_jobs run.settings (run.events n) with
      same | ⟨made, isMade, makes⟩
    · rw [same] at isDead ⊢
      rcases ih isDead with spent | overdrawn | ⟨k, earlier, refused⟩
      · exact .inl spent
      · exact .inr (.inl overdrawn)
      · exact .inr (.inr ⟨k, Nat.lt_succ_of_lt earlier, refused⟩)
    · have jobsAfter := soundAfter.jobs
      rw [isMade] at isDead jobsAfter ⊢
      have extended : ((run.pipelineAt n).jobs.step run.settings.queue
          made).history.Extends (run.pipelineAt n).jobs.history :=
        QueueWorld.step_extends made
      have grows := extended.deliveredCount_le letter.messageId
      rcases QueueWorld.deadLettered_cases isSound.jobs isDead with
        old | spent | ⟨delivery, isReject, isOf⟩
      · rcases ih old with spent | overdrawn | ⟨k, earlier, refused⟩
        · exact .inl (spent.trans grows)
        · exact .inr (.inl (overdrawn.trans_le (by exact_mod_cast grows)))
        · exact .inr (.inr ⟨k, Nat.lt_succ_of_lt earlier, refused⟩)
      · exact .inl (spent.trans grows)
      · obtain ⟨name, runId, isStage⟩ := makes.rejects _ _ isReject
        have stage := (isSound.workers name).stage
        rw [isStage] at stage
        obtain ⟨accepted, counted⟩ := isSound.traced delivery stage
        have sameBody : delivery.body = letter.body := by
          apply QueueWorld.body_unique jobsAfter
          · exact QueueWorld.accepted_step accepted made
          · rw [isOf]
            exact jobsAfter.ledger.letters letter isDead
        rw [isOf] at counted
        rw [← sameBody] at reads
        rcases run.rejectedForReason isStage reads with
          overdrawn | ⟨k, earlier, refused⟩
        · refine .inr (.inl (overdrawn.trans_le ?_))
          exact_mod_cast counted.trans grows
        · rw [isOf] at refused
          exact .inr (.inr ⟨k, Nat.lt_succ_of_lt earlier, refused⟩)

theorem storedBeforeGone {n : Nat} {messageId : Uuid} {body : String}
    (accepted : (messageId, body) ∈ (run.historyAt n).accepted) (reads : run.Reads body message)
    (gone : ¬ run.LiveAt n messageId) (notDead : ¬ run.DeadAt n messageId) :
    run.StoredAt n message.runId := by
  have isSound := run.sound n
  have balanced := isSound.jobs.ledger.balanced messageId
  have isAccepted : 0 < (run.historyAt n).acceptedCount messageId :=
    List.count_pos_iff.mpr (List.mem_map_of_mem accepted)
  have noneLive : liveCount (run.pipelineAt n).jobs.queue.entries messageId =
      0 := List.count_eq_zero.mpr gone
  have noneDead : (run.historyAt n).deadCount messageId = 0 := List.count_eq_zero.mpr notDead
  have isAcknowledged : 0 < (run.historyAt n).acknowledgedCount messageId := by
    unfold historyAt at *
    omega
  obtain ⟨delivery, isDelivered, isOf, read, isRead, isStored⟩ :=
    isSound.acknowledged messageId (List.count_pos_iff.mp isAcknowledged)
  have sameBody : delivery.body = body := by
    apply QueueWorld.body_unique isSound.jobs _ accepted
    rw [← isOf]
    exact (isSound.traced delivery isDelivered).1
  rw [sameBody, reads] at isRead
  rw [Except.ok.inj isRead]
  exact isStored

/-- Every run of a pipeline answers for its jobs. -/
theorem answerable : run.Answerable where
  storedBeforeGone _ _ _ _ accepted reads gone notDead :=
    run.storedBeforeGone accepted reads gone notDead
  staysStored _ _ _ later isStored := run.staysStored later isStored
  changedByEarlier _ _ _ _ later isStored notRecord changes :=
    run.changedByEarlier later isStored notRecord changes
  deadForReason _ _ _ isDead reads := run.deadForReason isDead reads

/-- Two workers, and a list of events followed by silence. -/
noncomputable def ofEvents (maxReceives : Nat) (positive : 1 ≤ maxReceives) (batchSize : Int)
    (events : List (PipelineEvent Bool)) : PipelineRun Bool where
  settings :=
    { codec := plainCodec
      queue := ⟨maxReceives, 30, positive⟩
      worker := fun _ => { batchSize := batchSize } }
  events n := events.getD n (.advance 0 le_rfl)

def studyOf (text : String) : Study := ⟨text, text, 1⟩

theorem threeReceives_pos : 1 ≤ 3 := by decide

/-- Both workers pass the existence check of `save_run` before either writes. -/
noncomputable def parallelSaves : PipelineRun Bool := ofEvents 3 threeReceives_pos 1
    [.send "job" none, .work false .done, .work false .done, .work false .done,
      .work false .done, .work false (.returned (studyOf "first")),
      .work false .done, .work false .done, .advance 901 (by decide),
      .work true .done, .work true .done, .work true .done, .work true .done,
      .work true (.returned (studyOf "second")), .work true .done,
      .work true .done, .work false .done, .work false .done, .work true .done,
      .work true .done]

/-- The worker that receives two messages is asked to stop during the first. -/
noncomputable def handedBack : PipelineRun Bool :=
  ofEvents 1 (by decide) 2 [.send "first" none, .send "second" none, .work false .done,
      .work false .done, .requestStop false, .work false .done,
      .work false .done, .work false (.failed "engine crashed"),
      .work false .done, .work false .done, .work true .done]

/-- A stored run can be changed by a parallel delivery, and a valid job can be
dead-lettered although no worker has handled it. -/
theorem parallelSaves_changed_handedBack_dead : (parallelSaves.StoredAt 18 "job" ∧
      (parallelSaves.pipelineAt 18).objects ("job", .manifest) = some (.manifest "first") ∧
      (parallelSaves.pipelineAt 20).objects ("job", .manifest) = some (.manifest "second")) ∧
    ((handedBack.historyAt 11).deadLettered = [⟨1, "second", InMemoryJobQueue.redriveReason⟩] ∧
      (∃ message, handedBack.Reads "second" message) ∧
      ∀ k ≤ 11, ∀ name, (handedBack.stageAt k name).handledId ≠ some 1) := by
  refine ⟨⟨?_, ?_, ?_⟩, ?_, ⟨_, rfl⟩, ?_⟩
  · unfold StoredAt
    decide
  · decide
  · decide +kernel
  · decide +kernel
  · decide

end PipelineRun
end UrbanFlow
