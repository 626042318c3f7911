import UrbanFlow.Jobs.PipelineRuns

/-!
# When two submissions are taken for one

A send is dropped for an earlier one with its idempotency key, and a delivery is
skipped for a stored run with its run id. Two submissions that differ are taken
for one only where a submitter chose the key or the run id, or where their
digests begin alike.
-/

namespace UrbanFlow

open InMemoryJobQueue QueueWorld

/-- Each key of a queue has a message of its own. -/
structure InMemoryJobQueue.KeysSound (queue : InMemoryJobQueue) : Prop where
  distinct : (queue.keys.map Prod.snd).Nodup
  fresh : ∀ key ∈ queue.keys, key.2 < queue.drawn

/-- A pass of `receive` draws identifiers. -/
theorem receiveLoop_drawn {settings : QueueSettings} {maxMessages : Int} {timeout now : ℚ}
    (entries : List QueueEntry) (handedOut drawn : Nat) :
    drawn ≤ (receiveLoop settings maxMessages timeout now entries handedOut drawn).drawn := by
  induction entries generalizing handedOut drawn with
  | nil => exact le_rfl
  | cons _ _ ih =>
    unfold receiveLoop
    split
    · exact le_rfl
    · split
      · exact ih handedOut drawn
      · split
        · exact ih handedOut drawn
        · exact (Nat.le_succ drawn).trans (ih (handedOut + 1) (drawn + 1))

namespace QueueWorld

variable {settings : QueueSettings} {world : QueueWorld}

structure KeepsKeys (before after : InMemoryJobQueue) : Prop where
  keys : after.keys = before.keys
  drawn : before.drawn ≤ after.drawn

theorem KeepsKeys.sound {before after : InMemoryJobQueue} (keeps : KeepsKeys before after)
    (sound : before.KeysSound) : after.KeysSound := by
  refine ⟨?_, fun key member => ?_⟩
  · rw [keeps.keys]
    exact sound.distinct
  · rw [keeps.keys] at member
    exact (sound.fresh key member).trans_le keeps.drawn

theorem settle_keepsKeys {delivery : Delivery} (change : QueueEntry → InMemoryJobQueue)
    (record : QueueHistory → QueueHistory) (keeps : ∀ entry, KeepsKeys world.queue (change entry)) :
    KeepsKeys world.queue (world.settle (do
      let entry ← world.queue.current delivery
      .ok (change entry)) record).queue := by
  cases world.queue.current delivery with
  | error => exact ⟨rfl, le_rfl⟩
  | ok entry => exact keeps entry

/-- A send with a key it knows returns the key's message and changes nothing;
another adds the key for the message it enqueues. -/
theorem sendRaw_keyed (body key : String) (queue : InMemoryJobQueue) :
    ((queue.sendRaw body (some key)).1 = queue ∧
      (key, (queue.sendRaw body (some key)).2) ∈ queue.keys) ∨
    ((queue.sendRaw body (some key)).1.keys = queue.keys ++ [(key, queue.drawn)] ∧
      (queue.sendRaw body (some key)).1.drawn = queue.drawn + 1 ∧
      (queue.sendRaw body (some key)).2 = queue.drawn) := by
  unfold sendRaw
  dsimp only [Option.bind_some]
  cases found : queue.keys.lookup key with
  | some =>
    refine .inl ⟨rfl, ?_⟩
    obtain ⟨_, _, isSplit, _⟩ := List.lookup_eq_some_iff.mp found
    rw [isSplit]
    simp
  | none => exact .inr ⟨rfl, rfl, rfl⟩

theorem step_keys (settings : QueueSettings) (call : QueueCall) :
    KeepsKeys world.queue (world.step settings call).queue ∨
      ∃ key, (world.step settings call).queue.keys =
          world.queue.keys ++ [(key, world.queue.drawn)] ∧
        (world.step settings call).queue.drawn = world.queue.drawn + 1 := by
  cases call with
  | send body idempotencyKey =>
    cases idempotencyKey with
    | none => exact .inl ⟨rfl, Nat.le_succ _⟩
    | some key =>
      rcases sendRaw_keyed body key world.queue with
        ⟨same, _⟩ | ⟨adds, draws, _⟩
      · refine .inl ?_
        dsimp only [step]
        rw [same]
        exact ⟨rfl, le_rfl⟩
      · exact .inr ⟨key, adds, draws⟩
  | receive =>
    exact .inl ⟨rfl, receiveLoop_drawn world.queue.entries 0 world.queue.drawn⟩
  | ack delivery | nack delivery delaySeconds | extend delivery seconds | reject delivery reason =>
    exact .inl (settle_keepsKeys _ _ fun _ => ⟨rfl, le_rfl⟩)
  | advance => exact .inl ⟨rfl, le_rfl⟩

theorem step_keysSound (sound : world.queue.KeysSound) (call : QueueCall) :
    (world.step settings call).queue.KeysSound ∧
      ∀ key ∈ world.queue.keys, key ∈ (world.step settings call).queue.keys := by
  rcases step_keys settings call with keeps | ⟨key, adds, draws⟩
  · refine ⟨keeps.sound sound, fun key member => ?_⟩
    rw [keeps.keys]
    exact member
  · refine ⟨⟨?_, fun other member => ?_⟩, fun other member => ?_⟩
    · rw [adds, List.map_append, List.nodup_append]
      refine ⟨sound.distinct, List.nodup_singleton _, ?_⟩
      intro messageId member other isNew
      obtain ⟨known, isKnown, rfl⟩ := List.mem_map.mp member
      rw [List.map_singleton, List.mem_singleton] at isNew
      rw [isNew]
      exact (sound.fresh known isKnown).ne
    · rw [draws]
      rw [adds] at member
      rcases List.mem_append.mp member with old | isNew
      · exact (sound.fresh other old).trans (Nat.lt_succ_self _)
      · rw [List.mem_singleton.mp isNew]
        exact Nat.lt_succ_self _
    · rw [adds]
      exact List.mem_append_left _ member

end QueueWorld

namespace PipelineRun

variable {ω : Type} [DecidableEq ω] (run : PipelineRun ω)

def queueAt (n : Nat) : InMemoryJobQueue := (run.pipelineAt n).jobs.queue

section

variable (n : Nat) (submission : Submission)

/-- What `send` answers a submission before event `n`. -/
def sendAt : InMemoryJobQueue × Uuid :=
  (run.queueAt n).sendRaw (run.settings.codec.toJson (submission.message run.settings.codec))
    (some (submission.idempotencyKey run.settings.codec))

/-- Event `n` sends a submission's message, with an answer. -/
def SubmitsAt (messageId : Uuid) : Prop :=
  run.events n = .submit submission ∧ submission.buildMessage run.settings.codec =
      .ok (submission.message run.settings.codec) ∧
    (run.sendAt n submission).2 = messageId

/-- Event `n` enqueues a submission's message. -/
def EnqueuesAt (messageId : Uuid) : Prop :=
  run.SubmitsAt n submission messageId ∧ (run.sendAt n submission).1 ≠ run.queueAt n

end

/-- A submission is dropped as a repeat of one that was enqueued. -/
def DroppedFor (first second : Submission) : Prop :=
  ∃ n m messageId, run.EnqueuesAt n first messageId ∧ run.SubmitsAt m second messageId ∧
    (run.sendAt m second).1 = run.queueAt m

section

variable (n : Nat) (messageId : Uuid) (runId : String)

/-- Event `n` writes the manifest of a run while a message is handled. -/
def WritesManifestAt : Prop :=
  ∃ name reply delivery message study, run.events n = .work name reply ∧ reply.Writes ∧
    run.stageAt n name = .handling delivery message (.puttingManifest study) ∧
    delivery.messageId = messageId ∧ message.runId = runId

/-- At event `n` a worker finds the run of a message stored, and goes on to
acknowledge the message. -/
def FindsStoredAt : Prop :=
  ∃ name reply delivery message task, run.events n = .work name reply ∧ reply.raised = none ∧
    run.stageAt n name = .handling delivery message task ∧
    (task = .checking ∨ ∃ study, task = .saving study) ∧
    run.StoredAt n runId ∧
    delivery.messageId = messageId ∧ message.runId = runId

end

/-- A submission is skipped for a run that was stored for another. -/
def SkippedFor (first second : Submission) : Prop :=
  ∃ n m firstId secondId, run.EnqueuesAt n first firstId ∧ run.EnqueuesAt m second secondId ∧
    ∃ written found runId, written < found ∧ run.WritesManifestAt written firstId runId ∧
      run.FindsStoredAt found secondId runId

/-- When two submissions that differ are taken for one. -/
structure TellsApart : Prop where
  dropped : ∀ first second, first.Differs second → run.DroppedFor first second →
    first.idempotencyKey run.settings.codec = second.idempotencyKey run.settings.codec ∧
      (first.SuppliesKey ∨ second.SuppliesKey)
  skipped : ∀ first second, first.Differs second → run.SkippedFor first second →
    first.runId run.settings.codec = second.runId run.settings.codec ∧
      (first.SuppliesRunId ∨ second.SuppliesRunId ∨ pyPrefix 20 (first.digest run.settings.codec) =
          pyPrefix 20 (second.digest run.settings.codec))

theorem keysSound (n : Nat) : (run.queueAt n).KeysSound := by
  apply Machine.invariant fun pipeline : Pipeline ω => pipeline.jobs.queue.KeysSound
  · exact ⟨List.nodup_nil, nofun⟩
  · intro pipeline event sound
    rcases Pipeline.step_jobs run.settings event with same | ⟨made, isMade, _⟩
    · rw [same]
      exact sound
    · rw [isMade]
      exact (step_keysSound sound made).1

theorem keys_of_le {n m : Nat} {key : String × Uuid} (later : n ≤ m)
    (member : key ∈ (run.queueAt n).keys) : key ∈ (run.queueAt m).keys := by
  induction m, later using Nat.le_induction with
  | base => exact member
  | succ m _ ih =>
    unfold queueAt
    rw [pipelineAt_succ]
    rcases Pipeline.step_jobs run.settings (run.events m) with
      same | ⟨made, isMade, _⟩
    · rw [same]
      exact ih
    · rw [isMade]
      exact (step_keysSound (run.keysSound m) made).2 key ih

theorem accepted_of_le {n m : Nat} {message : Uuid × String} (later : n ≤ m)
    (accepted : message ∈ (run.historyAt n).accepted) : message ∈ (run.historyAt m).accepted := by
  induction m, later using Nat.le_induction with
  | base => exact accepted
  | succ m _ ih =>
    unfold historyAt
    rw [pipelineAt_succ]
    rcases Pipeline.step_jobs run.settings (run.events m) with
      same | ⟨made, isMade, _⟩
    · rw [same]
      exact ih
    · rw [isMade]
      exact accepted_step ih made

theorem enqueued {n : Nat} {submission : Submission} {messageId : Uuid}
    (enqueues : run.EnqueuesAt n submission messageId) :
    (submission.idempotencyKey run.settings.codec, messageId) ∈ (run.queueAt (n + 1)).keys ∧
      (messageId, run.settings.codec.toJson (submission.message run.settings.codec)) ∈
          (run.historyAt (n + 1)).accepted := by
  obtain ⟨⟨isEvent, isBuilt, isAnswer⟩, changes⟩ := enqueues
  have jobs : (run.pipelineAt (n + 1)).jobs = (run.pipelineAt n).jobs.step run.settings.queue
        (.send (run.settings.codec.toJson (submission.message run.settings.codec))
          (some (submission.idempotencyKey run.settings.codec))) := by
    rw [pipelineAt_succ, isEvent]
    dsimp only [Pipeline.step]
    rw [isBuilt]
    rfl
  rcases sendRaw_keyed
      (run.settings.codec.toJson (submission.message run.settings.codec))
      (submission.idempotencyKey run.settings.codec) (run.queueAt n) with
    ⟨same, _⟩ | ⟨adds, draws, isNew⟩
  · exact absurd same changes
  · have isId : (run.queueAt n).drawn = messageId := isNew.symm.trans isAnswer
    constructor
    · unfold queueAt
      rw [jobs]
      dsimp only [step]
      change _ ∈ ((run.queueAt n).sendRaw _ _).1.keys
      rw [adds, ← isId]
      exact List.mem_append_right _ List.mem_cons_self
    · unfold historyAt
      rw [jobs]
      dsimp only [step]
      change _ ∈ (if ((run.queueAt n).sendRaw _ _).1.drawn = (run.queueAt n).drawn then _ else
          (QueueHistory.accept ((run.queueAt n).sendRaw _ _).2 _ _)).accepted
      rw [draws, if_neg (Nat.succ_ne_self _), isNew, isId]
      exact List.mem_append_right _ List.mem_cons_self

theorem dropped_sameKey {first second : Submission} (dropped : run.DroppedFor first second) :
    first.idempotencyKey run.settings.codec = second.idempotencyKey run.settings.codec := by
  obtain ⟨n, m, messageId, enqueues, ⟨_, _, isAnswer⟩, isRepeat⟩ := dropped
  have firstKey := run.keys_of_le (Nat.le_max_left (n + 1) m) (run.enqueued enqueues).1
  have known : (second.idempotencyKey run.settings.codec, messageId) ∈ (run.queueAt m).keys := by
    rcases sendRaw_keyed (run.settings.codec.toJson (second.message run.settings.codec))
        (second.idempotencyKey run.settings.codec) (run.queueAt m) with
      ⟨_, found⟩ | ⟨_, draws, _⟩
    · rw [← isAnswer]
      exact found
    · have drawn := congrArg InMemoryJobQueue.drawn isRepeat
      exact absurd (draws.symm.trans drawn) (Nat.succ_ne_self _)
  have secondKey := run.keys_of_le (Nat.le_max_right (n + 1) m) known
  have same := List.inj_on_of_nodup_map (run.keysSound (max (n + 1) m)).distinct
    firstKey secondKey rfl
  exact congrArg Prod.fst same

theorem handled_runId {n m : Nat} {submission : Submission} {delivery : Delivery}
    {message : JobMessage} {task : JobTask} {name : ω}
    (enqueues : run.EnqueuesAt n submission delivery.messageId)
    (isStage : run.stageAt m name = .handling delivery message task) :
    message.runId = submission.runId run.settings.codec := by
  have isSound := run.sound m
  have stage := (isSound.workers name).stage
  unfold stageAt at isStage
  rw [isStage] at stage
  obtain ⟨isDelivered, isRead, _⟩ := stage
  have sameBody := body_unique (run.sound (max (n + 1) m)).jobs
    (run.accepted_of_le (Nat.le_max_right (n + 1) m) (isSound.traced delivery isDelivered).1)
    (run.accepted_of_le (Nat.le_max_left (n + 1) m) (run.enqueued enqueues).2)
  rw [sameBody] at isRead
  exact run.settings.codec.readsRunId _ _ isRead

theorem skipped_sameRunId {first second : Submission} (skipped : run.SkippedFor first second) :
    first.runId run.settings.codec = second.runId run.settings.codec := by
  obtain ⟨n, m, firstId, secondId, firstEnqueues, secondEnqueues, written, found,
    runId, _, writes, finds⟩ := skipped
  obtain ⟨_, _, _, firstMessage, _, _, _, isWriting, rfl, isWritten⟩ := writes
  obtain ⟨finder, _, secondDelivery, secondMessage, task, _, _, isFinding, _, _,
    rfl, isFound⟩ := finds
  calc first.runId run.settings.codec
      = firstMessage.runId := (run.handled_runId firstEnqueues isWriting).symm
    _ = secondMessage.runId := isWritten.trans isFound.symm
    _ = second.runId run.settings.codec := run.handled_runId secondEnqueues isFinding

/-- With a digest that tells any two jobs apart, two submissions that differ are
taken for one only where a submitter chose what they share, or where their
digests begin alike. -/
theorem tellsApart (injective : run.settings.codec.DigestInjective) : run.TellsApart where
  dropped first second different isDropped := by
    have sameKey := run.dropped_sameKey isDropped
    exact ⟨sameKey, Submission.supplies_of_same_key injective different sameKey⟩
  skipped first second _ isSkipped := by
    have sameRunId := run.skipped_sameRunId isSkipped
    exact ⟨sameRunId, Submission.supplies_of_same_runId sameRunId⟩

def nightlyReport (tenant key : String) (valid : tenantMatches tenant = true)
    (keyValid : ∀ text ∈ some key, keyMatches text = true) : Submission where
  request :=
    { run := .standard
      tenant := tenant
      runId := some "report"
      idempotencyKey := some key
      tenantValid := valid
      keyValid := keyValid }
  costTags := ∅
  now := 0
  jobId := tenant

def acmeReport : Submission := nightlyReport "acme" "nightly" (by decide) (by decide)

def globexReport : Submission := nightlyReport "globex" "nightly" (by decide) (by decide)

def globexRetry : Submission := nightlyReport "globex" "nightly-2" (by decide) (by decide)

/-- Another tenant's report is submitted under the same key, and then under
another key but the same run id. -/
noncomputable def sharedIds : PipelineRun Bool :=
  ofEvents 3 threeReceives_pos 1 [.submit acmeReport, .submit globexReport, .submit globexRetry,
      .work false .done, .work false .done, .work false .done,
      .work false .done, .work false (.returned (studyOf "acme")),
      .work false .done, .work false .done, .work false .done,
      .work false .done, .work false .done, .work false .done,
      .work false .done, .work false .done, .work false .done]

/-- One tenant's job is dropped, and then skipped, for another's. -/
theorem sharedIds_takenForOne : acmeReport.Differs globexReport ∧
      sharedIds.DroppedFor acmeReport globexReport ∧ acmeReport.Differs globexRetry ∧
      sharedIds.SkippedFor acmeReport globexRetry := by
  refine ⟨.inl (by decide), ?_, .inl (by decide), ?_⟩
  · refine ⟨0, 1, 0, ⟨⟨rfl, by decide, by decide⟩, by decide⟩, ⟨rfl, by decide, by decide⟩,
      by decide⟩
  · refine ⟨0, 2, 0, 1, ⟨⟨rfl, by decide, by decide⟩, by decide⟩, ⟨⟨rfl, by decide, by decide⟩,
      by decide⟩, 11, 15, "report", by decide, ?_, ?_⟩
    · exact ⟨false, .done, _, _, _, rfl, trivial, rfl, rfl, rfl⟩
    · exact ⟨false, .done, _, _, .checking, rfl, rfl, rfl, .inl rfl, rfl, rfl, rfl⟩

theorem sharedIds_tellsApart : sharedIds.TellsApart :=
  sharedIds.tellsApart plainCodec_digestInjective

end PipelineRun
end UrbanFlow
