import UrbanFlow.Jobs.QueueHistory

/-!
# Every sequence of queue calls

Runs of the queue under any calls, with any deliveries, while the clock goes
forward. Every accepted message is live, acknowledged or dead-lettered, it is
delivered a bounded number of times, and only the delivery with the current
receipt can settle it.
-/

namespace UrbanFlow

open InMemoryJobQueue QueueHistory

attribute [local simp] bury deliver

/-- A call of the queue, or time going by. -/
inductive QueueCall
  | send (body : String) (idempotencyKey : Option String)
  | receive (maxMessages : Int) (visibilityTimeout : Option ℚ)
  | ack (delivery : Delivery)
  | nack (delivery : Delivery) (delaySeconds : ℚ)
  | extend (delivery : Delivery) (seconds : ℚ)
  | reject (delivery : Delivery) (reason : String)
  | advance (seconds : ℚ) (forward : 0 ≤ seconds)

/-- The queue, its clock and its history. -/
structure QueueWorld where
  queue : InMemoryJobQueue := {}
  now : ℚ := 0
  history : QueueHistory := {}

namespace QueueWorld

def letters (received : Received) : List DeadLetter := received.redriven.map fun entry =>
    ⟨entry.messageId, entry.body, redriveReason⟩

/-- The world after a call that may raise `StaleReceiptError`; a call that raises
leaves it as it was. -/
def settle (result : Except StaleReceipt InMemoryJobQueue) (record : QueueHistory → QueueHistory)
    (world : QueueWorld) : QueueWorld :=
  match result with
  | .ok queue => { world with queue := queue, history := record world.history }
  | .error _ => world

def rejected (delivery : Delivery) (reason : String) (queue : InMemoryJobQueue) : List DeadLetter :=
  match queue.current delivery with
  | .ok entry => [⟨entry.messageId, entry.body, reason⟩]
  | .error _ => []

def step (settings : QueueSettings) (world : QueueWorld) : QueueCall → QueueWorld
  | .send body idempotencyKey =>
    let (queue, messageId) := world.queue.sendRaw body idempotencyKey
    { world with
      queue := queue
      history := if queue.drawn = world.queue.drawn then world.history
        else world.history.accept messageId body }
  | .receive maxMessages visibilityTimeout =>
    let received := world.queue.received settings maxMessages visibilityTimeout world.now
    { world with
      queue := (world.queue.receive settings maxMessages visibilityTimeout world.now).1
      history := (world.history.deliver received.deliveries).bury (letters received) }
  | .ack delivery => world.settle (world.queue.ack delivery) (·.acknowledge delivery.messageId)
  | .nack delivery delaySeconds =>
    world.settle (world.queue.nack delivery delaySeconds world.now) id
  | .extend delivery seconds => world.settle (world.queue.extend delivery seconds world.now) id
  | .reject delivery reason =>
    world.settle (world.queue.reject delivery reason)
      (·.bury (rejected delivery reason world.queue))
  | .advance seconds _ => { world with now := world.now + seconds }

structure Sound (settings : QueueSettings) (world : QueueWorld) : Prop where
  ledger : Ledger settings world.queue.entries world.queue.drawn world.history
  dead : world.queue.dead = world.history.deadLettered.map fun letter =>
    (letter.body, letter.reason)

end QueueWorld

/-! ## Finding the current message -/

namespace InMemoryJobQueue

/-- A delivery is current: the queue keeps its message, with its receipt. -/
def Current (queue : InMemoryJobQueue) (delivery : Delivery) : Prop :=
  ∃ entry ∈ queue.entries, entry.Accepts delivery

variable {settings : QueueSettings} {history : QueueHistory}
variable {queue : InMemoryJobQueue} {delivery : Delivery}

/-- A send is a repeat, which changes nothing, or appends its message. -/
theorem sendRaw_cases (body : String) (idempotencyKey : Option String) (queue : InMemoryJobQueue) :
    (∃ messageId, queue.sendRaw body idempotencyKey = (queue, messageId)) ∨
    ∃ keys, queue.sendRaw body idempotencyKey = ({ queue with
          entries := queue.entries ++ [{ messageId := queue.drawn, body := body }]
          keys := keys
          drawn := queue.drawn + 1 },
        queue.drawn) := by
  unfold sendRaw
  split
  · exact .inl ⟨_, rfl⟩
  · exact .inr ⟨_, rfl⟩

theorem current_ok (ledger : Ledger settings queue.entries queue.drawn history)
    (isCurrent : queue.Current delivery) :
    ∃ before entry after, queue.entries = before ++ entry :: after ∧
      entry.Accepts delivery ∧ queue.current delivery = .ok entry := by
  obtain ⟨entry, member, accepts⟩ := isCurrent
  obtain ⟨before, after, isSplit⟩ := List.append_of_mem member
  refine ⟨before, entry, after, isSplit, accepts, ?_⟩
  rw [isSplit] at ledger
  have others := ledger.live_once
  have found : queue.entries.find? (·.messageId == delivery.messageId) = some entry := by
    rw [isSplit, List.find?_append, List.find?_eq_none.mpr, Option.none_or,
      List.find?_cons_of_pos (by simpa using accepts.1)]
    intro other earlier
    have different := others other (List.mem_append_left _ earlier)
    rw [accepts.1] at different
    simpa using different
  unfold current
  rw [found]
  dsimp only
  rw [if_neg (not_not.mpr accepts.2)]

theorem current_stale (stale : ¬ queue.Current delivery) :
    queue.current delivery = .error ⟨delivery.messageId⟩ := by
  unfold current
  split
  · next entry found =>
      rw [if_pos]
      intro sameReceipt
      apply stale
      refine ⟨entry, List.mem_of_find?_eq_some found, ?_, sameReceipt⟩
      simpa using List.find?_some found
  · rfl

section

variable {before after : List QueueEntry} {entry : QueueEntry}

theorem remove_entries (isSplit : queue.entries = before ++ entry :: after)
    (others : ∀ other ∈ before ++ after, other.messageId ≠ entry.messageId) :
    (queue.remove entry.messageId).entries = before ++ after := by
  have keeps (kept : List QueueEntry)
      (different : ∀ other ∈ kept, other.messageId ≠ entry.messageId) :
      kept.filter (fun other => !(other.messageId == entry.messageId)) =
        kept := by
    rw [List.filter_eq_self]
    intro other member
    simpa using different other member
  dsimp only [remove]
  rw [isSplit, List.filter_append, List.filter_cons_of_neg (by simp),
    keeps before fun other member => others other (List.mem_append_left _ member),
    keeps after fun other member => others other (List.mem_append_right _ member)]

theorem modify_entries (change : QueueEntry → QueueEntry)
    (isSplit : queue.entries = before ++ entry :: after)
    (others : ∀ other ∈ before ++ after, other.messageId ≠ entry.messageId) :
    (queue.modify entry.messageId change).entries = before ++ change entry :: after := by
  have keeps (kept : List QueueEntry)
      (different : ∀ other ∈ kept, other.messageId ≠ entry.messageId) :
      kept.map (fun other =>
        if other.messageId = entry.messageId then change other else other) =
        kept := by
    rw [List.map_congr_left fun other member => if_neg (different other member)]
    exact List.map_id _
  dsimp only [modify]
  rw [isSplit, List.map_append, List.map_cons, if_pos rfl, keeps before fun other member =>
      others other (List.mem_append_left _ member),
    keeps after fun other member => others other (List.mem_append_right _ member)]

end

end InMemoryJobQueue

/-! ## One call -/

namespace QueueWorld

variable {settings : QueueSettings}

theorem receiveLoop_ledger (maxMessages : Int) (timeout now : ℚ)
    (before entries : List QueueEntry) (handedOut drawn : Nat) (history : QueueHistory)
    (ledger : Ledger settings (before ++ entries) drawn history) :
    let received := receiveLoop settings maxMessages timeout now entries handedOut drawn
    Ledger settings (before ++ received.entries) received.drawn
      ((history.deliver received.deliveries).bury (letters received)) := by
  induction entries generalizing before handedOut drawn history with
  | nil => simpa [receiveLoop, letters] using ledger
  | cons entry _ ih =>
    unfold receiveLoop
    split
    · simpa [letters] using ledger
    · split
      · have rest := ih (before ++ [entry]) handedOut drawn history (by simpa using ledger)
        simpa [letters] using rest
      · split
        · have rest := ih before handedOut drawn _ (ledger.bury redriveReason)
          simpa [letters] using rest
        · next room =>
            have rest := ih (before ++ [entry.deliver drawn (now + timeout)])
              (handedOut + 1) (drawn + 1) _
              (by simpa using ledger.deliver (not_lt.mp room) (now + timeout))
            simpa [letters] using rest

theorem settle_sound {world : QueueWorld} {delivery : Delivery} (sound : Sound settings world)
    (change : QueueEntry → InMemoryJobQueue) (record : QueueHistory → QueueHistory)
    (changed : ∀ before entry after, world.queue.entries = before ++ entry :: after →
      Ledger settings (before ++ entry :: after) world.queue.drawn world.history →
      entry.Accepts delivery → world.queue.current delivery = .ok entry →
      Sound settings { world with queue := change entry, history := record world.history }) :
    Sound settings (world.settle (do
        let settled ← world.queue.current delivery
        .ok (change settled)) record) := by
  by_cases isCurrent : world.queue.Current delivery
  · obtain ⟨before, entry, after, isSplit, accepts, isOk⟩ := current_ok sound.ledger isCurrent
    have ledger := sound.ledger
    rw [isSplit] at ledger
    have settled := changed before entry after isSplit ledger accepts isOk
    rw [isOk]
    exact settled
  · rw [current_stale isCurrent]
    exact sound

theorem modify_sound {world : QueueWorld} (sound : Sound settings world) (delivery : Delivery)
    (visibleAt : QueueEntry → ℚ) (receipt : QueueEntry → Option Uuid) :
    Sound settings (world.settle (do
        let settled ← world.queue.current delivery
        .ok (world.queue.modify settled.messageId fun entry =>
          { entry with visibleAt := visibleAt entry, receipt := receipt entry })) id) := by
  refine settle_sound sound _ _ fun before entry after isSplit ledger _ _ => ⟨?_, sound.dead⟩
  dsimp only
  rw [modify_entries _ isSplit ledger.live_once]
  exact ledger.reschedule _ _

/-- A call that raises changes nothing; one that does not keeps the ledger. -/
theorem step_sound {world : QueueWorld} (sound : Sound settings world) (call : QueueCall) :
    Sound settings (world.step settings call) := by
  cases call with
  | send body idempotencyKey =>
    unfold step
    rcases sendRaw_cases body idempotencyKey world.queue with
      ⟨messageId, isRepeat⟩ | ⟨keys, isNew⟩
    · simp only [isRepeat, if_true]
      exact sound
    · simp only [isNew, Nat.succ_ne_self, if_false]
      exact ⟨sound.ledger.accept body, sound.dead⟩
  | receive maxMessages =>
    refine ⟨receiveLoop_ledger maxMessages _ world.now []
      world.queue.entries 0 world.queue.drawn world.history sound.ledger, ?_⟩
    unfold step receive bury deliver letters
    simp [sound.dead]
  | ack =>
    refine settle_sound sound _ _ fun before entry after isSplit ledger accepts _ =>
      ⟨?_, sound.dead⟩
    dsimp only
    rw [remove_entries isSplit ledger.live_once, ← accepts.1]
    exact ledger.acknowledge
  | nack delivery delaySeconds | extend delivery seconds => exact modify_sound sound delivery _ _
  | reject _ reason =>
    refine settle_sound sound _ _ fun before entry after isSplit ledger _ isOk => ⟨?_, ?_⟩
    · change Ledger settings (world.queue.remove entry.messageId).entries _ _
      rw [remove_entries isSplit ledger.live_once]
      dsimp only [rejected]
      rw [isOk]
      exact ledger.bury reason
    · dsimp only [rejected]
      rw [isOk]
      change world.queue.dead ++ [(entry.body, reason)] = (world.history.deadLettered ++
          [(⟨entry.messageId, entry.body, reason⟩ : DeadLetter)]).map _
      rw [sound.dead, List.map_append]
      rfl
  | advance => exact ⟨sound.ledger, sound.dead⟩

end QueueWorld

/-! ## What a receive does to one message -/

/-- A message is past its visibility time. -/
def QueueEntry.Due (now : ℚ) (entry : QueueEntry) : Prop := entry.visibleAt ≤ now

instance (now : ℚ) : DecidablePred (QueueEntry.Due now) :=
  fun entry => inferInstanceAs (Decidable (entry.visibleAt ≤ now))

/-- A message is handed out or dead-lettered by a pass of `receive`. -/
def Received.Handles (received : Received) (messageId : Uuid) : Prop :=
  (∃ delivery ∈ received.deliveries, delivery.messageId = messageId) ∨
    ∃ entry ∈ received.redriven, entry.messageId = messageId

section ReceiveLoop

variable {settings : QueueSettings} {maxMessages : Int} {timeout now : ℚ}
variable {entries : List QueueEntry} {entry : QueueEntry} {handedOut drawn : Nat}

theorem kept_or_handled (member : entry ∈ entries) :
    entry ∈ (receiveLoop settings maxMessages timeout now entries handedOut drawn).entries ∨
      (receiveLoop settings maxMessages timeout now entries handedOut
        drawn).Handles entry.messageId := by
  induction entries generalizing handedOut drawn with
  | nil => exact absurd member List.not_mem_nil
  | cons _ _ ih =>
    unfold receiveLoop
    split
    · exact .inl member
    · split
      · rcases List.mem_cons.mp member with rfl | later
        · exact .inl List.mem_cons_self
        · rcases ih later with kept | handled
          · exact .inl (List.mem_cons_of_mem _ kept)
          · exact .inr handled
      · split
        · rcases List.mem_cons.mp member with rfl | later
          · exact .inr (.inr ⟨_, List.mem_cons_self, rfl⟩)
          · rcases ih later with kept | ⟨found⟩ | ⟨found⟩
            · exact .inl kept
            · exact .inr (.inl found)
            · obtain ⟨other, isRedriven, same⟩ := found
              exact .inr (.inr ⟨other, List.mem_cons_of_mem _ isRedriven, same⟩)
        · rcases List.mem_cons.mp member with rfl | later
          · exact .inr (.inl ⟨_, List.mem_cons_self, rfl⟩)
          · rcases ih later with kept | ⟨found⟩ | ⟨found⟩
            · exact .inl (List.mem_cons_of_mem _ kept)
            · obtain ⟨delivery, isDelivered, same⟩ := found
              exact .inr (.inl ⟨delivery, List.mem_cons_of_mem _ isDelivered, same⟩)
            · exact .inr (.inr found)

theorem due_handled (member : entry ∈ entries) (due : entry.Due now)
    (room : handedOut + entries.countP (·.Due now) ≤ maxMessages) :
    (receiveLoop settings maxMessages timeout now entries handedOut
      drawn).Handles entry.messageId := by
  induction entries generalizing handedOut drawn with
  | nil => exact absurd member List.not_mem_nil
  | cons first entries ih =>
    have counted : 0 < (first :: entries).countP (·.Due now) :=
      List.countP_pos_iff.mpr ⟨entry, member, decide_eq_true due⟩
    unfold receiveLoop
    rw [if_neg (by omega)]
    by_cases firstDue : first.Due now
    · rw [List.countP_cons_of_pos (by simpa using firstDue)] at room
      rw [if_neg (not_lt.mpr firstDue)]
      have skipped : (handedOut : Int) + entries.countP (·.Due now) ≤
          maxMessages := by omega
      have taken : ((handedOut + 1 : Nat) : Int) +
          entries.countP (·.Due now) ≤ maxMessages := by omega
      split
      · rcases List.mem_cons.mp member with rfl | later
        · exact .inr ⟨_, List.mem_cons_self, rfl⟩
        · rcases ih later skipped with
            found | ⟨other, isRedriven, same⟩
          · exact .inl found
          · exact .inr ⟨other, List.mem_cons_of_mem _ isRedriven, same⟩
      · rcases List.mem_cons.mp member with rfl | later
        · exact .inl ⟨_, List.mem_cons_self, rfl⟩
        · rcases ih later taken with
            ⟨delivery, isDelivered, same⟩ | found
          · exact .inl ⟨delivery, List.mem_cons_of_mem _ isDelivered, same⟩
          · exact .inr found
    · rw [List.countP_cons_of_neg (by simpa using firstDue)] at room
      rw [if_pos (not_le.mp firstDue)]
      rcases List.mem_cons.mp member with rfl | later
      · exact absurd due firstDue
      · exact ih later room

end ReceiveLoop

/-! ## Whole runs -/

/-- The call settles or reschedules the message of a delivery. -/
def QueueCall.Settles (call : QueueCall) (delivery : Delivery) : Prop := match call with
  | .ack settled => settled = delivery
  | .nack settled _ => settled = delivery
  | .extend settled _ => settled = delivery
  | .reject settled _ => settled = delivery
  | _ => False

namespace InMemoryJobQueue

variable {queue : InMemoryJobQueue} {delivery : Delivery} {entry other : QueueEntry}

theorem current_messageId (found : queue.current delivery = .ok entry) :
    entry.messageId = delivery.messageId := by
  unfold current at found
  split at found
  · next kept isKept =>
      split at found
      · exact absurd found (by simp)
      · rw [← Except.ok.inj found]
        simpa using List.find?_some isKept
  · exact absurd found (by simp)

theorem mem_remove (member : other ∈ queue.entries)
    (different : other.messageId ≠ entry.messageId) :
    other ∈ (queue.remove entry.messageId).entries := by
  unfold remove
  apply List.mem_filter.mpr
  simp [member, different]

theorem mem_modify (change : QueueEntry → QueueEntry) (member : other ∈ queue.entries)
    (different : other.messageId ≠ entry.messageId) :
    other ∈ (queue.modify entry.messageId change).entries := by
  unfold modify
  apply List.mem_map.mpr
  exact ⟨other, member, if_neg different⟩

end InMemoryJobQueue

namespace QueueHistory

/-- A history goes on from another: it has delivered and dead-lettered as much,
or more. -/
structure Extends (later earlier : QueueHistory) : Prop where
  delivered : ∃ deliveries, later.delivered = earlier.delivered ++ deliveries
  deadLettered : ∃ letters, later.deadLettered = earlier.deadLettered ++ letters

namespace Extends

variable {later earlier : QueueHistory}

protected theorem refl (history : QueueHistory) : history.Extends history :=
  ⟨⟨[], by simp⟩, ⟨[], by simp⟩⟩

section

variable (extended : later.Extends earlier) (messageId : Uuid)

include extended

theorem deliveredCount_le : earlier.deliveredCount messageId ≤ later.deliveredCount messageId := by
  obtain ⟨deliveries, isLater⟩ := extended.delivered
  unfold deliveredCount
  rw [isLater, List.map_append, List.count_append]
  exact Nat.le_add_right _ _

theorem deadCount_le : earlier.deadCount messageId ≤ later.deadCount messageId := by
  obtain ⟨letters, isLater⟩ := extended.deadLettered
  unfold deadCount
  rw [isLater, List.map_append, List.count_append]
  exact Nat.le_add_right _ _

end

end Extends
end QueueHistory

namespace QueueWorld

variable {settings : QueueSettings} {world : QueueWorld}

theorem settle_extends (result : Except StaleReceipt InMemoryJobQueue)
    (record : QueueHistory → QueueHistory)
    (records : (record world.history).Extends world.history) :
    (world.settle result record).history.Extends world.history := by
  unfold settle
  cases result with
  | ok => exact records
  | error => exact .refl world.history

/-- No call takes a delivery or a dead letter back. -/
theorem step_extends (call : QueueCall) :
    (world.step settings call).history.Extends world.history := by
  cases call with
  | send =>
    dsimp only [step]
    split
    · exact .refl world.history
    · exact ⟨⟨[], by simp [accept]⟩, ⟨[], by simp [accept]⟩⟩
  | receive => exact ⟨⟨_, rfl⟩, ⟨_, rfl⟩⟩
  | ack =>
    apply settle_extends
    exact ⟨⟨[], by simp [acknowledge]⟩, ⟨[], by simp [acknowledge]⟩⟩
  | nack delivery delaySeconds | extend delivery seconds => exact settle_extends _ _ (.refl _)
  | reject =>
    apply settle_extends
    exact ⟨⟨[], by simp⟩, ⟨_, rfl⟩⟩
  | advance => exact .refl world.history

/-- A message a receive handles is delivered or dead-lettered once more. -/
theorem handles_counted {maxMessages : Int} {visibilityTimeout : Option ℚ} {messageId : Uuid}
    (handled : (world.queue.received settings maxMessages visibilityTimeout
      world.now).Handles messageId) :
    let after := world.step settings (.receive maxMessages visibilityTimeout)
    world.history.deliveredCount messageId < after.history.deliveredCount messageId ∨
      world.history.deadCount messageId < after.history.deadCount messageId := by
  rcases handled with ⟨delivery, isDelivered, same⟩ | ⟨entry, redriven, same⟩
  · apply Or.inl
    dsimp only [step, deliveredCount, bury, deliver]
    rw [List.map_append, List.count_append]
    apply Nat.lt_add_of_pos_right
    rw [List.count_pos_iff, ← same]
    exact List.mem_map_of_mem isDelivered
  · apply Or.inr
    dsimp only [step, deadCount, bury, deliver]
    rw [List.map_append, List.count_append]
    apply Nat.lt_add_of_pos_right
    rw [List.count_pos_iff, ← same]
    unfold letters
    simpa using ⟨entry, redriven, rfl⟩

theorem settle_keeps {entry : QueueEntry} {delivery : Delivery}
    (change : QueueEntry → InMemoryJobQueue) (record : QueueHistory → QueueHistory)
    (member : entry ∈ world.queue.entries)
    (untouched : delivery.messageId = entry.messageId → ¬ world.queue.Current delivery)
    (keeps : ∀ settled : QueueEntry, entry.messageId ≠ settled.messageId →
      entry ∈ (change settled).entries) :
    entry ∈ (world.settle (do
        let settled ← world.queue.current delivery
        .ok (change settled)) record).queue.entries := by
  by_cases isCurrent : world.queue.Current delivery
  · have different : delivery.messageId ≠ entry.messageId := fun same => untouched same isCurrent
    cases found : world.queue.current delivery with
    | error => exact member
    | ok =>
      apply keeps
      rw [current_messageId found]
      exact different.symm
  · rw [current_stale isCurrent]
    exact member

theorem step_due {entry : QueueEntry} {call : QueueCall} (member : entry ∈ world.queue.entries)
    (due : entry.Due world.now) (untouched : ∀ delivery, call.Settles delivery →
      delivery.messageId = entry.messageId → ¬ world.queue.Current delivery) :
    let after := world.step settings call
    (entry ∈ after.queue.entries ∧ entry.Due after.now) ∨
      world.history.deliveredCount entry.messageId < after.history.deliveredCount entry.messageId ∨
      world.history.deadCount entry.messageId < after.history.deadCount entry.messageId := by
  have clock (result : Except StaleReceipt InMemoryJobQueue)
      (record : QueueHistory → QueueHistory) :
      entry.Due (world.settle result record).now := by
    cases result with
    | ok queue | error stale => exact due
  cases call with
  | send body idempotencyKey =>
    refine .inl ⟨?_, due⟩
    dsimp only [step]
    rcases sendRaw_cases body idempotencyKey world.queue with
      ⟨_, isRepeat⟩ | ⟨_, isNew⟩
    · rw [isRepeat]
      exact member
    · rw [isNew]
      exact List.mem_append_left _ member
  | receive maxMessages =>
    rcases @kept_or_handled settings maxMessages _ world.now _ _ 0
      world.queue.drawn member with kept | handled
    · exact .inl ⟨kept, due⟩
    · exact .inr (handles_counted handled)
  | ack delivery | reject delivery reason =>
    refine .inl ⟨?_, clock _ _⟩
    exact settle_keeps _ _ member (untouched delivery rfl)
      fun settled different => mem_remove member different
  | nack delivery delaySeconds | extend delivery seconds =>
    refine .inl ⟨?_, clock _ _⟩
    exact settle_keeps _ _ member (untouched delivery rfl)
      fun settled different => mem_modify _ member different
  | advance _ forward =>
    refine .inl ⟨member, ?_⟩
    exact le_trans due (le_add_of_nonneg_right forward)

end QueueWorld

structure QueueRun where
  settings : QueueSettings
  calls : Nat → QueueCall

namespace QueueRun

variable (run : QueueRun)

/-- The world before call `n`. -/
def worldAt (n : Nat) : QueueWorld := Machine.stateAt (QueueWorld.step run.settings) {} run.calls n

def queueAt (n : Nat) : InMemoryJobQueue := (run.worldAt n).queue

def historyAt (n : Nat) : QueueHistory := (run.worldAt n).history

section

variable (n : Nat) (messageId : Uuid)

/-- A message has been accepted before call `n`. -/
def AcceptedAt : Prop := messageId ∈ (run.historyAt n).accepted.map Prod.fst

/-- The queue keeps a message. -/
def LiveAt : Prop := messageId ∈ (run.queueAt n).entries.map QueueEntry.messageId

def AcknowledgedAt : Prop := messageId ∈ (run.historyAt n).acknowledged

def DeadAt : Prop := messageId ∈ (run.historyAt n).deadLettered.map DeadLetter.messageId

/-- The queue keeps a message that is past its visibility time. -/
def DueAt : Prop :=
  ∃ entry ∈ (run.queueAt n).entries, entry.messageId = messageId ∧ entry.Due (run.worldAt n).now

/-- Call `n` settles or reschedules a message, with its current receipt. -/
def TouchedAt : Prop := ∃ delivery, (run.calls n).Settles delivery ∧
    delivery.messageId = messageId ∧ (run.queueAt n).Current delivery

end

/-- A message has been delivered or dead-lettered by the calls from `n` up to
`m`. -/
def HandledBetween (n m : Nat) (messageId : Uuid) : Prop :=
  (run.historyAt n).deliveredCount messageId < (run.historyAt m).deliveredCount messageId ∨
    (run.historyAt n).deadCount messageId < (run.historyAt m).deadCount messageId

/-- What holds of every message and every delivery in a run. -/
structure Dependable : Prop where
  oneFate : ∀ n messageId, run.AcceptedAt n messageId →
    (run.LiveAt n messageId ∧ ¬ run.AcknowledgedAt n messageId ∧ ¬ run.DeadAt n messageId) ∨
      (¬ run.LiveAt n messageId ∧ run.AcknowledgedAt n messageId ∧ ¬ run.DeadAt n messageId) ∨
      (¬ run.LiveAt n messageId ∧ ¬ run.AcknowledgedAt n messageId ∧ run.DeadAt n messageId)
  deadOnce : ∀ n, ((run.historyAt n).deadLettered.map DeadLetter.messageId).Nodup ∧
      (run.queueAt n).dead = (run.historyAt n).deadLettered.map fun letter =>
        (letter.body, letter.reason)
  bounded : ∀ n messageId, (run.historyAt n).deliveredCount messageId ≤ run.settings.maxReceives
  oneCurrent : ∀ n delivery other, delivery ∈ (run.historyAt n).delivered →
    other ∈ (run.historyAt n).delivered →
    delivery.messageId = other.messageId →
    (run.queueAt n).Current delivery → (run.queueAt n).Current other → delivery = other
  staleRaises : ∀ n delivery, ¬ (run.queueAt n).Current delivery →
    (run.queueAt n).ack delivery = .error ⟨delivery.messageId⟩ ∧
      (∀ delaySeconds now, (run.queueAt n).nack delivery delaySeconds now =
        .error ⟨delivery.messageId⟩) ∧
      (∀ seconds now, (run.queueAt n).extend delivery seconds now = .error ⟨delivery.messageId⟩) ∧
      ∀ reason, (run.queueAt n).reject delivery reason = .error ⟨delivery.messageId⟩
  staleKeeps : ∀ n delivery, (run.calls n).Settles delivery →
    ¬ (run.queueAt n).Current delivery → run.worldAt (n + 1) = run.worldAt n
  handled : ∀ n m messageId maxMessages visibilityTimeout, n ≤ m → run.DueAt n messageId →
    run.calls m = .receive maxMessages visibilityTimeout →
    (run.queueAt m).entries.countP (·.Due (run.worldAt m).now) ≤ maxMessages →
    (∀ i, n ≤ i → i < m → ¬ run.TouchedAt i messageId) → run.HandledBetween n (m + 1) messageId

theorem worldAt_succ (n : Nat) :
    run.worldAt (n + 1) = (run.worldAt n).step run.settings (run.calls n) :=
  Machine.stateAt_succ _ _ _ n

theorem sound (n : Nat) : QueueWorld.Sound run.settings (run.worldAt n) := by
  apply Machine.invariant (QueueWorld.Sound run.settings)
  · exact ⟨Ledger.empty run.settings, rfl⟩
  · intro world call isSound
    exact QueueWorld.step_sound isSound call

section

variable (n : Nat) (messageId : Uuid)

theorem acceptedAt_iff : run.AcceptedAt n messageId ↔
      0 < (run.historyAt n).acceptedCount messageId :=
  List.count_pos_iff.symm

theorem liveAt_iff : run.LiveAt n messageId ↔ 0 < liveCount (run.queueAt n).entries messageId :=
  List.count_pos_iff.symm

theorem acknowledgedAt_iff : run.AcknowledgedAt n messageId ↔
      0 < (run.historyAt n).acknowledgedCount messageId :=
  List.count_pos_iff.symm

theorem deadAt_iff : run.DeadAt n messageId ↔ 0 < (run.historyAt n).deadCount messageId :=
  List.count_pos_iff.symm

end

theorem oneFate {n : Nat} {messageId : Uuid} (accepted : run.AcceptedAt n messageId) :
    (run.LiveAt n messageId ∧ ¬ run.AcknowledgedAt n messageId ∧ ¬ run.DeadAt n messageId) ∨
      (¬ run.LiveAt n messageId ∧ run.AcknowledgedAt n messageId ∧ ¬ run.DeadAt n messageId) ∨
      (¬ run.LiveAt n messageId ∧ ¬ run.AcknowledgedAt n messageId ∧ run.DeadAt n messageId) := by
  have once := (run.sound n).ledger.once messageId
  have balanced := (run.sound n).ledger.balanced messageId
  rw [acceptedAt_iff] at accepted
  rw [liveAt_iff, acknowledgedAt_iff, deadAt_iff]
  unfold queueAt historyAt at *
  omega

theorem deadOnce (n : Nat) : ((run.historyAt n).deadLettered.map DeadLetter.messageId).Nodup := by
  rw [List.nodup_iff_count_le_one]
  intro messageId
  have once := (run.sound n).ledger.once messageId
  have balanced := (run.sound n).ledger.balanced messageId
  change (run.historyAt n).deadCount messageId ≤ 1
  unfold historyAt
  omega

/-- The receipts handed out differ, so one delivery at most is current. -/
theorem oneCurrent {n : Nat} {delivery other : Delivery}
    (isDelivered : delivery ∈ (run.historyAt n).delivered)
    (isOther : other ∈ (run.historyAt n).delivered) (same : delivery.messageId = other.messageId)
    (isCurrent : (run.queueAt n).Current delivery)
    (otherCurrent : (run.queueAt n).Current other) : delivery = other := by
  obtain ⟨entry, member, accepts⟩ := isCurrent
  obtain ⟨known, isKnown, knows⟩ := otherCurrent
  have ledger := (run.sound n).ledger
  have sameEntry : entry = known := by
    obtain ⟨_, _, isSplit⟩ := List.append_of_mem member
    unfold queueAt at isSplit isKnown
    rw [isSplit] at ledger isKnown
    by_contra different
    have others := ledger.live_once known (by
      rcases List.mem_append.mp isKnown with earlier | later
      · exact List.mem_append_left _ earlier
      · rcases List.mem_cons.mp later with rfl | later
        · exact absurd rfl different
        · exact List.mem_append_right _ later)
    apply others
    rw [knows.1, accepts.1, same]
  subst sameEntry
  have sameReceipt : delivery.receipt = other.receipt :=
    Option.some.inj (accepts.2.symm.trans knows.2)
  exact List.inj_on_of_nodup_map ledger.receipts isDelivered isOther sameReceipt

theorem staleKeeps {n : Nat} {delivery : Delivery} (settles : (run.calls n).Settles delivery)
    (stale : ¬ (run.queueAt n).Current delivery) : run.worldAt (n + 1) = run.worldAt n := by
  have raises := current_stale stale
  unfold queueAt at raises
  rw [worldAt_succ]
  unfold QueueCall.Settles at settles
  split at settles
  all_goals first
    | exact settles.elim
    | next isCall =>
      subst settles
      rw [isCall]
      dsimp only [QueueWorld.step, QueueWorld.settle, InMemoryJobQueue.ack, nack, extend, reject]
      rw [raises]
      rfl

theorem extends_of_le {n m : Nat} (later : n ≤ m) (messageId : Uuid) :
    (run.historyAt n).deliveredCount messageId ≤ (run.historyAt m).deliveredCount messageId ∧
      (run.historyAt n).deadCount messageId ≤ (run.historyAt m).deadCount messageId := by
  induction m, later using Nat.le_induction with
  | base => exact ⟨le_rfl, le_rfl⟩
  | succ m _ ih =>
    have extended : (run.historyAt (m + 1)).Extends (run.historyAt m) := by
      unfold historyAt
      rw [worldAt_succ]
      exact QueueWorld.step_extends (run.calls m)
    exact ⟨ih.1.trans (extended.deliveredCount_le messageId),
      ih.2.trans (extended.deadCount_le messageId)⟩

section

variable {n m : Nat} {messageId : Uuid}

theorem due_or_handled (later : n ≤ m) (due : run.DueAt n messageId)
    (untouched : ∀ i, n ≤ i → i < m → ¬ run.TouchedAt i messageId) :
    run.DueAt m messageId ∨ run.HandledBetween n m messageId := by
  induction m, later using Nat.le_induction with
  | base => exact .inl due
  | succ m later ih =>
    have grows := run.extends_of_le (Nat.le_succ m) messageId
    rcases ih fun i first last =>
      untouched i first (last.trans (Nat.lt_succ_self m)) with
      ⟨entry, member, same, isDue⟩ | handled
    · have since := run.extends_of_le later messageId
      have stepped := @QueueWorld.step_due run.settings _ _ (run.calls m)
        member isDue fun delivery settles isOf current =>
          untouched m later (Nat.lt_succ_self m) ⟨delivery, settles, isOf.trans same, current⟩
      rw [← worldAt_succ, same] at stepped
      rcases stepped with ⟨kept, stillDue⟩ | delivered | dead
      · exact .inl ⟨entry, kept, same, stillDue⟩
      · exact .inr (.inl (since.1.trans_lt delivered))
      · exact .inr (.inr (since.2.trans_lt dead))
    · rcases handled with delivered | dead
      · exact .inr (.inl (delivered.trans_le grows.1))
      · exact .inr (.inr (dead.trans_le grows.2))

theorem handled {maxMessages : Int} {visibilityTimeout : Option ℚ} (later : n ≤ m)
    (due : run.DueAt n messageId) (isReceive : run.calls m = .receive maxMessages visibilityTimeout)
    (room : (run.queueAt m).entries.countP (·.Due (run.worldAt m).now) ≤ maxMessages)
    (untouched : ∀ i, n ≤ i → i < m → ¬ run.TouchedAt i messageId) :
    run.HandledBetween n (m + 1) messageId := by
  have grows := run.extends_of_le (Nat.le_succ m) messageId
  have since := run.extends_of_le later messageId
  rcases run.due_or_handled later due untouched with
    ⟨entry, member, same, isDue⟩ | delivered | dead
  · have handles : ((run.queueAt m).received run.settings maxMessages
        visibilityTimeout (run.worldAt m).now).Handles messageId := by
      rw [← same]
      apply due_handled member isDue
      simpa using room
    have counted := QueueWorld.handles_counted handles
    rw [← isReceive, ← worldAt_succ] at counted
    rcases counted with delivered | dead
    · exact .inl (since.1.trans_lt delivered)
    · exact .inr (since.2.trans_lt dead)
  · exact .inl (delivered.trans_le grows.1)
  · exact .inr (dead.trans_le grows.2)

end

/-- Every run of the queue is dependable. -/
theorem dependable : run.Dependable where
  oneFate n messageId accepted := run.oneFate accepted
  deadOnce n := ⟨run.deadOnce n, (run.sound n).dead⟩
  bounded n messageId := (run.sound n).ledger.limited messageId
  oneCurrent n delivery other isDelivered isOther same isCurrent otherCurrent :=
    run.oneCurrent isDelivered isOther same isCurrent otherCurrent
  staleRaises n delivery stale := by
    have raises := current_stale stale
    unfold InMemoryJobQueue.ack nack extend reject
    rw [raises]
    exact ⟨rfl, fun _ _ => rfl, fun _ _ => rfl, fun _ => rfl⟩
  staleKeeps n delivery settles stale := run.staleKeeps settles stale
  handled n m messageId maxMessages visibilityTimeout later due isReceive room
      untouched :=
    run.handled later due isReceive room untouched

end QueueRun
end UrbanFlow
