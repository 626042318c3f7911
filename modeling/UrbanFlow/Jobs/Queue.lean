import Mathlib.Data.Rat.Floor

/-!
# The in-memory job queue

Messages wait in the order they were sent. A receive hides what it hands out
until its visibility timeout and gives it a new receipt; the other operations
need the receipt that is current. Identifiers are numbered in the order they
are drawn: a `uuid4` is never drawn twice.
-/

namespace UrbanFlow

/-- `uuid4().hex`, by the order of the draws. -/
abbrev Uuid : Type := Nat

/-- `Delivery`: one received message. -/
structure Delivery where
  messageId : Uuid
  receipt : Uuid
  body : String
  receiveCount : Nat
  deriving DecidableEq, Repr

/-- `_Entry`: a message the queue keeps. -/
structure QueueEntry where
  messageId : Uuid
  body : String
  receiveCount : Nat := 0
  visibleAt : ℚ := 0
  receipt : Option Uuid := none
  deriving DecidableEq, Repr

/-- What an `InMemoryJobQueue` is constructed with. -/
structure QueueSettings where
  maxReceives : Nat
  visibilityTimeout : ℚ
  positive : 1 ≤ maxReceives

/-- `StaleReceiptError`, with the message id it carries. -/
structure StaleReceipt where
  messageId : Uuid
  deriving DecidableEq, Repr

/-- State of an `InMemoryJobQueue`; `drawn` counts the identifiers drawn. -/
structure InMemoryJobQueue where
  entries : List QueueEntry := []
  keys : List (String × Uuid) := []
  dead : List (String × String) := []
  drawn : Nat := 0
  deriving DecidableEq, Repr

/-- What a pass of `receive` over some messages leaves: the messages kept, those
handed out, those dead-lettered, and the identifiers drawn by then. -/
structure Received where
  entries : List QueueEntry
  deliveries : List Delivery
  redriven : List QueueEntry
  drawn : Nat

namespace QueueEntry

/-- The message when it is handed out with this receipt. -/
def deliver (receipt : Uuid) (visibleAt : ℚ) (entry : QueueEntry) : QueueEntry :=
  { entry with
    receiveCount := entry.receiveCount + 1
    receipt := some receipt
    visibleAt := visibleAt }

/-- The delivery of a message that has been handed out. -/
def delivery (receipt : Uuid) (entry : QueueEntry) : Delivery where
  messageId := entry.messageId
  receipt := receipt
  body := entry.body
  receiveCount := entry.receiveCount

/-- A delivery is of this message, with its current receipt. -/
def Accepts (entry : QueueEntry) (delivery : Delivery) : Prop :=
  entry.messageId = delivery.messageId ∧ entry.receipt = some delivery.receipt

instance (entry : QueueEntry) (delivery : Delivery) : Decidable (entry.Accepts delivery) :=
  inferInstanceAs (Decidable (_ ∧ _))

end QueueEntry

namespace InMemoryJobQueue

/-- `send_raw`: the queue after it, and the message's id. -/
def sendRaw (body : String) (idempotencyKey : Option String)
    (queue : InMemoryJobQueue) : InMemoryJobQueue × Uuid :=
  match idempotencyKey.bind fun key => queue.keys.lookup key with
  | some messageId => (queue, messageId)
  | none =>
    ({ queue with
        entries := queue.entries ++ [{ messageId := queue.drawn, body := body }]
        keys := match idempotencyKey with
          | some key => queue.keys ++ [(key, queue.drawn)]
          | none => queue.keys
        drawn := queue.drawn + 1 },
      queue.drawn)

/-- The loop of `receive` over the messages from one on, with the number already
handed out. -/
def receiveLoop (settings : QueueSettings) (maxMessages : Int) (timeout now : ℚ) :
    List QueueEntry → Nat → Nat → Received
  | [], _, drawn => ⟨[], [], [], drawn⟩
  | entry :: entries, handedOut, drawn =>
    if maxMessages ≤ handedOut then ⟨entry :: entries, [], [], drawn⟩
    else if now < entry.visibleAt then
      let rest := receiveLoop settings maxMessages timeout now entries handedOut drawn
      { rest with entries := entry :: rest.entries }
    else if settings.maxReceives < entry.receiveCount + 1 then
      let rest := receiveLoop settings maxMessages timeout now entries handedOut drawn
      { rest with redriven := entry :: rest.redriven }
    else
      let delivered := entry.deliver drawn (now + timeout)
      let rest := receiveLoop settings maxMessages timeout now entries (handedOut + 1) (drawn + 1)
      { rest with
        entries := delivered :: rest.entries
        deliveries := delivered.delivery drawn :: rest.deliveries }

section

variable (settings : QueueSettings) (maxMessages : Int) (visibilityTimeout : Option ℚ) (now : ℚ)
  (queue : InMemoryJobQueue)

/-- What `receive` does to the messages. -/
def received : Received := receiveLoop settings maxMessages
    (visibilityTimeout.getD settings.visibilityTimeout) now queue.entries 0
    queue.drawn

/-- The reason `receive` dead-letters a message for. -/
def redriveReason : String := "max receives exceeded"

/-- `receive`: the queue after it, and the deliveries. -/
def receive : InMemoryJobQueue × List Delivery :=
  let received := queue.received settings maxMessages visibilityTimeout now
  ({ queue with
      entries := received.entries
      dead := queue.dead ++ received.redriven.map fun entry => (entry.body, redriveReason)
      drawn := received.drawn },
    received.deliveries)

end

section

variable (delivery : Delivery)

/-- `_current`: the message a delivery has the current receipt of. -/
def current (queue : InMemoryJobQueue) : Except StaleReceipt QueueEntry :=
  match queue.entries.find? (·.messageId == delivery.messageId) with
  | some entry =>
    if entry.receipt ≠ some delivery.receipt then .error ⟨delivery.messageId⟩
    else .ok entry
  | none => .error ⟨delivery.messageId⟩

def remove (messageId : Uuid) (queue : InMemoryJobQueue) : InMemoryJobQueue :=
  { queue with
    entries := queue.entries.filter fun entry =>
      !(entry.messageId == messageId) }

def modify (messageId : Uuid) (change : QueueEntry → QueueEntry)
    (queue : InMemoryJobQueue) : InMemoryJobQueue :=
  { queue with
    entries := queue.entries.map fun entry =>
      if entry.messageId = messageId then change entry else entry }

def ack (queue : InMemoryJobQueue) : Except StaleReceipt InMemoryJobQueue := do
  let entry ← queue.current delivery
  .ok (queue.remove entry.messageId)

def nack (delaySeconds now : ℚ)
    (queue : InMemoryJobQueue) : Except StaleReceipt InMemoryJobQueue := do
  let entry ← queue.current delivery
  .ok (queue.modify entry.messageId fun entry =>
    { entry with visibleAt := now + max 0 delaySeconds, receipt := none })

def extend (seconds now : ℚ) (queue : InMemoryJobQueue) : Except StaleReceipt InMemoryJobQueue := do
  let entry ← queue.current delivery
  .ok (queue.modify entry.messageId fun entry => { entry with visibleAt := now + max 0 seconds })

def reject (reason : String) (queue : InMemoryJobQueue) : Except StaleReceipt InMemoryJobQueue := do
  let entry ← queue.current delivery
  .ok ({ queue with dead := queue.dead ++ [(entry.body, reason)] }.remove entry.messageId)

end

end InMemoryJobQueue
end UrbanFlow
