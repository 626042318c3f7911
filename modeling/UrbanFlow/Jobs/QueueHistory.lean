import Mathlib.Data.List.Nodup
import UrbanFlow.Library.Machine
import UrbanFlow.Jobs.Queue

/-!
# What becomes of a message

A queue beside the history of its calls: the messages it accepted, the
deliveries it made, what was acknowledged and what was dead-lettered. The
ledger says how the two agree. Each elementary change keeps it: accepting a
message, delivering one, dropping one and rescheduling one.
-/

namespace UrbanFlow

structure DeadLetter where
  messageId : Uuid
  body : String
  reason : String
  deriving DecidableEq, Repr

structure QueueHistory where
  accepted : List (Uuid × String) := []
  delivered : List Delivery := []
  acknowledged : List Uuid := []
  deadLettered : List DeadLetter := []

namespace QueueHistory

def accept (messageId : Uuid) (body : String) (history : QueueHistory) : QueueHistory :=
  { history with accepted := history.accepted ++ [(messageId, body)] }

def deliver (deliveries : List Delivery) (history : QueueHistory) : QueueHistory :=
  { history with delivered := history.delivered ++ deliveries }

def acknowledge (messageId : Uuid) (history : QueueHistory) : QueueHistory :=
  { history with acknowledged := history.acknowledged ++ [messageId] }

def bury (letters : List DeadLetter) (history : QueueHistory) : QueueHistory :=
  { history with deadLettered := history.deadLettered ++ letters }

section

variable (history : QueueHistory) (messageId : Uuid)

/-- How often a message has been accepted, delivered, acknowledged and
dead-lettered. -/
def acceptedCount : Nat := (history.accepted.map Prod.fst).count messageId

def deliveredCount : Nat := (history.delivered.map Delivery.messageId).count messageId

def acknowledgedCount : Nat := history.acknowledged.count messageId

def deadCount : Nat := (history.deadLettered.map DeadLetter.messageId).count messageId

end

end QueueHistory

/-- How often the queue keeps a message. -/
def liveCount (entries : List QueueEntry) (messageId : Uuid) : Nat :=
  (entries.map QueueEntry.messageId).count messageId

theorem liveCount_append (entries others : List QueueEntry) (messageId : Uuid) :
    liveCount (entries ++ others) messageId =
      liveCount entries messageId + liveCount others messageId := by
  unfold liveCount
  rw [List.map_append, List.count_append]

theorem liveCount_cons (entry : QueueEntry) (entries : List QueueEntry) (messageId : Uuid) :
    liveCount (entry :: entries) messageId = liveCount entries messageId +
        if entry.messageId = messageId then 1 else 0 := by
  unfold liveCount
  rw [List.map_cons, List.count_cons]
  simp only [beq_iff_eq]

/-- The messages kept and the history agree. -/
structure Ledger (settings : QueueSettings) (entries : List QueueEntry) (drawn : Nat)
    (history : QueueHistory) : Prop where
  once : ∀ messageId, history.acceptedCount messageId ≤ 1
  balanced : ∀ messageId, history.acceptedCount messageId =
    liveCount entries messageId + history.acknowledgedCount messageId + history.deadCount messageId
  counted : ∀ entry ∈ entries, entry.receiveCount = history.deliveredCount entry.messageId
  limited : ∀ messageId, history.deliveredCount messageId ≤ settings.maxReceives
  receipts : (history.delivered.map Delivery.receipt).Nodup
  bodies : ∀ entry ∈ entries, (entry.messageId, entry.body) ∈ history.accepted
  letters : ∀ letter ∈ history.deadLettered, (letter.messageId, letter.body) ∈ history.accepted
  freshAccepted : ∀ message ∈ history.accepted, message.1 < drawn
  freshDelivered : ∀ delivery ∈ history.delivered,
    delivery.messageId < drawn ∧ delivery.receipt < drawn

namespace Ledger

variable {settings : QueueSettings} {drawn : Nat} {history : QueueHistory}
variable {entries before after : List QueueEntry} {entry : QueueEntry}

theorem empty (settings : QueueSettings) : Ledger settings [] 0 {} := by
  constructor <;> simp [QueueHistory.acceptedCount, liveCount,
    QueueHistory.acknowledgedCount, QueueHistory.deadCount,
    QueueHistory.deliveredCount]

theorem live_once (ledger : Ledger settings (before ++ entry :: after) drawn history) :
    ∀ other ∈ before ++ after, other.messageId ≠ entry.messageId := by
  intro other member same
  have once := ledger.once entry.messageId
  have balanced := ledger.balanced entry.messageId
  have present : 0 < liveCount (before ++ after) entry.messageId := by
    unfold liveCount
    rw [List.count_pos_iff, ← same]
    exact List.mem_map_of_mem member
  rw [liveCount_append, liveCount_cons, if_pos rfl] at balanced
  rw [liveCount_append] at present
  omega

theorem accept (ledger : Ledger settings entries drawn history) (body : String) :
    Ledger settings (entries ++ [{ messageId := drawn, body := body }])
      (drawn + 1) (history.accept drawn body) := by
  have unknown : history.acceptedCount drawn = 0 := by
    unfold QueueHistory.acceptedCount
    rw [List.count_eq_zero]
    intro member
    obtain ⟨message, isAccepted, same⟩ := List.mem_map.mp member
    exact (ledger.freshAccepted message isAccepted).ne same
  have undelivered : history.deliveredCount drawn = 0 := by
    unfold QueueHistory.deliveredCount
    rw [List.count_eq_zero]
    intro member
    obtain ⟨delivery, isDelivered, same⟩ := List.mem_map.mp member
    exact (ledger.freshDelivered delivery isDelivered).1.ne same
  have accepted (messageId : Uuid) : (history.accept drawn body).acceptedCount messageId =
        history.acceptedCount messageId + if drawn = messageId then 1 else 0 := by
    unfold QueueHistory.acceptedCount QueueHistory.accept
    rw [List.map_append, List.count_append]
    simp [List.count_cons]
  refine ⟨fun messageId => ?_, fun messageId => ?_, fun entry member => ?_,
    ledger.limited, ledger.receipts, fun entry member => ?_,
    fun letter member => ?_, fun message member => ?_,
    fun delivery member => ?_⟩
  · have once := ledger.once messageId
    rw [accepted]
    split
    · next isNew => rw [← isNew, unknown]
    · exact once
  · have balanced := ledger.balanced messageId
    change _ = _ + history.acknowledgedCount messageId + history.deadCount messageId
    rw [accepted, liveCount_append, liveCount_cons, balanced]
    simp only [liveCount, List.map_nil, List.count_nil]
    omega
  · rcases List.mem_append.mp member with old | isNew
    · exact ledger.counted entry old
    · rw [List.mem_singleton.mp isNew]
      exact undelivered.symm
  · rcases List.mem_append.mp member with old | isNew
    · exact List.mem_append_left _ (ledger.bodies entry old)
    · rw [List.mem_singleton.mp isNew]
      exact List.mem_append_right _ List.mem_cons_self
  · exact List.mem_append_left _ (ledger.letters letter member)
  · rcases List.mem_append.mp member with old | isNew
    · exact (ledger.freshAccepted message old).trans (Nat.lt_succ_self drawn)
    · rw [List.mem_singleton.mp isNew]
      exact Nat.lt_succ_self drawn
  · obtain ⟨id, receipt⟩ := ledger.freshDelivered delivery member
    exact ⟨id.trans (Nat.lt_succ_self drawn), receipt.trans (Nat.lt_succ_self drawn)⟩

theorem deliver (ledger : Ledger settings (before ++ entry :: after) drawn history)
    (left : entry.receiveCount + 1 ≤ settings.maxReceives) (visibleAt : ℚ) :
    Ledger settings (before ++ entry.deliver drawn visibleAt :: after) (drawn + 1)
      (history.deliver [(entry.deliver drawn visibleAt).delivery drawn]) := by
  have here : entry ∈ before ++ entry :: after := by simp
  have counted := ledger.counted entry here
  have delivered (messageId : Uuid) : (history.deliver
          [(entry.deliver drawn visibleAt).delivery drawn]).deliveredCount messageId =
        history.deliveredCount messageId + if entry.messageId = messageId then 1 else 0 := by
    unfold QueueHistory.deliveredCount QueueHistory.deliver
    rw [List.map_append, List.count_append]
    simp [List.count_cons, QueueEntry.delivery, QueueEntry.deliver]
  have others := ledger.live_once
  refine ⟨ledger.once, fun messageId => ?_, fun other member => ?_,
    fun messageId => ?_, ?_, fun other member => ?_, ledger.letters,
    fun message member => ?_, fun delivery member => ?_⟩
  · have balanced := ledger.balanced messageId
    rw [liveCount_append, liveCount_cons] at balanced ⊢
    exact balanced
  · rw [delivered]
    rcases List.mem_append.mp member with earlier | later
    · rw [if_neg (others other (List.mem_append_left _ earlier)).symm]
      exact ledger.counted other (List.mem_append_left _ earlier)
    · rcases List.mem_cons.mp later with rfl | later
      · change entry.receiveCount + 1 = history.deliveredCount entry.messageId +
          if entry.messageId = entry.messageId then 1 else 0
        rw [if_pos rfl, counted]
      · rw [if_neg (others other (List.mem_append_right _ later)).symm]
        exact ledger.counted other (List.mem_append_right _ (List.mem_cons_of_mem _ later))
  · rw [delivered]
    split
    · next isEntry =>
        rw [← isEntry, ← counted]
        exact left
    · exact ledger.limited messageId
  · unfold QueueHistory.deliver
    rw [List.map_append, List.nodup_append]
    refine ⟨ledger.receipts, List.nodup_singleton _, ?_⟩
    intro receipt member other isNew
    obtain ⟨delivery, isDelivered, rfl⟩ := List.mem_map.mp member
    rw [List.map_singleton, List.mem_singleton] at isNew
    rw [isNew]
    exact (ledger.freshDelivered delivery isDelivered).2.ne
  · rcases List.mem_append.mp member with earlier | later
    · exact ledger.bodies other (List.mem_append_left _ earlier)
    · rcases List.mem_cons.mp later with rfl | later
      · exact ledger.bodies entry here
      · exact ledger.bodies other (List.mem_append_right _ (List.mem_cons_of_mem _ later))
  · exact (ledger.freshAccepted message member).trans (Nat.lt_succ_self drawn)
  · rcases List.mem_append.mp member with old | isNew
    · obtain ⟨id, receipt⟩ := ledger.freshDelivered delivery old
      exact ⟨id.trans (Nat.lt_succ_self drawn), receipt.trans (Nat.lt_succ_self drawn)⟩
    · rw [List.mem_singleton.mp isNew]
      exact ⟨(ledger.freshAccepted _ (ledger.bodies entry here)).trans
        (Nat.lt_succ_self drawn), Nat.lt_succ_self drawn⟩

theorem mem_before : before ++ after ⊆ before ++ entry :: after :=
  ((List.sublist_cons_self entry after).append_left before).subset

variable (ledger : Ledger settings (before ++ entry :: after) drawn history)

include ledger

theorem acknowledge :
    Ledger settings (before ++ after) drawn (history.acknowledge entry.messageId) := by
  refine ⟨ledger.once, fun messageId => ?_,
    fun other member => ledger.counted other (mem_before member),
    ledger.limited, ledger.receipts,
    fun other member => ledger.bodies other (mem_before member),
    ledger.letters, ledger.freshAccepted, ledger.freshDelivered⟩
  have balanced := ledger.balanced messageId
  have acknowledged : (history.acknowledge entry.messageId).acknowledgedCount
      messageId = history.acknowledgedCount messageId +
        if entry.messageId = messageId then 1 else 0 := by
    unfold QueueHistory.acknowledgedCount QueueHistory.acknowledge
    rw [List.count_append]
    simp [List.count_cons]
  change history.acceptedCount messageId =
    _ + _ + history.deadCount messageId
  rw [acknowledged, balanced, liveCount_append, liveCount_append, liveCount_cons]
  omega

/-- A message is dead-lettered. -/
theorem bury (reason : String) :
    Ledger settings (before ++ after) drawn
      (history.bury [⟨entry.messageId, entry.body, reason⟩]) := by
  refine ⟨ledger.once, fun messageId => ?_,
    fun other member => ledger.counted other (mem_before member),
    ledger.limited, ledger.receipts,
    fun other member => ledger.bodies other (mem_before member),
    fun letter member => ?_, ledger.freshAccepted, ledger.freshDelivered⟩
  · have balanced := ledger.balanced messageId
    have dead : (history.bury [⟨entry.messageId, entry.body, reason⟩]).deadCount messageId =
          history.deadCount messageId + if entry.messageId = messageId then 1 else 0 := by
      unfold QueueHistory.deadCount QueueHistory.bury
      rw [List.map_append, List.count_append]
      simp [List.count_cons]
    change history.acceptedCount messageId =
      _ + history.acknowledgedCount messageId + _
    rw [dead, balanced, liveCount_append, liveCount_append, liveCount_cons]
    omega
  · rcases List.mem_append.mp member with old | isNew
    · exact ledger.letters letter old
    · rw [List.mem_singleton.mp isNew]
      exact ledger.bodies entry (by simp)

theorem reschedule
    (visibleAt : ℚ) (receipt : Option Uuid) :
    Ledger settings (before ++ { entry with visibleAt := visibleAt, receipt := receipt } ::
        after) drawn history := by
  have here : entry ∈ before ++ entry :: after := by simp
  have kept : ∀ other ∈ before ++
      { entry with visibleAt := visibleAt, receipt := receipt } :: after,
      ∃ known ∈ before ++ entry :: after,
        known.messageId = other.messageId ∧ known.body = other.body ∧
          known.receiveCount = other.receiveCount := by
    intro other member
    rcases List.mem_append.mp member with earlier | later
    · exact ⟨other, List.mem_append_left _ earlier, rfl, rfl, rfl⟩
    · rcases List.mem_cons.mp later with rfl | later
      · exact ⟨entry, here, rfl, rfl, rfl⟩
      · exact ⟨other, List.mem_append_right _ (List.mem_cons_of_mem _ later), rfl, rfl, rfl⟩
  refine ⟨ledger.once, fun messageId => ?_, fun other member => ?_,
    ledger.limited, ledger.receipts, fun other member => ?_, ledger.letters,
    ledger.freshAccepted, ledger.freshDelivered⟩
  · have balanced := ledger.balanced messageId
    rw [liveCount_append, liveCount_cons] at balanced ⊢
    exact balanced
  · obtain ⟨known, isKnown, id, _, count⟩ := kept other member
    rw [← id, ← count]
    exact ledger.counted known isKnown
  · obtain ⟨known, isKnown, id, body, _⟩ := kept other member
    rw [← id, ← body]
    exact ledger.bodies known isKnown

end Ledger
end UrbanFlow
