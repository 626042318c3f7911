import UrbanFlow.Jobs.QueueRuns

/-!
# Where deliveries, acknowledgements and dead letters come from

A delivery is of an accepted message and counts the deliveries of it. A message
is acknowledged by an `ack` of one of its deliveries; it is dead-lettered by a
`reject` of one, or by the queue once it has been delivered as often as the
queue allows. Nothing that was accepted is forgotten.
-/

namespace UrbanFlow

open InMemoryJobQueue QueueHistory

section ReceiveLoop

variable {settings : QueueSettings} {maxMessages : Int} {timeout now : ℚ}
variable {entries : List QueueEntry} {handedOut drawn : Nat}

theorem delivery_of_entry {delivery : Delivery}
    (isDelivered : delivery ∈ (receiveLoop settings maxMessages timeout now
      entries handedOut drawn).deliveries) :
    ∃ entry ∈ entries, delivery.messageId = entry.messageId ∧ delivery.body = entry.body ∧
      delivery.receiveCount = entry.receiveCount + 1 := by
  induction entries generalizing handedOut drawn with
  | nil => exact absurd isDelivered List.not_mem_nil
  | cons first _ ih =>
    unfold receiveLoop at isDelivered
    split at isDelivered
    · exact absurd isDelivered List.not_mem_nil
    · split at isDelivered
      · obtain ⟨entry, member, same⟩ := ih isDelivered
        exact ⟨entry, List.mem_cons_of_mem _ member, same⟩
      · split at isDelivered
        · obtain ⟨entry, member, same⟩ := ih isDelivered
          exact ⟨entry, List.mem_cons_of_mem _ member, same⟩
        · rcases List.mem_cons.mp isDelivered with rfl | later
          · exact ⟨first, List.mem_cons_self, rfl, rfl, rfl⟩
          · obtain ⟨entry, member, same⟩ := ih later
            exact ⟨entry, List.mem_cons_of_mem _ member, same⟩

/-- A message the queue dead-letters was there, with no delivery left. -/
theorem redriven_spent {entry : QueueEntry}
    (isRedriven : entry ∈ (receiveLoop settings maxMessages timeout now
      entries handedOut drawn).redriven) :
    entry ∈ entries ∧ settings.maxReceives < entry.receiveCount + 1 := by
  induction entries generalizing handedOut drawn with
  | nil => exact absurd isRedriven List.not_mem_nil
  | cons _ _ ih =>
    unfold receiveLoop at isRedriven
    split at isRedriven
    · exact absurd isRedriven List.not_mem_nil
    · split at isRedriven
      · exact (ih isRedriven).imp_left (List.mem_cons_of_mem _)
      · split at isRedriven
        · next spent =>
            rcases List.mem_cons.mp isRedriven with rfl | later
            · exact ⟨List.mem_cons_self, spent⟩
            · exact (ih later).imp_left (List.mem_cons_of_mem _)
        · exact (ih isRedriven).imp_left (List.mem_cons_of_mem _)

end ReceiveLoop

namespace QueueWorld

variable {settings : QueueSettings} {world : QueueWorld}

variable {α : Type} {delivery : Delivery} {call : QueueCall} {messageId : Uuid}

/-- What a call leaves of the history, and what it records. -/
theorem history_step (settings : QueueSettings) (world : QueueWorld) (call : QueueCall) :
    (world.step settings call).history = world.history ∨
    (∃ messageId body, (world.step settings call).history = world.history.accept messageId body) ∨
    (∃ maxMessages visibilityTimeout, call = .receive maxMessages visibilityTimeout) ∨
    (∃ delivery, call = .ack delivery ∧
      (world.step settings call).history = world.history.acknowledge delivery.messageId) ∨
    ∃ delivery reason, call = .reject delivery reason ∧ (world.step settings call).history =
        world.history.bury (rejected delivery reason world.queue) := by
  have settled (result : Except StaleReceipt InMemoryJobQueue)
      (record : QueueHistory → QueueHistory) : (world.settle result record).history =
        world.history ∨ (world.settle result record).history = record world.history := by
    cases result with
    | ok => exact .inr rfl
    | error => exact .inl rfl
  cases call with
  | send body =>
    dsimp only [step]
    split
    · exact .inl rfl
    · exact .inr (.inl ⟨_, body, rfl⟩)
  | receive => exact .inr (.inr (.inl ⟨_, _, rfl⟩))
  | ack delivery =>
    exact (settled _ _).imp_right fun same => .inr (.inr (.inl ⟨delivery, rfl, same⟩))
  | nack delivery delaySeconds | extend delivery seconds => exact .inl ((settled _ id).elim id id)
  | reject delivery reason =>
    exact (settled _ _).imp_right fun same => .inr (.inr (.inr ⟨delivery, reason, rfl, same⟩))
  | advance => exact .inl rfl

/-- Nothing accepted is forgotten. -/
theorem accepted_step {message : Uuid × String} (accepted : message ∈ world.history.accepted)
    (call : QueueCall) : message ∈ (world.step settings call).history.accepted := by
  rcases history_step settings world call with
    same | ⟨_, _, same⟩ | ⟨_, _, rfl⟩ | ⟨_, _, same⟩ | ⟨_, _, _, same⟩
  · exact same ▸ accepted
  · exact same ▸ List.mem_append_left _ accepted
  · exact accepted
  · exact same ▸ accepted
  · exact same ▸ accepted

/-- Nothing delivered is forgotten. -/
theorem delivered_step (isDelivered : delivery ∈ world.history.delivered) (call : QueueCall) :
    delivery ∈ (world.step settings call).history.delivered := by
  have extended : (world.step settings call).history.Extends world.history := step_extends call
  obtain ⟨deliveries, isLater⟩ := extended.delivered
  rw [isLater]
  exact List.mem_append_left _ isDelivered

/-- A delivery is of an accepted message, and counts no more deliveries than
there have been. -/
def Traced (world : QueueWorld) : Prop := ∀ delivery ∈ world.history.delivered,
    (delivery.messageId, delivery.body) ∈ world.history.accepted ∧
      delivery.receiveCount ≤ world.history.deliveredCount delivery.messageId

theorem delivered_cases (isDelivered : delivery ∈ (world.step settings call).history.delivered) :
    delivery ∈ world.history.delivered ∨ ∃ maxMessages visibilityTimeout,
        call = .receive maxMessages visibilityTimeout ∧
          delivery ∈ (world.queue.received settings maxMessages
            visibilityTimeout world.now).deliveries := by
  rcases history_step settings world call with
    same | ⟨_, _, same⟩ | ⟨_, _, rfl⟩ | ⟨_, _, same⟩ | ⟨_, _, _, same⟩
  · exact .inl (same ▸ isDelivered)
  · rw [same] at isDelivered
    exact .inl isDelivered
  · exact (List.mem_append.mp isDelivered).imp_right fun isNew => ⟨_, _, rfl, isNew⟩
  · rw [same] at isDelivered
    exact .inl isDelivered
  · rw [same] at isDelivered
    exact .inl isDelivered

theorem step_traced (sound : Sound settings world) (traced : world.Traced) (call : QueueCall) :
    (world.step settings call).Traced := by
  intro delivery isDelivered
  rcases delivered_cases isDelivered with
    old | ⟨maxMessages, visibilityTimeout, rfl, isNew⟩
  · obtain ⟨accepted, counted⟩ := traced delivery old
    exact ⟨accepted_step accepted call, counted.trans ((step_extends call).deliveredCount_le _)⟩
  · obtain ⟨entry, member, sameId, sameBody, counts⟩ := delivery_of_entry isNew
    rw [sameId, sameBody, counts, sound.ledger.counted entry member]
    refine ⟨sound.ledger.bodies entry member, ?_⟩
    -- This delivery is one more than those before the receive.
    unfold deliveredCount
    change _ ≤ ((world.history.delivered ++ _).map _).count _
    rw [List.map_append, List.count_append, ← sameId]
    apply Nat.add_le_add_left
    exact List.count_pos_iff.mpr (List.mem_map_of_mem isNew)

theorem acknowledged_cases
    (isAcknowledged : messageId ∈ (world.step settings call).history.acknowledged) :
    messageId ∈ world.history.acknowledged ∨
      ∃ delivery, call = .ack delivery ∧ delivery.messageId = messageId := by
  rcases history_step settings world call with
    same | ⟨_, _, same⟩ | ⟨_, _, rfl⟩ | ⟨delivery, isAck, same⟩ | ⟨_, _, _, same⟩
  · exact .inl (same ▸ isAcknowledged)
  · rw [same] at isAcknowledged
    exact .inl isAcknowledged
  · exact .inl isAcknowledged
  · rw [same] at isAcknowledged
    exact (List.mem_append.mp isAcknowledged).imp_right fun isNew =>
      ⟨delivery, isAck, (List.mem_singleton.mp isNew).symm⟩
  · rw [same] at isAcknowledged
    exact .inl isAcknowledged

theorem deadLettered_cases {letter : DeadLetter} (sound : Sound settings world)
    (isDead : letter ∈ (world.step settings call).history.deadLettered) :
    letter ∈ world.history.deadLettered ∨
      settings.maxReceives ≤ world.history.deliveredCount letter.messageId ∨
      ∃ delivery, call = .reject delivery letter.reason ∧
        delivery.messageId = letter.messageId := by
  rcases history_step settings world call with
    same | ⟨_, _, same⟩ | ⟨_, _, rfl⟩ | ⟨_, _, same⟩ | ⟨delivery, reason, isReject, same⟩
  · exact .inl (same ▸ isDead)
  · rw [same] at isDead
    exact .inl isDead
  · rcases List.mem_append.mp isDead with old | isNew
    · exact .inl old
    · obtain ⟨entry, isRedriven, rfl⟩ := List.mem_map.mp isNew
      obtain ⟨member, spent⟩ := redriven_spent isRedriven
      rw [sound.ledger.counted entry member] at spent
      exact .inr (.inl (Nat.le_of_lt_succ spent))
  · rw [same] at isDead
    exact .inl isDead
  · rw [same] at isDead
    rcases List.mem_append.mp isDead with old | isNew
    · exact .inl old
    · unfold rejected at isNew
      split at isNew
      · next entry found =>
          rw [List.mem_singleton.mp isNew]
          exact .inr (.inr ⟨delivery, isReject, (current_messageId found).symm⟩)
      · exact absurd isNew List.not_mem_nil

theorem body_unique (sound : Sound settings world) {body other : String}
    (accepted : (messageId, body) ∈ world.history.accepted)
    (acceptedOther : (messageId, other) ∈ world.history.accepted) : body = other := by
  have distinct : (world.history.accepted.map Prod.fst).Nodup :=
    List.nodup_iff_count_le_one.mpr sound.ledger.once
  have same := List.inj_on_of_nodup_map distinct accepted acceptedOther rfl
  exact congrArg Prod.snd same

end QueueWorld
end UrbanFlow
