import Mathlib.Data.List.ReduceOption
import UrbanFlow.V2x.BusRuns

/-!
# Two channels of one seed

Runs of two buses that are called alike, with handlers that leave the bus alone. Every
transmission uses the same draws on either side, so a larger loss probability only takes
messages away and a larger latency only delays them.
-/

namespace UrbanFlow

open QueuedMessage BusRun InProcessBus

variable {K Message Handler : Type} [Field K] [LinearOrder K]

/-! ## Calls from outside -/

/-- A call of a bus from outside. -/
inductive OutsideCall (K Message Handler : Type)
  | subscribe (sub : Subscription K Handler)
  | publish (publication : Publication K Message)
  | advanceTo (t : K)

namespace BusWorld

/-- An advance going on with its loop so many times. -/
def drain : Nat → BusWorld K Message Handler → BusWorld K Message Handler
  | 0, world => world
  | rounds + 1, world => drain rounds world.next

/-- A call from outside. An advance hands out what is due, and every handler returns
without having called the bus. -/
def serve (channel : Channel K) (world : BusWorld K Message Handler) :
    OutsideCall K Message Handler → BusWorld K Message Handler
  | .subscribe sub => world.step channel (.subscribe sub)
  | .publish publication => world.publish channel publication
  | .advanceTo t => drain (world.bus.queue.length + 1) (world.step channel (.advanceTo t))

/-- A new bus after some calls. -/
def serveAll (channel : Channel K)
    (calls : List (OutsideCall K Message Handler)) : BusWorld K Message Handler :=
  calls.foldl (serve channel) {}

section

variable (world : BusWorld K Message Handler)

/-- The envelopes that have been handed to their receivers, in this order. -/
def handedOut : List (Envelope K Message) := world.delivered.map fun handed => handed.item.envelope

/-- What became of each transmission: the message it queued, if any. -/
def sends : List (Option (QueuedMessage K Message Handler)) := world.attempts.map Attempt.queued

end

/-! ## An advance -/

/-- A bus on which no advance is running, with nothing handed out before its time. -/
structure Idle (world : BusWorld K Message Handler) : Prop where
  sound : world.Sound
  running : world.running = []

theorem drain_idle {world : BusWorld K Message Handler} (isIdle : world.running = [])
    (rounds : Nat) : drain rounds world = world := by
  induction rounds with
  | zero => rfl
  | succ _ ih =>
    have isSame : world.next = world := by
      unfold next
      rw [isIdle]
    rw [drain, isSame, ih]

/-- What an advance to `t` leaves of a bus: all that is due has been handed out, and
nothing else. -/
structure Advanced (t : K) (before after : BusWorld K Message Handler) : Prop where
  idle : after.Idle
  now : after.bus.now = t
  subs : after.bus.subs = before.bus.subs
  drawn : after.bus.drawn = before.bus.drawn
  attempts : after.attempts = before.attempts
  pending : ∀ item ∈ after.bus.queue, t < item.due
  passed : ∀ handed ∈ after.delivered, handed.item.due ≤ t

theorem drain_advanced {t : K} {rounds : Nat} {world : BusWorld K Message Handler}
    (sound : world.Sound) (isRunning : world.running = [t]) (isAhead : world.bus.now ≤ t)
    (enough : world.bus.queue.length < rounds) : Advanced t world (drain rounds world) := by
  induction rounds generalizing world with
  | zero => exact absurd enough (Nat.not_lt_zero _)
  | succ _ ih =>
    have soundNext := next_sound sound
    unfold drain
    cases isNext : world.bus.nextDue t with
    | some item =>
      have isStep : world.next = { world with
            bus := world.bus.handOut item
            delivered := world.delivered ++ [⟨item, (world.bus.handOut item).now⟩] } := by
        unfold next
        rw [isRunning]
        dsimp only
        rw [isNext]
      have isDue : item.due ≤ t ∧ 0 < world.bus.queue.length := by
        unfold nextDue at isNext
        split at isNext
        · cases isNext
        · next head rest isQueue =>
            split at isNext
            · next isDue =>
                cases isNext
                exact ⟨isDue, by simp [isQueue]⟩
            · cases isNext
      have later := @ih world.next soundNext (by rw [isStep]; exact isRunning)
        (by rw [isStep]; exact max_le isAhead isDue.1)
        (by
          rw [isStep]
          simp only [handOut, List.length_tail]
          omega)
      rw [isStep] at later ⊢
      exact ⟨later.idle, later.now, later.subs, later.drawn, later.attempts,
        later.pending, later.passed⟩
    | none =>
      have isStep : world.next = { world with bus := world.bus.finish t, running := [] } := by
        unfold next
        rw [isRunning]
        dsimp only
        rw [isNext]
      have noneDue : ∀ item ∈ world.bus.queue, t < item.due := by
        unfold nextDue at isNext
        split at isNext
        · next isQueue => simp [isQueue]
        · next head rest isQueue =>
            split at isNext
            · cases isNext
            · next notDue =>
                have inOrder := (List.pairwise_append.mp sound.ordered).2.1
                rw [isQueue] at inOrder ⊢
                intro item isMem
                obtain rfl | isLater := List.mem_cons.mp isMem
                · exact not_le.mp notDue
                · apply (not_le.mp notDue).trans_le
                  obtain less | ⟨same, -⟩ := (List.pairwise_cons.mp inOrder).1 item isLater
                  · exact less.le
                  · exact same.le
      rw [isStep, drain_idle rfl]
      rw [isStep] at soundNext
      exact ⟨⟨soundNext, rfl⟩, max_eq_right isAhead, rfl, rfl, rfl, noneDue, fun handed isMem =>
          ((sound.punctual handed isMem).1.trans (sound.punctual handed isMem).2).trans isAhead⟩

theorem Advanced.delivered_perm {t : K} {before after : BusWorld K Message Handler}
    (advanced : Advanced t before after) : (after.delivered.map HandedOut.item).Perm
      ((after.sends.reduceOption).filter fun item => item.due ≤ t) := by
  have areSends : after.sends.reduceOption = after.attempts.filterMap Attempt.queued := by
    simp [sends, List.reduceOption, List.filterMap_map]
  have areKept : (after.delivered.map HandedOut.item).filter (fun item => item.due ≤ t) =
      after.delivered.map HandedOut.item := by
    rw [List.filter_eq_self]
    intro item isMem
    obtain ⟨handed, isHanded, rfl⟩ := List.mem_map.mp isMem
    exact decide_eq_true (advanced.passed handed isHanded)
  have areLeft : after.bus.queue.filter (fun item => item.due ≤ t) = [] := by
    rw [List.filter_eq_nil_iff]
    intro item isMem
    simpa using advanced.pending item isMem
  have conserved := advanced.idle.sound.conserved.filter fun item => item.due ≤ t
  rw [List.filter_append, areKept, areLeft, List.append_nil] at conserved
  rw [areSends]
  exact conserved

end BusWorld

/-! ## Coupled transmissions -/

namespace InProcessBus

/-- The message that a transmission queues, if any. -/
def sent (channel : Channel K) (topic : String) (publication : Publication K Message)
    (sub : Subscription K Handler) (bus : InProcessBus K Message Handler) :
    Option (QueuedMessage K Message Handler) :=
  let tx := bus.transmission channel publication sub
  if tx.delivered then some (bus.queued topic publication sub tx.latencyS) else none

/-- Two channels queue messages that compare, wherever they have drawn alike. -/
def TransmitAlike (Message Handler : Type) (compares : Option (QueuedMessage K Message Handler) →
      Option (QueuedMessage K Message Handler) → Prop)
    (channel other : Channel K) : Prop :=
  ∀ topic publication sub (bus bus' : InProcessBus K Message Handler), bus.drawn = bus'.drawn →
      compares (bus.sent channel topic publication sub) (bus'.sent other topic publication sub)

variable {channel other : Channel K} {topic : String} {publication : Publication K Message}

section

variable (channel : Channel K) (topic : String) (publication : Publication K Message)

/-- A transmission uses two draws. -/
theorem attempt_frame (sub : Subscription K Handler) (bus : InProcessBus K Message Handler) :
    (bus.attempt channel topic publication sub).now = bus.now ∧
      (bus.attempt channel topic publication sub).subs = bus.subs ∧
      (bus.attempt channel topic publication sub).drawn = bus.drawn + 2 := by
  dsimp only [attempt]
  split_ifs
  · exact ⟨rfl, rfl, rfl⟩
  · exact ⟨rfl, rfl, rfl⟩
  · exact ⟨rfl, rfl, rfl⟩

theorem publishLoop_frame (subs : List (Subscription K Handler))
    (bus : InProcessBus K Message Handler) :
    (publishLoop channel topic publication subs bus).now = bus.now ∧
      (publishLoop channel topic publication subs bus).subs = bus.subs := by
  induction subs generalizing bus with
  | nil => exact ⟨rfl, rfl⟩
  | cons sub _ ih =>
    obtain ⟨isNow, areSubs, -⟩ := attempt_frame channel topic publication sub bus
    unfold publishLoop
    split_ifs
    · obtain ⟨laterNow, laterSubs⟩ := ih (bus.attempt channel topic publication sub)
      exact ⟨laterNow.trans isNow, laterSubs.trans areSubs⟩
    · exact ih bus

end

theorem publishLoop_alike {compares : Option (QueuedMessage K Message Handler) →
      Option (QueuedMessage K Message Handler) → Prop}
    (alike : TransmitAlike Message Handler compares channel other)
    (subs : List (Subscription K Handler)) {bus bus' : InProcessBus K Message Handler}
    (drawn : bus.drawn = bus'.drawn) : (publishLoop channel topic publication subs bus).drawn =
        (publishLoop other topic publication subs bus').drawn ∧
      List.Forall₂ compares ((attempts channel topic publication subs bus).map Attempt.queued)
        ((attempts other topic publication subs bus').map Attempt.queued) := by
  induction subs generalizing bus bus' with
  | nil => exact ⟨drawn, List.Forall₂.nil⟩
  | cons sub _ ih =>
    unfold publishLoop attempts
    split_ifs with isMatch
    · have drawnOn := (attempt_frame channel topic publication sub bus).2.2
      have drawnOn' := (attempt_frame other topic publication sub bus').2.2
      obtain ⟨later, areSent⟩ := ih (show (bus.attempt channel topic publication sub).drawn =
          (bus'.attempt other topic publication sub).drawn by omega)
      exact ⟨later, List.Forall₂.cons (alike topic publication sub bus bus' drawn) areSent⟩
    · exact ih drawn

end InProcessBus

/-! ## Coupled runs -/

namespace BusWorld

/-- Two buses that have been called alike: the messages they queued compare. -/
structure Coupled (compares : Option (QueuedMessage K Message Handler) →
      Option (QueuedMessage K Message Handler) → Prop)
    (world world' : BusWorld K Message Handler) : Prop where
  idle : world.Idle
  idle' : world'.Idle
  now : world.bus.now = world'.bus.now
  subs : world.bus.subs = world'.bus.subs
  drawn : world.bus.drawn = world'.bus.drawn
  sends : List.Forall₂ compares world.sends world'.sends

/-- A publication raises, whatever the channel, or is transmitted. -/
theorem publish_cases (publication : Publication K Message) (world : BusWorld K Message Handler) :
    (∀ channel, world.publish channel publication = world) ∧
        (topicFor publication.kind publication.node).isOk = false ∨
      (∀ channel, world.publish channel publication = world) ∧ publication.now < world.bus.now ∨
      ∃ topic, topicFor publication.kind publication.node = .ok topic ∧
        ¬ publication.now < world.bus.now ∧
        ∀ channel, world.publish channel publication = { world with
            bus := publishLoop channel topic publication world.bus.subs
              world.bus.countPublished
            attempts := world.attempts ++
              InProcessBus.attempts channel topic publication world.bus.subs
                world.bus.countPublished } := by
  cases isTopic : topicFor publication.kind publication.node with
  | error =>
    refine .inl ⟨fun channel => ?_, rfl⟩
    unfold publish
    rw [isTopic]
  | ok topic =>
    by_cases isPast : publication.now < world.bus.now
    · refine .inr (.inl ⟨fun channel => ?_, isPast⟩)
      unfold publish InProcessBus.publish
      rw [isTopic]
      simp [bind, Except.bind, isPast]
    · refine .inr (.inr ⟨topic, rfl, isPast, fun channel => ?_⟩)
      unfold publish InProcessBus.publish
      rw [isTopic]
      simp [bind, Except.bind, isPast]

theorem coupled_new {compares : Option (QueuedMessage K Message Handler) →
      Option (QueuedMessage K Message Handler) → Prop} :
    Coupled compares ({} : BusWorld K Message Handler) {} := by
  have sound : ({} : BusWorld K Message Handler).Sound :=
    ⟨rfl, ⟨rfl, rfl⟩, .nil, .nil, nofun,
      nofun, .nil,
      nofun⟩
  exact ⟨⟨sound, rfl⟩, ⟨sound, rfl⟩, rfl, rfl, rfl, .nil⟩

theorem Coupled.advanced {compares : Option (QueuedMessage K Message Handler) →
      Option (QueuedMessage K Message Handler) → Prop}
    {world world' after after' : BusWorld K Message Handler}
    {t : K}
    (coupled : Coupled compares world world')
    (advanced : Advanced t world after)
    (advanced' : Advanced t world' after') :
    Coupled compares after after' where
  idle := advanced.idle
  idle' := advanced'.idle
  now := advanced.now.trans advanced'.now.symm
  subs := advanced.subs.trans (coupled.subs.trans advanced'.subs.symm)
  drawn := advanced.drawn.trans (coupled.drawn.trans advanced'.drawn.symm)
  sends := by
    change List.Forall₂ compares (after.attempts.map _) (after'.attempts.map _)
    rw [advanced.attempts, advanced'.attempts]
    exact coupled.sends

section

variable [IsStrictOrderedRing K] {channel other : Channel K}
  {compares : Option (QueuedMessage K Message Handler) →
    Option (QueuedMessage K Message Handler) → Prop}
  {world world' : BusWorld K Message Handler}

theorem Coupled.publish (alike : TransmitAlike Message Handler compares channel other)
    (coupled : Coupled compares world world') (publication : Publication K Message) :
    Coupled compares (world.publish channel publication) (world'.publish other publication) := by
  have sound : (world.publish channel publication).Sound :=
    publish_sound coupled.idle.sound publication
  have sound' : (world'.publish other publication).Sound :=
    publish_sound coupled.idle'.sound publication
  obtain ⟨isSame, isError⟩ | ⟨isSame, isPast⟩ | ⟨topic, isTopic, notPast, isPublished⟩ :=
    publish_cases publication world
  · obtain ⟨isSame', -⟩ | ⟨isSame', -⟩ | ⟨topic, isTopic, -⟩ := publish_cases publication world'
    · rwa [isSame, isSame']
    · rwa [isSame, isSame']
    · rw [isTopic] at isError
      cases isError
  · obtain ⟨isSame', -⟩ | ⟨isSame', -⟩ | ⟨topic, -, notPast, -⟩ := publish_cases publication world'
    · rwa [isSame, isSame']
    · rwa [isSame, isSame']
    · exact absurd (coupled.now ▸ isPast) notPast
  · obtain ⟨-, isError⟩ | ⟨-, isPast⟩ | ⟨topic', isTopic', -, isPublished'⟩ :=
      publish_cases publication world'
    · rw [isTopic] at isError
      cases isError
    · exact absurd (coupled.now ▸ isPast) notPast
    · cases isTopic.symm.trans isTopic'
      have isNow := publishLoop_frame channel topic publication world.bus.subs
        world.bus.countPublished
      have isNow' := publishLoop_frame other topic publication
        world'.bus.subs world'.bus.countPublished
      obtain ⟨drawn, areSent⟩ := @publishLoop_alike _ _ _ _ _ _ _ topic
        publication _ alike world.bus.subs world.bus.countPublished
        world'.bus.countPublished coupled.drawn
      rw [isPublished] at sound ⊢
      rw [isPublished'] at sound' ⊢
      refine ⟨⟨sound, coupled.idle.running⟩, ⟨sound', coupled.idle'.running⟩,
        isNow.1.trans (coupled.now.trans isNow'.1.symm),
        isNow.2.trans (coupled.subs.trans isNow'.2.symm), ?_, ?_⟩
      · rw [← coupled.subs]
        exact drawn
      · change List.Forall₂ compares ((world.attempts ++ _).map _) ((world'.attempts ++ _).map _)
        rw [List.map_append, List.map_append, ← coupled.subs]
        exact List.rel_append coupled.sends areSent

theorem Coupled.subscribe (coupled : Coupled compares world world') (sub : Subscription K Handler) :
    Coupled compares (world.step channel (.subscribe sub))
      (world'.step other (.subscribe sub)) := by
  have sound : (world.step channel (.subscribe sub)).Sound :=
    step_sound coupled.idle.sound (.subscribe sub)
  have sound' : (world'.step other (.subscribe sub)).Sound :=
    step_sound coupled.idle'.sound (.subscribe sub)
  dsimp only [step, InProcessBus.subscribe] at sound sound' ⊢
  cases isTopic : topicFor sub.kind (if sub.node = "+" then "x" else sub.node) with
  | error => exact coupled
  | ok =>
    rw [isTopic] at sound sound'
    exact ⟨⟨sound, coupled.idle.running⟩, ⟨sound', coupled.idle'.running⟩,
      coupled.now, congrArg (· ++ [sub]) coupled.subs, coupled.drawn, coupled.sends⟩

/-- An advance raises, whatever the channel, or hands out all that is due. -/
theorem advance_cases (channel : Channel K) (isIdle : world.Idle) (t : K) :
    t < world.bus.now ∧ world.serve channel (.advanceTo t) = world ∨
      world.bus.now ≤ t ∧ Advanced t world (world.serve channel (.advanceTo t)) := by
  dsimp only [serve, step]
  by_cases isPast : t < world.bus.now
  · rw [if_pos isPast]
    exact .inl ⟨isPast, drain_idle isIdle.running _⟩
  · have isAhead := not_lt.mp isPast
    have started : ({ world with running := t :: world.running } :
        BusWorld K Message Handler).Sound := by
      have sound : (world.step channel (.advanceTo t)).Sound :=
        step_sound isIdle.sound (.advanceTo t)
      rwa [step, if_neg isPast] at sound
    rw [if_neg isPast]
    have advanced := drain_advanced started (by rw [isIdle.running]) isAhead (Nat.lt_succ_self _)
    exact .inr ⟨isAhead, advanced.idle, advanced.now, advanced.subs, advanced.drawn,
      advanced.attempts, advanced.pending, advanced.passed⟩

/-- An advance leaves both buses as they are, or has handed out what is due on either. -/
theorem Coupled.advance (coupled : Coupled compares world world') (t : K) :
    world.serve channel (.advanceTo t) = world ∧ world'.serve other (.advanceTo t) = world' ∨
      Advanced t world (world.serve channel (.advanceTo t)) ∧
        Advanced t world' (world'.serve other (.advanceTo t)) := by
  obtain ⟨isPast, isSame⟩ | ⟨isAhead, advanced⟩ := advance_cases channel coupled.idle t
  · obtain ⟨-, isSame'⟩ | ⟨isAhead', -⟩ := advance_cases other coupled.idle' t
    · exact .inl ⟨isSame, isSame'⟩
    · exact absurd (coupled.now ▸ isPast) (not_lt.mpr isAhead')
  · obtain ⟨isPast', -⟩ | ⟨-, advanced'⟩ := advance_cases other coupled.idle' t
    · exact absurd isPast' (not_lt.mpr (coupled.now ▸ isAhead))
    · exact .inr ⟨advanced, advanced'⟩

/-- Calls that are the same on both sides keep a relation between what has been handed
out, if every advance establishes it. -/
theorem coupled_serveAll {related : BusWorld K Message Handler → BusWorld K Message Handler → Prop}
    (alike : TransmitAlike Message Handler compares channel other)
    (isNew : related {} {}) (unchanged : ∀ {world world' after after' : BusWorld K Message Handler},
      Coupled compares after after' → after.delivered = world.delivered →
      after'.delivered = world'.delivered → related world world' → related after after')
    (advances : ∀ {world world' after after' : BusWorld K Message Handler} {t : K},
      Coupled compares after after' →
      Advanced t world after → Advanced t world' after' → related after after')
    (calls : List (OutsideCall K Message Handler)) :
    Coupled compares (serveAll channel calls) (serveAll other calls) ∧
      related (serveAll channel calls) (serveAll other calls) := by
  induction calls using List.reverseRecOn with
  | nil => exact ⟨coupled_new, isNew⟩
  | append_singleton _ call ih =>
    obtain ⟨coupled, areRelated⟩ := ih
    unfold serveAll at coupled areRelated ⊢
    rw [List.foldl_concat, List.foldl_concat]
    cases call with
    | subscribe sub =>
      have later : Coupled compares _ _ := @Coupled.subscribe _ _ _ _ _ _ channel
        other _ _ _ coupled sub
      refine ⟨later, unchanged later ?_ ?_ areRelated⟩
      · dsimp only [serve, step]
        split <;> rfl
      · dsimp only [serve, step]
        split <;> rfl
    | publish publication =>
      have later := coupled.publish alike publication
      refine ⟨later, unchanged later ?_ ?_ areRelated⟩
      · dsimp only [serve, BusWorld.publish]
        split <;> rfl
      · dsimp only [serve, BusWorld.publish]
        split <;> rfl
    | advanceTo t =>
      obtain ⟨isSame, isSame'⟩ | ⟨advanced, advanced'⟩ :=
        @Coupled.advance _ _ _ _ _ _ channel other _ _ _ coupled t
      · rw [isSame, isSame']
        exact ⟨coupled, areRelated⟩
      · have later := coupled.advanced advanced advanced'
        exact ⟨later, advances later advanced advanced'⟩

end

end BusWorld

/-! ## A larger loss probability -/

/-- Two channels of one seed that differ by a loss probability only. -/
structure Channel.Lossier (lossier channel : Channel K) : Prop where
  math : lossier.math = channel.math
  draws : lossier.draws = channel.draws
  latencyKind : lossier.config.latencyKind = channel.config.latencyKind
  latencyMs : lossier.config.latencyMs = channel.config.latencyMs
  jitterMs : lossier.config.jitterMs = channel.config.jitterMs
  rangeM : lossier.config.rangeM = channel.config.rangeM
  loss : channel.config.lossProbability ≤ lossier.config.lossProbability

/-- A message is queued with the same envelope, or not at all. -/
def QueuedMessage.Loses (sent sent' : Option (QueuedMessage K Message Handler)) : Prop :=
  ∀ item, sent = some item →
    ∃ item', sent' = some item' ∧ item'.due = item.due ∧ item'.envelope = item.envelope

/-- Every draw that a channel loses, a lossier one loses as well. -/
theorem Channel.Lossier.transmit {lossier channel : Channel K}
    (isLossier : lossier.Lossier channel) (distanceM : K) (drawn : Nat)
    (isDelivered : (lossier.transmit distanceM drawn).1.delivered = true) :
    (channel.transmit distanceM drawn).1 = (lossier.transmit distanceM drawn).1 := by
  have sameRange : lossier.beyondRange distanceM = channel.beyondRange distanceM := by
    unfold Channel.beyondRange
    rw [isLossier.rangeM]
  have sameLatency : lossier.latencyS = channel.latencyS := by
    funext u
    dsimp only [Channel.latencyS]
    rw [isLossier.latencyKind, isLossier.latencyMs, isLossier.jitterMs, isLossier.math]
  unfold Channel.transmit at isDelivered ⊢
  dsimp only at isDelivered ⊢
  rw [sameRange, isLossier.draws] at isDelivered
  rw [sameRange, sameLatency, isLossier.draws]
  by_cases isBeyond : channel.beyondRange distanceM
  · simp [isBeyond]
  · by_cases isLost : (channel.draws drawn).value < lossier.config.lossProbability
    · simp [isBeyond, isLost] at isDelivered
    · have notLost : ¬ (channel.draws drawn).value < channel.config.lossProbability :=
        fun isLess => isLost (isLess.trans_le isLossier.loss)
      simp [isBeyond, isLost, notLost]

theorem Channel.Lossier.alike {lossier channel : Channel K} (isLossier : lossier.Lossier channel) :
    TransmitAlike Message Handler Loses lossier channel := by
  intro topic publication sub bus bus' drawn item isSent
  have sameDistance : distance lossier.math publication sub =
      distance channel.math publication sub := by
    rw [isLossier.math]
  unfold sent transmission at isSent ⊢
  dsimp only at isSent ⊢
  rw [sameDistance] at isSent
  split at isSent
  · next isDelivered =>
      cases isSent
      have isSame := isLossier.transmit _ _ isDelivered
      rw [← drawn, isSame, if_pos isDelivered]
      exact ⟨_, rfl, rfl, rfl⟩
  · cases isSent

/-! ## A larger latency -/

/-- Two channels of one seed that differ by a latency only. -/
structure Channel.Slower (slower channel : Channel K) : Prop where
  math : slower.math = channel.math
  draws : slower.draws = channel.draws
  latencyKind : slower.config.latencyKind = channel.config.latencyKind
  latencyMs : channel.config.latencyMs ≤ slower.config.latencyMs
  jitterMs : slower.config.jitterMs = channel.config.jitterMs
  rangeM : slower.config.rangeM = channel.config.rangeM
  loss : slower.config.lossProbability = channel.config.lossProbability

/-- The same message for the same receiver, delivered no earlier. -/
structure Envelope.NoEarlier (envelope other : Envelope K Message) : Prop where
  topic : envelope.topic = other.topic
  message : envelope.message = other.message
  sentAt : envelope.sentAt = other.sentAt
  receiver : envelope.receiver = other.receiver
  deliveredAt : other.deliveredAt ≤ envelope.deliveredAt

/-- The same message is queued on either side, for no earlier delivery. -/
structure QueuedMessage.NoEarlier (item other : QueuedMessage K Message Handler) : Prop where
  due : other.due ≤ item.due
  envelope : item.envelope.NoEarlier other.envelope

theorem Channel.Slower.latencyS [IsStrictOrderedRing K] {slower channel : Channel K}
    (isSlower : slower.Slower channel) (u : K) : channel.latencyS u ≤ slower.latencyS u := by
  dsimp only [Channel.latencyS]
  rw [isSlower.latencyKind, isSlower.jitterMs, isSlower.math]
  have isLarger := isSlower.latencyMs
  apply div_le_div_of_nonneg_right _ (by positivity)
  cases channel.config.latencyKind with
  | constant => exact isLarger
  | uniform => exact max_le_max_left 0 (by linarith)
  | exponential => linarith

theorem Channel.Slower.transmit [IsStrictOrderedRing K] {slower channel : Channel K}
    (isSlower : slower.Slower channel) (distanceM : K) (drawn : Nat) :
    (slower.transmit distanceM drawn).1.delivered = (channel.transmit distanceM drawn).1.delivered ∧
      (channel.transmit distanceM drawn).1.latencyS ≤
        (slower.transmit distanceM drawn).1.latencyS := by
  have sameRange : slower.beyondRange distanceM = channel.beyondRange distanceM := by
    unfold Channel.beyondRange
    rw [isSlower.rangeM]
  dsimp only [Channel.transmit]
  rw [sameRange, isSlower.draws, isSlower.loss]
  split_ifs
  · exact ⟨rfl, le_rfl⟩
  · exact ⟨rfl, le_rfl⟩
  · exact ⟨rfl, isSlower.latencyS _⟩

theorem Channel.Slower.alike [IsStrictOrderedRing K] {slower channel : Channel K}
    (isSlower : slower.Slower channel) :
    TransmitAlike Message Handler (Option.Rel NoEarlier)
      slower channel := by
  intro topic publication sub bus bus' drawn
  have sameDistance : distance slower.math publication sub =
      distance channel.math publication sub := by
    rw [isSlower.math]
  obtain ⟨sameDelivered, isLater⟩ := isSlower.transmit
    (distance channel.math publication sub) bus'.drawn
  unfold sent transmission
  dsimp only
  rw [sameDistance, drawn, sameDelivered]
  split
  · have isDue := add_le_add_right isLater publication.now
    exact .some ⟨isDue, rfl, rfl, rfl, rfl, isDue⟩
  · exact .none

/-- A channel that only delays queues as many messages. -/
theorem QueuedMessage.forall₂_reduceOption {K Message Handler : Type} [LinearOrder K]
    {sends sends' : List (Option (QueuedMessage K Message Handler))}
    (compare : List.Forall₂ (Option.Rel NoEarlier) sends sends') :
    List.Forall₂ NoEarlier sends.reduceOption sends'.reduceOption := by
  induction compare with
  | nil => exact .nil
  | cons isSent _ ih =>
    cases isSent with
    | none => exact ih
    | some isLater => exact .cons isLater ih

/-! ## What both runs hand out -/

namespace BusWorld

section

variable (related : Envelope K Message → Envelope K Message → Prop)

/-- Everything that is handed out on one side is handed out on the other, with related
envelopes. -/
def Matched (world world' : BusWorld K Message Handler) : Prop :=
  ∃ paired, paired.Subperm world'.handedOut ∧ List.Forall₂ related world.handedOut paired

/-- The envelopes that still wait to be handed out. -/
def pending (world : BusWorld K Message Handler) : List (Envelope K Message) :=
  world.bus.queue.map envelope

/-- A message that is queued on one side is queued on the other, for no later delivery. -/
def Carries
    (compares : Option (QueuedMessage K Message Handler) → Option (QueuedMessage K Message Handler) → Prop) : Prop :=
  ∀ item sent', compares (some item) sent' →
    ∃ item', sent' = some item' ∧ item'.due ≤ item.due ∧ related item.envelope item'.envelope

end

variable {related : Envelope K Message → Envelope K Message → Prop}
  {compares : Option (QueuedMessage K Message Handler) →
    Option (QueuedMessage K Message Handler) → Prop}

omit [Field K] in
theorem Carries.paired (carries : Carries related compares)
    {sends sends' : List (Option (QueuedMessage K Message Handler))}
    (compare : List.Forall₂ compares sends sends') (t : K) :
    ∃ paired, paired.Sublist (sends'.reduceOption.filter fun item => item.due ≤ t) ∧
      List.Forall₂ (fun item item' => related item.envelope item'.envelope)
        (sends.reduceOption.filter fun item => item.due ≤ t) paired := by
  induction compare with
  | nil => exact ⟨[], .slnil, .nil⟩
  | @cons sent sent' sends sends' isSent _ ih =>
    obtain ⟨paired, isSublist, arePaired⟩ := ih
    have longer : paired.Sublist
        ((sent' :: sends').reduceOption.filter fun item => item.due ≤ t) := by
      cases sent' with
      | none => exact isSublist
      | some item' =>
        rw [List.reduceOption_cons_of_some]
        exact isSublist.trans ((List.sublist_cons_self item' _).filter _)
    cases sent with
    | none => exact ⟨paired, longer, arePaired⟩
    | some item =>
      obtain ⟨item', rfl, isEarlier, isRelated⟩ := carries item sent' isSent
      rw [List.reduceOption_cons_of_some item sends]
      by_cases isDue : item.due ≤ t
      · refine ⟨item' :: paired, ?_, ?_⟩
        · rw [List.reduceOption_cons_of_some,
            List.filter_cons_of_pos (by simpa using isEarlier.trans isDue)]
          exact isSublist.cons_cons item'
        · rw [List.filter_cons_of_pos (by simpa using isDue)]
          exact .cons isRelated arePaired
      · rw [List.filter_cons_of_neg (by simpa using isDue)]
        exact ⟨paired, longer, arePaired⟩

/-- After an advance on both sides all that has been handed out is matched. -/
theorem Carries.matched (carries : Carries related compares)
    {world world' after after' : BusWorld K Message Handler} {t : K}
    (coupled : Coupled compares after after') (advanced : Advanced t world after)
    (advanced' : Advanced t world' after') : Matched related after after' := by
  obtain ⟨paired, isSublist, arePaired⟩ := carries.paired coupled.sends t
  obtain ⟨inOrder, areRelated, isPerm⟩ := List.perm_comp_forall₂ advanced.delivered_perm arePaired
  refine ⟨inOrder.map envelope, ?_, ?_⟩
  · have isSubperm := isPerm.subperm.trans
      (isSublist.subperm.trans advanced'.delivered_perm.symm.subperm)
    obtain ⟨left, isLeft, isRight⟩ := isSubperm
    refine ⟨left.map envelope, isLeft.map _, ?_⟩
    have mapped := isRight.map envelope
    rwa [List.map_map] at mapped
  · rw [List.forall₂_map_right_iff]
    have handed := List.forall₂_map_left_iff.mp areRelated
    exact List.forall₂_map_left_iff.mpr handed

/-- What a bus has queued it has handed out or still keeps. -/
theorem Sound.handedOut_perm {world : BusWorld K Message Handler} (sound : world.Sound) :
    (world.handedOut ++ world.pending).Perm
      (world.sends.reduceOption.map envelope) := by
  have conserved := sound.conserved.map envelope
  rw [List.map_append, List.map_map] at conserved
  have areSends : world.sends.reduceOption = world.attempts.filterMap Attempt.queued := by
    rw [sends, List.reduceOption, List.filterMap_map]
    rfl
  rw [areSends]
  exact conserved

variable [IsStrictOrderedRing K] {channel other : Channel K}

theorem Carries.matched_serveAll (carries : Carries related compares)
    (alike : TransmitAlike Message Handler compares channel other)
    (calls : List (OutsideCall K Message Handler)) :
    Coupled compares (serveAll channel calls) (serveAll other calls) ∧
      Matched related (serveAll channel calls) (serveAll other calls) := by
  apply coupled_serveAll alike
  · exact ⟨[], .refl [], .nil⟩
  · rintro world world' after after' - sameLeft sameRight ⟨paired, isSubperm, arePaired⟩
    refine ⟨paired, ?_, ?_⟩
    · rwa [handedOut, sameRight]
    · rwa [handedOut, sameLeft]
  · intro world world' after after' t coupled advanced advanced'
    exact carries.matched coupled advanced advanced'

structure HandsOutLater (slow fast : BusWorld K Message Handler) : Prop where
  /-- What it has handed out, the other has handed out. -/
  handedOut : Matched Envelope.NoEarlier slow fast
  /-- Either has handed out or keeps the same messages for the same receivers. -/
  sent : ∃ paired, paired.Perm (fast.handedOut ++ fast.pending) ∧
    List.Forall₂ Envelope.NoEarlier (slow.handedOut ++ slow.pending) paired
  /-- Once none is left, both have handed out the same messages. -/
  finished : slow.pending = [] → fast.pending = [] ∧ ∃ paired, paired.Perm fast.handedOut ∧
      List.Forall₂ Envelope.NoEarlier slow.handedOut paired

/-- Two runs of one seed with the same calls, over channels that differ by a larger loss
probability or by a larger latency. -/
theorem serveAll_coupled (channel other : Channel K)
    (calls : List (OutsideCall K Message Handler)) : (other.Lossier channel →
      (serveAll other calls).handedOut.Subperm (serveAll channel calls).handedOut) ∧
    (other.Slower channel → HandsOutLater (serveAll other calls) (serveAll channel calls)) := by
  constructor
  · intro isLossier
    have carries : @Carries K Message Handler _ Eq Loses := by
      intro item sent' loses
      obtain ⟨item', isSent, sameDue, sameEnvelope⟩ := loses item rfl
      exact ⟨item', isSent, sameDue.le, sameEnvelope.symm⟩
    obtain ⟨-, paired, isSubperm, areSame⟩ := carries.matched_serveAll isLossier.alike calls
    rw [List.forall₂_eq_eq_eq] at areSame
    rwa [areSame]
  · intro isSlower
    have carries : @Carries K Message Handler _ Envelope.NoEarlier
        (Option.Rel NoEarlier) := by
      intro item sent' isRelated
      cases isRelated with
      | some isLater => exact ⟨_, rfl, isLater.due, isLater.envelope⟩
    obtain ⟨coupled, isMatched⟩ := carries.matched_serveAll isSlower.alike calls
    have areRelated := forall₂_reduceOption coupled.sends
    have envelopes := areRelated.imp fun _ _ isLater => isLater.envelope
    rw [← List.forall₂_map_right_iff, ← List.forall₂_map_left_iff] at envelopes
    obtain ⟨inOrder, arePaired, isPerm⟩ :=
      List.perm_comp_forall₂ coupled.idle.sound.handedOut_perm envelopes
    have sent : inOrder.Perm (_ ++ _) := isPerm.trans coupled.idle'.sound.handedOut_perm.symm
    refine ⟨isMatched, ⟨inOrder, sent, arePaired⟩, fun noneLeft => ?_⟩
    rw [noneLeft, List.append_nil] at arePaired
    obtain ⟨paired, isSubperm, areMatched⟩ := isMatched
    have isLonger := isSubperm.length_le
    have sameLength := areMatched.length_eq
    have allLength := arePaired.length_eq
    have sentLength := sent.length_eq
    rw [List.length_append] at sentLength
    have noneLeft' : (serveAll channel calls).pending = [] :=
      List.eq_nil_of_length_eq_zero (by omega)
    rw [noneLeft', List.append_nil] at sent
    exact ⟨noneLeft', inOrder, sent, arePaired⟩

section

theorem atLeastTwo_thirty : Nat.AtLeastTwo 30 := ⟨by decide⟩

theorem atLeastTwo_forty : Nat.AtLeastTwo 40 := ⟨by decide⟩

attribute [local instance] Channel.atLeastTwo_two atLeastTwo_hundred
  atLeastTwo_thirty atLeastTwo_forty

theorem twice_valid : (0 : ℝ) ≤ 2 * 100 ∧ (2 * 100 : ℝ) ≤ 10000 := by norm_num

/-- The relay's channel when it loses every other message. -/
noncomputable def lossyRelay : Channel ℝ :=
  { relay.channel with
    config :=
      { relay.channel.config with
        lossProbability := 1 / 2
        lossValid := by norm_num } }

/-- The relay's channel with twice its latency. -/
noncomputable def slowRelay : Channel ℝ :=
  { relay.channel with
    config :=
      { relay.channel.config with
        latencyMs := 2 * 100
        latencyValid := twice_valid } }

/-- A hazard that a car hears of. -/
noncomputable def relayedHazard : List (OutsideCall ℝ String Unit) :=
  [.subscribe ⟨"car", "hazard", "+", (), some (30, 40)⟩,
    .publish ⟨"hazard", "rsu", "ice", 0, some (0, 0)⟩,
    .advanceTo 1]

end

theorem relay_coupled : (serveAll lossyRelay relayedHazard).handedOut.Subperm
        (serveAll relay.channel relayedHazard).handedOut ∧
      HandsOutLater (serveAll slowRelay relayedHazard)
        (serveAll relay.channel relayedHazard) := by
  constructor
  · apply (serveAll_coupled relay.channel lossyRelay relayedHazard).1
    exact ⟨rfl, rfl, rfl, rfl, rfl, rfl, lossyRelay.config.lossValid.1⟩
  · apply (serveAll_coupled relay.channel slowRelay relayedHazard).2
    refine ⟨rfl, rfl, rfl, ?_, rfl, rfl, rfl⟩
    exact le_mul_of_one_le_left relay.channel.config.latencyValid.1 one_le_two

end BusWorld
end UrbanFlow
