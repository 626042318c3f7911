import Mathlib.Data.List.Sort
import Mathlib.Tactic.Positivity
import UrbanFlow.Library.Dict

/-!
# The in-process message bus

The channel has a latency, loses packets and reaches so far; a transmission uses two
draws, whatever its outcome. `publish` draws the channel for every matching subscriber and queues what comes
through; an advance hands out what is due. The heap is a list ordered by
delivery time, then by publication.
-/

namespace UrbanFlow

/-- `x ** 0.5` and `-math.log(1.0 - u)`; the latter is not negative for a draw. -/
structure FloatMath (K : Type) [Field K] [LinearOrder K] where
  sqrt : K → K
  negLog : K → K
  negLog_nonneg : ∀ u, 0 ≤ u → u < 1 → 0 ≤ negLog u

/-- A draw of `random()`. -/
structure UnitDraw (K : Type) [Field K] [LinearOrder K] where
  value : K
  nonneg : 0 ≤ value
  lt_one : value < 1

inductive LatencyKind
  | constant
  | uniform
  | exponential
  deriving DecidableEq, Repr

/-- `ChannelConfig`, as `__post_init__` accepts it. -/
structure ChannelConfig (K : Type) [Field K] [LinearOrder K] where
  latencyKind : LatencyKind := .constant
  latencyMs : K := 0
  jitterMs : K := 0
  lossProbability : K := 0
  rangeM : Option K := none
  latencyValid : 0 ≤ latencyMs ∧ latencyMs ≤ 10000
  jitterValid : 0 ≤ jitterMs ∧ jitterMs ≤ 10000
  lossValid : 0 ≤ lossProbability ∧ lossProbability ≤ 1
  rangeValid : ∀ range, rangeM = some range → 0 < range ∧ range ≤ 5000

/-- Why a transmission ended as it did. -/
inductive TransmissionReason
  | ok
  | lost
  | outOfRange
  deriving DecidableEq, Repr

structure Transmission (K : Type) where
  delivered : Bool
  latencyS : K
  reason : TransmissionReason

/-- `Channel`, with the stream its generator draws. -/
structure Channel (K : Type) [Field K] [LinearOrder K] where
  config : ChannelConfig K
  math : FloatMath K
  draws : Nat → UnitDraw K

namespace Channel

variable {K : Type} [Field K] [LinearOrder K] (channel : Channel K)

theorem atLeastTwo_two : Nat.AtLeastTwo 2 := ⟨le_rfl⟩

theorem atLeastTwo_thousand : Nat.AtLeastTwo 1000 := ⟨by decide⟩

section

attribute [local instance] atLeastTwo_two atLeastTwo_thousand

def latencyS (u : K) : K :=
  let config := channel.config
  let ms := match config.latencyKind with
    | .constant => config.latencyMs
    | .uniform => max 0 (config.latencyMs + config.jitterMs * (2 * u - 1))
    | .exponential => config.latencyMs + channel.math.negLog u * config.jitterMs
  ms / 1000

end

def beyondRange (distanceM : K) : Bool := match channel.config.rangeM with
  | some range => range < distanceM
  | none => false

/-- `transmit`: the outcome, and the number of draws used by then. -/
def transmit (distanceM : K) (drawn : Nat) : Transmission K × Nat :=
  let uLoss := (channel.draws drawn).value
  let uLat := (channel.draws (drawn + 1)).value
  let outcome : Transmission K := if channel.beyondRange distanceM then ⟨false, 0, .outOfRange⟩
    else if uLoss < channel.config.lossProbability then ⟨false, 0, .lost⟩
    else ⟨true, channel.latencyS uLat, .ok⟩
  (outcome, drawn + 2)

theorem latencyS_nonneg [IsStrictOrderedRing K] (draw : UnitDraw K) :
    0 ≤ channel.latencyS draw.value := by
  have latency := channel.config.latencyValid.1
  have jitter := channel.config.jitterValid.1
  have drawn := channel.math.negLog_nonneg draw.value draw.nonneg draw.lt_one
  dsimp only [latencyS]
  split
  · positivity
  · positivity
  · positivity

/-- A transmission is delivered, after some latency, or dropped for a reason. -/
theorem transmit_cases [IsStrictOrderedRing K] (distanceM : K) (drawn : Nat) :
    let outcome := (channel.transmit distanceM drawn).1
    (outcome.delivered = true ∧ 0 ≤ outcome.latencyS) ∨
      (outcome.delivered = false ∧ outcome.reason = .lost) ∨
      (outcome.delivered = false ∧ outcome.reason = .outOfRange) := by
  dsimp only [transmit]
  split
  · exact .inr (.inr ⟨rfl, rfl⟩)
  · split
    · exact .inr (.inl ⟨rfl, rfl⟩)
    · exact .inl ⟨rfl, channel.latencyS_nonneg _⟩

end Channel

structure Envelope (K Message : Type) where
  topic : String
  message : Message
  sentAt : K
  deliveredAt : K
  receiver : String

/-- `_Sub`. -/
structure Subscription (K Handler : Type) where
  receiver : String
  kind : String
  node : String
  handler : Handler
  position : Option (K × K)

/-- An item of the heap. -/
structure QueuedMessage (K Message Handler : Type) where
  due : K
  seq : Nat
  envelope : Envelope K Message
  handler : Handler

structure BusStats where
  published : Nat := 0
  attempted : Nat := 0
  delivered : Nat := 0
  lost : Nat := 0
  outOfRange : Nat := 0
  byReceiver : Dict String Nat := ∅

/-- The arguments of a `publish`. -/
structure Publication (K Message : Type) where
  kind : String
  node : String
  message : Message
  now : K
  origin : Option (K × K)

/-- State of an `InProcessBus`; `drawn` counts the channel's draws. -/
structure InProcessBus (K Message Handler : Type) [Zero K] where
  now : K := 0
  stats : BusStats := {}
  subs : List (Subscription K Handler) := []
  queue : List (QueuedMessage K Message Handler) := []
  seq : Nat := 0
  drawn : Nat := 0

/-- `ValueError`, by its text. -/
structure BusValueError where
  message : String
  deriving DecidableEq, Repr

/-- `KINDS`. -/
def messageKinds : List String := ["bsm", "spat", "hazard"]

def topicFor (kind node : String) : Except BusValueError String := if kind ∉ messageKinds then
    .error ⟨"kind must be one of ['bsm', 'spat', 'hazard']"⟩
  else if node = "" ∨ 64 < node.length ∨ node.toList.any (· ∈ [ '/', '#', '+', Char.ofNat 0]) then
    .error ⟨"node must be 1-64 characters without '/', '#', '+' or NUL"⟩
  else .ok ("urbanflow/v2x/" ++ kind ++ "/" ++ node)

section

variable {K Message Handler : Type}

/-- The order of the heap: by delivery time, then by publication. -/
def QueuedMessage.Before [LT K] (first second : QueuedMessage K Message Handler) : Prop :=
  first.due < second.due ∨ first.due = second.due ∧ first.seq < second.seq

instance [LinearOrder K] : DecidableRel (@QueuedMessage.Before K Message Handler _) :=
  fun first second => inferInstanceAs (Decidable
    (first.due < second.due ∨ first.due = second.due ∧ first.seq < second.seq))

def Subscription.matches (publication : Publication K Message)
    (sub : Subscription K Handler) : Bool :=
  sub.kind = publication.kind && (sub.node = "+" || sub.node = publication.node)

end

namespace InProcessBus

variable {K Message Handler : Type} [Field K] [LinearOrder K]

def subscribe (sub : Subscription K Handler) (bus : InProcessBus K Message Handler) :
    Except BusValueError (InProcessBus K Message Handler) := do
  let _ ← topicFor sub.kind (if sub.node = "+" then "x" else sub.node)
  .ok { bus with subs := bus.subs ++ [sub] }

/-- How far a subscriber is from the origin of a publication. -/
def distance (math : FloatMath K) (publication : Publication K Message)
    (sub : Subscription K Handler) : K :=
  match publication.origin, sub.position with
  | some origin, some position =>
    math.sqrt ((origin.1 - position.1) ^ 2 + (origin.2 - position.2) ^ 2)
  | _, _ => 0

def transmission (channel : Channel K) (publication : Publication K Message)
    (sub : Subscription K Handler) (bus : InProcessBus K Message Handler) : Transmission K :=
  (channel.transmit (distance channel.math publication sub) bus.drawn).1

/-- The message that a delivered transmission queues. -/
def queued (topic : String) (publication : Publication K Message) (sub : Subscription K Handler)
    (latencyS : K) (bus : InProcessBus K Message Handler) : QueuedMessage K Message Handler where
  due := publication.now + latencyS
  seq := bus.seq
  envelope :=
    { topic := topic
      message := publication.message
      sentAt := publication.now
      deliveredAt := publication.now + latencyS
      receiver := sub.receiver }
  handler := sub.handler

section

variable (item : QueuedMessage K Message Handler)

/-- `heapq.heappush`. -/
def push (bus : InProcessBus K Message Handler) : InProcessBus K Message Handler :=
  { bus with queue := bus.queue.orderedInsert QueuedMessage.Before item }

/-- The body of `publish`'s loop, for a subscription that matches. -/
def attempt (channel : Channel K) (topic : String) (publication : Publication K Message)
    (sub : Subscription K Handler)
    (bus : InProcessBus K Message Handler) : InProcessBus K Message Handler :=
  let tx := bus.transmission channel publication sub
  let attempted : InProcessBus K Message Handler :=
    { bus with
      stats := { bus.stats with attempted := bus.stats.attempted + 1 }
      drawn := bus.drawn + 2 }
  if ¬ tx.delivered then if tx.reason = .lost then
      { attempted with
        stats := { attempted.stats with lost := attempted.stats.lost + 1 } }
    else
      { attempted with
        stats :=
          { attempted.stats with
            outOfRange := attempted.stats.outOfRange + 1 } }
  else { attempted with seq := attempted.seq + 1 }.push
      (bus.queued topic publication sub tx.latencyS)

/-- The loop of `publish`, over some of the subscriptions. -/
def publishLoop (channel : Channel K) (topic : String) (publication : Publication K Message) :
    List (Subscription K Handler) → InProcessBus K Message Handler → InProcessBus K Message Handler
  | [], bus => bus
  | sub :: subs, bus =>
    if ¬ sub.matches publication then publishLoop channel topic publication subs bus
    else publishLoop channel topic publication subs (bus.attempt channel topic publication sub)

def countPublished (bus : InProcessBus K Message Handler) : InProcessBus K Message Handler :=
  { bus with stats := { bus.stats with published := bus.stats.published + 1 } }

def publish (channel : Channel K) (publication : Publication K Message)
    (bus : InProcessBus K Message Handler) :
    Except BusValueError (InProcessBus K Message Handler) := do
  let topic ← topicFor publication.kind publication.node
  if publication.now < bus.now then .error ⟨"cannot publish in the past of the bus clock"⟩
  else .ok (publishLoop channel topic publication bus.subs bus.countPublished)

/-- The loop test of `advance_to`: the message it takes off the heap, if any. -/
def nextDue (t : K) (bus : InProcessBus K Message Handler) :
    Option (QueuedMessage K Message Handler) :=
  match bus.queue with
  | [] => none
  | head :: _ => if head.due ≤ t then some head else none

/-- The loop body of `advance_to` before it calls the handler. -/
def handOut (bus : InProcessBus K Message Handler) : InProcessBus K Message Handler :=
  { bus with
    now := max bus.now item.due
    queue := bus.queue.tail
    stats :=
      { bus.stats with
        delivered := bus.stats.delivered + 1
        byReceiver := bus.stats.byReceiver.insert item.envelope.receiver
          (bus.stats.byReceiver.valueAt 0 item.envelope.receiver + 1) } }

end

/-- `advance_to` once nothing is due any more. -/
def finish (t : K) (bus : InProcessBus K Message Handler) : InProcessBus K Message Handler :=
  { bus with now := max bus.now t }

end InProcessBus
end UrbanFlow
