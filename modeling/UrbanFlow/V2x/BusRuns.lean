import Mathlib.Analysis.SpecialFunctions.Log.Basic
import UrbanFlow.Library.Machine
import UrbanFlow.V2x.Bus

/-!
# Every interleaving of publishing and advancing

Runs of a bus in which handlers do what they like while a message is handed to
them: publish, subscribe, advance the bus themselves, return or raise. What is
handed out and what is pending is what the channel let through, in the order of
delivery time and publication.
-/

namespace UrbanFlow

open QueuedMessage InProcessBus

section Order

variable {α : Type} {r : α → α → Prop} [DecidableRel r] [IsTrans α r]

theorem pairwise_orderedInsert {item : α} {items : List α} (ordered : items.Pairwise r)
    (compares : ∀ other ∈ items, r item other ∨ r other item) :
    (items.orderedInsert r item).Pairwise r := by
  induction items with
  | nil => simp
  | cons first _ ih =>
    obtain ⟨firstBefore, rest⟩ := List.pairwise_cons.mp ordered
    rw [List.orderedInsert_cons]
    split
    · next goesFirst =>
        refine List.pairwise_cons.mpr ⟨fun other member => ?_, ordered⟩
        rcases List.mem_cons.mp member with rfl | later
        · exact goesFirst
        · exact IsTrans.trans _ _ _ goesFirst (firstBefore other later)
    · next goesLater =>
        have afterFirst : r first item := (compares first List.mem_cons_self).resolve_left goesLater
        refine List.pairwise_cons.mpr ⟨fun other member => ?_, ih rest fun other later =>
            compares other (List.mem_cons_of_mem _ later)⟩
        rcases (List.mem_orderedInsert r).mp member with rfl | later
        · exact afterFirst
        · exact firstBefore other later

end Order

variable {K Message Handler : Type} [Field K] [LinearOrder K]

instance : IsTrans _ (@Before K Message Handler _) where
  trans first second third earlier later := by
    unfold Before at *
    rcases earlier with earlier | ⟨same, earlier⟩
    · rcases later with later | ⟨sameLater, later⟩
      · exact .inl (earlier.trans later)
      · exact .inl (sameLater ▸ earlier)
    · rcases later with later | ⟨sameLater, later⟩
      · exact .inl (same ▸ later)
      · exact .inr ⟨same.trans sameLater, earlier.trans later⟩

structure Attempt (K Message Handler : Type) where
  sentAt : K
  transmission : Transmission K
  queued : Option (QueuedMessage K Message Handler)

structure HandedOut (K Message Handler : Type) where
  item : QueuedMessage K Message Handler
  clock : K

namespace InProcessBus

/-- The attempts of `publish`'s loop, over some of the subscriptions. -/
def attempts (channel : Channel K) (topic : String) (publication : Publication K Message) :
    List (Subscription K Handler) → InProcessBus K Message Handler →
      List (Attempt K Message Handler)
  | [], _ => []
  | sub :: subs, bus =>
    if ¬ sub.matches publication then attempts channel topic publication subs bus
    else
      let tx := bus.transmission channel publication sub
      { sentAt := publication.now
        transmission := tx
        queued := if tx.delivered then some (bus.queued topic publication sub tx.latencyS)
          else none } ::
        attempts channel topic publication subs (bus.attempt channel topic publication sub)

end InProcessBus

/-- A call of the bus from outside or from a running handler, an advance going
on with its loop, or a running handler raising. -/
inductive BusCall (K Message Handler : Type)
  | subscribe (sub : Subscription K Handler)
  | publish (publication : Publication K Message)
  | advanceTo (t : K)
  | next
  | raise

/-- A bus, the targets of the advances running in it, innermost first, and its
history. -/
structure BusWorld (K Message Handler : Type) [Zero K] where
  bus : InProcessBus K Message Handler := {}
  running : List K := []
  attempts : List (Attempt K Message Handler) := []
  delivered : List (HandedOut K Message Handler) := []

namespace BusWorld

/-- The world after a `publish`; one that raises changes nothing. -/
def publish (channel : Channel K) (publication : Publication K Message)
    (world : BusWorld K Message Handler) : BusWorld K Message Handler :=
  match topicFor publication.kind publication.node, world.bus.publish channel publication with
  | .ok topic, .ok bus =>
    { world with
      bus := bus
      attempts := world.attempts ++ InProcessBus.attempts channel topic publication world.bus.subs
          world.bus.countPublished }
  | _, _ => world

/-- The world after the innermost advance has gone on: it hands a message out,
or it is done. -/
def next (world : BusWorld K Message Handler) : BusWorld K Message Handler :=
  match world.running with
  | [] => world
  | t :: outer =>
    match world.bus.nextDue t with
    | some item =>
      { world with
        bus := world.bus.handOut item
        delivered := world.delivered ++ [⟨item, (world.bus.handOut item).now⟩] }
    | none => { world with bus := world.bus.finish t, running := outer }

def step (channel : Channel K) (world : BusWorld K Message Handler) :
    BusCall K Message Handler → BusWorld K Message Handler
  | .subscribe sub =>
    match world.bus.subscribe sub with
    | .ok bus => { world with bus := bus }
    | .error _ => world
  | .publish publication => world.publish channel publication
  | .advanceTo t =>
    if t < world.bus.now then world
    else { world with running := t :: world.running }
  | .next => world.next
  | .raise => { world with running := world.running.tail }

/-- What a bus has handed out or still has to, and what its clock says. -/
structure Sound (world : BusWorld K Message Handler) : Prop where
  accounts : world.bus.stats.attempted = world.bus.stats.delivered + world.bus.stats.lost +
      world.bus.stats.outOfRange + world.bus.queue.length
  counts : world.bus.stats.attempted = world.attempts.length ∧
    world.bus.stats.delivered = world.delivered.length
  conserved : (world.delivered.map HandedOut.item ++ world.bus.queue).Perm
    (world.attempts.filterMap Attempt.queued)
  numbered : (world.attempts.filterMap Attempt.queued).Pairwise
    fun first second => first.seq < second.seq
  fresh : ∀ item ∈ world.attempts.filterMap Attempt.queued, item.seq < world.bus.seq
  timed : ∀ attempt ∈ world.attempts, ∀ item, attempt.queued = some item →
    item.due = attempt.sentAt + attempt.transmission.latencyS ∧
      item.envelope.sentAt = attempt.sentAt
  ordered : (world.delivered.map HandedOut.item ++ world.bus.queue).Pairwise Before
  punctual : ∀ handed ∈ world.delivered, handed.item.due ≤ handed.clock ∧
    handed.clock ≤ world.bus.now

variable {channel : Channel K} {topic : String} {publication : Publication K Message}
variable {world : BusWorld K Message Handler}

/-- The world once one subscriber has been transmitted to. -/
def attempt (channel : Channel K) (topic : String) (publication : Publication K Message)
    (sub : Subscription K Handler)
    (world : BusWorld K Message Handler) : BusWorld K Message Handler :=
  { world with
    bus := world.bus.attempt channel topic publication sub
    attempts := world.attempts ++ InProcessBus.attempts channel topic publication [sub] world.bus }

theorem before_queued [IsStrictOrderedRing K] (sound : Sound world)
    (notPast : world.bus.now ≤ publication.now) (sub : Subscription K Handler) {latencyS : K}
    (forward : 0 ≤ latencyS) {item : QueuedMessage K Message Handler}
    (handed : item ∈ world.delivered.map HandedOut.item) :
    item.Before (world.bus.queued topic publication sub latencyS) := by
  have known : item ∈ world.attempts.filterMap Attempt.queued :=
    sound.conserved.subset (List.mem_append_left _ handed)
  obtain ⟨delivery, isDelivered, rfl⟩ := List.mem_map.mp handed
  obtain ⟨_, _⟩ := sound.punctual delivery isDelivered
  have notLater : delivery.item.due ≤ publication.now + latencyS := by linarith
  rcases notLater.lt_or_eq with earlier | same
  · exact .inl earlier
  · exact .inr ⟨same, sound.fresh _ known⟩

theorem compares_queued (sound : Sound world) (sub : Subscription K Handler) (latencyS : K)
    {other : QueuedMessage K Message Handler} (pending : other ∈ world.bus.queue) :
    (world.bus.queued topic publication sub latencyS).Before other ∨
      other.Before (world.bus.queued topic publication sub latencyS) := by
  have known : other ∈ world.attempts.filterMap Attempt.queued :=
    sound.conserved.subset (List.mem_append_right _ pending)
  have older : other.seq < world.bus.seq := sound.fresh other known
  rcases lt_trichotomy (publication.now + latencyS) other.due with
    earlier | same | later
  · exact .inl (.inl earlier)
  · exact .inr (.inr ⟨same.symm, older⟩)
  · exact .inr (.inl later)

section

variable [IsStrictOrderedRing K]

theorem attempt_cases {sub : Subscription K Handler} (isMatch : sub.matches publication)
    (bus : InProcessBus K Message Handler) : (∃ tx : Transmission K, 0 ≤ tx.latencyS ∧
      InProcessBus.attempts channel topic publication [sub] bus = [⟨publication.now, tx,
          some (bus.queued topic publication sub tx.latencyS)⟩] ∧
      bus.attempt channel topic publication sub = { bus with
          stats := { bus.stats with attempted := bus.stats.attempted + 1 }
          queue := bus.queue.orderedInsert Before
            (bus.queued topic publication sub tx.latencyS)
          seq := bus.seq + 1
          drawn := bus.drawn + 2 }) ∨
    ∃ (tx : Transmission K) (lost outOfRange : Nat),
      lost + outOfRange = bus.stats.lost + bus.stats.outOfRange + 1 ∧
      InProcessBus.attempts channel topic publication [sub] bus = [⟨publication.now, tx, none⟩] ∧
      bus.attempt channel topic publication sub = { bus with
          stats :=
            { bus.stats with
              attempted := bus.stats.attempted + 1
              lost := lost
              outOfRange := outOfRange }
          drawn := bus.drawn + 2 } := by
  have cases (tx : Transmission K) (isTx : bus.transmission channel publication sub = tx) :
      tx.delivered = true ∧ 0 ≤ tx.latencyS ∨
        tx.delivered = false ∧ (tx.reason = .lost ∨ tx.reason = .outOfRange) := by
    rw [← isTx, and_or_left]
    exact channel.transmit_cases _ _
  simp only [InProcessBus.attempt, InProcessBus.attempts, isMatch, not_true_eq_false, if_false]
  generalize isTx : bus.transmission channel publication sub = tx
  rcases cases tx isTx with ⟨isDelivered, forward⟩ | ⟨isDropped, isLost | isBeyond⟩
  · refine .inl ⟨tx, forward, ?_, ?_⟩
    · simp [isDelivered]
    · simp [isDelivered, InProcessBus.push, InProcessBus.queued]
  · refine .inr ⟨tx, bus.stats.lost + 1, bus.stats.outOfRange, ?_, ?_, ?_⟩
    · omega
    · simp [isDropped]
    · simp [isDropped, isLost]
  · refine .inr ⟨tx, bus.stats.lost, bus.stats.outOfRange + 1, ?_, ?_, ?_⟩
    · omega
    · simp [isDropped]
    · simp [isDropped, isBeyond]

theorem attempt_sound (channel : Channel K) (topic : String) (sound : Sound world)
    (notPast : world.bus.now ≤ publication.now) {sub : Subscription K Handler}
    (isMatch : sub.matches publication) : Sound (world.attempt channel topic publication sub) := by
  have accounts := sound.accounts
  obtain ⟨attempted, delivered⟩ := sound.counts
  unfold attempt
  rcases attempt_cases isMatch world.bus with
    ⟨tx, forward, isAttempt, isBus⟩ | ⟨tx, _, _, _, isAttempt, isBus⟩
  · rw [isAttempt, isBus]
    have grown : (world.attempts ++ [(⟨publication.now, tx,
        some (world.bus.queued topic publication sub tx.latencyS)⟩ :
          Attempt K Message Handler)]).filterMap Attempt.queued =
        world.attempts.filterMap Attempt.queued ++
          [world.bus.queued topic publication sub tx.latencyS] := by
      simp
    constructor
    · simp only [List.orderedInsert_length]
      omega
    · simpa using ⟨attempted, delivered⟩
    · rw [grown]
      have inserted := (List.perm_orderedInsert Before
        (world.bus.queued topic publication sub tx.latencyS)
        world.bus.queue).append_left (world.delivered.map HandedOut.item)
      refine inserted.trans (List.perm_middle.trans ?_)
      exact (sound.conserved.cons _).trans (List.perm_append_singleton _ _).symm
    · rw [grown]
      refine List.pairwise_append.mpr ⟨sound.numbered, by simp, ?_⟩
      intro item member other isNew
      rw [List.mem_singleton.mp isNew]
      exact sound.fresh item member
    · rw [grown]
      intro item member
      rcases List.mem_append.mp member with old | isNew
      · exact (sound.fresh item old).trans (Nat.lt_succ_self _)
      · rw [List.mem_singleton.mp isNew]
        exact Nat.lt_succ_self _
    · intro other member item isItem
      rcases List.mem_append.mp member with old | isNew
      · exact sound.timed other old item isItem
      · rw [List.mem_singleton.mp isNew] at isItem ⊢
        rw [← Option.some.inj isItem]
        exact ⟨rfl, rfl⟩
    · obtain ⟨handed, pending, across⟩ := List.pairwise_append.mp sound.ordered
      refine List.pairwise_append.mpr ⟨handed, ?_, ?_⟩
      · exact pairwise_orderedInsert pending fun other member =>
          compares_queued sound sub tx.latencyS member
      · intro item member other isPending
        rcases (List.mem_orderedInsert _).mp isPending with rfl | old
        · exact before_queued sound notPast sub forward member
        · exact across item member other old
    · exact sound.punctual
  · rw [isAttempt, isBus]
    refine ⟨?_, ?_, ?_, ?_, ?_, ?_, sound.ordered, sound.punctual⟩
    · dsimp only
      omega
    · simpa using ⟨attempted, delivered⟩
    · simpa using sound.conserved
    · simpa using sound.numbered
    · simpa using sound.fresh
    · simpa [or_imp, forall_and] using sound.timed

theorem publishLoop_sound (channel : Channel K) (topic : String)
    (subs : List (Subscription K Handler)) (sound : Sound world)
    (notPast : world.bus.now ≤ publication.now) : Sound { world with
      bus := publishLoop channel topic publication subs world.bus
      attempts := world.attempts ++
        InProcessBus.attempts channel topic publication subs world.bus } := by
  induction subs generalizing world with
  | nil => simpa [InProcessBus.publishLoop, InProcessBus.attempts] using sound
  | cons sub _ ih =>
    by_cases isMatch : sub.matches publication
    · have sameClock : (world.attempt channel topic publication sub).bus.now = world.bus.now := by
        unfold attempt
        rcases attempt_cases isMatch world.bus with
          ⟨tx, _, _, isBus⟩ | ⟨tx, _, _, _, _, isBus⟩
        · rw [isBus]
        · rw [isBus]
      have rest := ih (attempt_sound channel topic sound notPast isMatch) (sameClock ▸ notPast)
      simpa [attempt, InProcessBus.publishLoop, InProcessBus.attempts, isMatch] using rest
    · have rest := ih sound notPast
      simpa [InProcessBus.publishLoop, InProcessBus.attempts, isMatch] using rest

theorem publish_sound (sound : Sound world) (publication : Publication K Message) :
    Sound (world.publish channel publication) := by
  unfold publish InProcessBus.publish
  cases topicFor publication.kind publication.node with
  | error => exact sound
  | ok topic =>
    by_cases isPast : publication.now < world.bus.now
    · simp only [bind, Except.bind, isPast, if_true]
      exact sound
    · have counted : Sound { world with bus := world.bus.countPublished } :=
        ⟨sound.accounts, sound.counts, sound.conserved, sound.numbered,
          sound.fresh, sound.timed, sound.ordered, sound.punctual⟩
      simp only [bind, Except.bind, isPast, if_false]
      exact publishLoop_sound channel topic world.bus.subs counted (not_lt.mp isPast)

end

theorem handOut_sound (sound : Sound world) {item : QueuedMessage K Message Handler}
    {rest : List (QueuedMessage K Message Handler)} (isQueue : world.bus.queue = item :: rest) :
    Sound { world with
      bus := world.bus.handOut item
      delivered := world.delivered ++ [⟨item, (world.bus.handOut item).now⟩] } := by
  have accounts := sound.accounts
  obtain ⟨attempted, delivered⟩ := sound.counts
  have moved : (world.delivered ++ [(⟨item, (world.bus.handOut item).now⟩ :
      HandedOut K Message Handler)]).map HandedOut.item ++ (world.bus.handOut item).queue =
      world.delivered.map HandedOut.item ++ world.bus.queue := by
    simp [handOut, isQueue]
  refine ⟨?_, ?_, ?_, sound.numbered, sound.fresh, sound.timed, ?_, ?_⟩
  · simp only [handOut, isQueue, List.length_cons, List.tail_cons] at accounts ⊢
    omega
  · simpa [handOut] using ⟨attempted, delivered⟩
  · rw [moved]
    exact sound.conserved
  · rw [moved]
    exact sound.ordered
  · intro handed member
    rcases List.mem_append.mp member with old | isNew
    · obtain ⟨isDue, isPast⟩ := sound.punctual handed old
      exact ⟨isDue, isPast.trans (le_max_left _ _)⟩
    · rw [List.mem_singleton.mp isNew]
      exact ⟨le_max_right _ _, le_rfl⟩

theorem next_sound (sound : Sound world) : Sound world.next := by
  unfold next
  split
  · exact sound
  · next t outer _ =>
      split
      · next item isNext =>
          unfold nextDue at isNext
          split at isNext
          · exact absurd isNext (by simp)
          · next head rest isQueue =>
              split at isNext
              · rw [← Option.some.inj isNext]
                exact handOut_sound sound isQueue
              · exact absurd isNext (by simp)
      · refine ⟨sound.accounts, sound.counts, sound.conserved, sound.numbered,
          sound.fresh, sound.timed, sound.ordered, fun handed member => ?_⟩
        obtain ⟨isDue, isPast⟩ := sound.punctual handed member
        exact ⟨isDue, isPast.trans (le_max_left _ _)⟩

theorem step_sound [IsStrictOrderedRing K] (sound : Sound world)
    (call : BusCall K Message Handler) : Sound (world.step channel call) := by
  have sameBus (running : List K) : Sound { world with running := running } :=
    ⟨sound.accounts, sound.counts, sound.conserved, sound.numbered, sound.fresh,
      sound.timed, sound.ordered, sound.punctual⟩
  cases call with
  | subscribe sub =>
    dsimp only [step, subscribe]
    cases topicFor sub.kind (if sub.node = "+" then "x" else sub.node) with
    | error => exact sound
    | ok =>
      exact ⟨sound.accounts, sound.counts, sound.conserved, sound.numbered,
        sound.fresh, sound.timed, sound.ordered, sound.punctual⟩
  | publish publication => exact publish_sound sound publication
  | advanceTo =>
    dsimp only [step]
    split
    · exact sound
    · exact sameBus _
  | next => exact next_sound sound
  | raise => exact sameBus _

/-- The clock of a bus never goes backwards. -/
theorem now_le_step [IsStrictOrderedRing K] (world : BusWorld K Message Handler)
    (call : BusCall K Message Handler) : world.bus.now ≤ (world.step channel call).bus.now := by
  cases call with
  | subscribe sub =>
    dsimp only [step, InProcessBus.subscribe]
    cases topicFor sub.kind (if sub.node = "+" then "x" else sub.node) with
    | error invalid | ok topic => exact le_rfl
  | publish publication =>
    have kept (topic : String) (subs : List (Subscription K Handler))
        (bus : InProcessBus K Message Handler) :
        (InProcessBus.publishLoop channel topic publication subs bus).now = bus.now := by
      induction subs generalizing bus with
      | nil => rfl
      | cons _ _ ih =>
        unfold InProcessBus.publishLoop
        split
        · exact ih bus
        · next isMatch =>
            rw [ih]
            rcases attempt_cases (not_not.mp isMatch) bus with
              ⟨tx, _, _, isBus⟩ | ⟨tx, _, _, _, _, isBus⟩
            · rw [isBus]
            · rw [isBus]
    dsimp only [step, publish, InProcessBus.publish]
    cases topicFor publication.kind publication.node with
    | error => exact le_rfl
    | ok =>
      by_cases isPast : publication.now < world.bus.now
      · simp only [bind, Except.bind, isPast, if_true]
        exact le_rfl
      · simp only [bind, Except.bind, isPast, if_false]
        rw [kept]
        exact le_rfl
  | advanceTo =>
    dsimp only [step]
    split
    · exact le_rfl
    · exact le_rfl
  | next =>
    dsimp only [step, next]
    split
    · exact le_rfl
    · split
      · exact le_max_left _ _
      · exact le_max_left _ _
  | raise => exact le_rfl

end BusWorld

structure BusRun (K Message Handler : Type) [Field K] [LinearOrder K] where
  channel : Channel K
  calls : Nat → BusCall K Message Handler

namespace BusRun

variable (run : BusRun K Message Handler)

/-- The world before call `n`. -/
def worldAt (n : Nat) : BusWorld K Message Handler :=
  Machine.stateAt (BusWorld.step run.channel) {} run.calls n

def busAt (n : Nat) : InProcessBus K Message Handler := (run.worldAt n).bus

/-- The messages that the channel let through before call `n`, in the order of
their publication. -/
def queuedAt (n : Nat) : List (QueuedMessage K Message Handler) :=
  (run.worldAt n).attempts.filterMap Attempt.queued

/-- What holds of a bus in every run. -/
structure Orderly : Prop where
  accounts : ∀ n, (run.busAt n).stats.attempted =
    (run.busAt n).stats.delivered + (run.busAt n).stats.lost +
      (run.busAt n).stats.outOfRange + (run.busAt n).queue.length
  attempted : ∀ n, (run.busAt n).stats.attempted = (run.worldAt n).attempts.length ∧
      (run.busAt n).stats.delivered = (run.worldAt n).delivered.length
  conserved : ∀ n, ((run.worldAt n).delivered.map HandedOut.item ++ (run.busAt n).queue).Perm
      (run.queuedAt n)
  once : ∀ n, ((run.worldAt n).delivered.map (·.item.seq)).Nodup
  published : ∀ n, (run.queuedAt n).Pairwise fun first second => first.seq < second.seq
  punctual : ∀ n, ∀ handed ∈ (run.worldAt n).delivered,
    ∃ attempt ∈ (run.worldAt n).attempts, attempt.queued = some handed.item ∧
      handed.item.due = attempt.sentAt + attempt.transmission.latencyS ∧
      attempt.sentAt + attempt.transmission.latencyS ≤ handed.clock
  ordered : ∀ n, ((run.worldAt n).delivered.map HandedOut.item).Pairwise Before
  clock : Monotone fun n => (run.busAt n).now

theorem worldAt_succ (n : Nat) :
    run.worldAt (n + 1) = (run.worldAt n).step run.channel (run.calls n) :=
  Machine.stateAt_succ _ _ _ n

section

variable [IsStrictOrderedRing K] (n : Nat)

theorem sound : (run.worldAt n).Sound := by
  apply Machine.invariant BusWorld.Sound
  · constructor <;> simp
  · intro world call isSound
    exact BusWorld.step_sound isSound call

/-- Messages are numbered in the order they are queued, each with its own
number. -/
theorem once : ((run.worldAt n).delivered.map (·.item.seq)).Nodup := by
  have numbers : ((run.queuedAt n).map seq).Nodup := by
    apply List.Pairwise.map _ _ (run.sound n).numbered
    intro first second earlier
    exact earlier.ne
  have sameNumbers := ((run.sound n).conserved.map seq).nodup_iff
  have all := sameNumbers.mpr numbers
  rw [List.map_append, List.map_map] at all
  exact (List.nodup_append.mp all).1

end

/-- Every bus is orderly. -/
theorem orderly [IsStrictOrderedRing K] : run.Orderly where
  accounts n := (run.sound n).accounts
  attempted n := (run.sound n).counts
  conserved n := (run.sound n).conserved
  once := run.once
  published n := (run.sound n).numbered
  punctual n handed member := by
    have known : handed.item ∈ run.queuedAt n :=
      (run.sound n).conserved.subset (List.mem_append_left _ (List.mem_map_of_mem member))
    obtain ⟨attempt, isAttempt, isQueued⟩ := List.mem_filterMap.mp known
    have isDue := ((run.sound n).timed attempt isAttempt _ isQueued).1
    refine ⟨attempt, isAttempt, isQueued, isDue, ?_⟩
    rw [← isDue]
    exact ((run.sound n).punctual handed member).1
  ordered n := (List.pairwise_append.mp (run.sound n).ordered).1
  clock := by
    apply monotone_nat_of_le_succ
    intro n
    unfold busAt
    rw [worldAt_succ]
    exact BusWorld.now_le_step (run.worldAt n) (run.calls n)

/-- The mathematics library over the reals. -/
noncomputable def realMath : FloatMath ℝ where
  sqrt := Real.sqrt
  negLog u := -Real.log (1 - u)
  negLog_nonneg u nonneg lt_one := by
    have isNonpos : Real.log (1 - u) ≤ 0 := Real.log_nonpos (by linarith) (by linarith)
    linarith

theorem atLeastTwo_three : Nat.AtLeastTwo 3 := ⟨by decide⟩

theorem atLeastTwo_hundred : Nat.AtLeastTwo 100 := ⟨by decide⟩

section

attribute [local instance] atLeastTwo_three atLeastTwo_hundred

/-- A car hears hazards up to 300 m away, with exponential latencies, and while
one is handed to it publishes another. -/
noncomputable def relay : BusRun ℝ String Unit where
  channel :=
    { config :=
        { latencyKind := .exponential
          latencyMs := 100
          jitterMs := 50
          lossProbability := 0
          rangeM := some 300
          latencyValid := by norm_num
          jitterValid := by norm_num
          lossValid := by norm_num
          rangeValid := by
            intro range isRange
            rw [← Option.some.inj isRange]
            norm_num }
      math := realMath
      draws _ := ⟨1 / 3, by norm_num, by norm_num⟩ }
  calls
    | 0 => .subscribe ⟨"car", "hazard", "+", (), some (30, 40)⟩
    | 1 => .publish ⟨"hazard", "rsu", "ice", 0, some (0, 0)⟩
    | 2 => .advanceTo 1
    | 3 => .next
    | 4 => .publish ⟨"hazard", "rsu", "fog", 1, none⟩
    | _ => .next

end

theorem relay_orderly : relay.Orderly := orderly relay

end BusRun
end UrbanFlow
