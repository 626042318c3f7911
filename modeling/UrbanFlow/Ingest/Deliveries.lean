import UrbanFlow.Ingest.StoreRuns

/-!
# Repeated and reordered deliveries

What a sequence of calls leaves is decided by the valid events among them: each
is accepted at its first delivery, the statistics count them, and the summaries
are the same for every order, every number of repetitions and every number of
shards. A number of shards that is a multiple of `2 ^ 32` panics, and a simulated
time that is not a number passes the validation and is remembered only when it
comes first.
-/

namespace UrbanFlow.Ingest

/-- A valid event of an identity is among some calls. -/
def Sent (calls : List (Option Event)) (key : GoString × Int) : Prop :=
  ∃ event, some event ∈ calls ∧ event.Valid ∧ event.key = key

/-- What a call is to return after some others. -/
structure Answers (calls : List (Option Event)) (call : Option Event) (result : Result) : Prop where
  rejected : (∀ event ∈ call, ¬ event.Valid) → result = .rejected
  duplicate : ∀ event ∈ call, event.Valid → Sent calls event.key → result = .duplicate
  accepted : ∀ event ∈ call, event.Valid → ¬ Sent calls event.key → result = .accepted

/-- The valid events among some calls. -/
def validSends (calls : List (Option Event)) : List Event :=
  (calls.filterMap id).filter fun event => event.Valid

def acceptAll (calls : List (Option Event)) : List Event := calls.foldl accept []

theorem mem_validSends {calls : List (Option Event)} {event : Event} :
    event ∈ validSends calls ↔ some event ∈ calls ∧ event.Valid := by
  simp [validSends]

theorem acceptAll_append (calls : List (Option Event)) (call : Option Event) :
    acceptAll (calls ++ [call]) = accept (acceptAll calls) call := by
  simp [acceptAll]

/-- The accepted events are valid ones that have been sent, one of each
identity. -/
structure Accepted (calls : List (Option Event)) : Prop where
  keys_nodup : ((acceptAll calls).map Event.key).Nodup
  sent : ∀ event ∈ acceptAll calls, event ∈ validSends calls
  every : ∀ event ∈ validSends calls, event.key ∈ (acceptAll calls).map Event.key

theorem accept_cases (accepted : List Event) (call : Option Event) :
    (∃ event, call = some event ∧ event.Valid ∧ event.key ∉ accepted.map Event.key ∧
      outcome accepted call = .accepted ∧ accept accepted call = accepted ++ [event]) ∨
    accept accepted call = accepted ∧ ((∃ event, call = some event ∧ event.Valid ∧
          event.key ∈ accepted.map Event.key ∧ outcome accepted call = .duplicate) ∨
        (∀ event ∈ call, ¬ event.Valid) ∧ outcome accepted call = .rejected) := by
  cases call with
  | none => exact Or.inr ⟨rfl, Or.inr ⟨by simp, rfl⟩⟩
  | some event =>
    by_cases isValid : event.Valid
    · by_cases isKey : event.key ∈ accepted.map Event.key
      · have isDuplicate : outcome accepted (some event) = .duplicate := by
          simp only [outcome, isValid, not_true_eq_false, if_false, isKey, if_true]
        refine Or.inr ⟨?_, Or.inl ⟨event, rfl, isValid, isKey, isDuplicate⟩⟩
        simp only [accept, isDuplicate]
      · have isAccepted : outcome accepted (some event) = .accepted := by
          simp only [outcome, isValid, not_true_eq_false, if_false, isKey]
        refine Or.inl ⟨event, rfl, isValid, isKey, isAccepted, ?_⟩
        simp only [accept, isAccepted]
    · have isRejected : outcome accepted (some event) = .rejected := by
        simp only [outcome, isValid, not_false_eq_true, if_true]
      refine Or.inr ⟨?_, Or.inr ⟨?_, isRejected⟩⟩
      · simp only [accept, isRejected]
      · rintro other ⟨⟩
        exact isValid

section

variable (calls : List (Option Event))

theorem accepted : Accepted calls := by
  induction calls using List.reverseRecOn with
  | nil => exact ⟨by simp [acceptAll], by simp [acceptAll], by simp [validSends]⟩
  | append_singleton calls call ih =>
    obtain ⟨nodup, sent, every⟩ := ih
    have later : ∀ event ∈ validSends calls, event ∈ validSends (calls ++ [call]) := by
      intro event isSent
      obtain ⟨isCall, isValid⟩ := mem_validSends.mp isSent
      exact mem_validSends.mpr ⟨List.mem_append_left _ isCall, isValid⟩
    have last : ∀ event ∈ validSends (calls ++ [call]),
        event ∈ validSends calls ∨ call = some event ∧ event.Valid := by
      intro event isSent
      obtain ⟨isCall, isValid⟩ := mem_validSends.mp isSent
      obtain isEarlier | isLast := List.mem_append.mp isCall
      · exact Or.inl (mem_validSends.mpr ⟨isEarlier, isValid⟩)
      · exact Or.inr ⟨(List.mem_singleton.mp isLast).symm, isValid⟩
    refine ⟨?_, ?_, ?_⟩
    all_goals
      rw [acceptAll_append]
      obtain ⟨event, rfl, isValid, isNew, _, isAccept⟩ | ⟨isAccept, isOld⟩ :=
        accept_cases (acceptAll calls) call
    · rw [isAccept, List.map_append]
      refine List.nodup_append'.mpr ⟨nodup, by simp, ?_⟩
      simpa [List.disjoint_singleton] using isNew
    · rw [isAccept]
      exact nodup
    · rw [isAccept]
      intro other isOther
      obtain isOther | isLast := List.mem_append.mp isOther
      · exact later other (sent other isOther)
      · obtain rfl := List.mem_singleton.mp isLast
        exact mem_validSends.mpr ⟨by simp, isValid⟩
    · rw [isAccept]
      exact fun other isOther => later other (sent other isOther)
    · rw [isAccept]
      intro other isSent
      rw [List.map_append]
      obtain isSent | ⟨isLast, _⟩ := last other isSent
      · exact List.mem_append_left _ (every other isSent)
      · cases isLast
        exact List.mem_append_right _ (by simp)
    · rw [isAccept]
      intro other isSent
      obtain isSent | ⟨rfl, otherValid⟩ := last other isSent
      · exact every other isSent
      · obtain ⟨_, isEvent, _, isKey, _⟩ | ⟨noneValid, _⟩ := isOld
        · cases isEvent
          exact isKey
        · exact absurd otherValid (noneValid other rfl)

theorem sent_iff (key : GoString × Int) :
    Sent calls key ↔ key ∈ (acceptAll calls).map Event.key := by
  have isAccepted := accepted calls
  constructor
  · rintro ⟨event, isCall, isValid, rfl⟩
    exact isAccepted.every event (mem_validSends.mpr ⟨isCall, isValid⟩)
  · intro isKey
    obtain ⟨event, isEvent, rfl⟩ := List.mem_map.mp isKey
    obtain ⟨isCall, isValid⟩ := mem_validSends.mp (isAccepted.sent event isEvent)
    exact ⟨event, isCall, isValid, rfl⟩

theorem outcome_answers (call : Option Event) :
    Answers calls call (outcome (acceptAll calls) call) := by
  obtain ⟨event, rfl, isValid, isNew, isOutcome, _⟩ | ⟨_,
    ⟨event, rfl, isValid, isOld, isOutcome⟩ | ⟨noneValid, isOutcome⟩⟩ :=
      accept_cases (acceptAll calls) call
  · rw [isOutcome]
    refine ⟨fun noneValid => absurd isValid (noneValid event rfl), ?_, ?_⟩
    · rintro other ⟨⟩ _ isSent
      exact absurd ((sent_iff calls event.key).mp isSent) isNew
    · exact fun _ _ _ _ => rfl
  · rw [isOutcome]
    refine ⟨fun noneValid => absurd isValid (noneValid event rfl), ?_, ?_⟩
    · exact fun _ _ _ _ => rfl
    · rintro other ⟨⟩ _ notSent
      exact absurd ((sent_iff calls event.key).mpr isOld) notSent
  · rw [isOutcome]
    refine ⟨fun _ => rfl, ?_, ?_⟩
    · exact fun other isOther isValid => absurd isValid (noneValid other isOther)
    · exact fun other isOther isValid => absurd isValid (noneValid other isOther)

end

/-- The number of shards that `New` makes. -/
def shardCount (shards : Int) : Nat := if shards < 1 then 1 else shards.toNat

/-- The number of shards is not a positive multiple of `2 ^ 32`. -/
def UsableShards (shards : Int) : Prop := ¬ (0 < shards ∧ shards % 2 ^ 32 = 0)

theorem shardCount_mod_ne_zero {shards : Int} (usable : UsableShards shards) :
    shardCount shards % 2 ^ 32 ≠ 0 := by
  unfold shardCount
  unfold UsableShards at usable
  split
  · decide
  · omega

theorem appendAll_represents {store : Store} {shards : Nat} (usable : shards % 2 ^ 32 ≠ 0)
    (calls : List (Option Event)) {held : List Event} (represents : Represents store held shards) :
    ∃ last results, store.appendAll calls = some (last, results) ∧
      Represents last (calls.foldl accept held) shards := by
  induction calls generalizing store held with
  | nil => exact ⟨store, [], rfl, represents⟩
  | cons call _ ih =>
    obtain ⟨next, isNext, nextRepresents, _⟩ := append_represents represents usable call
    obtain ⟨last, results, isLast, lastRepresents⟩ := ih nextRepresents
    refine ⟨last, outcome held call :: results, ?_, lastRepresents⟩
    rw [Store.appendAll, isNext]
    simp [isLast]

theorem exists_store {shards : Int} (usable : UsableShards shards) (calls : List (Option Event)) :
    ∃ store results, (Store.new shards).appendAll calls = some (store, results) ∧
      Represents store (acceptAll calls) (shardCount shards) :=
  appendAll_represents (shardCount_mod_ne_zero usable) calls (represents_new shards)

theorem summary_of_represents {store : Store} {held : List Event} {shards : Nat}
    (represents : Represents store held shards) (usable : shards % 2 ^ 32 ≠ 0) (runId : GoString) :
    store.summary runId = some (((aggregate (ofRun held runId)).map
        (Run.summary · runId)).getD { runId := runId }) := by
  obtain ⟨index, isShard⟩ : ∃ index, store.shardFor runId = some index := by
    unfold Store.shardFor
    rw [represents.length]
    exact ⟨_, if_neg usable⟩
  have isHeld := represents.holds index runId
  rw [if_pos isShard] at isHeld
  simp only [Store.summary, isShard, isHeld]
  cases aggregate (ofRun held runId) with
  | none | some run => rfl

theorem shards_eq_map_range (store : Store) :
    store.shards = (List.range store.shards.length).map store.shard := by
  refine List.ext_getElem (by simp) ?_
  intro index inside _
  simp [Store.shard, List.getElem?_eq_getElem inside]

theorem sum_shards {Amount : Type} [AddCommMonoid Amount] (store : Store)
    (measure : Dict GoString Run → Amount) :
    (store.shards.map measure).sum = ∑ index ∈ Finset.range store.shards.length,
        measure (store.shard index) := by
  conv_lhs => rw [shards_eq_map_range store]
  rw [List.map_map]
  rfl

section

variable {store : Store} {held : List Event} {shards : Nat}
  (represents : Represents store held shards)

include represents

theorem keys_of_represents (index : Nat) :
    (store.shard index).keys = (held.map Event.runId).toFinset.filter
        fun runId => store.shardFor runId = some index := by
  ext runId
  rw [Finmap.mem_keys, ← Finmap.lookup_isSome, represents.holds index runId]
  by_cases isShard : store.shardFor runId = some index
  · rw [if_pos isShard, Option.isSome_iff_ne_none, ne_eq, aggregate_eq_none]
    simp [isShard, ofRun]
  · simp [isShard]

theorem stats_of_represents (usable : shards % 2 ^ 32 ≠ 0) :
    store.stats = ((held.map Event.runId).toFinset.card, held.length) := by
  have everyShard : ∀ runId, ∃ index ∈ Finset.range store.shards.length,
      store.shardFor runId = some index := by
    intro runId
    obtain ⟨index, isShard⟩ : ∃ index, store.shardFor runId = some index := by
      unfold Store.shardFor
      rw [represents.length]
      exact ⟨_, if_neg usable⟩
    exact ⟨index, Finset.mem_range.mpr (Store.lt_of_shardFor isShard), isShard⟩
  have bySplitting : ∀ measure : GoString → Nat, ∑ index ∈ Finset.range store.shards.length,
          ∑ runId ∈ (store.shard index).keys, measure runId =
        ∑ runId ∈ (held.map Event.runId).toFinset, measure runId := by
    intro measure
    simp only [keys_of_represents represents]
    rw [← Finset.sum_fiberwise_of_maps_to (g := fun runId => ((store.shardFor runId).getD 0))
      (t := Finset.range store.shards.length)]
    · refine Finset.sum_congr rfl fun index _ => ?_
      refine Finset.sum_congr ?_ fun _ _ => rfl
      refine Finset.filter_congr ?_
      intro runId _
      obtain ⟨other, _, isOther⟩ := everyShard runId
      simp [isOther]
    · intro runId _
      obtain ⟨other, isInside, isOther⟩ := everyShard runId
      simpa [isOther] using isInside
  unfold Store.stats
  rw [sum_shards, sum_shards]
  refine Prod.ext ?_ ?_
  · simpa using bySplitting fun _ => 1
  · dsimp only
    have counts : ∀ index ∈ Finset.range store.shards.length, ∑ runId ∈ (store.shard index).keys,
            (((store.shard index).lookup runId).map Run.events).getD 0 =
          ∑ runId ∈ (store.shard index).keys, (ofRun held runId).length := by
      intro index _
      refine Finset.sum_congr rfl fun runId isKey => ?_
      rw [keys_of_represents represents] at isKey
      rw [represents.holds index runId, if_pos (Finset.mem_filter.mp isKey).2, events_aggregate]
    rw [Finset.sum_congr rfl counts, bySplitting]
    have isCount := Dict.sum_countP held Event.runId (fun _ => True) (held.map Event.runId).toFinset
    simp only [and_true] at isCount
    simp only [ofRun, ← List.countP_eq_length_filter]
    rw [isCount, List.countP_eq_length]
    intro event isEvent
    simpa using ⟨event, isEvent, rfl⟩

end

section

variable (calls : List (Option Event))

/-- The distinct run ids among the valid events of some calls. -/
def distinctRuns : Nat := ((validSends calls).map Event.runId).toFinset.card

/-- The distinct identities among the valid events of some calls. -/
def distinctEvents : Nat := ((validSends calls).map Event.key).toFinset.card

theorem keys_acceptAll : ((acceptAll calls).map Event.key).toFinset =
      ((validSends calls).map Event.key).toFinset := by
  have isAccepted := accepted calls
  ext key
  simp only [List.mem_toFinset]
  constructor
  · intro isKey
    obtain ⟨event, isEvent, rfl⟩ := List.mem_map.mp isKey
    exact List.mem_map_of_mem (isAccepted.sent event isEvent)
  · intro isKey
    obtain ⟨event, isEvent, rfl⟩ := List.mem_map.mp isKey
    exact isAccepted.every event isEvent

theorem toFinset_runIds (events : List Event) :
    (events.map Event.runId).toFinset = (events.map Event.key).toFinset.image Prod.fst := by
  ext runId
  simp [Event.key]

theorem runs_acceptAll :
    ((acceptAll calls).map Event.runId).toFinset.card = distinctRuns calls := by
  unfold distinctRuns
  rw [toFinset_runIds, toFinset_runIds, keys_acceptAll]

theorem length_acceptAll : (acceptAll calls).length = distinctEvents calls := by
  have isNodup := List.toFinset_card_of_nodup (accepted calls).keys_nodup
  rw [List.length_map, keys_acceptAll] at isNodup
  exact isNodup.symm

end

/-- Two sequences of calls send the same valid events, and every resend carries
the same payload. -/
structure SameSends (calls others : List (Option Event)) : Prop where
  same : ∀ event, event ∈ validSends calls ↔ event ∈ validSends others
  payload : ∀ event ∈ validSends calls, ∀ resent ∈ validSends calls,
    event.key = resent.key → event = resent

/-- Every simulated time that is sent is a number. -/
def TimesAreNumbers (calls : List (Option Event)) : Prop :=
  ∀ event ∈ validSends calls, event.simTime ≠ .nan

theorem mem_acceptAll {calls : List (Option Event)}
    (payload : ∀ event ∈ validSends calls, ∀ resent ∈ validSends calls,
      event.key = resent.key → event = resent) (event : Event) :
    event ∈ acceptAll calls ↔ event ∈ validSends calls := by
  have isAccepted := accepted calls
  constructor
  · exact isAccepted.sent event
  · intro isSent
    obtain ⟨first, isFirst, sameKey⟩ := List.mem_map.mp (isAccepted.every event isSent)
    rw [← payload first (isAccepted.sent first isFirst) event isSent sameKey]
    exact isFirst

theorem acceptAll_perm {calls others : List (Option Event)} (sends : SameSends calls others) :
    (acceptAll calls).Perm (acceptAll others) := by
  have othersPayload : ∀ event ∈ validSends others,
      ∀ resent ∈ validSends others, event.key = resent.key → event = resent := by
    intro event isEvent resent isResent
    exact sends.payload event ((sends.same event).mpr isEvent) resent
      ((sends.same resent).mpr isResent)
  refine (List.perm_ext_iff_of_nodup ?_ ?_).mpr ?_
  · exact List.Nodup.of_map _ (accepted calls).keys_nodup
  · exact List.Nodup.of_map _ (accepted others).keys_nodup
  · intro event
    rw [mem_acceptAll sends.payload, mem_acceptAll othersPayload, sends.same event]

/-- With a usable number of shards, a valid event is accepted at its first
delivery and a duplicate that changes nothing at every later one, the statistics
count the distinct runs and events, and the summaries of two orders are the same,
whatever the numbers of shards, where every simulated time is a number. -/
theorem deliveries_exact (shards : Int) (usable : UsableShards shards) :
    (∀ calls call, ∃ store results next result,
      (Store.new shards).appendAll calls = some (store, results) ∧
        store.append call = some (next, result) ∧ Answers calls call result ∧
        (result ≠ .accepted → next = store)) ∧
    (∀ calls, ∃ store results, (Store.new shards).appendAll calls = some (store, results) ∧
        store.stats = (distinctRuns calls, distinctEvents calls)) ∧
    ∀ otherShards, UsableShards otherShards → ∀ calls others,
      SameSends calls others → TimesAreNumbers calls → ∃ store results other otherResults,
          (Store.new shards).appendAll calls = some (store, results) ∧
          (Store.new otherShards).appendAll others = some (other, otherResults) ∧
          ∀ runId, ∃ summary, store.summary runId = some summary ∧
            other.summary runId = some summary := by
  refine ⟨?_, ?_, ?_⟩
  · intro calls call
    obtain ⟨store, results, isStore, represents⟩ := exists_store usable calls
    obtain ⟨next, isNext, _, unchanged⟩ :=
      append_represents represents (shardCount_mod_ne_zero usable) call
    exact ⟨store, results, next, _, isStore, isNext, outcome_answers calls call, unchanged⟩
  · intro calls
    obtain ⟨store, results, isStore, represents⟩ := exists_store usable calls
    refine ⟨store, results, isStore, ?_⟩
    rw [stats_of_represents represents (shardCount_mod_ne_zero usable),
      runs_acceptAll, length_acceptAll]
  · intro otherShards otherUsable calls others sends numbers
    obtain ⟨store, results, isStore, represents⟩ := exists_store usable calls
    obtain ⟨other, otherResults, isOther, otherRepresents⟩ := exists_store otherUsable others
    refine ⟨store, results, other, otherResults, isStore, isOther, ?_⟩
    intro runId
    rw [summary_of_represents represents (shardCount_mod_ne_zero usable),
      summary_of_represents otherRepresents (shardCount_mod_ne_zero otherUsable)]
    have isPerm : (ofRun (acceptAll calls) runId).Perm
        (ofRun (acceptAll others) runId) := (acceptAll_perm sends).filter _
    have areNumbers : ∀ event ∈ ofRun (acceptAll calls) runId, event.simTime ≠ .nan := by
      intro event isEvent
      exact numbers event ((accepted calls).sent event (List.mem_filter.mp isEvent).1)
    rw [summary_aggregate_perm isPerm areNumbers runId]
    exact ⟨_, rfl, rfl⟩

/-- An event of the run `r`. -/
def eventAt (seq : Int) (simTime : Double) : Event where
  runId := [114]
  seq := seq
  simTime := simTime
  metrics := fun _ => none

/-- The first simulated time in the summary of the run `r`, after some calls on
a store with one shard. -/
def firstTime (calls : List (Option Event)) : Option Double :=
  match (Store.new 1).appendAll calls with
  | none => none
  | some (store, _) => (store.summary [114]).map Summary.firstSimTime

theorem append_of_noShard {store : Store} {event : Event} (isValid : event.Valid)
    (noShard : store.shardFor event.runId = none) : store.append (some event) = none := by
  simp only [Store.append, isValid, not_true_eq_false, if_false, noShard]

theorem noShard_of_multiple {shards : Int} (notUsable : 0 < shards ∧ shards % 2 ^ 32 = 0)
    (runId : GoString) : (Store.new shards).shardFor runId = none := by
  have isCount : (Store.new shards).shards.length % 2 ^ 32 = 0 := by
    unfold Store.new
    rw [List.length_replicate]
    split
    · omega
    · omega
  unfold Store.shardFor
  exact if_pos isCount

/-- A simulated time that is not a number is accepted, and stays when it comes
first; a store with `2 ^ 32` shards panics. -/
theorem order_matters : firstTime [some (eventAt 0 .nan), some (eventAt 1 (.finite 1))] =
        some .nan ∧
      firstTime [some (eventAt 1 (.finite 1)), some (eventAt 0 .nan)] = some (.finite 1) ∧
      (Store.new (2 ^ 32)).append (some (eventAt 0 (.finite 1))) = none := by
  refine ⟨by decide, by decide, ?_⟩
  exact append_of_noShard (by decide) (noShard_of_multiple (by simp) [114])

theorem resent_duplicate : ∃ store results next result,
      (Store.new 16).appendAll [some (eventAt 0 (.finite 1))] = some (store, results) ∧
        store.append (some (eventAt 0 (.finite 1))) = some (next, result) ∧
        Answers [some (eventAt 0 (.finite 1))] (some (eventAt 0 (.finite 1))) result ∧
        (result ≠ .accepted → next = store) :=
  (deliveries_exact 16 (by simp [UsableShards])).1 _ _

end UrbanFlow.Ingest
