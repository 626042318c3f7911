import UrbanFlow.Ingest.Store

/-!
# Appending to the ingest store

The store is a partition of the events that it has accepted: the run of an id,
in the shard of its hash, holds the aggregates of the accepted events of the id.
What a call returns, the statistics and the summaries follow from the accepted
events alone, and the summaries do not depend on their order.
-/

namespace UrbanFlow.Ingest

namespace Double

@[simp] theorem nan_add (value : Double) : nan.add value = nan := rfl

@[simp] theorem add_nan (value : Double) : value.add nan = nan := by cases value <;> rfl

/-- Two values may be added in either order. -/
theorem add_swap (first second third : Double) :
    (first.add second).add third = (first.add third).add second := by
  cases first with
  | nan => rfl
  | finite =>
    cases second with
    | nan => simp
    | finite =>
      cases third with
      | nan => simp
      | finite => simp only [add, add_right_comm]
      | infinite => rfl
    | infinite b =>
      cases third with
      | nan => simp
      | finite => rfl
      | infinite c => cases b <;> cases c <;> rfl
  | infinite a =>
    cases second with
    | nan => simp
    | finite =>
      cases third with
      | nan => simp
      | finite => rfl
      | infinite c => cases a <;> cases c <;> rfl
    | infinite b =>
      cases third with
      | nan => simp
      | finite => cases a <;> cases b <;> rfl
      | infinite c => cases a <;> cases b <;> cases c <;> rfl

theorem less_trans {first second third : Double} (firstLess : first.less second = true)
    (secondLess : second.less third = true) : first.less third = true := by
  cases first <;> cases second <;> cases third <;> simp_all [less]
  exact lt_trans firstLess secondLess

theorem eq_of_not_less {first second : Double} (isFirst : first ≠ nan) (isSecond : second ≠ nan)
    (notLess : first.less second = false) (notGreater : second.less first = false) :
    first = second := by
  cases first with
  | nan => exact absurd rfl isFirst
  | finite =>
    cases second with
    | nan => exact absurd rfl isSecond
    | finite =>
      simp only [less, decide_eq_false_iff_not, not_lt] at notLess notGreater
      rw [le_antisymm notGreater notLess]
    | infinite b => cases b <;> simp [less] at notLess notGreater
  | infinite a =>
    cases second with
    | nan => exact absurd rfl isSecond
    | finite => cases a <;> simp [less] at notLess notGreater
    | infinite b => cases a <;> cases b <;> simp [less] at notLess notGreater ⊢

end Double

def aggregate : List Event → Option Run
  | [] => none
  | first :: rest => some ((first :: rest).foldl Run.receive (Run.fresh first))

section

variable (events : List Event)

theorem aggregate_append (event : Event) : aggregate (events ++ [event]) =
      some (((aggregate events).getD (Run.fresh event)).receive event) := by
  cases events with
  | nil => rfl
  | cons => simp [aggregate]

theorem seen_foldl (run : Run) :
    (events.foldl Run.receive run).seen = run.seen ∪ (events.map Event.seq).toFinset := by
  induction events generalizing run with
  | nil => simp
  | cons _ _ ih =>
    rw [List.foldl_cons, ih]
    ext seq
    simp only [Run.receive, List.map_cons, List.toFinset_cons, Finset.mem_union, Finset.mem_insert]
    tauto

theorem events_foldl (run : Run) :
    (events.foldl Run.receive run).events = run.events + events.length := by
  induction events generalizing run with
  | nil => rfl
  | cons _ _ ih =>
    rw [List.foldl_cons, ih, List.length_cons]
    simp only [Run.receive]
    omega

end

theorem mem_seen_aggregate {events : List Event} {run : Run} (isRun : aggregate events = some run)
    (seq : Int) : seq ∈ run.seen ↔ ∃ event ∈ events, event.seq = seq := by
  cases events with
  | nil => cases isRun
  | cons =>
    cases isRun
    rw [seen_foldl]
    simp [Run.fresh, eq_comm]

theorem events_aggregate (events : List Event) :
    ((aggregate events).map Run.events).getD 0 = events.length := by
  cases events with
  | nil => rfl
  | cons =>
    simp only [aggregate, Option.map_some, Option.getD_some, events_foldl]
    simp [Run.fresh]

theorem aggregate_eq_none {events : List Event} : aggregate events = none ↔ events = [] := by
  cases events with
  | nil | cons first rest => simp [aggregate]

/-- The identity of an event. -/
def Event.key (event : Event) : GoString × Int := (event.runId, event.seq)

section

variable (accepted : List Event)

/-- What a call returns after some events have been accepted. -/
def outcome : Option Event → Result
  | none => .rejected
  | some event =>
    if ¬ event.Valid then .rejected
    else if event.key ∈ accepted.map Event.key then .duplicate
    else .accepted

def accept (event : Option Event) : List Event := match outcome accepted event, event with
  | .accepted, some event => accepted ++ [event]
  | _, _ => accepted

def ofRun (runId : GoString) : List Event := accepted.filter fun event => event.runId = runId

end

/-- The store holds the aggregates of the accepted events, each in the shard of
its id. -/
structure Represents (store : Store) (accepted : List Event) (shards : Nat) : Prop where
  length : store.shards.length = shards
  holds : ∀ index runId, (store.shard index).lookup runId =
      if store.shardFor runId = some index then aggregate (ofRun accepted runId)
      else none

namespace Store

theorem shardFor_congr {store next : Store}
    (sameLength : next.shards.length = store.shards.length) (runId : GoString) :
    next.shardFor runId = store.shardFor runId := by
  unfold shardFor
  rw [sameLength]

theorem lt_of_shardFor {store : Store} {runId : GoString} {index : Nat}
    (isShard : store.shardFor runId = some index) : index < store.shards.length := by
  dsimp only [shardFor] at isShard
  split at isShard
  · cases isShard
  · next notZero =>
      cases isShard
      have isLess := Nat.mod_lt (fnv32a runId).toNat (Nat.pos_of_ne_zero notZero)
      have isAtMost := Nat.mod_le store.shards.length (2 ^ 32)
      omega

theorem lookup_put {store : Store} {index : Nat} (inside : index < store.shards.length)
    (runId : GoString) (run : Run) (other : Nat) (otherId : GoString) :
    ((store.put index runId run).shard other).lookup otherId =
      if other = index ∧ otherId = runId then some run else (store.shard other).lookup otherId := by
  unfold put shard
  by_cases isShard : other = index
  · subst isShard
    rw [List.getElem?_set_self inside, Option.getD_some]
    by_cases isRun : otherId = runId
    · subst isRun
      simp
    · simp [Finmap.lookup_insert_of_ne _ isRun, isRun]
  · rw [List.getElem?_set_ne (Ne.symm isShard)]
    simp [isShard]

end Store

theorem represents_new (shards : Int) : Represents (Store.new shards) []
      (if shards < 1 then 1 else shards.toNat) where
  length := by simp [Store.new]
  holds := by
    intro index runId
    have isEmpty : (Store.new shards).shard index = ∅ := by
      unfold Store.shard
      cases isShard : (Store.new shards).shards[index]? with
      | none => rfl
      | some => exact List.eq_of_mem_replicate (List.mem_of_getElem? isShard)
    rw [isEmpty]
    simp [ofRun, aggregate]

section

variable (accepted : List Event) (event : Event)

theorem ofRun_append_of_ne {runId : GoString} (different : runId ≠ event.runId) :
    ofRun (accepted ++ [event]) runId = ofRun accepted runId := by
  simp [ofRun, Ne.symm different]

theorem ofRun_append_self : ofRun (accepted ++ [event]) event.runId =
      ofRun accepted event.runId ++ [event] := by
  simp [ofRun]

theorem key_mem_map : event.key ∈ accepted.map Event.key ↔
      ∃ other ∈ ofRun accepted event.runId, other.seq = event.seq := by
  simp only [List.mem_map, ofRun, List.mem_filter, decide_eq_true_eq, Event.key, Prod.mk.injEq]
  constructor
  · rintro ⟨other, isOther, sameRun, sameSeq⟩
    exact ⟨other, ⟨isOther, sameRun⟩, sameSeq⟩
  · rintro ⟨other, ⟨isOther, sameRun⟩, sameSeq⟩
    exact ⟨other, isOther, sameRun, sameSeq⟩

end

theorem append_represents {store : Store} {accepted : List Event} {shards : Nat}
    (represents : Represents store accepted shards) (usable : shards % 2 ^ 32 ≠ 0)
    (event : Option Event) : ∃ next, store.append event = some (next, outcome accepted event) ∧
      Represents next (accept accepted event) shards ∧
      (outcome accepted event ≠ .accepted → next = store) := by
  cases event with
  | none => exact ⟨store, rfl, represents, fun _ => rfl⟩
  | some event =>
    by_cases isValid : event.Valid
    · obtain ⟨index, isShard⟩ : ∃ index, store.shardFor event.runId = some index := by
        unfold Store.shardFor
        rw [represents.length]
        exact ⟨_, if_neg usable⟩
      have inside := Store.lt_of_shardFor isShard
      have isHeld := represents.holds index event.runId
      rw [if_pos isShard] at isHeld
      have added : ∀ run, aggregate (ofRun accepted event.runId ++ [event]) = some run →
          outcome accepted (some event) = .accepted →
          Represents (store.put index event.runId run) (accept accepted (some event)) shards := by
        intro run isRun isAccepted
        have sameLength : (store.put index event.runId run).shards.length =
            store.shards.length := by
          simp [Store.put]
        refine ⟨sameLength.trans represents.length, ?_⟩
        intro other otherId
        rw [Store.lookup_put inside, Store.shardFor_congr sameLength]
        unfold accept
        rw [isAccepted]
        dsimp only
        by_cases isOurs : other = index ∧ otherId = event.runId
        · obtain ⟨rfl, rfl⟩ := isOurs
          rw [if_pos ⟨rfl, rfl⟩, if_pos isShard, ofRun_append_self, isRun]
        · rw [if_neg isOurs, represents.holds other otherId]
          by_cases sameRun : otherId = event.runId
          · subst sameRun
            have notShard : store.shardFor event.runId ≠ some other := by
              intro isOther
              cases isOther.symm.trans isShard
              exact isOurs ⟨rfl, rfl⟩
            rw [if_neg notShard, if_neg notShard]
          · rw [ofRun_append_of_ne accepted event sameRun]
      simp only [Store.append, isValid, not_true_eq_false, if_false, isShard, isHeld]
      cases isRun : aggregate (ofRun accepted event.runId) with
      | none =>
        have isAccepted : outcome accepted (some event) = .accepted := by
          have isEmpty := aggregate_eq_none.mp isRun
          simp [outcome, isValid, key_mem_map, isEmpty]
        rw [isAccepted]
        refine ⟨_, rfl, added _ ?_ isAccepted, fun differs => absurd rfl differs⟩
        rw [aggregate_append, isRun]
        rfl
      | some run =>
        by_cases isSeen : event.seq ∈ run.seen
        · have isDuplicate : outcome accepted (some event) = .duplicate := by
            have isKey := (key_mem_map accepted event).mpr
              ((mem_seen_aggregate isRun event.seq).mp isSeen)
            simp only [outcome, isValid, not_true_eq_false, if_false, isKey, if_true]
          rw [isDuplicate]
          refine ⟨store, by simp [isSeen], ?_, fun _ => rfl⟩
          unfold accept
          rw [isDuplicate]
          exact represents
        · have isAccepted : outcome accepted (some event) = .accepted := by
            have notKey : event.key ∉ accepted.map Event.key := by
              rw [key_mem_map, ← mem_seen_aggregate isRun event.seq]
              exact isSeen
            simp only [outcome, isValid, not_true_eq_false, if_false, notKey]
          rw [isAccepted]
          refine ⟨_, by simp only [isSeen, if_false]; rfl,
            added _ ?_ isAccepted, fun differs => absurd rfl differs⟩
          rw [aggregate_append, isRun]
          rfl
    · have isRejected : outcome accepted (some event) = .rejected := by
        simp [outcome, isValid]
      refine ⟨store, ?_, ?_, fun _ => rfl⟩
      · rw [isRejected]
        simp [Store.append, isValid]
      · unfold accept
        rw [isRejected]
        exact represents

/-- A strict order of the numbers among the doubles. -/
structure NumberOrder (before : Double → Double → Bool) : Prop where
  irreflexive : ∀ first, before first first = false
  transitive : ∀ {first second third}, before first second = true →
    before second third = true → before first third = true
  connected : ∀ {first second}, first ≠ .nan → second ≠ .nan →
    before first second = false → before second first = false → first = second

/-- The earlier of two values. -/
def earlier (before : Double → Double → Bool) (chosen value : Double) : Double :=
  if before value chosen then value else chosen

namespace NumberOrder

variable {before : Double → Double → Bool}

section

variable (order : NumberOrder before)

include order

variable {first second : Double}

theorem asymmetric (isBefore : before first second = true) : before second first = false := by
  by_contra notAfter
  have isLoop := order.transitive isBefore (by simpa using notAfter)
  rw [order.irreflexive] at isLoop
  cases isLoop

theorem earlier_self (chosen value : Double) : earlier before (earlier before chosen value) value =
      earlier before chosen value := by
  unfold earlier
  by_cases isBefore : before value chosen = true
  · simp [isBefore, order.irreflexive]
  · simp [isBefore]

theorem earlier_comm (isFirst : first ≠ .nan) (isSecond : second ≠ .nan) :
    earlier before first second = earlier before second first := by
  unfold earlier
  cases isBefore : before second first with
  | true => simp [order.asymmetric isBefore]
  | false =>
    cases isAfter : before first second with
    | true => simp
    | false => simpa using order.connected isFirst isSecond isAfter isBefore

theorem earlier_swap (chosen : Double) (isFirst : first ≠ .nan) (isSecond : second ≠ .nan) :
    earlier before (earlier before chosen first) second =
      earlier before (earlier before chosen second) first := by
  have ofBefore : ∀ {low high : Double}, before low high = true →
      earlier before (earlier before chosen low) high =
        earlier before (earlier before chosen high) low := by
    intro low high isBefore
    have notBefore := order.asymmetric isBefore
    unfold earlier
    cases lowChosen : before low chosen with
    | true =>
      cases highChosen : before high chosen with
      | true => simp [isBefore, notBefore]
      | false => simp [lowChosen, notBefore]
    | false =>
      have highAfter : before high chosen = false := by
        by_contra isEarlier
        have isLow := order.transitive isBefore (by simpa using isEarlier)
        rw [lowChosen] at isLow
        cases isLow
      simp [lowChosen, highAfter]
  cases isBefore : before first second with
  | true => exact ofBefore isBefore
  | false =>
    cases isAfter : before second first with
    | true => exact (ofBefore isAfter).symm
    | false => rw [order.connected isFirst isSecond isBefore isAfter]

end

variable {values others : List Double}

section

variable (order : NumberOrder before) (numbers : ∀ value ∈ values, value ≠ .nan)

include order numbers

/-- Looking at a value that is looked at anyway changes nothing. -/
theorem foldl_cons_of_mem (chosen : Double) {value : Double} (isValue : value ∈ values) :
    (value :: values).foldl (earlier before) chosen = values.foldl (earlier before) chosen := by
  have isPerm := List.perm_cons_erase isValue
  have swaps : ∀ first ∈ values, ∀ second ∈ values, ∀ chosen,
      earlier before (earlier before chosen first) second =
        earlier before (earlier before chosen second) first :=
    fun first isFirst second isSecond chosen =>
      order.earlier_swap chosen (numbers first isFirst) (numbers second isSecond)
  rw [List.foldl_cons, isPerm.foldl_eq' swaps, isPerm.foldl_eq' swaps,
    List.foldl_cons, List.foldl_cons, order.earlier_self]

/-- The earliest of some numbers does not depend on their order, nor on the one
that is looked at first. -/
theorem foldl_eq_of_perm (isPerm : values.Perm others) {first second : Double}
    (isFirst : first ∈ values) (isSecond : second ∈ others) :
    values.foldl (earlier before) first = others.foldl (earlier before) second := by
  have secondValue := isPerm.symm.subset isSecond
  calc values.foldl (earlier before) first
      = (second :: values).foldl (earlier before) first :=
        (order.foldl_cons_of_mem numbers first secondValue).symm
    _ = (first :: values).foldl (earlier before) second := by
        rw [List.foldl_cons, List.foldl_cons, order.earlier_comm
          (numbers first isFirst) (numbers second secondValue)]
    _ = values.foldl (earlier before) second := order.foldl_cons_of_mem numbers second isFirst
    _ = others.foldl (earlier before) second := isPerm.foldl_eq' (fun a isA b isB chosen =>
          order.earlier_swap chosen (numbers a isA) (numbers b isB)) second

end

end NumberOrder

theorem less_numberOrder : NumberOrder Double.less where
  irreflexive := by
    intro value
    cases value with
    | finite => simp [Double.less]
    | infinite negative => cases negative <;> rfl
    | nan => rfl
  transitive := Double.less_trans
  connected := Double.eq_of_not_less

theorem greater_numberOrder : NumberOrder fun first second => second.less first where
  irreflexive := less_numberOrder.irreflexive
  transitive := fun firstLess secondLess => Double.less_trans secondLess firstLess
  connected := fun isFirst isSecond notLess notGreater =>
    Double.eq_of_not_less isFirst isSecond notGreater notLess

section

variable (events : List Event) (run : Run)

theorem firstSimTime_foldl : (events.foldl Run.receive run).firstSimTime =
      (events.map Event.simTime).foldl (earlier Double.less) run.firstSimTime := by
  induction events generalizing run with
  | nil => rfl
  | cons _ _ ih =>
    rw [List.foldl_cons, ih]
    rfl

theorem lastSimTime_foldl :
    (events.foldl Run.receive run).lastSimTime = (events.map Event.simTime).foldl
        (earlier fun first second => second.less first) run.lastSimTime := by
  induction events generalizing run with
  | nil => rfl
  | cons _ _ ih =>
    rw [List.foldl_cons, ih]
    rfl

theorem lastSeq_foldl :
    (events.foldl Run.receive run).lastSeq = (events.map Event.seq).foldl max run.lastSeq := by
  induction events generalizing run with
  | nil => rfl
  | cons _ _ ih =>
    rw [List.foldl_cons, ih, List.map_cons, List.foldl_cons]
    congr 1
    simp only [Run.receive, max_def]
    split <;> split <;> omega

theorem metrics_foldl : (events.foldl Run.receive run).metrics =
      (events.map Event.metrics).foldl Run.addMetrics run.metrics := by
  induction events generalizing run with
  | nil => rfl
  | cons _ _ ih =>
    rw [List.foldl_cons, ih]
    rfl

end

theorem addMetrics_swap (metrics : GoString → Option MetricAcc)
    (first second : GoString → Option Double) :
    Run.addMetrics (Run.addMetrics metrics first) second =
      Run.addMetrics (Run.addMetrics metrics second) first := by
  funext key
  unfold Run.addMetrics
  cases first key with
  | none => rfl
  | some =>
    cases second key with
    | none => rfl
    | some => simp [Double.add_swap]

theorem summary_aggregate_perm {events others : List Event} (isPerm : events.Perm others)
    (numbers : ∀ event ∈ events, event.simTime ≠ .nan) (runId : GoString) :
    (aggregate events).map (Run.summary · runId) =
      (aggregate others).map (Run.summary · runId) := by
  cases events with
  | nil => rw [List.nil_perm.mp isPerm]
  | cons first rest =>
    cases others with
    | nil => cases List.perm_nil.mp isPerm
    | cons second more =>
      have times := isPerm.map Event.simTime
      have areNumbers : ∀ value ∈ (first :: rest).map Event.simTime, value ≠ .nan := by
        intro value isValue
        obtain ⟨event, isEvent, rfl⟩ := List.mem_map.mp isValue
        exact numbers event isEvent
      simp only [aggregate, Option.map_some, Run.summary]
      rw [events_foldl, events_foldl, lastSeq_foldl, lastSeq_foldl,
        firstSimTime_foldl, firstSimTime_foldl, lastSimTime_foldl,
        lastSimTime_foldl, metrics_foldl, metrics_foldl]
      have sameLength := isPerm.length_eq
      have sameSeq : ((first :: rest).map Event.seq).foldl max (-1) =
          ((second :: more).map Event.seq).foldl max (-1) :=
        (isPerm.map Event.seq).foldl_eq (-1)
      have sameMetrics : ((first :: rest).map Event.metrics).foldl Run.addMetrics (fun _ => none) =
          ((second :: more).map Event.metrics).foldl Run.addMetrics (fun _ => none) :=
        (isPerm.map Event.metrics).foldl_eq' (fun a _ b _ metrics => addMetrics_swap metrics a b) _
      have sameFirst := less_numberOrder.foldl_eq_of_perm areNumbers times
        (List.mem_map_of_mem List.mem_cons_self)
        (List.mem_map_of_mem List.mem_cons_self)
      have sameLast := greater_numberOrder.foldl_eq_of_perm areNumbers times
        (List.mem_map_of_mem List.mem_cons_self)
        (List.mem_map_of_mem List.mem_cons_self)
      simp only [Run.fresh, sameLength, sameSeq, sameMetrics, sameFirst, sameLast]

end UrbanFlow.Ingest
