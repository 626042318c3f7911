import UrbanFlow.Networks.Tick
import UrbanFlow.Library.Sums

/-!
# What ticks keep

While the links allow the same from tick to tick, vehicles leave a link in the order
they entered it and no sooner than they can cross it, no link has more vehicles than it
stores, and the vehicles are counted.
-/

namespace UrbanFlow.Networks
namespace Traffic

open Traffic

/-! ## What entered and left a link -/

section

variable (link : String) (log : List Passage)

/-- The vehicles that entered a link, with the times, in order. -/
def entries : List (Vehicle × ℚ) := log.filterMap fun
    | .enters id vehicle t => if id = link then some (vehicle, t) else none
    | .leaves _ _ _ => none

/-- The vehicles that left a link, with the times, in order. -/
def exits : List (Vehicle × ℚ) := log.filterMap fun
    | .enters _ _ _ => none
    | .leaves id vehicle t => if id = link then some (vehicle, t) else none

end

section

variable {link other : String} {log : List Passage} {vehicle : Vehicle} {t : ℚ}

@[simp] theorem entries_enters_self :
    entries link (log ++ [.enters link vehicle t]) = entries link log ++ [(vehicle, t)] := by
  simp [entries]

theorem entries_enters_ne (differs : link ≠ other) :
    entries link (log ++ [.enters other vehicle t]) = entries link log := by
  simp [entries, differs.symm]

@[simp] theorem entries_leaves :
    entries link (log ++ [.leaves other vehicle t]) = entries link log := by
  simp [entries]

@[simp] theorem exits_enters : exits link (log ++ [.enters other vehicle t]) = exits link log := by
  simp [exits]

@[simp] theorem exits_leaves_self :
    exits link (log ++ [.leaves link vehicle t]) = exits link log ++ [(vehicle, t)] := by
  simp [exits]

theorem exits_leaves_ne (differs : link ≠ other) :
    exits link (log ++ [.leaves other vehicle t]) = exits link log := by
  simp [exits, differs.symm]

end

/-- A vehicle leaves a link as it entered it, and no sooner than it can cross it. -/
def Crosses (seconds : ℚ) (exit entry : Vehicle × ℚ) : Prop :=
  exit.1 = entry.1 ∧ entry.2 + seconds ≤ exit.2

/-- What has left a link are the first that entered it, in this order; what entered
after them is in its queue. -/
def InOrder (roads : Roads) (traffic : Traffic) (link : String) : Prop :=
  ∃ left waiting, entries link traffic.log = left ++ waiting ∧
      List.Forall₂ (Crosses (roads.cross link)) (exits link traffic.log) left ∧
      traffic.queues link = waiting.map fun entry => (entry.1, entry.2 + roads.cross link)

section

variable {roads : Roads} {t : ℚ} {traffic : Traffic} {link : String}

theorem InOrder.enqueue (inOrder : InOrder roads traffic link) (joined : String)
    (vehicle : Vehicle) : InOrder roads (traffic.enqueue roads t joined vehicle) link := by
  obtain ⟨left, waiting, hasEntered, crossed, isQueue⟩ := inOrder
  by_cases same : link = joined
  · subst same
    refine ⟨left, waiting ++ [(vehicle, t)], ?_, ?_, ?_⟩
    · simp only [Traffic.enqueue, entries_enters_self, hasEntered, List.append_assoc]
    · simpa only [Traffic.enqueue, exits_enters] using crossed
    · simp only [Traffic.enqueue, Function.update_self, isQueue, List.map_append,
        List.map_singleton]
  · refine ⟨left, waiting, ?_, ?_, ?_⟩
    · simpa only [Traffic.enqueue, entries_enters_ne same] using hasEntered
    · simpa only [Traffic.enqueue, exits_enters] using crossed
    · simpa only [Traffic.enqueue, Function.update_of_ne same] using isQueue

theorem InOrder.dequeue (inOrder : InOrder roads traffic link) {from_ : String} (node : String)
    {vehicle : Vehicle} {ready : ℚ} {rest : Queue}
    (isQueue : traffic.queues from_ = (vehicle, ready) :: rest) (isReady : ready ≤ t) :
    InOrder roads (traffic.dequeue t from_ node vehicle rest) link := by
  obtain ⟨left, waiting, hasEntered, crossed, isWaiting⟩ := inOrder
  by_cases same : link = from_
  · subst same
    rw [isQueue] at isWaiting
    cases waiting with
    | nil => cases isWaiting
    | cons first others =>
      rw [List.map_cons, List.cons.injEq, Prod.mk.injEq] at isWaiting
      obtain ⟨⟨isFirst, isTime⟩, isRest⟩ := isWaiting
      refine ⟨left ++ [first], others, ?_, ?_, ?_⟩
      · simp only [Traffic.dequeue, entries_leaves, hasEntered, List.append_assoc,
          List.singleton_append]
      · simp only [Traffic.dequeue, exits_leaves_self]
        exact List.rel_append crossed (.cons ⟨isFirst, isTime ▸ isReady⟩ .nil)
      · simpa only [Traffic.dequeue, Function.update_self] using isRest
  · refine ⟨left, waiting, ?_, ?_, ?_⟩
    · simpa only [Traffic.dequeue, entries_leaves] using hasEntered
    · simpa only [Traffic.dequeue, exits_leaves_ne same] using crossed
    · simpa only [Traffic.dequeue, Function.update_of_ne same] using isWaiting

variable {gates : List Gate}

theorem InOrder.move {before after : Traffic} (isMove : Move roads t gates before after)
    (inOrder : InOrder roads before link) : InOrder roads after link := by
  cases isMove with
  | draw | block | grant => exact inOrder
  | enter => exact InOrder.enqueue inOrder _ _
  | finish _ node _ _ _ isQueue _ isReady =>
    exact inOrder.dequeue node isQueue isReady
  | pass _ node _ _ _ isQueue _ isReady =>
    exact (inOrder.dequeue node isQueue isReady).enqueue _ _

/-! ## What a link stores and what it lets through -/

/-- A link has at most the vehicles it stores, and never had more; the vehicles that
left it are counted, and its credit is within its limit. -/
structure Bounded (roads : Roads) (traffic : Traffic) (link : String) : Prop where
  length_le : (traffic.queues link).length ≤ roads.cap link
  peak_le : traffic.peak link ≤ roads.cap link
  passed : traffic.passed_link link = (exits link traffic.log).length
  credit_nonneg : 0 ≤ traffic.credit link
  credit_le : traffic.credit link ≤ roads.lim link

section

variable (bounded : Bounded roads traffic link)

include bounded

theorem Bounded.enqueue {joined : String}
    (hasRoom : (traffic.queues joined).length < roads.cap joined) (vehicle : Vehicle) :
    Bounded roads (traffic.enqueue roads t joined vehicle) link := by
  have passed : (traffic.enqueue roads t joined vehicle).passed_link link =
      (exits link (traffic.enqueue roads t joined vehicle).log).length := by
    simpa only [Traffic.enqueue, exits_enters] using bounded.passed
  by_cases same : link = joined
  · subst same
    have isLonger : (traffic.queues link ++
        [(vehicle, t + roads.cross link)]).length ≤ roads.cap link := by
      rw [List.length_append, List.length_singleton]
      exact hasRoom
    constructor
    · simpa only [Traffic.enqueue, Function.update_self] using isLonger
    · simp only [Traffic.enqueue, Function.update_self]
      exact max_le bounded.peak_le isLonger
    · exact passed
    · exact bounded.credit_nonneg
    · exact bounded.credit_le
  · constructor
    · simpa only [Traffic.enqueue, Function.update_of_ne same] using bounded.length_le
    · simpa only [Traffic.enqueue, Function.update_of_ne same] using bounded.peak_le
    · exact passed
    · exact bounded.credit_nonneg
    · exact bounded.credit_le

theorem Bounded.dequeue {from_ : String} (node : String)
    {vehicle : Vehicle} {ready : ℚ} {rest : Queue}
    (isQueue : traffic.queues from_ = (vehicle, ready) :: rest)
    (hasCredit : 1 ≤ traffic.credit from_) :
    Bounded roads (traffic.dequeue t from_ node vehicle rest) link := by
  by_cases same : link = from_
  · subst same
    have shorter := bounded.length_le
    rw [isQueue, List.length_cons] at shorter
    constructor
    · simp only [Traffic.dequeue, Function.update_self]
      exact Nat.le_of_succ_le shorter
    · exact bounded.peak_le
    · simp only [Traffic.dequeue, Function.update_self, exits_leaves_self,
        List.length_append, List.length_singleton, bounded.passed]
    · simp only [Traffic.dequeue, Function.update_self]
      linarith
    · simp only [Traffic.dequeue, Function.update_self]
      linarith [bounded.credit_le]
  · constructor
    · simpa only [Traffic.dequeue, Function.update_of_ne same] using bounded.length_le
    · exact bounded.peak_le
    · simpa only [Traffic.dequeue, Function.update_of_ne same, exits_leaves_ne same]
        using bounded.passed
    · simpa only [Traffic.dequeue, Function.update_of_ne same] using bounded.credit_nonneg
    · simpa only [Traffic.dequeue, Function.update_of_ne same] using bounded.credit_le

theorem Bounded.grant
    (refill_nonneg : ∀ id, 0 ≤ roads.refill id) (lim_nonneg : ∀ id, 0 ≤ roads.lim id)
    (granted : String) : Bounded roads (traffic.grant roads granted) link := by
  refine ⟨bounded.length_le, bounded.peak_le, bounded.passed, ?_, ?_⟩
  · by_cases same : link = granted
    · subst same
      simp only [Traffic.grant, Function.update_self]
      exact le_min (add_nonneg bounded.credit_nonneg (refill_nonneg link)) (lim_nonneg link)
    · simpa only [Traffic.grant, Function.update_of_ne same] using bounded.credit_nonneg
  · by_cases same : link = granted
    · subst same
      simp only [Traffic.grant, Function.update_self]
      exact min_le_right _ _
    · simpa only [Traffic.grant, Function.update_of_ne same] using bounded.credit_le

end

theorem Bounded.move (refill_nonneg : ∀ id, 0 ≤ roads.refill id)
    (lim_nonneg : ∀ id, 0 ≤ roads.lim id) {before after : Traffic}
    (isMove : Move roads t gates before after) (bounded : Bounded roads before link) :
    Bounded roads after link := by
  have same : ∀ other : Traffic, other.queues = before.queues →
      other.peak = before.peak → other.passed_link = before.passed_link →
      other.log = before.log → other.credit = before.credit →
      Bounded roads other link := by
    rintro other queues peak passed log credit
    obtain ⟨length_le, peak_le, isPassed, credit_nonneg, credit_le⟩ := bounded
    constructor
    · rwa [queues]
    · rwa [peak]
    · rwa [passed, log]
    · rwa [credit]
    · rwa [credit]
  cases isMove with
  | draw | block => exact same _ rfl rfl rfl rfl rfl
  | grant granted => exact bounded.grant refill_nonneg lim_nonneg granted
  | enter _ _ hasRoom =>
    have counted : Bounded roads { before with
        generated := before.generated + 1, entered := before.entered + 1 } link :=
      same _ rfl rfl rfl rfl rfl
    exact counted.enqueue hasRoom _
  | finish left node vehicle _ rest isQueue hasCredit =>
    have shorter : Bounded roads (before.dequeue t left node vehicle rest) link :=
      bounded.dequeue node isQueue hasCredit
    exact ⟨shorter.length_le, shorter.peak_le, shorter.passed, shorter.credit_nonneg,
      shorter.credit_le⟩
  | pass left node vehicle _ _ isQueue hasCredit _ _ hasRoom =>
    apply (bounded.dequeue node isQueue hasCredit).enqueue
    simp only [Traffic.dequeue]
    by_cases isLeft : vehicle.path.getD (vehicle.index + 1) "" = left
    · rw [isLeft, isQueue, List.length_cons] at hasRoom
      rw [isLeft, Function.update_self]
      exact Nat.lt_of_succ_lt hasRoom
    · rwa [Function.update_of_ne isLeft]

/-! ## The time that vehicles take -/

/-- A vehicle entered its first link at its time of entry. -/
def Entered (log : List Passage) (vehicle : Vehicle) : Prop :=
  .enters (vehicle.path.headD "") { vehicle with index := 0 } vehicle.entered_at ∈ log

/-- The seconds to cross the links of a path. -/
def seconds (roads : Roads) (path : List String) : ℚ := (path.map roads.cross).sum

/-- A vehicle in the queue of a link is on its path, and cannot leave the link before
it has had the time for all the links up to it. -/
structure OnPath (roads : Roads) (gates : List Gate) (log : List Passage) (link : String)
    (entry : Vehicle × ℚ) : Prop where
  here : entry.1.path[entry.1.index]? = some link
  given : ∃ gate ∈ gates, gate.path = entry.1.path ∧ gate.free_flow = entry.1.free_flow
  entered : Entered log entry.1
  in_time : entry.1.entered_at + seconds roads (entry.1.path.take (entry.1.index + 1)) ≤ entry.2

/-- A vehicle that has arrived has had the time for all the links of its path. -/
structure Arrived (roads : Roads) (gates : List Gate) (log : List Passage) (vehicle : Vehicle)
    (t : ℚ) : Prop where
  given : ∃ gate ∈ gates, gate.path = vehicle.path ∧ gate.free_flow = vehicle.free_flow
  entered : Entered log vehicle
  in_time : seconds roads vehicle.path ≤ t - vehicle.entered_at

/-- The vehicles that arrived, with the times, in order. -/
def arrived (log : List Passage) : List (Vehicle × ℚ) := log.filterMap fun
    | .enters _ _ _ => none
    | .leaves _ vehicle t =>
      if vehicle.index + 1 = vehicle.path.length then some (vehicle, t) else none

/-- All vehicles are on their paths, and what is counted of those that arrived is so. -/
structure Travels (roads : Roads) (gates : List Gate) (traffic : Traffic) : Prop where
  driving (link : String) (entry : Vehicle × ℚ) (isThere : entry ∈ traffic.queues link) :
    OnPath roads gates traffic.log link entry
  completed (vehicle : Vehicle) (t : ℚ) (hasArrived : (vehicle, t) ∈ arrived traffic.log) :
    Arrived roads gates traffic.log vehicle t
  count : traffic.completed = (arrived traffic.log).length
  travel : traffic.travel_total =
    ((arrived traffic.log).map fun arrival => arrival.2 - arrival.1.entered_at).sum
  delay : traffic.delay_total = ((arrived traffic.log).map fun arrival =>
      max 0 (arrival.2 - arrival.1.entered_at - arrival.1.free_flow)).sum

section

variable {log more : List Passage} {vehicle : Vehicle}

theorem Entered.append (entered : Entered log vehicle) : Entered (log ++ more) vehicle :=
  List.mem_append_left more entered

theorem OnPath.append {entry : Vehicle × ℚ} (onPath : OnPath roads gates log link entry) :
    OnPath roads gates (log ++ more) link entry :=
  ⟨onPath.here, onPath.given, onPath.entered.append, onPath.in_time⟩

theorem Arrived.append (hasArrived : Arrived roads gates log vehicle t) :
    Arrived roads gates (log ++ more) vehicle t :=
  ⟨hasArrived.given, hasArrived.entered.append, hasArrived.in_time⟩

@[simp] theorem arrived_enters : arrived (log ++ [.enters link vehicle t]) = arrived log := by
  simp [arrived]

theorem arrived_leaves (isLast : vehicle.index + 1 = vehicle.path.length) :
    arrived (log ++ [.leaves link vehicle t]) = arrived log ++ [(vehicle, t)] := by
  simp [arrived, isLast]

theorem arrived_leaves_of_ne (notLast : vehicle.index + 1 ≠ vehicle.path.length) :
    arrived (log ++ [.leaves link vehicle t]) = arrived log := by
  simp [arrived, notLast]

theorem seconds_take_succ {path : List String} {index : Nat} (isNext : path[index]? = some link) :
    seconds roads (path.take (index + 1)) = seconds roads (path.take index) + roads.cross link := by
  rw [List.take_add_one, isNext, Option.toList_some, seconds, List.map_append,
    List.sum_append, List.map_singleton, List.sum_singleton]
  rfl

/-- The head of a queue is on its path, and what is behind it too. -/
theorem Travels.enqueue (travels : Travels roads gates traffic) (joined : String)
    (onPath : OnPath roads gates (traffic.log ++ [.enters joined vehicle t]) joined
      (vehicle, t + roads.cross joined)) :
    Travels roads gates (traffic.enqueue roads t joined vehicle) := by
  constructor
  · intro other entry isThere
    simp only [Traffic.enqueue] at isThere ⊢
    by_cases same : other = joined
    · subst same
      rw [Function.update_self] at isThere
      rcases List.mem_append.mp isThere with isOld | isNew
      · exact (travels.driving other entry isOld).append
      · obtain rfl := List.mem_singleton.mp isNew
        exact onPath
    · rw [Function.update_of_ne same] at isThere
      exact (travels.driving other entry isThere).append
  · intro other time hasArrived
    simp only [Traffic.enqueue, arrived_enters] at hasArrived ⊢
    exact (travels.completed other time hasArrived).append
  · simpa only [Traffic.enqueue, arrived_enters] using travels.count
  · simpa only [Traffic.enqueue, arrived_enters] using travels.travel
  · simpa only [Traffic.enqueue, arrived_enters] using travels.delay

/-- What is in the queues after the head of one has left. -/
theorem mem_dequeue (t : ℚ) (node : String) {from_ other : String} {ready : ℚ} {rest : Queue}
    (isQueue : traffic.queues from_ = (vehicle, ready) :: rest) {entry : Vehicle × ℚ}
    (isThere : entry ∈ (traffic.dequeue t from_ node vehicle rest).queues other) :
    entry ∈ traffic.queues other := by
  simp only [dequeue] at isThere
  by_cases same : other = from_
  · subst same
    rw [Function.update_self] at isThere
    rw [isQueue]
    exact List.mem_cons_of_mem _ isThere
  · rwa [Function.update_of_ne same] at isThere

section

variable (travels : Travels roads gates traffic) {from_ node : String} {ready : ℚ} {rest : Queue}
  (isQueue : traffic.queues from_ = (vehicle, ready) :: rest)

include travels isQueue

theorem Travels.pass (notLast : vehicle.index + 1 ≠ vehicle.path.length) :
    Travels roads gates (traffic.dequeue t from_ node vehicle rest) := by
  constructor
  · intro other entry isThere
    exact (travels.driving other entry (mem_dequeue t node isQueue isThere)).append
  · intro other time hasArrived
    simp only [dequeue, arrived_leaves_of_ne notLast] at hasArrived ⊢
    exact (travels.completed other time hasArrived).append
  · simpa only [dequeue, arrived_leaves_of_ne notLast] using travels.count
  · simpa only [dequeue, arrived_leaves_of_ne notLast] using travels.travel
  · simpa only [dequeue, arrived_leaves_of_ne notLast] using travels.delay

theorem Travels.finish (isReady : ready ≤ t) (isLast : vehicle.index + 1 = vehicle.path.length) :
    Travels roads gates ((traffic.dequeue t from_ node vehicle rest).complete t vehicle) := by
  have onPath : OnPath roads gates traffic.log from_ (vehicle, ready) := by
    apply travels.driving
    rw [isQueue]
    exact List.mem_cons_self
  have inTime := onPath.in_time
  simp only [isLast, List.take_length] at inTime
  constructor
  · intro other entry isThere
    exact (travels.driving other entry (mem_dequeue t node isQueue isThere)).append
  · intro other time hasArrived
    simp only [complete, dequeue, arrived_leaves isLast] at hasArrived ⊢
    rcases List.mem_append.mp hasArrived with isOld | isNew
    · exact (travels.completed other time isOld).append
    · obtain ⟨rfl, rfl⟩ := Prod.mk.inj (List.mem_singleton.mp isNew)
      exact ⟨onPath.given, onPath.entered.append, by linarith⟩
  · simp only [complete, dequeue, arrived_leaves isLast, List.length_append,
      List.length_singleton, travels.count]
  · simp only [complete, dequeue, arrived_leaves isLast, List.map_append,
      List.sum_append, List.map_singleton, List.sum_singleton, travels.travel]
  · simp only [complete, dequeue, arrived_leaves isLast, List.map_append,
      List.sum_append, List.map_singleton, List.sum_singleton, travels.delay]

end

theorem Travels.move (nonempty : ∀ gate ∈ gates, gate.path ≠ []) {before after : Traffic}
    (isMove : Move roads t gates before after) (travels : Travels roads gates before) :
    Travels roads gates after := by
  cases isMove with
  | draw | block | grant =>
    exact ⟨travels.driving, travels.completed, travels.count, travels.travel, travels.delay⟩
  | enter gate isGate =>
    have counted : Travels roads gates { before with
        generated := before.generated + 1, entered := before.entered + 1 } :=
      ⟨travels.driving, travels.completed, travels.count, travels.travel, travels.delay⟩
    apply counted.enqueue
    obtain ⟨_, _, isPath⟩ := List.exists_cons_of_ne_nil (nonempty gate isGate)
    refine ⟨?_, ⟨gate, isGate, rfl, rfl⟩, ?_, ?_⟩
    · simp [isPath]
    · exact List.mem_append_right _ (List.mem_singleton_self _)
    · simp [isPath, seconds]
  | finish _ _ _ _ _ isQueue _ isReady isLast =>
    exact travels.finish isQueue isReady isLast
  | pass left _ vehicle ready _ isQueue _ _ notLast =>
    have onPath : OnPath roads gates before.log left (vehicle, ready) := by
      apply travels.driving
      rw [isQueue]
      exact List.mem_cons_self
    obtain ⟨isHere, given, entered, inTime⟩ := onPath
    have inRange : vehicle.index + 1 < vehicle.path.length := by
      have isIndex := (List.getElem?_eq_some_iff.mp isHere).1
      simp only at isIndex
      omega
    have isNext : vehicle.path[vehicle.index + 1]? =
        some (vehicle.path.getD (vehicle.index + 1) "") := by
      rw [List.getD_eq_getElem?_getD, List.getElem?_eq_getElem inRange, Option.getD_some]
    apply (travels.pass isQueue notLast).enqueue
    refine ⟨isNext, given, ?_, ?_⟩
    · exact Entered.append (Entered.append entered)
    · simp only [seconds_take_succ isNext]
      simp only at inTime
      linarith

theorem OnPath.known {ids : List String} (areIds : ∀ gate ∈ gates, ∀ id ∈ gate.path, id ∈ ids)
    {entry : Vehicle × ℚ} (onPath : OnPath roads gates log link entry) : link ∈ ids ∧
      (entry.1.index + 1 ≠ entry.1.path.length → entry.1.path.getD (entry.1.index + 1) "" ∈ ids) := by
  obtain ⟨gate, isGate, isPath, _⟩ := onPath.given
  have isId := areIds gate isGate
  rw [isPath] at isId
  refine ⟨isId _ (List.mem_of_getElem? onPath.here), fun notLast => isId _ ?_⟩
  have inRange := (List.getElem?_eq_some_iff.mp onPath.here).1
  rw [List.getD_eq_getElem?_getD, List.getElem?_eq_getElem (by omega), Option.getD_some]
  exact List.getElem_mem _

end

/-! ## The count of vehicles -/

/-- The vehicles on some links. -/
def active (ids : List String) (traffic : Traffic) : Nat :=
  (ids.map fun id => (traffic.queues id).length).sum

/-- Vehicles are neither made nor lost inside the network. -/
structure Balanced (ids : List String) (traffic : Traffic) : Prop where
  entered : traffic.entered = traffic.completed + traffic.active ids
  generated : traffic.generated = traffic.entered + traffic.blocked

section

variable {ids : List String} (nodup : ids.Nodup)

include nodup

theorem active_enqueue {joined : String} (isId : joined ∈ ids) (vehicle : Vehicle) :
    (traffic.enqueue roads t joined vehicle).active ids = traffic.active ids + 1 := by
  have changed := Sums.sum_map_update nodup isId traffic.queues
    (traffic.queues joined ++ [(vehicle, t + roads.cross joined)]) List.length
  simp only [List.length_append, List.length_singleton] at changed
  simp only [active, enqueue]
  omega

theorem active_dequeue {from_ : String} (isId : from_ ∈ ids) (node : String) {vehicle : Vehicle}
    {ready : ℚ} {rest : Queue} (isQueue : traffic.queues from_ = (vehicle, ready) :: rest) :
    (traffic.dequeue t from_ node vehicle rest).active ids + 1 = traffic.active ids := by
  have changed := Sums.sum_map_update nodup isId traffic.queues rest List.length
  rw [isQueue, List.length_cons] at changed
  simp only [active, dequeue]
  omega

/-- A move keeps the count, where vehicles enter links, are on links and go on to links. -/
theorem Balanced.move (areIds : ∀ gate ∈ gates, gate.path.headD "" ∈ ids) {before after : Traffic}
    (isMove : Move roads t gates before after)
    (known : ∀ id, ∀ entry ∈ before.queues id, id ∈ ids ∧
      (entry.1.index + 1 ≠ entry.1.path.length → entry.1.path.getD (entry.1.index + 1) "" ∈ ids))
    (balanced : Balanced ids before) : Balanced ids after := by
  obtain ⟨entered, generated⟩ := balanced
  cases isMove with
  | draw | grant => exact ⟨entered, generated⟩
  | block => exact ⟨entered, by simp only; omega⟩
  | enter gate isGate =>
    have grows := @active_enqueue roads t { before with
      generated := before.generated + 1, entered := before.entered + 1 } ids nodup _
        (areIds gate isGate)
        { vid := before.entered, path := gate.path, index := 0, entered_at := t,
          free_flow := gate.free_flow }
    have same : active ids { before with
        generated := before.generated + 1, entered := before.entered + 1 } =
        before.active ids := rfl
    rw [same] at grows
    constructor
    · rw [grows]
      simp only [enqueue]
      omega
    · simp only [enqueue]
      omega
  | finish left node vehicle ready rest isQueue =>
    have isThere : (vehicle, ready) ∈ before.queues left := isQueue ▸ List.mem_cons_self
    have shrinks := @active_dequeue t before ids nodup left (known left _ isThere).1 node
      vehicle ready rest isQueue
    refine ⟨?_, generated⟩
    change before.entered = before.completed + 1 +
      (before.dequeue t left node vehicle rest).active ids
    omega
  | pass left node vehicle ready rest isQueue _ _ notLast =>
    have isThere : (vehicle, ready) ∈ before.queues left := isQueue ▸ List.mem_cons_self
    have shrinks := @active_dequeue t before ids nodup left (known left _ isThere).1 node
      vehicle ready rest isQueue
    have grows := @active_enqueue roads t (before.dequeue t left node vehicle rest) ids
      nodup _ ((known left _ isThere).2 notLast) { vehicle with index := vehicle.index + 1 }
    refine ⟨?_, generated⟩
    rw [grows]
    change before.entered = before.completed + _
    omega

end

end

/-! ## What a link lets through in a tick -/

/-- The credit of a link and the vehicles that passed it: a vehicle turns one into the
other. -/
def account (link : String) (traffic : Traffic) : ℚ :=
  traffic.credit link + traffic.passed_link link

section

variable {roads : Roads} {t : ℚ} {link served node : String}

theorem account_serveOne (link : String) {before after : Traffic}
    (isRound : serveOne roads t served node before = some after) :
    after.account link = before.account link ∧
      (link ≠ served → after.passed_link link = before.passed_link link) := by
  have dequeued (vehicle : Vehicle) (rest : Queue) :
      (before.dequeue t served node vehicle rest).account link = before.account link ∧
        (link ≠ served → (before.dequeue t served node vehicle rest).passed_link link =
          before.passed_link link) := by
    by_cases same : link = served
    · subst same
      refine ⟨?_, fun differs => absurd rfl differs⟩
      simp only [account, dequeue, Function.update_self, Nat.cast_add, Nat.cast_one]
      ring
    · simp only [account, dequeue, Function.update_of_ne same]
      exact ⟨trivial, fun _ => trivial⟩
  simp only [serveOne] at isRound
  split at isRound
  · cases isRound
  · rename_i vehicle ready rest isQueue
    split at isRound
    · split at isRound
      · cases isRound
        exact dequeued vehicle rest
      · split at isRound
        · cases isRound
        · cases isRound
          exact dequeued vehicle rest
    · cases isRound

theorem account_untilDone (roads : Roads) (t : ℚ) (link served node : String) (rounds : Nat)
    (traffic : Traffic) :
    let after := untilDone (serveOne roads t served node) rounds traffic
    after.account link = traffic.account link ∧
      (link ≠ served → after.passed_link link = traffic.passed_link link) := by
  induction rounds generalizing traffic with
  | zero => exact ⟨rfl, fun _ => rfl⟩
  | succ _ ih =>
    simp only [untilDone]
    split
    · exact ⟨rfl, fun _ => rfl⟩
    · rename_i after isRound
      obtain ⟨sameAccount, samePassed⟩ := account_serveOne link isRound
      obtain ⟨laterAccount, laterPassed⟩ := ih after
      exact ⟨laterAccount.trans sameAccount,
        fun differs => (laterPassed differs).trans (samePassed differs)⟩

/-- A link that is served gains at most its credit of a tick; a link that is shut, or
not served, lets nothing through. -/
theorem account_serveLink (shut : String → GraphLink → Bool) (node : String) (traffic : Traffic)
    (road : GraphLink) : (serveLink roads t shut node traffic road).account link ≤
        traffic.account link + (if road.id = link then roads.refill link else 0) ∧
      ((road.id = link → shut node road = true) →
        (serveLink roads t shut node traffic road).passed_link link =
          traffic.passed_link link) := by
  have granted : (traffic.grant roads road.id).account link ≤
      traffic.account link + (if road.id = link then roads.refill link else 0) := by
    simp only [account, grant]
    by_cases same : road.id = link
    · rw [if_pos same, ← same, Function.update_self]
      linarith [min_le_left (traffic.credit road.id + roads.refill road.id) (roads.lim road.id)]
    · rw [if_neg same, Function.update_of_ne (Ne.symm same)]
      linarith
  simp only [serveLink]
  split
  · exact ⟨granted, fun _ => rfl⟩
  · rename_i notShut
    obtain ⟨sameAccount, samePassed⟩ := account_untilDone roads t link road.id node
      ((traffic.grant roads road.id).queues road.id).length (traffic.grant roads road.id)
    refine ⟨sameAccount.le.trans granted, fun isShut => ?_⟩
    exact samePassed fun same => notShut (isShut same.symm)

end

/-- The incoming links of the nodes, in the order of a tick. -/
def plan (graph : RoadGraph) : List (String × GraphLink) :=
  graph.sortedNodes.flatMap fun node => (graph.incoming node).map fun link => (node, link)

section

variable {graph : RoadGraph} {roads : Roads} {t : ℚ} {shut : String → GraphLink → Bool}

theorem service_eq_foldl (traffic : Traffic) : traffic.service graph roads t shut =
      (plan graph).foldl
        (fun traffic step => serveLink roads t shut step.1 traffic step.2) traffic := by
  simp only [service, plan, List.foldl_flatMap, List.foldl_map]
  rfl

theorem mem_plan {step : String × GraphLink} : step ∈ plan graph ↔
      step.1 ∈ graph.nodes.map GraphNode.id ∧ step.2 ∈ graph.links ∧ step.2.to_ = step.1 := by
  simp only [plan, List.mem_flatMap, List.mem_map, RoadGraph.mem_incoming,
    RoadGraph.mem_sortedNodes]
  constructor
  · rintro ⟨_, isNode, _, ⟨isLink, leads⟩, rfl⟩
    exact ⟨isNode, isLink, leads⟩
  · rintro ⟨isNode, isLink, leads⟩
    exact ⟨step.1, isNode, step.2, ⟨isLink, leads⟩, rfl⟩

section

variable (valid : graph.Valid)

include valid

theorem plan_ids_nodup : ((plan graph).map fun step => step.2.id).Nodup := by
  have isSorted : (graph.sortedLinks.map GraphLink.id).Nodup :=
    ((List.perm_insertionSort _ _).map _).nodup_iff.mpr valid.link_ids_nodup
  have nodes_nodup : graph.sortedNodes.Nodup :=
    (List.perm_insertionSort _ _).nodup_iff.mpr (List.nodup_dedup _)
  rw [plan, List.map_flatMap, List.nodup_flatMap]
  constructor
  · intro node _
    rw [List.map_map]
    exact isSorted.sublist ((List.filter_sublist).map _)
  · apply nodes_nodup.imp
    intro first second differs id isFirst isSecond
    simp only [List.map_map, List.mem_map, RoadGraph.mem_incoming] at isFirst isSecond
    obtain ⟨link, ⟨isLink, leads⟩, rfl⟩ := isFirst
    obtain ⟨other, ⟨isOther, otherLeads⟩, sameId⟩ := isSecond
    have same : other = link := List.inj_on_of_nodup_map valid.link_ids_nodup isOther isLink sameId
    exact differs (leads.symm.trans (same ▸ otherLeads))

/-- In a tick a link gains at most its credit of one tick. -/
theorem account_service_le {link : String} (refill_nonneg : 0 ≤ roads.refill link)
    (traffic : Traffic) : (traffic.service graph roads t shut).account link ≤
      traffic.account link + roads.refill link := by
  have counted (steps : List (String × GraphLink)) (traffic : Traffic) :
      (steps.foldl (fun traffic step => serveLink roads t shut step.1 traffic step.2)
          traffic).account link ≤
        traffic.account link +
          ((steps.map fun step => step.2.id).count link) * roads.refill link := by
    induction steps generalizing traffic with
    | nil => simp
    | cons step _ ih =>
      have first := (@account_serveLink roads t link shut step.1 traffic step.2).1
      have later := ih (serveLink roads t shut step.1 traffic step.2)
      rw [List.foldl_cons, List.map_cons, List.count_cons]
      by_cases same : step.2.id = link
      · simp only [same, beq_self_eq_true, if_true, Nat.cast_add, Nat.cast_one] at first ⊢
        linarith
      · simp only [same, beq_eq_false_iff_ne.mpr same, Bool.false_eq_true, if_false,
          add_zero] at first ⊢
        linarith
  have once : ((plan graph).map fun step => step.2.id).count link ≤ 1 :=
    List.nodup_iff_count_le_one.mp (plan_ids_nodup valid) link
  have few : ((((plan graph).map fun step => step.2.id).count link : Nat) : ℚ) ≤ 1 := by
    exact_mod_cast once
  rw [service_eq_foldl]
  have bound := counted (plan graph) traffic
  have share := mul_le_mul_of_nonneg_right few refill_nonneg
  linarith

/-- A link that is shut at the node it leads to lets nothing through. -/
theorem passed_service_of_shut {road : GraphLink} (isLink : road ∈ graph.links)
    (isShut : shut road.to_ road = true) (traffic : Traffic) :
    (traffic.service graph roads t shut).passed_link road.id = traffic.passed_link road.id := by
  rw [service_eq_foldl]
  apply Folds.foldl_frame fun traffic : Traffic => traffic.passed_link road.id
  rintro ⟨node, other⟩ isStep traffic
  apply (account_serveLink shut node traffic other).2
  intro sameId
  obtain ⟨_, isOther, leads⟩ := mem_plan.mp isStep
  have same : other = road := List.inj_on_of_nodup_map valid.link_ids_nodup isOther isLink sameId
  simp only at leads ⊢
  rw [← leads, same]
  exact isShut

end

theorem account_arrivals (draws : Nat → ℚ) (gates : List Gate) (link : String) (traffic : Traffic) :
    (traffic.arrivals roads draws t gates).account link = traffic.account link ∧
      (traffic.arrivals roads draws t gates).passed_link link = traffic.passed_link link := by
  have unchanged (gate : Gate) (traffic : Traffic) :
      (traffic.arrive roads draws t gate).credit = traffic.credit ∧
        (traffic.arrive roads draws t gate).passed_link = traffic.passed_link := by
    simp only [arrive]
    split
    · split
      · exact ⟨rfl, rfl⟩
      · exact ⟨rfl, rfl⟩
    · exact ⟨rfl, rfl⟩
  constructor
  · apply Folds.foldl_frame fun traffic : Traffic => traffic.account link
    intro gate _ traffic
    simp only [account, unchanged gate traffic]
  · apply Folds.foldl_frame fun traffic : Traffic => traffic.passed_link link
    intro gate _ traffic
    simp only [unchanged gate traffic]

end

end Traffic
end UrbanFlow.Networks
