import UrbanFlow.Incidents.WaysRound

/-!
# Rerouting

What holds of the vehicles after the blocked links have changed, and when. New vehicles
take paths that avoid what is blocked where they can. A vehicle on its way is planned
again only when the set of blocked links has grown, and from then on its way stays
blocked only if no way round leads on from its link.
-/

namespace UrbanFlow.Incidents

open Networks LabelSetting

variable {graph : RoadGraph} {closed : List String} {id : String} {vehicle : Vehicle}

structure Driving (graph : RoadGraph) (id : String) (vehicle : Vehicle) : Prop where
  isLink : ∃ link ∈ graph.links, link.id = id
  here : vehicle.path[vehicle.index]? = some id
  ahead : IsWay graph (graph.linkMap id).to_ (remaining vehicle) (destinationOf graph vehicle)

/-- If the way of a vehicle on a link crosses a blocked link, then there is no way round
from the end of the link to its destination. -/
def Unavoidable (graph : RoadGraph) (closed : List String) (id : String)
    (vehicle : Vehicle) : Prop :=
  crosses closed (remaining vehicle) = true →
    ¬ WayRound graph closed (graph.linkMap id).to_ (destinationOf graph vehicle)

section

variable (valid : graph.Valid)

include valid

theorem Driving.next (driving : Driving graph id vehicle)
    (notLast : vehicle.index + 1 ≠ vehicle.path.length) :
    ∃ link ∈ graph.links, vehicle.path.getD (vehicle.index + 1) "" = link.id ∧
        link.from_ = (graph.linkMap id).to_ ∧
        remaining vehicle = link.id :: remaining { vehicle with index := vehicle.index + 1 } ∧
        Driving graph link.id { vehicle with index := vehicle.index + 1 } := by
  have inRange : vehicle.index + 1 < vehicle.path.length := by
    have isIndex := (List.getElem?_eq_some_iff.mp driving.here).1
    omega
  obtain ⟨chain, areIds, leads, starts⟩ := driving.ahead
  have isRemaining : remaining vehicle = vehicle.path[vehicle.index + 1] ::
      remaining { vehicle with index := vehicle.index + 1 } :=
    List.drop_eq_getElem_cons inRange
  cases chain with
  | nil =>
    rw [isRemaining] at areIds
    cases areIds
  | cons link rest =>
    obtain ⟨isLink, isFrom, isRest⟩ := leads
    rw [isRemaining, List.map_cons, List.cons.injEq] at areIds
    obtain ⟨isNext, isLater⟩ := areIds
    have sameDestination : destinationOf graph { vehicle with index := vehicle.index + 1 } =
          destinationOf graph vehicle := rfl
    refine ⟨link, isLink, ?_, isFrom, ?_, ⟨link, isLink, rfl⟩, ?_, rest, isLater, ?_, ?_⟩
    · rw [List.getD_eq_getElem?_getD, List.getElem?_eq_getElem inRange, Option.getD_some, isNext]
    · rw [isRemaining, isNext]
    · rw [List.getElem?_eq_getElem inRange, isNext]
    · rw [valid.linkMap_eq isLink, sameDestination]
      exact isRest
    · exact fun other isOther => starts other (List.mem_cons_of_mem link isOther)

/-- What cannot be avoided from a link cannot be avoided from the next one. -/
theorem Unavoidable.next (unavoidable : Unavoidable graph closed id vehicle) {link : GraphLink}
    (isLink : link ∈ graph.links)
    (isOpen : link.id ∉ closed)
    (isFrom : link.from_ = (graph.linkMap id).to_)
    (isRemaining : remaining vehicle = link.id :: remaining { vehicle with index := vehicle.index + 1 }) :
    Unavoidable graph closed link.id { vehicle with index := vehicle.index + 1 } := by
  intro blocked wayRound
  apply unavoidable
  · rw [isRemaining, crosses, List.any_cons]
    exact Bool.or_eq_true_iff.mpr (Or.inr blocked)
  · rw [valid.linkMap_eq isLink] at wayRound
    rw [← isFrom]
    exact wayRound.cons isLink isOpen

theorem driving_enter {origin destination : String} {path : List String}
    (isWay : IsWay graph origin path destination)
    (nonempty : path ≠ [])
    (isPath : vehicle.path = path)
    (isNew : vehicle.index = 0) :
    ∃ link ∈ graph.links, path.headD "" = link.id ∧ link.from_ = origin ∧
        path = link.id :: remaining vehicle ∧
        destinationOf graph vehicle = destination ∧ Driving graph link.id vehicle := by
  obtain ⟨chain, rfl, leads, starts⟩ := isWay
  have isDestination : destinationOf graph vehicle = destination := by
    rw [destinationOf, isPath]
    apply destination_of_leads valid leads
    rintro rfl
    exact nonempty rfl
  cases chain with
  | nil => exact absurd rfl nonempty
  | cons link rest =>
    obtain ⟨isLink, isFrom, isRest⟩ := leads
    have isRemaining : remaining vehicle = rest.map GraphLink.id := by
      rw [remaining, isPath, isNew]
      rfl
    refine ⟨link, isLink, rfl, isFrom, ?_, isDestination, ⟨link, isLink, rfl⟩, ?_,
      rest, isRemaining, ?_, ?_⟩
    · rw [isRemaining, List.map_cons]
    · rw [isPath, isNew]
      rfl
    · rw [valid.linkMap_eq isLink, isDestination]
      exact isRest
    · intro other isOther
      rw [isDestination]
      exact starts other (List.mem_cons_of_mem link isOther)

end

variable {path : List String} {roads : Roads} {t : ℚ} {gates : List Gate} {before after : Traffic}

theorem Driving.known (valid : graph.Valid) (driving : Driving graph id vehicle) :
    (graph.linkMap id).to_ ∈ graph.outKeys ∧ destinationOf graph vehicle ∈ graph.outKeys := by
  obtain ⟨link, isLink, rfl⟩ := driving.isLink
  have isEnd : (graph.linkMap link.id).to_ ∈ graph.outKeys := by
    rw [valid.linkMap_eq isLink]
    exact mem_outKeys.mpr (Or.inl (valid.to_mem link isLink))
  refine ⟨isEnd, ?_⟩
  obtain ⟨chain, areIds, leads, _⟩ := driving.ahead
  cases chain with
  | nil =>
    have isDestination : (graph.linkMap link.id).to_ = destinationOf graph vehicle := leads
    rwa [← isDestination]
  | cons first rest =>
    have isDestination := destination_of_leads valid leads (List.cons_ne_nil _ _)
    rw [← isDestination]
    have isLast : ((first :: rest).map GraphLink.id).getLastD "" ∈
        (first :: rest).map GraphLink.id := by
      rw [List.getLastD_eq_getLast?, List.getLast?_eq_some_getLast (by simp), Option.getD_some]
      exact List.getLast_mem _
    obtain ⟨last, isMember, sameId⟩ := List.mem_map.mp isLast
    have lastLink : last ∈ graph.links := leads.mem_edges isMember
    rw [← sameId, valid.linkMap_eq lastLink]
    exact mem_outKeys.mpr (Or.inl (valid.to_mem last lastLink))

theorem Driving.differs (driving : Driving graph id vehicle)
    (blocked : crosses closed (remaining vehicle) = true) :
    (graph.linkMap id).to_ ≠ destinationOf graph vehicle := by
  obtain ⟨chain, areIds, leads, starts⟩ := driving.ahead
  cases chain with
  | nil =>
    rw [areIds] at blocked
    cases blocked
  | cons link =>
    have isFrom : link.from_ = (graph.linkMap id).to_ := leads.2.1
    rw [← isFrom]
    exact starts link List.mem_cons_self

theorem detour_spec (isDetour : detour graph closed id vehicle = some path) :
    path ≠ [] ∧ crosses closed path = false ∧
      IsWay graph (graph.linkMap id).to_ path (destinationOf graph vehicle) := by
  simp only [detour] at isDetour
  split at isDetour
  · exact openPath_spec (turnPenalty_nonneg _) isDetour
  · cases isDetour

theorem replan_of_detour (valid : graph.Valid) (driving : Driving graph id vehicle)
    (isDetour : detour graph closed id vehicle = some path) :
    remaining (replan graph closed id vehicle) = path ∧
      destinationOf graph (replan graph closed id vehicle) = destinationOf graph vehicle ∧
      Driving graph id (replan graph closed id vehicle) := by
  obtain ⟨nonempty, _, isWay⟩ := detour_spec isDetour
  have isReplan : replan graph closed id vehicle =
      { vehicle with path := vehicle.path.take (vehicle.index + 1) ++ path } := by
    rw [replan, isDetour]
  have inRange := (List.getElem?_eq_some_iff.mp driving.here).1
  have isLength : (vehicle.path.take (vehicle.index + 1)).length = vehicle.index + 1 := by
    rw [List.length_take]
    omega
  have isRemaining : remaining (replan graph closed id vehicle) = path := by
    rw [isReplan, remaining]
    exact List.drop_left' isLength
  have isDestination : destinationOf graph (replan graph closed id vehicle) =
      destinationOf graph vehicle := by
    obtain ⟨chain, areIds, leads, _⟩ := isWay
    have chain_nonempty : chain ≠ [] := by
      rintro rfl
      exact nonempty areIds
    rw [← destination_of_leads valid leads chain_nonempty, ← areIds, isReplan, destinationOf]
    congr 2
    rw [List.getLastD_eq_getLast?, List.getLastD_eq_getLast?,
      List.getLast?_append_of_ne_nil _ nonempty]
  refine ⟨isRemaining, isDestination, driving.isLink, ?_, ?_⟩
  · rw [isReplan]
    simp only
    have inFront : vehicle.index < (vehicle.path.take (vehicle.index + 1)).length := by
      rw [isLength]
      exact Nat.lt_succ_self _
    rw [List.getElem?_append_left inFront, List.getElem?_take_of_lt (Nat.lt_succ_self _)]
    exact driving.here
  · rw [isRemaining, isDestination]
    exact isWay

theorem replan_of_none (isNone : detour graph closed id vehicle = none) :
    replan graph closed id vehicle = vehicle := by
  rw [replan, isNone]

/-- A vehicle that plans again stays on a way to its destination. -/
theorem Driving.replan (valid : graph.Valid) (driving : Driving graph id vehicle) :
    Driving graph id (replan graph closed id vehicle) := by
  cases isDetour : detour graph closed id vehicle with
  | none =>
    rw [replan_of_none isDetour]
    exact driving
  | some => exact (replan_of_detour valid driving isDetour).2.2

/-- After planning again a way is blocked only if this cannot be avoided, where detours
pay. -/
theorem unavoidable_replan (valid : graph.Valid) (driving : Driving graph id vehicle)
    (pays : crosses closed (remaining vehicle) = true →
      DetourPays graph closed (turnPenalty graph closed (graph.linkMap id))
        (graph.linkMap id).to_ (destinationOf graph vehicle)) :
    Unavoidable graph closed id (replan graph closed id vehicle) := by
  cases isDetour : detour graph closed id vehicle with
  | some =>
    intro blocked
    rw [(replan_of_detour valid driving isDetour).1, (detour_spec isDetour).2.1] at blocked
    cases blocked
  | none =>
    rw [replan_of_none isDetour]
    intro blocked wayRound
    obtain ⟨path, isPath⟩ := openPath_of_wayRound
      (turnPenalty_nonneg (graph.linkMap id)) (driving.known valid)
      (driving.differs blocked) (pays blocked) wayRound
    rw [detour, if_pos blocked] at isDetour
    exact absurd (isDetour.symm.trans isPath) (Option.some_ne_none _).symm

/-- What was in a queue after a move: it was there before, it has entered at a gate or it
has come from another link. -/
theorem mem_queues_of_move (isMove : Traffic.Move roads t gates before after) {entry : Vehicle × ℚ}
    (isThere : entry ∈ after.queues id) :
    entry ∈ before.queues id ∨ (∃ gate ∈ gates, id = gate.path.headD "" ∧ 0 < roads.cap id ∧
        entry.1.path = gate.path ∧ entry.1.index = 0) ∨
      ∃ left, ∃ old ∈ before.queues left,
        id = old.1.path.getD (old.1.index + 1) "" ∧ 0 < roads.cap id ∧
          old.1.index + 1 ≠ old.1.path.length ∧
          entry.1 = { old.1 with index := old.1.index + 1 } := by
  have joins {traffic : Traffic} {joined : String} {vehicle : Vehicle}
      (isThere : entry ∈ (traffic.enqueue roads t joined vehicle).queues id) :
      entry ∈ traffic.queues id ∨ id = joined ∧ entry = (vehicle, t + roads.cross joined) := by
    simp only [Traffic.enqueue] at isThere
    by_cases same : id = joined
    · subst same
      rw [Function.update_self] at isThere
      rcases List.mem_append.mp isThere with isOld | isNew
      · exact Or.inl isOld
      · exact Or.inr ⟨rfl, List.mem_singleton.mp isNew⟩
    · rw [Function.update_of_ne same] at isThere
      exact Or.inl isThere
  cases isMove with
  | draw | block | grant => exact Or.inl isThere
  | enter gate isGate hasRoom =>
    rcases joins isThere with isOld | ⟨rfl, rfl⟩
    · exact Or.inl isOld
    · exact Or.inr (Or.inl ⟨gate, isGate, rfl, Nat.zero_lt_of_lt hasRoom, rfl, rfl⟩)
  | finish _ node _ _ _ isQueue =>
    exact Or.inl (Traffic.mem_dequeue t node isQueue isThere)
  | pass left node vehicle ready _ isQueue _ _ notLast hasRoom =>
    rcases joins isThere with isOld | ⟨rfl, rfl⟩
    · exact Or.inl (Traffic.mem_dequeue t node isQueue isOld)
    · refine Or.inr (Or.inr ⟨left, (vehicle, ready), isQueue ▸ List.mem_cons_self, rfl,
        Nat.zero_lt_of_lt hasRoom, notLast, rfl⟩)

/-- All vehicles are on their ways, and what blocks them cannot be avoided. -/
def AllSettled (graph : RoadGraph) (closed : List String) (traffic : Traffic) : Prop :=
  ∀ id, ∀ entry ∈ traffic.queues id, Driving graph id entry.1 ∧ Unavoidable graph closed id entry.1

/-- The path of new vehicles of a flow is a way to its destination, and avoids the
blocked links if there is a way round. -/
structure FlowSettled (graph : RoadGraph) (closed : List String) (flow : Flow)
    (path : List String) : Prop where
  nonempty : path ≠ []
  isWay : IsWay graph flow.origin path flow.destination
  avoids : WayRound graph closed flow.origin flow.destination → crosses closed path = false

/-- Moves keep it, while nothing may enter a blocked link. -/
theorem AllSettled.move (valid : graph.Valid) (isBlocked : ∀ id ∈ closed, roads.cap id = 0)
    (flows : ∀ gate ∈ gates, ∃ flow, FlowSettled graph closed flow gate.path)
    (isMove : Traffic.Move roads t gates before after) (settled : AllSettled graph closed before) :
    AllSettled graph closed after := by
  intro id entry isThere
  have isOpen {link : GraphLink} (hasRoom : 0 < roads.cap link.id) : link.id ∉ closed :=
    fun isClosed => Nat.lt_irrefl 0 (isBlocked _ isClosed ▸ hasRoom)
  rcases mem_queues_of_move isMove isThere with isOld | isNew | comes
  · exact settled id entry isOld
  · obtain ⟨gate, isGate, rfl, hasRoom, isPath, isFirst⟩ := isNew
    obtain ⟨flow, nonempty, isWay, avoids⟩ := flows gate isGate
    obtain ⟨link, isLink, isHead, isFrom, isRemaining, isDestination, driving⟩ :=
      driving_enter valid isWay nonempty isPath isFirst
    rw [isHead] at hasRoom ⊢
    refine ⟨driving, fun blocked wayRound => ?_⟩
    rw [valid.linkMap_eq isLink, isDestination] at wayRound
    have around := avoids (isFrom ▸ wayRound.cons isLink (isOpen hasRoom))
    rw [isRemaining, crosses, List.any_cons, Bool.or_eq_false_iff] at around
    exact absurd blocked (Bool.eq_false_iff.mp around.2)
  · obtain ⟨left, old, isOld, rfl, hasRoom, notLast, isEntry⟩ := comes
    obtain ⟨driving, unavoidable⟩ := settled left old isOld
    obtain ⟨link, isLink, isNext, isFrom, isRemaining, drives⟩ := driving.next valid notLast
    rw [isNext] at hasRoom ⊢
    rw [isEntry]
    exact ⟨drives, unavoidable.next valid isLink (isOpen hasRoom) isFrom isRemaining⟩

end UrbanFlow.Incidents
