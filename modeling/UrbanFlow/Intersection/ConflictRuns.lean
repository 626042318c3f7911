import UrbanFlow.Intersection.ConflictManager

/-!
# What reservations promise

Over any sequence of calls a zone passes from one vehicle to another only after its
reservation expired or was given up by its holder. A vehicle that approaches takes
the whole of its path or nothing, and the order in which a lane's zones are looked
at makes no difference.
-/

namespace UrbanFlow.Intersection
/-- What a verdict on a zone says of the table. -/
def Verdict.Holds (reservations : Reservations) (query : ConflictQuery)
    (key : ZoneKey) : Verdict → Prop
  | .blocked => True
  | .owned => ∃ held ∈ reservations key, held.vehicleId = query.vehicleId
  | .shared => ∃ held ∈ reservations key, query.onConnectionLane = false →
      SharesEntryLane held.laneId query.connectionLaneId
  | .free => reservations key = none

namespace ConflictManager

variable {manager : ConflictManager}

section

variable (query : ConflictQuery) (keys : List ZoneKey) (reservations : Reservations) (key : ZoneKey)

theorem foldl_acquire : keys.foldl (acquire query) reservations key = if key ∈ keys then
        some ⟨query.vehicleId, query.currentTime + clearanceTime + 5, query.connectionLaneId⟩
      else reservations key := by
  induction keys generalizing reservations with
  | nil => simp
  | cons first _ ih =>
    rw [List.foldl_cons, ih]
    unfold acquire
    by_cases same : key = first
    · simp [same]
    · simp [same]

/-- Zones that are given up one after the other. -/
theorem foldl_giveUp : keys.foldl (giveUp query) reservations key = if key ∈ keys then
        (reservations key).filter fun held => held.vehicleId ≠ query.vehicleId
      else reservations key := by
  induction keys generalizing reservations with
  | nil => simp
  | cons first others ih =>
    rw [List.foldl_cons, ih]
    have head : giveUp query reservations first key = if key = first then
          (reservations key).filter fun held => held.vehicleId ≠ query.vehicleId
        else reservations key := by
      unfold giveUp
      by_cases same : key = first
      · subst same
        cases held : reservations key with
        | none => simp [held]
        | some reservation =>
          by_cases isOwn : reservation.vehicleId = query.vehicleId
          · simp [isOwn, Option.filter]
          · simp [held, isOwn, Option.filter]
      · cases held : reservations first with
        | none => simp [same]
        | some =>
          dsimp only
          split
          · simp [same]
          · simp
    rw [head]
    by_cases same : key = first
    · subst same
      by_cases again : key ∈ others
      · simp [again, Option.filter_filter]
      · simp [again]
    · simp [same]

end

variable {frees : Prop} {held : Reservation}

theorem foldl_clearSoon (vehicleId : String) (currentTime : ℚ) (keys : List ZoneKey)
    (reservations : Reservations) (key : ZoneKey) :
    (keys.foldl (clearSoon vehicleId currentTime) reservations key).map Reservation.vehicleId =
      (reservations key).map Reservation.vehicleId := by
  induction keys generalizing reservations with
  | nil => rfl
  | cons first _ ih =>
    rw [List.foldl_cons, ih]
    unfold clearSoon
    by_cases same : key = first
    · subst same
      rw [Function.update_self, Option.map_map]
      congr 1
      funext reservation
      dsimp only [Function.comp]
      split <;> rfl
    · rw [Function.update_of_ne same]

/-- A verdict says what the table says. -/
theorem judgeZone_holds (reservations : Reservations) (key : ZoneKey) (point : ConflictPoint)
    (query : ConflictQuery) (remaining : ℚ) :
    (manager.judgeZone reservations key point query remaining).Holds reservations query key := by
  dsimp only [judgeZone]
  split
  · trivial
  · split
    · trivial
    · cases held : reservations key with
      | none =>
        dsimp only
        split
        · exact held
        · split
          · trivial
          · exact held
      | some reservation =>
        dsimp only
        split
        · next isOwn => exact ⟨reservation, held, isOwn⟩
        · split
          · next shares => exact ⟨reservation, held, fun _ => shares⟩
          · split
            · next isMerge =>
                refine ⟨reservation, held, fun approaching => ?_⟩
                simp [approaching] at isMerge
            · trivial

theorem judge_holds {reservations : Reservations} {query : ConflictQuery} {order : List ZoneKey}
    {judgement : Judgement}
    (member : judgement ∈ order.filterMap (manager.judge reservations query)) :
    judgement.key ∈ order ∧ judgement.verdict.Holds reservations query judgement.key := by
  obtain ⟨key, isKey, isJudged⟩ := List.mem_filterMap.mp member
  unfold judge at isJudged
  split at isJudged
  · cases isJudged
  · dsimp only at isJudged
    split at isJudged
    · cases isJudged
    · cases isJudged
      exact ⟨isKey, judgeZone_holds _ _ _ _ _⟩

/-- A call ends a reservation: it has expired, or its holder is released, or its
holder gives it up, standing short of the junction. -/
def Frees (reservation : Reservation) : manager.Call → Prop
  | .getConflictDistance query _ =>
    query.vehicleId = reservation.vehicleId ∧
      query.onConnectionLane = false ∧ query.vehicleSpeed ≤ stoppedSpeed
  | .updateReservations currentTime => reservation.clearTime ≤ currentTime
  | .updateReservationClearTime _ _ _ _ => False
  | .releaseVehicle vehicleId => vehicleId = reservation.vehicleId

/-- A zone that is held stays with its holder or loses its reservation. -/
def Keeps (held : Reservation) (frees : Prop) (after : Option Reservation) : Prop :=
  (∃ kept ∈ after, kept.vehicleId = held.vehicleId) ∨ after = none ∧ frees

theorem acquire_keeps (manager : ConflictManager) (order : List ZoneKey)
    {reservations : Reservations} {query : ConflictQuery} {taken : List Judgement} {key : ZoneKey}
    (isSublist : ∀ judgement ∈ taken, judgement ∈ order.filterMap (manager.judge reservations query)
      ∧ (judgement.verdict = .free ∨ judgement.verdict = .owned))
    (isHeld : reservations key = some held) :
    Keeps held frees ((taken.map Judgement.key).foldl (acquire query) reservations key) := by
  left
  rw [foldl_acquire]
  split
  · next isTaken =>
      obtain ⟨judgement, member, rfl⟩ := List.mem_map.mp isTaken
      obtain ⟨isJudged, isOpen⟩ := isSublist judgement member
      have holds := (judge_holds isJudged).2
      refine ⟨_, rfl, ?_⟩
      rcases isOpen with isFree | isOwned
      · rw [isFree] at holds
        unfold Verdict.Holds at holds
        rw [isHeld] at holds
        cases holds
      · rw [isOwned] at holds
        obtain ⟨own, isOwn, same⟩ := holds
        rw [isHeld] at isOwn
        cases isOwn
        exact same.symm
  · exact ⟨held, isHeld, rfl⟩

theorem filter_keeps {stays : Reservation → Bool} (drops : stays held = false → frees) :
    Keeps held frees ((some held).filter stays) := by
  cases isKept : stays held with
  | true => exact .inl ⟨held, by simp [Option.filter, isKept], rfl⟩
  | false => exact .inr ⟨by simp [Option.filter, isKept], drops isKept⟩

theorem step_keeps {reservations : Reservations} {key : ZoneKey}
    (isHeld : reservations key = some held) (call : manager.Call) :
    Keeps held (Frees held call) (step reservations call key) := by
  cases call with
  | getConflictDistance _ order =>
    unfold step getConflictDistance
    dsimp only
    split
    · apply acquire_keeps manager order.keys _ isHeld
      intro judgement member
      have isTaken := List.mem_filter.mp member
      simp only [decide_eq_true_eq] at isTaken
      exact ⟨isTaken.1, .inl isTaken.2.1⟩
    · next approaching =>
        split
        · next isStopped =>
            dsimp only
            rw [foldl_giveUp, isHeld]
            split
            · apply filter_keeps
              intro isDropped
              simp only [ne_eq, decide_not, Bool.not_eq_eq_eq_not,
                Bool.not_false, decide_eq_true_eq] at isDropped
              exact ⟨isDropped.symm, by simpa using approaching, isStopped⟩
            · exact .inl ⟨held, rfl, rfl⟩
        · split
          · exact .inl ⟨held, isHeld, rfl⟩
          · apply acquire_keeps manager order.keys _ isHeld
            intro judgement member
            have isTaken := List.mem_filter.mp member
            simp only [decide_eq_true_eq] at isTaken
            exact isTaken
  | updateReservations =>
    unfold step updateReservations
    dsimp only
    rw [isHeld]
    apply filter_keeps
    intro isDropped
    simp only [decide_not, Bool.not_eq_eq_eq_not, Bool.not_false, decide_eq_true_eq] at isDropped
    exact isDropped
  | updateReservationClearTime vehicleId _ currentTime order =>
    left
    have sameHolder := foldl_clearSoon vehicleId currentTime order.keys reservations key
    rw [isHeld] at sameHolder
    obtain ⟨kept, isKept, sameId⟩ := Option.map_eq_some_iff.mp sameHolder
    exact ⟨kept, isKept, sameId⟩
  | releaseVehicle =>
    unfold step releaseVehicle
    dsimp only
    rw [isHeld]
    apply filter_keeps
    intro isDropped
    simp only [ne_eq, decide_not, Bool.not_eq_eq_eq_not,
      Bool.not_false, decide_eq_true_eq] at isDropped
    exact isDropped.symm

/-- A zone that passes to another vehicle between two moments of a run was let go
in between: at some call its reservation expired or was given up by its holder. -/
def NeverReassigns (manager : ConflictManager) : Prop :=
  ∀ (calls later : List manager.Call) (key : ZoneKey) (held taken : Reservation),
    tableAfter calls key = some held →
    tableAfter (calls ++ later) key = some taken →
    taken.vehicleId ≠ held.vehicleId →
    ∃ earlier call rest last, later = earlier ++ call :: rest ∧
      tableAfter (calls ++ earlier) key = some last ∧
      last.vehicleId = held.vehicleId ∧
      Frees last call ∧
      tableAfter (calls ++ earlier ++ [call]) key = none

theorem tableAfter_append_singleton (calls : List manager.Call) (call : manager.Call) :
    tableAfter (calls ++ [call]) = step (tableAfter calls) call := by
  unfold tableAfter
  rw [List.foldl_append]
  rfl

/-- The run lemma, by induction on the calls in between. -/
theorem neverReassigns (manager : ConflictManager) : manager.NeverReassigns := by
  intro calls later key held taken isHeld isTaken isOther
  induction later generalizing calls held with
  | nil =>
    rw [List.append_nil, isHeld] at isTaken
    cases isTaken
    exact absurd rfl isOther
  | cons call others ih =>
    have after := step_keeps isHeld call
    rw [← tableAfter_append_singleton] at after
    rcases after with ⟨kept, isKept, sameId⟩ | ⟨isFree, frees⟩
    · rw [List.append_cons] at isTaken
      obtain ⟨earlier, freeing, rest, last, isSplit, isLast, lastId, frees, isFree⟩ :=
        ih (calls ++ [call]) kept isKept isTaken (by rw [sameId]; exact isOther)
      refine ⟨call :: earlier, freeing, rest, last, ?_, ?_, ?_, frees, ?_⟩
      · rw [isSplit, List.cons_append]
      · rw [List.append_cons]
        exact isLast
      · rw [lastId, sameId]
      · rw [List.append_cons calls call earlier]
        exact isFree
    · refine ⟨[], call, others, held, rfl, ?_, rfl, frees, ?_⟩
      · rw [List.append_nil]
        exact isHeld
      · rw [List.append_nil]
        exact isFree

/-- A vehicle that approaches a junction: not on its connection lane yet, and
moving. -/
def Approaches (query : ConflictQuery) : Prop :=
  query.onConnectionLane = false ∧ query.vehiclePositionOnLane = 0 ∧
    stoppedSpeed < query.vehicleSpeed

section

variable (manager : ConflictManager)

/-- An approaching vehicle that is answered infinity ends the call with every zone of
its lane held by itself, or by a vehicle from its own entry lane. -/
def AdmitsWholePaths : Prop := ∀ (reservations : Reservations) (query : ConflictQuery)
    (order : manager.IterationOrder query.connectionLaneId),
    Approaches query →
    (manager.getConflictDistance reservations query order.keys).1 = ⊤ →
    ∀ key ∈ manager.laneConflicts query.connectionLaneId,
      ∃ held ∈ (manager.getConflictDistance reservations query order.keys).2 key,
        held.vehicleId = query.vehicleId ∨ SharesEntryLane held.laneId query.connectionLaneId

/-- A vehicle that is refused admission claims nothing: each reservation that there
is afterwards was there before. -/
def RefusalClaimsNothing : Prop := ∀ (reservations : Reservations) (query : ConflictQuery)
    (order : manager.IterationOrder query.connectionLaneId),
    query.onConnectionLane = false →
    (manager.getConflictDistance reservations query order.keys).1 ≠ ⊤ →
    ∀ key, ∀ held ∈ (manager.getConflictDistance reservations query order.keys).2 key,
        reservations key = some held

/-- The answer and the table do not depend on the order in which the lane's set of
conflict keys is iterated. -/
def OrderBlind : Prop := ∀ (reservations : Reservations) (query : ConflictQuery)
    (order order' : manager.IterationOrder query.connectionLaneId),
    manager.getConflictDistance reservations query order.keys =
      manager.getConflictDistance reservations query order'.keys

end

/-- Block distances only fall, and a zone that blocks the way leaves none
infinite. -/
theorem foldl_nearer_eq_top {judgements : List Judgement} {least : WithTop ℚ}
    (isTop : judgements.foldl nearer least = ⊤) : least = ⊤ ∧ ∀ judgement ∈ judgements,
      ¬ (judgement.verdict = .blocked ∧ 0 ≤ judgement.remaining) := by
  induction judgements generalizing least with
  | nil => exact ⟨isTop, fun _ => nofun⟩
  | cons _ _ ih =>
    obtain ⟨isFirst, ofOthers⟩ := ih isTop
    unfold nearer at isFirst
    split at isFirst
    · exact absurd (min_eq_top.mp isFirst).2 (WithTop.coe_ne_top)
    · next isOpen =>
        refine ⟨isFirst, fun judgement member => ?_⟩
        rcases List.mem_cons.mp member with rfl | member
        · exact isOpen
        · exact ofOthers judgement member

instance : RightCommutative nearer where
  right_comm least one other := by
    unfold nearer
    split
    · split
      · exact min_right_comm _ _ _
      · rfl
    · rfl

theorem judge_ahead (reservations : Reservations) {query : ConflictQuery} {key : ZoneKey}
    (atStart : query.vehiclePositionOnLane = 0)
    (isKey : key ∈ manager.laneConflicts query.connectionLaneId) :
    ∃ judgement, manager.judge reservations query key = some judgement ∧
      judgement.key = key ∧ 0 ≤ judgement.remaining := by
  obtain ⟨point, isPoint⟩ := Option.isSome_iff_exists.mp (manager.known _ key isKey)
  have isAhead := manager.ahead key point isPoint
  have remains : 0 ≤ point.remaining query := by
    unfold ConflictPoint.remaining
    rw [atStart, sub_zero]
    split
    · exact isAhead.1
    · exact isAhead.2
  have isNear : ¬ point.remaining query < -zoneRadius := by
    unfold zoneRadius
    linarith
  refine ⟨⟨key, point.remaining query,
    manager.judgeZone reservations key point query (point.remaining query)⟩,
    ?_, rfl, remains⟩
  unfold judge
  rw [isPoint]
  exact if_neg isNear

theorem admitsWholePaths (manager : ConflictManager) : manager.AdmitsWholePaths := by
  intro reservations query order approaches isAdmitted key isKey
  obtain ⟨isOutside, atStart, isMoving⟩ := approaches
  have isOpen : blockDistance (order.keys.filterMap (manager.judge reservations query)) = ⊤ := by
    unfold getConflictDistance at isAdmitted
    simp only [isOutside, Bool.false_eq_true, if_false, not_le.mpr isMoving] at isAdmitted
    by_contra isBlocked
    simp [isBlocked] at isAdmitted
  obtain ⟨judgement, isJudged, rfl, remains⟩ := judge_ahead reservations atStart isKey
  have member : judgement ∈ order.keys.filterMap (manager.judge reservations query) :=
    List.mem_filterMap.mpr ⟨judgement.key, (order.complete judgement.key).mpr isKey, isJudged⟩
  have notBlocked := (foldl_nearer_eq_top isOpen).2 judgement member
  have holds := (judge_holds member).2
  simp only [getConflictDistance, isOutside, Bool.false_eq_true, if_false, not_le.mpr isMoving,
    isOpen, ne_eq, not_true_eq_false]
  rw [foldl_acquire]
  split
  · exact ⟨_, rfl, .inl rfl⟩
  · next isLeft =>
      cases isVerdict : judgement.verdict with
      | blocked => exact absurd ⟨isVerdict, remains⟩ notBlocked
      | shared =>
        rw [isVerdict] at holds
        obtain ⟨held, isHeld, shares⟩ := holds
        exact ⟨held, isHeld, .inr (shares isOutside)⟩
      | owned | free =>
        apply absurd _ isLeft
        exact List.mem_map.mpr ⟨judgement, List.mem_filter.mpr ⟨member, by simp [isVerdict]⟩, rfl⟩

theorem refusalClaimsNothing (manager : ConflictManager) : manager.RefusalClaimsNothing := by
  intro reservations query order isOutside isRefused key held isHeld
  unfold getConflictDistance at isRefused isHeld
  simp only [isOutside, Bool.false_eq_true, if_false] at isRefused isHeld
  split at isHeld
  · dsimp only at isHeld
    rw [foldl_giveUp] at isHeld
    split at isHeld
    · exact (Option.filter_eq_some_iff.mp isHeld).1
    · exact isHeld
  · split at isHeld
    · exact isHeld
    · next isFast isOpen =>
        rw [if_neg isFast, if_neg isOpen] at isRefused
        exact absurd isRefused isOpen

/-- Two orders of one set are permutations of each other. -/
theorem IterationOrder.perm {laneId : String} (order order' : manager.IterationOrder laneId) :
    order.keys.Perm order'.keys := by
  apply (List.perm_ext_iff_of_nodup order.nodup order'.nodup).mpr
  intro key
  rw [order.complete, order'.complete]

/-- Tables after loops over the same zones. -/
theorem foldl_acquire_perm {judgements judgements' : List Judgement} (query : ConflictQuery)
    (reservations : Reservations) (isPerm : judgements.Perm judgements') :
    (judgements.map Judgement.key).foldl (acquire query) reservations =
      (judgements'.map Judgement.key).foldl (acquire query) reservations := by
  funext key
  have sameKeys := (isPerm.map Judgement.key).mem_iff (a := key)
  simp only [foldl_acquire, sameKeys]

theorem orderBlind (manager : ConflictManager) : manager.OrderBlind := by
  intro reservations query order order'
  have isPerm := (order.perm order').filterMap (manager.judge reservations query)
  have sameDistance : blockDistance _ = blockDistance _ := isPerm.foldl_eq ⊤
  dsimp only [getConflictDistance]
  rw [sameDistance]
  split
  · rw [foldl_acquire_perm query reservations (isPerm.filter _)]
  · split
    · congr 1
      funext key
      have sameKeys := (isPerm.map Judgement.key).mem_iff (a := key)
      simp only [foldl_giveUp, sameKeys]
    · split
      · rfl
      · rw [foldl_acquire_perm query reservations (isPerm.filter _)]

/-- What the conflict manager promises, for any conflict points and calls. -/
theorem arbitrates (manager : ConflictManager) : manager.NeverReassigns ∧ manager.AdmitsWholePaths ∧
      manager.RefusalClaimsNothing ∧ manager.OrderBlind := by
  refine ⟨?_, ?_, ?_, ?_⟩
  · exact neverReassigns manager
  · exact admitsWholePaths manager
  · exact refusalClaimsNothing manager
  · exact orderBlind manager

end ConflictManager
end UrbanFlow.Intersection
