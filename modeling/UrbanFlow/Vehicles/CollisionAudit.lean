import Mathlib.Algebra.Order.Field.Rat
import Mathlib.Data.Sym.Sym2

/-!
# The collision audit

After each tick the vehicles are looked at pair by pair. A pair whose boxes overlap is
counted as a collision unless it is held as in contact, and is held until an audit
finds it farther apart than the contact radius. Vehicles that keep to one lane, one
street or one path are exempted from the audit.
-/

namespace UrbanFlow.VehiclePool

/-- A lane, known by its id, with the circulating lane it records. -/
structure AuditLane where
  laneId : String
  ringLane : Option Int := none
  deriving DecidableEq

/-- What the audit reads of a vehicle; `heading` is its direction, the sine and the
cosine of the heading. -/
structure AuditVehicle where
  vehicleId : String
  lane : Option AuditLane
  route : List AuditLane
  coords : ℚ × ℚ
  heading : ℚ × ℚ
  length : ℚ
  width : ℚ
  isChanging : Bool

/-- `_conn_lane_index`, of the characters of an id. -/
def connLaneIndex (laneId : List Char) : Option Int := match laneId.splitOn '_' with
  | _ :: _ :: index :: _ => (String.ofList index).toInt?
  | _ => none

def auditGroup (lane : AuditLane) : String :=
  let lid := lane.laneId.toList.map Char.toLower
  if "conn_".toList.isPrefixOf lid then
    let origin := ((lid.splitOn '_').getD 1 []).take 1
    let index := match lane.ringLane with
      | some ring => some ring
      | none => connLaneIndex lid
    String.ofList origin ++ (index.map toString).getD "None"
  else match lid with
    | [] => ""
    | first :: _ =>
      if first ∈ ['n', 's', 'e', 'w'] then String.ofList [first]
      else String.ofList lid

/-- `get_bounding_box`. -/
def boundingBox (vehicle : AuditVehicle) : List (ℚ × ℚ) :=
  let h := vehicle.heading
  let r : ℚ × ℚ := (h.2, -h.1)
  let halfL := vehicle.length / 2
  let halfW := vehicle.width / 2
  let corner (along across : ℚ) : ℚ × ℚ :=
    (vehicle.coords.1 + along * h.1 + across * r.1, vehicle.coords.2 + along * h.2 + across * r.2)
  [corner halfL (-halfW), corner halfL halfW, corner (-halfL) halfW, corner (-halfL) (-halfW)]

/-- The least and the greatest projection of some points on an axis. -/
def projections (axis : ℚ × ℚ) : List (ℚ × ℚ) → Option (ℚ × ℚ)
  | [] => none
  | point :: points =>
    let along (point : ℚ × ℚ) : ℚ := point.1 * axis.1 + point.2 * axis.2
    some (points.foldl (fun least point => min least (along point)) (along point),
      points.foldl (fun most point => max most (along point)) (along point))

/-- An axis keeps two polygons apart. -/
def separates (axis : ℚ × ℚ) (polyA polyB : List (ℚ × ℚ)) : Bool :=
  match projections axis polyA, projections axis polyB with
  | some (minA, maxA), some (minB, maxB) => maxA < minB || maxB < minA
  | _, _ => false

/-- The axes across the edges of a polygon, but those of edges of no length. -/
def edgeAxes (hypot : ℚ → ℚ → ℚ) (poly : List (ℚ × ℚ)) : List (ℚ × ℚ) :=
  (poly.zip (poly.rotate 1)).filterMap fun (p1, p2) =>
    let axisX := -(p2.2 - p1.2)
    let axisY := p2.1 - p1.1
    let axisLen := hypot axisX axisY
    if axisLen < 1 / 1000000 then none else some (axisX / axisLen, axisY / axisLen)

def checkSatOverlap (hypot : ℚ → ℚ → ℚ) (polyA polyB : List (ℚ × ℚ)) : Bool :=
  (edgeAxes hypot polyA ++ edgeAxes hypot polyB).all fun axis => ¬ separates axis polyA polyB

structure Scene where
  vehicles : List AuditVehicle
  distinct : (vehicles.map AuditVehicle.vehicleId).Nodup

/-- `entries`: the vehicles that have a lane, with it. -/
def Scene.entries (scene : Scene) : List (AuditVehicle × AuditLane) :=
  scene.vehicles.filterMap fun vehicle => vehicle.lane.map fun lane => (vehicle, lane)

abbrev AuditPair : Type := (AuditVehicle × AuditLane) × (AuditVehicle × AuditLane)

def pairsOf : List (AuditVehicle × AuditLane) → List AuditPair
  | [] => []
  | entry :: entries => entries.map (fun other => (entry, other)) ++ pairsOf entries

def Scene.pairs (scene : Scene) : List AuditPair := pairsOf scene.entries

namespace AuditPair

variable (pair : AuditPair)

/-- `pair_key`. -/
def key : Sym2 String := s(pair.1.1.vehicleId, pair.2.1.vehicleId)

/-- Neither vehicle is changing lanes, and they are on one lane, on one street or
have a lane of their routes in common. -/
def IsExempt : Prop := ¬ (pair.1.1.isChanging = true ∨ pair.2.1.isChanging = true) ∧
    (pair.1.2.laneId = pair.2.2.laneId ∨ auditGroup pair.1.2 = auditGroup pair.2.2 ∨
      ∃ lane ∈ pair.1.1.route, ∃ other ∈ pair.2.1.route, lane.laneId = other.laneId)

instance : Decidable pair.IsExempt := inferInstanceAs (Decidable (_ ∧ _))

/-- The vehicles are farther apart than the contact radius. -/
def IsApart : Prop :=
  let dx := pair.2.1.coords.1 - pair.1.1.coords.1
  let dy := pair.2.1.coords.2 - pair.1.1.coords.2
  let maxRadius := (pair.1.1.length + pair.2.1.length) * (6 / 10)
  maxRadius * maxRadius < dx * dx + dy * dy

instance : Decidable pair.IsApart := inferInstanceAs (Decidable (_ < _))

/-- The boxes of the vehicles overlap. -/
def overlaps (hypot : ℚ → ℚ → ℚ) : Bool :=
  checkSatOverlap hypot (boundingBox pair.1.1) (boundingBox pair.2.1)

end AuditPair

/-- What an audit changes: `_collision_count`, `_colliding_pairs` and the motion of
the vehicles, by their ids. -/
structure CollisionState where
  collisionCount : Nat := 0
  collidingPairs : Finset (Sym2 String) := ∅
  speed : String → ℚ := fun _ => 0
  acceleration : String → ℚ := fun _ => 0

/-- A vehicle is stopped. -/
def stop (vehicleId : String) (state : CollisionState) : CollisionState :=
  { state with
    speed := Function.update state.speed vehicleId 0
    acceleration := Function.update state.acceleration vehicleId 0 }

/-- The slower of two vehicles, the first of two equally fast ones. -/
def slower (pair : AuditPair) (state : CollisionState) : String :=
  if state.speed pair.1.1.vehicleId ≤ state.speed pair.2.1.vehicleId then pair.1.1.vehicleId
  else pair.2.1.vehicleId

/-- A pair is held as in contact. -/
def hold (key : Sym2 String) (state : CollisionState) : CollisionState :=
  { state with collidingPairs := insert key state.collidingPairs }

def countCollision (state : CollisionState) : CollisionState :=
  { state with collisionCount := state.collisionCount + 1 }

/-- The body of the audit's loop. `held` are the pairs that the audits before it left in
contact; those that this one leaves are collected in the state. -/
def auditPair (hypot : ℚ → ℚ → ℚ) (held : Finset (Sym2 String)) (state : CollisionState)
    (pair : AuditPair) : CollisionState :=
  if pair.IsExempt then state
  else if pair.IsApart then state
  else if pair.overlaps hypot then
    let counted := if pair.key ∈ held then state else countCollision state
    stop (slower pair counted) (hold pair.key counted)
  else if pair.key ∈ held then hold pair.key state
  else state

def collisionAudit (hypot : ℚ → ℚ → ℚ) (scene : Scene) (state : CollisionState) : CollisionState :=
  scene.pairs.foldl (auditPair hypot state.collidingPairs) { state with collidingPairs := ∅ }

def Counts (hypot : ℚ → ℚ → ℚ) (held : Finset (Sym2 String)) (pair : AuditPair) : Prop :=
  ¬ pair.IsExempt ∧ ¬ pair.IsApart ∧ pair.overlaps hypot = true ∧ pair.key ∉ held

instance (hypot : ℚ → ℚ → ℚ) (held : Finset (Sym2 String)) : DecidablePred (Counts hypot held) :=
  fun _ => inferInstanceAs (Decidable (_ ∧ _))

def Holds (hypot : ℚ → ℚ → ℚ) (held : Finset (Sym2 String)) (pair : AuditPair) : Prop :=
  ¬ pair.IsExempt ∧ ¬ pair.IsApart ∧ (pair.overlaps hypot = true ∨ pair.key ∈ held)

section

variable {hypot : ℚ → ℚ → ℚ} {held : Finset (Sym2 String)}

section

variable (vehicleId : String) (state : CollisionState)

@[simp] theorem stop_collisionCount :
    (stop vehicleId state).collisionCount = state.collisionCount := rfl

@[simp] theorem stop_collidingPairs :
    (stop vehicleId state).collidingPairs = state.collidingPairs := rfl

end

variable (state : CollisionState)

@[simp] theorem hold_collisionCount (key : Sym2 String) :
    (hold key state).collisionCount = state.collisionCount := rfl

@[simp] theorem countCollision_collidingPairs :
    (countCollision state).collidingPairs = state.collidingPairs := rfl

@[simp] theorem countCollision_collisionCount :
    (countCollision state).collisionCount = state.collisionCount + 1 := rfl

@[simp] theorem mem_hold (key other : Sym2 String) :
    other ∈ (hold key state).collidingPairs ↔ other = key ∨ other ∈ state.collidingPairs :=
  Finset.mem_insert

theorem auditPair_spec (pair : AuditPair) :
    (auditPair hypot held state pair).collisionCount =
        state.collisionCount + (if Counts hypot held pair then 1 else 0) ∧
      ∀ key, key ∈ (auditPair hypot held state pair).collidingPairs ↔
        key = pair.key ∧ Holds hypot held pair ∨ key ∈ state.collidingPairs := by
  unfold auditPair Counts Holds
  by_cases isExempt : pair.IsExempt
  · simp [isExempt]
  by_cases isApart : pair.IsApart
  · simp [isExempt, isApart]
  by_cases overlaps : pair.overlaps hypot = true
  · by_cases isHeld : pair.key ∈ held
    · simp [isExempt, isApart, overlaps, isHeld]
    · simp [isExempt, isApart, overlaps, isHeld]
  · by_cases isHeld : pair.key ∈ held
    · simp [isExempt, isApart, overlaps, isHeld]
    · simp [isExempt, isApart, overlaps, isHeld]

/-- What the loop does with some pairs. -/
theorem foldl_auditPair_spec (pairs : List AuditPair) :
    (pairs.foldl (auditPair hypot held) state).collisionCount =
        state.collisionCount + pairs.countP (Counts hypot held ·) ∧
      ∀ key, key ∈ (pairs.foldl (auditPair hypot held) state).collidingPairs ↔
        (∃ pair ∈ pairs, key = pair.key ∧ Holds hypot held pair) ∨ key ∈ state.collidingPairs := by
  induction pairs generalizing state with
  | nil => simp
  | cons pair _ ih =>
    obtain ⟨isCount, areHeld⟩ := @auditPair_spec hypot held state pair
    obtain ⟨restCount, restHeld⟩ := ih (auditPair hypot held state pair)
    refine ⟨?_, fun key => ?_⟩
    · rw [List.foldl_cons, restCount, isCount, List.countP_cons]
      simp only [decide_eq_true_eq]
      omega
    · rw [List.foldl_cons, restHeld, areHeld, ← or_assoc]
      simp [or_comm]

end

/-- The audits of a run: the state before each. -/
def auditedAt (hypot : ℚ → ℚ → ℚ) (scenes : Nat → Scene) : Nat → CollisionState
  | 0 => {}
  | tick + 1 => collisionAudit hypot (scenes tick) (auditedAt hypot scenes tick)

section

variable {hypot : ℚ → ℚ → ℚ} {scenes : Nat → Scene}

/-- An audit of a run counts a collision of two vehicles. -/
def CountedAt (hypot : ℚ → ℚ → ℚ) (scenes : Nat → Scene) (tick : Nat) (key : Sym2 String) : Prop :=
  ∃ pair ∈ (scenes tick).pairs,
    Counts hypot (auditedAt hypot scenes tick).collidingPairs pair ∧ pair.key = key

/-- At an audit two vehicles are farther apart than the contact radius, or one of them
has left. -/
def PartedAt (scenes : Nat → Scene) (tick : Nat) (key : Sym2 String) : Prop :=
  ∀ pair ∈ (scenes tick).pairs, pair.key = key → pair.IsApart

/-- Between two collision counts of two vehicles there is an audit at which they have
parted. -/
def CountsOnce (hypot : ℚ → ℚ → ℚ) (scenes : Nat → Scene) : Prop :=
  ∀ earlier later key, earlier < later → CountedAt hypot scenes earlier key →
    CountedAt hypot scenes later key →
      ∃ tick, earlier < tick ∧ tick < later ∧ PartedAt scenes tick key

/-- An audit watches the pairs that are held as in contact: it exempts none of them
that is within the contact radius. -/
def Watches (held : Finset (Sym2 String)) (scene : Scene) : Prop :=
  ∀ pair ∈ scene.pairs, pair.key ∈ held → ¬ pair.IsApart → ¬ pair.IsExempt

theorem mem_collidingPairs_succ (tick : Nat) (key : Sym2 String) :
    key ∈ (auditedAt hypot scenes (tick + 1)).collidingPairs ↔
      ∃ pair ∈ (scenes tick).pairs, key = pair.key ∧
        Holds hypot (auditedAt hypot scenes tick).collidingPairs pair := by
  refine ((foldl_auditPair_spec _ _).2 key).trans ?_
  simp

section

variable {tick : Nat} {key : Sym2 String}

theorem CountedAt.held (counted : CountedAt hypot scenes tick key) :
    key ∈ (auditedAt hypot scenes (tick + 1)).collidingPairs := by
  obtain ⟨pair, isMem, ⟨notExempt, notApart, overlaps, -⟩, isKey⟩ := counted
  exact (mem_collidingPairs_succ tick key).mpr
    ⟨pair, isMem, isKey.symm, notExempt, notApart, Or.inl overlaps⟩

theorem held_succ (watches : Watches (auditedAt hypot scenes tick).collidingPairs (scenes tick))
    (isHeld : key ∈ (auditedAt hypot scenes tick).collidingPairs)
    (notParted : ¬ PartedAt scenes tick key) :
    key ∈ (auditedAt hypot scenes (tick + 1)).collidingPairs := by
  unfold PartedAt at notParted
  push Not at notParted
  obtain ⟨pair, isMem, rfl, notApart⟩ := notParted
  exact (mem_collidingPairs_succ tick pair.key).mpr
    ⟨pair, isMem, rfl, watches pair isMem isHeld notApart, notApart, Or.inr isHeld⟩

end

theorem held_until_parted
    (watches : ∀ tick, Watches (auditedAt hypot scenes tick).collidingPairs (scenes tick))
    {earlier later : Nat} {key : Sym2 String} (isLater : earlier < later)
    (counted : CountedAt hypot scenes earlier key)
    (notParted : ∀ tick, earlier < tick → tick < later → ¬ PartedAt scenes tick key) :
    key ∈ (auditedAt hypot scenes later).collidingPairs := by
  induction later, isLater using Nat.le_induction with
  | base => exact counted.held
  | succ later isLater ih =>
    apply held_succ (watches later)
    · exact ih fun tick isAfter isBefore => notParted tick isAfter (Nat.lt_succ_of_lt isBefore)
    · exact notParted later isLater (Nat.lt_succ_self later)

/-- Where every audit watches the pairs that are held, each contact is counted once. -/
theorem countsOnce_of_watches (hypot : ℚ → ℚ → ℚ) (scenes : Nat → Scene)
    (watches : ∀ tick, Watches (auditedAt hypot scenes tick).collidingPairs (scenes tick)) :
    CountsOnce hypot scenes := by
  intro earlier later key isLater counted countedAgain
  by_contra noneParted
  push Not at noneParted
  have isHeld := held_until_parted watches isLater counted noneParted
  obtain ⟨pair, -, ⟨-, -, -, notHeld⟩, rfl⟩ := countedAgain
  exact notHeld isHeld

end

/-- A car on its way north, at a distance along the street. -/
def touchingCar (vehicleId : String) (y : ℚ) (isChanging : Bool) : AuditVehicle where
  vehicleId := vehicleId
  lane := some { laneId := "n_in_0" }
  route := [{ laneId := "n_in_0" }]
  coords := (0, y)
  heading := (0, 1)
  length := 4
  width := 2
  isChanging := isChanging

/-- Two cars that overlap on a lane; the second may be on its way out of it. -/
def touchingCars (isChanging : Bool) : Scene where
  vehicles := [touchingCar "veh_0" 3 false, touchingCar "veh_1" 0 isChanging]
  distinct := by simp [touchingCar]

/-- One lane change after another: the second begins while the cars still touch. -/
def changeAfterChange (tick : Nat) : Scene := touchingCars (tick != 1)

/-- The length of a vector along an axis. -/
def axisLength (x y : ℚ) : ℚ := |x| + |y|

theorem countsOnce_watched : CountsOnce axisLength fun _ => touchingCars true := by
  apply countsOnce_of_watches
  intro tick pair isMem _ _ isExempt
  have isOne : pair = ((touchingCar "veh_0" 3 false, { laneId := "n_in_0" }),
      (touchingCar "veh_1" 0 true, { laneId := "n_in_0" })) :=
    List.mem_singleton.mp isMem
  rw [isOne] at isExempt
  exact isExempt.1 (Or.inr rfl)

/-- The contact is counted twice, though the cars are in touch throughout. -/
theorem counted_twice : ¬ CountsOnce axisLength changeAfterChange := by
  intro countsOnce
  have counted : ∀ tick, tick = 0 ∨ tick = 2 →
      CountedAt axisLength changeAfterChange tick s("veh_0", "veh_1") := by
    unfold CountedAt
    rintro tick (rfl | rfl) <;> decide +kernel
  obtain ⟨tick, isAfter, isBefore, parted⟩ :=
    countsOnce 0 2 _ (by decide) (counted 0 (Or.inl rfl)) (counted 2 (Or.inr rfl))
  obtain rfl : tick = 1 := by omega
  exact absurd (parted _ (List.mem_singleton_self _) rfl) (by decide +kernel)

end UrbanFlow.VehiclePool
