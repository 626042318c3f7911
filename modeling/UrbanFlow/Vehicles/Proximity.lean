import Mathlib.Data.List.Sort
import Mathlib.Data.Rat.Floor
import Mathlib.Tactic.LinearCombination
import UrbanFlow.Library.Folds
import UrbanFlow.Vehicles.CollisionAudit

/-!
# The proximity index

The emergency proximity check of `find_leader`, and the grid that narrows it to the
vehicles nearby. Vehicles are known by their identity. Coordinates are of any ordered
field with floors; the gap of a long vehicle's probe is a parameter.
-/

namespace UrbanFlow.Proximity

open VehiclePool

section

variable (Key K Rest : Type) [Field K] [LinearOrder K]

/-- The sine and the cosine of a heading. -/
structure Heading where
  x : K
  y : K
  unit : x * x + y * y = 1

/-- What changes of a vehicle. Of the rest, only the probe of a long vehicle reads. -/
structure Pose where
  lane : Option AuditLane
  coords : K × K
  heading : Heading K
  speed : K
  rest : Rest

/-- The active vehicles in their order, and what does not change of them. -/
structure Fleet where
  order : List Key
  distinct : order.Nodup
  length : Key → K
  width : Key → K
  sizes_pos : ∀ key, 0 < length key ∧ 0 < width key

/-- The active vehicles as they are at a moment. -/
structure Scene extends Fleet Key K where
  poses : Key → Pose K Rest

/-- The leader that has been found: by an earlier layer, or an obstacle. -/
inductive Leader (Earlier : Type)
  | none
  | earlier (leader : Earlier)
  | obstacle (speed length : K)

end

theorem atLeastTwo_two : Nat.AtLeastTwo 2 := ⟨le_rfl⟩

theorem atLeastTwo_three : Nat.AtLeastTwo 3 := ⟨by decide⟩

theorem atLeastTwo_five : Nat.AtLeastTwo 5 := ⟨by decide⟩

theorem atLeastTwo_ten : Nat.AtLeastTwo 10 := ⟨by decide⟩

section

attribute [local instance] atLeastTwo_two atLeastTwo_three atLeastTwo_five atLeastTwo_ten

variable {Key K Rest Earlier : Type} [DecidableEq Key] [Field K] [LinearOrder K]

def emergencyDist : K := 5 / 2

def lateralMargin : K := 3 / 10

def longVehicleThreshold : K := 5

section

variable (lane : AuditLane)

/-- The lower-cased id of a lane. -/
def lowerId : List Char := lane.laneId.toList.map Char.toLower

/-- The lane is a connection lane. -/
def isConn : Bool := "conn".toList.isPrefixOf (lowerId lane)

def ringIndex : Option Int := lane.ringLane.or (connLaneIndex lane.laneId.toList)

end

/-- Two vehicles on these lanes are kept apart by another layer. -/
def isCovered (isRoundabout : Bool) (lane other : AuditLane) : Bool := if isRoundabout then
    isConn lane ∧ isConn other ∧ ringIndex lane ≠ none ∧ ringIndex lane = ringIndex other
  else ¬ isConn lane ∧ ¬ isConn other ∧ (lowerId lane).head?.getD ' ' ∈ ['n', 's', 'e', 'w'] ∧
      (lowerId lane).take 2 = (lowerId other).take 2

/-- The smaller gap, with its leader. -/
def closer (best : Leader K Earlier × WithTop K) (gap : K)
    (leader : Leader K Earlier) : Leader K Earlier × WithTop K :=
  if (gap : WithTop K) < best.2 then (leader, gap) else best

variable (isRoundabout : Bool) (probeGap : Scene Key K Rest → Key → Key → Option K)
variable (scene : Scene Key K Rest)

/-- The body of Layer 4's loop, for a vehicle and another one. -/
def checkOther (vehicle : Key) (best : Leader K Earlier × WithTop K)
    (other : Key) : Leader K Earlier × WithTop K :=
  match (scene.poses vehicle).lane, (scene.poses other).lane with
  | some lane, some otherLane =>
    let my := (scene.poses vehicle).coords
    let fwd := (scene.poses vehicle).heading
    let dx := (scene.poses other).coords.1 - my.1
    let dy := (scene.poses other).coords.2 - my.2
    let fwdDist := dx * fwd.x + dy * fwd.y
    let lengths := scene.length vehicle + scene.length other
    let widths := scene.width vehicle + scene.width other
    let obstacle := Leader.obstacle (scene.poses other).speed (scene.length other)
    if other = vehicle ∨ isCovered isRoundabout lane otherLane then best
    else if fwdDist ≤ 0 then best
    else if longVehicleThreshold < scene.length vehicle ∨
        longVehicleThreshold < scene.length other then
      let reach := (lengths + widths) / 2 + emergencyDist
      if reach * reach < dx * dx + dy * dy then best
      else match probeGap scene vehicle other with
        | some gap => closer best gap obstacle
        | none => best
    else if widths / 2 + lateralMargin < |-dx * fwd.y + dy * fwd.x| then best
    else if fwdDist < emergencyDist + lengths / 2 then
      closer best (max 0 (fwdDist - lengths / 2)) obstacle
    else best
  | _, _ => best

/-- Layer 4 of `find_leader`, over some of the vehicles. -/
def layer4 (vehicle : Key) (others : List Key)
    (best : Leader K Earlier × WithTop K) : Leader K Earlier × WithTop K :=
  others.foldl (checkOther isRoundabout probeGap scene vehicle) best

end

/-- `ProximityGrid`. -/
structure Grid (Key K : Type) where
  cellSize : K
  cells : ℤ × ℤ → List Key := fun _ => []
  located : Key → Option (ℤ × ℤ) := fun _ => none

namespace Grid

variable {Key K Rest : Type} [DecidableEq Key] [Field K] [LinearOrder K]

/-- `max(values, default=0.0)`. -/
def greatest (values : List K) : K := values.max?.getD 0

/-- `cell_size`. -/
def sizeFor (fleet : Fleet Key K) : K :=
  emergencyDist + lateralMargin + greatest (fleet.order.map fleet.length) +
    greatest (fleet.order.map fleet.width) + 1

variable [FloorRing K]

/-- The cell of a position. -/
def cellAt (size : K) (coords : K × K) : ℤ × ℤ := (⌊coords.1 / size⌋, ⌊coords.2 / size⌋)

/-- The cell that a vehicle is to be filed under, if it has a lane. -/
def cellFor (size : K) (pose : Pose K Rest) : Option (ℤ × ℤ) :=
  pose.lane.map fun _ => cellAt size pose.coords

/-- The cells once a vehicle has been taken out of its old one. -/
def dropped (grid : Grid Key K) (key : Key) : ℤ × ℤ → List Key := match grid.located key with
  | some cell => Function.update grid.cells cell ((grid.cells cell).erase key)
  | none => grid.cells

/-- The cells once a vehicle has been filed under its new one. -/
def filed (cells : ℤ × ℤ → List Key) (key : Key) : Option (ℤ × ℤ) → ℤ × ℤ → List Key
  | some cell => Function.update cells cell (cells cell ++ [key])
  | none => cells

def move (poses : Key → Pose K Rest) (grid : Grid Key K) (key : Key) : Grid Key K :=
  let new := cellFor grid.cellSize (poses key)
  if grid.located key = new then grid
  else
    { grid with
      cells := filed (grid.dropped key) key new
      located := Function.update grid.located key new }

/-- `ProximityGrid(vehicles)`. -/
def build (scene : Scene Key K Rest) : Grid Key K :=
  scene.order.foldl (move scene.poses) { cellSize := sizeFor scene.toFleet }

def around (cell : ℤ × ℤ) : List (ℤ × ℤ) :=
  ([-1, 0, 1] ×ˢ [-1, 0, 1]).map fun offset => (cell.1 + offset.1, cell.2 + offset.2)

def near (scene : Scene Key K Rest) (grid : Grid Key K) (key : Key) : List Key :=
  let found := (around (cellAt grid.cellSize (scene.poses key).coords)).flatMap grid.cells
  found.insertionSort fun first second => scene.order.idxOf first ≤ scene.order.idxOf second

theorem mem_around {cell other : ℤ × ℤ} :
    other ∈ around cell ↔ |other.1 - cell.1| ≤ 1 ∧ |other.2 - cell.2| ≤ 1 := by
  unfold around
  rw [List.mem_map]
  constructor
  · rintro ⟨⟨_, _⟩, isOffset, rfl⟩
    simp only [List.mem_product, List.mem_cons, List.not_mem_nil, or_false] at isOffset
    rw [abs_le, abs_le]
    dsimp only
    omega
  · rintro ⟨isX, isY⟩
    rw [abs_le] at isX isY
    refine ⟨(other.1 - cell.1, other.2 - cell.2), ?_, ?_⟩
    · simp only [List.mem_product, List.mem_cons, List.not_mem_nil, or_false]
      omega
    · simp

theorem nodup_around (cell : ℤ × ℤ) : (around cell).Nodup := by
  apply List.Nodup.map
  · rintro ⟨x, y⟩ ⟨x', y'⟩ same
    simpa using same
  · decide

/-- Positions that are at most a cell apart lie in cells next to each other. -/
theorem abs_floor_sub_le [IsStrictOrderedRing K] {size a b : K} (isPositive : 0 < size)
    (isClose : |a - b| ≤ size) :
    |⌊a / size⌋ - ⌊b / size⌋| ≤ 1 := by
  have apart : |a / size - b / size| ≤ 1 := by
    rw [← sub_div, abs_div, abs_of_pos isPositive]
    exact (div_le_one isPositive).mpr isClose
  rw [abs_le] at apart ⊢
  have floorA := Int.floor_le (a / size)
  have aboveA := Int.lt_floor_add_one (a / size)
  have floorB := Int.floor_le (b / size)
  have aboveB := Int.lt_floor_add_one (b / size)
  have below : ((⌊b / size⌋ : ℤ) : K) < ⌊a / size⌋ + 1 + 1 := by linarith
  have above : ((⌊a / size⌋ : ℤ) : K) < ⌊b / size⌋ + 1 + 1 := by linarith
  have below' : ⌊b / size⌋ < ⌊a / size⌋ + 1 + 1 := by exact_mod_cast below
  have above' : ⌊a / size⌋ < ⌊b / size⌋ + 1 + 1 := by exact_mod_cast above
  omega

/-- The lists of the cells hold what is located in them, once. -/
structure Consistent (grid : Grid Key K) : Prop where
  nodup : ∀ cell, (grid.cells cell).Nodup
  mem_iff : ∀ cell key, key ∈ grid.cells cell ↔ grid.located key = some cell

section

variable {poses : Key → Pose K Rest} {grid : Grid Key K} {key : Key}

theorem move_cellSize : (move poses grid key).cellSize = grid.cellSize := by
  dsimp only [move]
  split <;> rfl

theorem move_located : (move poses grid key).located =
      Function.update grid.located key (cellFor grid.cellSize (poses key)) := by
  dsimp only [move]
  split
  · next isSame => rw [← isSame, Function.update_eq_self]
  · rfl

omit [FloorRing K] [Field K] [LinearOrder K] in
theorem dropped_spec (consistent : grid.Consistent) (cell : ℤ × ℤ) : (grid.dropped key cell).Nodup ∧
      ∀ other, other ∈ grid.dropped key cell ↔ other ≠ key ∧ other ∈ grid.cells cell := by
  unfold dropped
  cases isOld : grid.located key with
  | none =>
    refine ⟨consistent.nodup cell, fun other => ⟨fun isMem => ⟨?_, isMem⟩, And.right⟩⟩
    rintro rfl
    rw [consistent.mem_iff, isOld] at isMem
    cases isMem
  | some old =>
    dsimp only
    by_cases isHere : cell = old
    · subst isHere
      rw [Function.update_self]
      exact ⟨(consistent.nodup cell).erase key, fun other => (consistent.nodup cell).mem_erase_iff⟩
    · rw [Function.update_of_ne isHere]
      refine ⟨consistent.nodup cell, fun other => ⟨fun isMem => ⟨?_, isMem⟩, And.right⟩⟩
      rintro rfl
      rw [consistent.mem_iff, isOld] at isMem
      exact isHere (Option.some.inj isMem).symm

theorem move_consistent (consistent : grid.Consistent) : (move poses grid key).Consistent := by
  dsimp only [move]
  split
  · exact consistent
  · refine ⟨fun cell => ?_, fun cell other => ?_⟩
    · obtain ⟨isNodup, areOthers⟩ := @dropped_spec Key K _ grid key consistent cell
      cases cellFor grid.cellSize (poses key) with
      | none => exact isNodup
      | some new =>
        dsimp only [filed]
        by_cases isHere : cell = new
        · subst isHere
          rw [Function.update_self, ← List.concat_eq_append]
          apply isNodup.concat
          exact fun isMem => ((areOthers key).mp isMem).1 rfl
        · rwa [Function.update_of_ne isHere]
    · obtain ⟨-, areOthers⟩ := @dropped_spec Key K _ grid key consistent cell
      dsimp only
      cases cellFor grid.cellSize (poses key) with
      | none =>
        dsimp only [filed]
        rw [areOthers, consistent.mem_iff]
        by_cases isKey : other = key
        · simp [isKey]
        · simp [isKey]
      | some new =>
        dsimp only [filed]
        by_cases isHere : cell = new
        · subst isHere
          rw [Function.update_self, List.mem_append, areOthers, consistent.mem_iff]
          by_cases isKey : other = key
          · simp [isKey]
          · simp [isKey]
        · rw [Function.update_of_ne isHere, areOthers, consistent.mem_iff]
          by_cases isKey : other = key
          · simp [isKey, Ne.symm isHere]
          · simp [isKey]

/-- Every active vehicle that has a lane is filed under the cell it is in, once. -/
structure Live (scene : Scene Key K Rest) (grid : Grid Key K) : Prop where
  consistent : grid.Consistent
  size : grid.cellSize = sizeFor scene.toFleet
  located : ∀ key, grid.located key =
    if key ∈ scene.order then cellFor (sizeFor scene.toFleet) (scene.poses key) else none

/-- Filing some vehicles, one after another. -/
theorem foldl_move (keys : List Key) (consistent : grid.Consistent) :
    (keys.foldl (move poses) grid).Consistent ∧
      (keys.foldl (move poses) grid).cellSize = grid.cellSize ∧
      ∀ other, (keys.foldl (move poses) grid).located other =
        if other ∈ keys then cellFor grid.cellSize (poses other) else grid.located other := by
  induction keys generalizing grid with
  | nil => exact ⟨consistent, rfl, fun other => by simp⟩
  | cons key _ ih =>
    have moved := @ih (move poses grid key) (move_consistent consistent)
    rw [move_cellSize, move_located] at moved
    refine ⟨moved.1, moved.2.1, fun other => ?_⟩
    rw [List.foldl_cons, moved.2.2]
    by_cases isKey : other = key
    · simp [isKey]
    · simp [isKey]

theorem build_live (scene : Scene Key K Rest) : (build scene).Live scene := by
  have isEmpty : ({ cellSize := sizeFor scene.toFleet } : Grid Key K).Consistent :=
    ⟨fun _ => List.nodup_nil, fun _ _ => by simp⟩
  obtain ⟨isConsistent, sameSize, areLocated⟩ :=
    @foldl_move Key K Rest _ _ _ _ scene.poses _ scene.order isEmpty
  exact ⟨isConsistent, sameSize, areLocated⟩

end

end Grid

section

variable {Key K Rest : Type} [DecidableEq Key] [Field K] [LinearOrder K] [FloorRing K]

/-- An update of an active vehicle. -/
structure Update (K Rest : Type) [Field K] [LinearOrder K] (fleet : Fleet Key K) where
  key : Key
  active : key ∈ fleet.order
  pose : Pose K Rest

/-- The active vehicles with their index. -/
structure World (K Rest : Type) [Field K] [LinearOrder K] (fleet : Fleet Key K) where
  poses : Key → Pose K Rest
  grid : Grid Key K

variable {fleet : Fleet Key K}

/-- The vehicles as they are. -/
def World.scene (world : World K Rest fleet) : Scene Key K Rest :=
  { fleet with poses := world.poses }

/-- A vehicle changes and is moved in the index. -/
def World.step (world : World K Rest fleet) (update : Update K Rest fleet) : World K Rest fleet :=
  let poses := Function.update world.poses update.key update.pose
  { poses := poses
    grid := world.grid.move poses update.key }

/-- A new index and some updates. -/
def World.run (fleet : Fleet Key K) (poses : Key → Pose K Rest)
    (updates : List (Update K Rest fleet)) : World K Rest fleet :=
  updates.foldl World.step { poses := poses, grid := Grid.build { fleet with poses := poses } }

theorem World.step_live {world : World K Rest fleet} (live : world.grid.Live world.scene)
    (update : Update K Rest fleet) : (world.step update).grid.Live (world.step update).scene := by
  refine ⟨Grid.move_consistent live.consistent, Grid.move_cellSize.trans live.size, fun other => ?_⟩
  change ((world.grid.move (Function.update world.poses update.key update.pose)
    update.key).located other) = if other ∈ fleet.order then Grid.cellFor (Grid.sizeFor fleet)
        (Function.update world.poses update.key update.pose other) else none
  have isLocated : world.grid.located other = if other ∈ fleet.order then
      Grid.cellFor (Grid.sizeFor fleet) (world.poses other) else none :=
    live.located other
  have isSize : world.grid.cellSize = Grid.sizeFor fleet := live.size
  rw [Grid.move_located, isSize]
  by_cases isKey : other = update.key
  · subst isKey
    rw [Function.update_self, Function.update_self, if_pos update.active]
  · rw [Function.update_of_ne isKey, Function.update_of_ne isKey, isLocated]

theorem World.run_live (poses : Key → Pose K Rest) (updates : List (Update K Rest fleet)) :
    (World.run fleet poses updates).grid.Live (World.run fleet poses updates).scene :=
  Folds.foldl_keeps (fun world : World K Rest fleet => world.grid.Live world.scene)
    (fun update _ _ live => World.step_live live update) (Grid.build_live _)

end

section

variable {Key K Rest Earlier : Type} [DecidableEq Key] [Field K] [LinearOrder K]
  [FloorRing K] {scene : Scene Key K Rest} {grid : Grid Key K}

/-- An active vehicle that has a lane and is in a cell next to a vehicle's. -/
def Grid.isNear (scene : Scene Key K Rest) (grid : Grid Key K) (vehicle other : Key) : Bool :=
  (around (cellAt grid.cellSize (scene.poses vehicle).coords)).any
    fun cell => grid.located other = some cell

theorem pairwise_idxOf {order : List Key} (distinct : order.Nodup) :
    order.Pairwise fun first second => order.idxOf first ≤ order.idxOf second := by
  rw [List.pairwise_iff_getElem]
  intro i j isI isJ less
  rw [distinct.idxOf_getElem, distinct.idxOf_getElem]
  exact less.le

/-- `near` is the part of the active list that lies in the cells around. -/
theorem Grid.near_eq (live : grid.Live scene) (vehicle : Key) :
    grid.near scene vehicle = scene.order.filter (grid.isNear scene vehicle) := by
  have areActive {other : Key} {cell : ℤ × ℤ} (isThere : grid.located other = some cell) :
      other ∈ scene.order := by
    by_contra notActive
    rw [live.located, if_neg notActive] at isThere
    cases isThere
  have total : Std.Total fun first second =>
      scene.order.idxOf first ≤ scene.order.idxOf second :=
    ⟨fun first second => le_total _ _⟩
  have transitive : IsTrans Key fun first second =>
      scene.order.idxOf first ≤ scene.order.idxOf second :=
    ⟨fun _ _ _ => le_trans⟩
  have isPerm : (grid.near scene vehicle).Perm
      (scene.order.filter (grid.isNear scene vehicle)) := by
    apply (List.perm_insertionSort _ _).trans
    rw [List.perm_ext_iff_of_nodup _ (scene.distinct.filter _)]
    · intro other
      rw [List.mem_flatMap, List.mem_filter, isNear, List.any_eq_true]
      simp only [decide_eq_true_eq, live.consistent.mem_iff]
      constructor
      · rintro ⟨cell, isAround, isThere⟩
        exact ⟨areActive isThere, cell, isAround, isThere⟩
      · rintro ⟨-, isThere⟩
        exact isThere
    · rw [List.nodup_flatMap]
      refine ⟨fun cell _ => live.consistent.nodup cell, ?_⟩
      apply (nodup_around _).imp
      intro cell cell' areOther other isHere isThere
      rw [live.consistent.mem_iff] at isHere isThere
      exact areOther (Option.some.inj (isHere.symm.trans isThere))
  refine List.Perm.eq_of_pairwise ?_ (List.pairwise_insertionSort _ _)
    ((pairwise_idxOf scene.distinct).filter _) isPerm
  intro first second _ isSecond before after
  exact ((List.idxOf_inj (List.mem_of_mem_filter isSecond)).mp (le_antisymm after before)).symm

end

section

variable {Key K Rest Earlier : Type} [Field K] [LinearOrder K]

theorem Grid.le_greatest {values : List K} {value : K} (isMem : value ∈ values) :
    value ≤ greatest values := Folds.le_max_of_mem isMem

variable [IsStrictOrderedRing K]

section

attribute [local instance] atLeastTwo_two atLeastTwo_three atLeastTwo_five atLeastTwo_ten

theorem Grid.reach_lt_size (fleet : Fleet Key K) {vehicle other : Key}
    (isActive : vehicle ∈ fleet.order) (isOther : other ∈ fleet.order) :
    (fleet.length vehicle + fleet.length other) / 2 +
        (fleet.width vehicle + fleet.width other) / 2 + emergencyDist + lateralMargin <
      sizeFor fleet := by
  have length := le_greatest (List.mem_map_of_mem (f := fleet.length) isActive)
  have length' := le_greatest (List.mem_map_of_mem (f := fleet.length) isOther)
  have width := le_greatest (List.mem_map_of_mem (f := fleet.width) isActive)
  have width' := le_greatest (List.mem_map_of_mem (f := fleet.width) isOther)
  unfold sizeFor
  linarith

end

/-- The components of a direction. -/
theorem Heading.abs_le (heading : Heading K) : |heading.x| ≤ 1 ∧ |heading.y| ≤ 1 := by
  have isUnit := heading.unit
  constructor
  · rw [abs_le_one_iff_mul_self_le_one]
    linarith [mul_self_nonneg heading.y]
  · rw [abs_le_one_iff_mul_self_le_one]
    linarith [mul_self_nonneg heading.x]

/-- A vehicle is no farther along an axis than ahead and aside together. -/
theorem Heading.abs_offset_le (heading : Heading K) (dx dy : K) :
    |dx| ≤ |dx * heading.x + dy * heading.y| + |-dx * heading.y + dy * heading.x| ∧
      |dy| ≤ |dx * heading.x + dy * heading.y| + |-dx * heading.y + dy * heading.x| := by
  obtain ⟨isX, isY⟩ := heading.abs_le
  have isUnit := heading.unit
  have splitX : dx = (dx * heading.x + dy * heading.y) * heading.x -
      (-dx * heading.y + dy * heading.x) * heading.y := by
    linear_combination -dx * isUnit
  have splitY : dy = (dx * heading.x + dy * heading.y) * heading.y +
      (-dx * heading.y + dy * heading.x) * heading.x := by
    linear_combination -dy * isUnit
  have shorter (part component : K) (isSmall : |component| ≤ 1) :
      |part * component| ≤ |part| := by
    rw [abs_mul]
    exact mul_le_of_le_one_right (abs_nonneg part) isSmall
  constructor
  · calc |dx| = _ := congrArg abs splitX
      _ ≤ _ := abs_sub _ _
      _ ≤ _ := add_le_add (shorter _ _ isX) (shorter _ _ isY)
  · calc |dy| = _ := congrArg abs splitY
      _ ≤ _ := abs_add_le _ _
      _ ≤ _ := add_le_add (shorter _ _ isY) (shorter _ _ isX)

end

section

attribute [local instance] atLeastTwo_two atLeastTwo_three atLeastTwo_five atLeastTwo_ten

variable {Key K Rest Earlier : Type} [DecidableEq Key] [Field K] [LinearOrder K]
  [IsStrictOrderedRing K] {scene : Scene Key K Rest}

/-- The check does not act on a vehicle that is more than a cell away along an axis. -/
theorem checkOther_of_far (isRoundabout : Bool)
    (probeGap : Scene Key K Rest → Key → Key → Option K) {vehicle other : Key}
    (isActive : vehicle ∈ scene.order) (isOther : other ∈ scene.order) (isFar :
      let dx := (scene.poses other).coords.1 - (scene.poses vehicle).coords.1
      let dy := (scene.poses other).coords.2 - (scene.poses vehicle).coords.2
      Grid.sizeFor scene.toFleet < |dx| ∨ Grid.sizeFor scene.toFleet < |dy|)
    (best : Leader K Earlier × WithTop K) :
    checkOther isRoundabout probeGap scene vehicle best other = best := by
  have isReach := Grid.reach_lt_size scene.toFleet isActive isOther
  have isMargin : (0 : K) < emergencyDist ∧ (0 : K) < lateralMargin := by
    unfold emergencyDist lateralMargin
    constructor <;> positivity
  have sizes := scene.sizes_pos vehicle
  have sizes' := scene.sizes_pos other
  dsimp only at isFar
  unfold checkOther
  split
  · dsimp only
    generalize (scene.poses other).coords.1 - (scene.poses vehicle).coords.1 = dx at isFar ⊢
    generalize (scene.poses other).coords.2 - (scene.poses vehicle).coords.2 = dy at isFar ⊢
    split_ifs with isSkipped isBehind isLong isBeyond isAside isAhead
    · rfl
    · rfl
    · rfl
    · -- A long vehicle's reach is less than a cell.
      exfalso
      apply isBeyond
      have isNonneg : 0 ≤ (scene.length vehicle + scene.length other +
          (scene.width vehicle + scene.width other)) / 2 + emergencyDist := by
        linarith
      obtain isFar | isFar := isFar
      · have isSquare := mul_self_lt_mul_self isNonneg (show _ < |dx| by linarith)
        rw [abs_mul_abs_self] at isSquare
        linarith [mul_self_nonneg dy]
      · have isSquare := mul_self_lt_mul_self isNonneg (show _ < |dy| by linarith)
        rw [abs_mul_abs_self] at isSquare
        linarith [mul_self_nonneg dx]
    · rfl
    · -- What lies in the corridor is no farther than ahead and aside together.
      exfalso
      obtain ⟨isX, isY⟩ := (scene.poses vehicle).heading.abs_offset_le dx dy
      rw [abs_of_pos (not_le.mp isBehind)] at isX isY
      have isNear := not_lt.mp isAside
      obtain isFar | isFar := isFar
      · linarith
      · linarith
    · rfl
  · rfl

variable [FloorRing K] {grid : Grid Key K}

/-- The check does not act on a vehicle that is not in the cells around. -/
theorem checkOther_of_not_near (isRoundabout : Bool)
    (probeGap : Scene Key K Rest → Key → Key → Option K) (live : grid.Live scene)
    {vehicle other : Key} (isActive : vehicle ∈ scene.order) (isOther : other ∈ scene.order)
    (notNear : grid.isNear scene vehicle other = false) (best : Leader K Earlier × WithTop K) :
    checkOther isRoundabout probeGap scene vehicle best other = best := by
  cases isLane : (scene.poses other).lane with
  | none =>
    unfold checkOther
    rw [isLane]
    split
    · next _ absent => cases absent
    · rfl
  | some =>
    apply checkOther_of_far isRoundabout probeGap isActive isOther
    by_contra isClose
    dsimp only at isClose
    rw [not_or, not_lt, not_lt] at isClose
    have isPositive : 0 < Grid.sizeFor scene.toFleet := by
      have isReach := Grid.reach_lt_size scene.toFleet isActive isActive
      have sizes := scene.sizes_pos vehicle
      have isMargin : (0 : K) < emergencyDist ∧ (0 : K) < lateralMargin := by
        unfold emergencyDist lateralMargin
        constructor <;> positivity
      linarith
    have isLocated : grid.located other =
        some (Grid.cellAt grid.cellSize (scene.poses other).coords) := by
      rw [live.located, if_pos isOther, Grid.cellFor, isLane, live.size]
      rfl
    have isAround : Grid.cellAt grid.cellSize (scene.poses other).coords ∈
        Grid.around (Grid.cellAt grid.cellSize (scene.poses vehicle).coords) := by
      rw [Grid.mem_around, live.size]
      exact ⟨Grid.abs_floor_sub_le isPositive isClose.1, Grid.abs_floor_sub_le isPositive isClose.2⟩
    have isNear : grid.isNear scene vehicle other = true := by
      rw [Grid.isNear, List.any_eq_true]
      exact ⟨_, isAround, decide_eq_true isLocated⟩
    rw [notNear] at isNear
    cases isNear

/-- After any updates Layer 4 finds over the index what it finds over the active list. -/
theorem layer4_near {fleet : Fleet Key K} (poses : Key → Pose K Rest)
    (updates : List (Update K Rest fleet)) (isRoundabout : Bool)
    (probeGap : Scene Key K Rest → Key → Key → Option K)
    (vehicle : {key : Key // key ∈ fleet.order}) (best : Leader K Earlier × WithTop K) :
    let world := World.run fleet poses updates
    layer4 isRoundabout probeGap world.scene vehicle.1
        (world.grid.near world.scene vehicle.1) best =
      layer4 isRoundabout probeGap world.scene vehicle.1 fleet.order best := by
  intro world
  have live := World.run_live poses updates
  rw [Grid.near_eq live]
  apply Folds.foldl_filter_of_inert
  intro other isOther notNear state
  exact checkOther_of_not_near isRoundabout probeGap live vehicle.2 isOther notNear state

end

def twoCars : Fleet Bool ℚ where
  order := [true, false]
  distinct := by decide
  length _ := 1 + 1 + 1 + 1
  width _ := 1 + 1
  sizes_pos _ := by norm_num

/-- A car that many metres up a lane, facing north. -/
def carOn (laneId : String) (y : ℚ) : Pose ℚ Unit where
  lane := some { laneId := laneId }
  coords := (0, y)
  heading := ⟨0, 1, by norm_num⟩
  speed := 1
  rest := ()

/-- The second car drives into the junction. -/
def driveOn : Update ℚ Unit twoCars where
  key := false
  active := by decide
  pose := carOn "conn_n_0_straight" 1

theorem layer4_twoCars :
    let world := World.run twoCars (fun _ => carOn "n_in_0" 0) [driveOn]
    layer4 false (fun _ _ _ => none) world.scene true
        (world.grid.near world.scene true) ((Leader.none : Leader ℚ Unit), ⊤) =
      layer4 false (fun _ _ _ => none) world.scene true twoCars.order (Leader.none, ⊤) :=
  layer4_near (fun _ => carOn "n_in_0" 0) [driveOn] false (fun _ _ _ => none) ⟨true, by decide⟩ _

end UrbanFlow.Proximity
