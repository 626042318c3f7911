import Mathlib.Data.List.Rotate
import Mathlib.Data.List.Sublists
import UrbanFlow.Library.Folds
import UrbanFlow.Scenario.CompiledJunction

/-!
# The slots of measured arms

`assign_slots`: measured bearings are put on compass slots, in their order around the
junction, or it is said why they cannot be. At most one placement is within the rules,
and the search finds it.
-/

namespace UrbanFlow.Scenario

open JunctionContext

/-- `SLOT_ORDER`. -/
def slotOrder : List Direction := [.north, .east, .south, .west]

def minArmSeparation : ℚ := 45

/-- The slack of the sum of the turns. -/
def turnSlack : ℚ := 1 / 10 ^ 6

/-- `permutations(items, r)`. -/
def permutations : Nat → List Direction → List (List Direction)
  | 0, _ => [[]]
  | r + 1, items => items.flatMap fun first =>
      (permutations r (items.erase first)).map (first :: ·)

/-- Each entry with the next, and the last with the first. -/
def neighbours {Entry : Type} (entries : List Entry) : List (Entry × Entry) :=
  entries.zip (entries.rotate 1)

/-- The sum of the angles from each bearing to the next. -/
def turns (bearings : List ℚ) : ℚ :=
  ((neighbours bearings).map fun (bearing, next) => modFullCircle (next - bearing)).sum

/-- The rule of `geometry_errors` on neighbouring arms, which are in the order of the
slots. -/
def separationErrors (arms : List ArmGeometry) : List PyMessage :=
  (neighbours arms).filterMap fun (arm, next) =>
    let gap := modFullCircle (next.bearing - arm.bearing)
    if gap < minArmSeparation - angleSlack then
      some [.text ("The " ++ arm.direction.value ++ " and " ++ next.direction.value ++
          " arms are only "), .count (roundHalfEven gap), .text "° apart (bearings ",
        .general arm.bearing, .text "° and ", .general next.bearing,
        .text "°): neighbouring arms must be at least ", .general minArmSeparation,
        .text ("° apart, or their carriageways overlap far beyond the junction, which " ++
          "the model does not represent. Spread the arms further apart")]
    else none

/-- `geometry_errors` for a roundabout. -/
def roundaboutErrors (arms : List ArmGeometry) : List PyMessage :=
  if armCountErrors (arms.map ArmGeometry.direction) ≠ [] then
    armCountErrors (arms.map ArmGeometry.direction)
  else if arms.flatMap bearingErrors ≠ [] then arms.flatMap bearingErrors
  else separationErrors arms

/-- `"apart" in message`. -/
def mentionsApart (message : PyMessage) : Bool := message.any fun
  | .text words => "apart".toList <:+: words.toList
  | _ => false

/-- The bearings of the slots that have an arm, by the slot. -/
abbrev Placement : Type := Direction → Option ℚ

namespace Placement

variable (placed : Placement)

/-- The bearings, walking the slots clockwise. -/
def walk : List ℚ := slotOrder.filterMap placed

def entries : List (Direction × ℚ) := slotOrder.filterMap fun direction =>
  (placed direction).map fun bearing => (direction, bearing)

/-- The largest deviation. -/
def worst : ℚ := (placed.entries.map fun (direction, bearing) =>
  |slotDeviation direction bearing|).max?.getD 0

/-- The arms of the geometry that is checked. -/
def arms : List ArmGeometry := placed.entries.map fun (direction, bearing) =>
  { direction := direction, bearing := bearing, lanes := 1, laneWidth := 7 / 2, length := 200 }

end Placement

/-- A step of the search: the best placement so far, with its largest deviation. -/
def keepBest (best : Option (ℚ × Placement)) (assignment : Placement) : Option (ℚ × Placement) :=
  if turnSlack < |turns assignment.walk - 360| then best
  else
    match best with
    | none => some (assignment.worst, assignment)
    | some (worst, _) =>
      if assignment.worst < worst - angleSlack then some (assignment.worst, assignment) else best

def armsMessage (count : Nat) : PyMessage :=
  [.count count, .text (" arm(s) given: UrbanFlow models junctions of 3 or 4 arms. " ++
    if 4 < count then
      "Five or more arms need movement rules (which exit is 'left') " ++
        "and signal phases the slot model does not have; split the site " ++
        "into junctions of at most four arms or wait for multi-arm support"
    else "Two arms are a bend in one road, not a junction")]

def placementMessage (values : List ℚ) (worst : ℚ) : PyMessage :=
  [.text "These arm bearings ("] ++
    [.text ", "].intercalate (values.map fun value => [.general value, .text "°"]) ++
    [.text (") cannot be placed on compass slots: the best placement leaves an arm "),
      .count (roundHalfEven worst), .text "° from its slot, more than the ",
      .general maxSlotDeviation,
      .text ("° the model allows (it keeps arms in compass order so that left, " ++
        "straight and right keep their meaning)")]

section

variable (bearings : List ℚ)

/-- The bearings in a full circle, from the least. -/
def sortedBearings : List ℚ := (bearings.map modFullCircle).insertionSort (· ≤ ·)

/-- The placements that are tried. -/
def candidates : List Placement :=
  (permutations bearings.length slotOrder).map fun slots direction =>
    (slots.zip (sortedBearings bearings)).lookup direction

def assignSlots : Except (List PyMessage) Placement :=
  if ¬ (3 ≤ bearings.length ∧ bearings.length ≤ 4) then .error [armsMessage bearings.length]
  else
    match (candidates bearings).foldl keepBest none with
    | none => .error [placementMessage (sortedBearings bearings) 180]
    | some (worst, assignment) =>
      if maxSlotDeviation + angleSlack < worst then
        .error [placementMessage (sortedBearings bearings) worst]
      else
        let errors := (roundaboutErrors assignment.arms).filter mentionsApart
        if errors ≠ [] then .error errors else .ok assignment

/-- A placement within the rules: the bearings in their order around the junction, each
near its slot, and neighbours apart. -/
structure IsPlacement (placed : Placement) : Prop where
  clockwise : placed.walk.IsRotated (sortedBearings bearings)
  close : ∀ direction bearing, placed direction = some bearing →
    |slotDeviation direction bearing| ≤ maxSlotDeviation + angleSlack
  apart : ∀ pair ∈ neighbours placed.walk,
    minArmSeparation - angleSlack ≤ modFullCircle (pair.2 - pair.1)

end

/-! ## Bearings near their slots -/

section

variable {one other : Direction} {bearing next : ℚ}

/-- An angle so small that no bearing is as near to two slots. -/
def Near (direction : Direction) (bearing : ℚ) : Prop := |slotDeviation direction bearing| ≤ 31

theorem slots_apart (differs : one ≠ other) :
    90 ≤ modFullCircle (slotBearing other - slotBearing one) ∧
      modFullCircle (slotBearing other - slotBearing one) ≤ 270 := by
  cases one <;> cases other <;> first | exact absurd rfl differs | decide +kernel

/-- From a slot to another the bearings turn as the slots do, but for the deviations. -/
theorem turn_eq (differs : one ≠ other) (isNear : Near one bearing) (nextNear : Near other next) :
    modFullCircle (next - bearing) = modFullCircle (slotBearing other - slotBearing one) +
      (slotDeviation other next - slotDeviation one bearing) := by
  obtain ⟨_, _⟩ := slots_apart differs
  obtain ⟨_, _⟩ := abs_le.mp isNear
  obtain ⟨_, _⟩ := abs_le.mp nextNear
  obtain ⟨own, isOwn⟩ := exists_turns one bearing
  obtain ⟨its, isIts⟩ := exists_turns other next
  apply modFullCircle_eq_of (by linarith) (by linarith)
    (its - own + ⌊(slotBearing other - slotBearing one) / 360⌋)
  rw [modFullCircle]
  push_cast
  linarith

theorem near_unique (isNear : Near one bearing) (otherNear : Near other bearing) :
    one = other := by
  by_contra differs
  have same := turn_eq differs isNear otherNear
  obtain ⟨_, _⟩ := slots_apart differs
  obtain ⟨_, _⟩ := abs_le.mp isNear
  obtain ⟨_, _⟩ := abs_le.mp otherNear
  rw [sub_self, show modFullCircle 0 = 0 by simp [modFullCircle]] at same
  linarith

/-- Past north a bearing is where its slot is. -/
theorem near_bounds (isNear : Near one bearing) (inCircle : 0 ≤ bearing ∧ bearing < 360)
    (notNorth : one ≠ .north) : slotBearing one - 31 ≤ bearing ∧ bearing ≤ slotBearing one + 31 := by
  obtain ⟨_, _⟩ := abs_le.mp isNear
  obtain ⟨own, isOwn⟩ := exists_turns one bearing
  have slot : 90 ≤ slotBearing one ∧ slotBearing one ≤ 270 := by
    cases one <;> first | exact absurd rfl notNorth | norm_num [slotBearing]
  have above : (-1 : ℚ) < own := by linarith
  have below : (own : ℚ) < 1 := by linarith
  have isZero : own = 0 := by
    have : -1 < own := by exact_mod_cast above
    have : own < 1 := by exact_mod_cast below
    omega
  rw [isZero, Int.cast_zero, mul_zero, add_zero] at isOwn
  constructor <;> linarith

theorem near_north (isNear : Near .north bearing) : bearing ≤ 31 ∨ 329 ≤ bearing := by
  obtain ⟨_, _⟩ := abs_le.mp isNear
  obtain ⟨own, isOwn⟩ := exists_turns .north bearing
  rw [show slotBearing .north = 0 from rfl, zero_add] at isOwn
  obtain backward | forward := le_or_gt own 0
  · have : (own : ℚ) ≤ 0 := by exact_mod_cast backward
    exact .inl (by linarith)
  · have : (1 : ℚ) ≤ own := by exact_mod_cast forward
    exact .inr (by linarith)

end

/-! ## Walks around the slots -/

theorem neighbours_map {Entry Other : Type} (f : Entry → Other) (entries : List Entry) :
    neighbours (entries.map f) = (neighbours entries).map (Prod.map f f) := by
  rw [neighbours, neighbours, ← List.map_rotate, List.zip_map]

theorem neighbours_rotate {Entry : Type} (entries : List Entry) (k : Nat) :
    neighbours (entries.rotate k) = (neighbours entries).rotate k := by
  unfold neighbours List.zip
  rw [List.zipWith_rotate_distrib _ _ _ _ (by simp), List.rotate_rotate, List.rotate_rotate,
    Nat.add_comm]

/-- What is gained on the way around is lost again. -/
theorem sum_neighbours {Entry : Type} (f : Entry → ℚ) (entries : List Entry) :
    ((neighbours entries).map fun pair => f pair.2 - f pair.1).sum = 0 := by
  have first : (neighbours entries).map Prod.fst = entries := List.map_fst_zip (by simp)
  have second : (neighbours entries).map Prod.snd = entries.rotate 1 := List.map_snd_zip (by simp)
  have same : ((neighbours entries).map fun pair => f pair.2).sum =
      ((neighbours entries).map fun pair => f pair.1).sum :=
    calc ((neighbours entries).map fun pair => f pair.2).sum
        = ((entries.rotate 1).map f).sum := by rw [← second, List.map_map]; rfl
      _ = (entries.map f).sum := ((List.rotate_perm entries 1).map f).sum_eq
      _ = ((neighbours entries).map fun pair => f pair.1).sum := by
        conv_lhs => rw [← first, List.map_map]
        rfl
  have split := List.sum_map_add (l := neighbours entries) (f := fun pair => f pair.2 - f pair.1)
    (g := fun pair => f pair.1)
  simp only [sub_add_cancel] at split
  linarith

/-- The slots of three arms or four turn once around. -/
theorem turns_slots : ∀ slots ∈ slotOrder.sublists, 2 ≤ slots.length →
    (∀ pair ∈ neighbours slots, pair.1 ≠ pair.2) ∧ turns (slots.map slotBearing) = 360 := by
  decide +kernel

namespace Placement

variable {placed other : Placement} {direction : Direction} {bearing : ℚ}

theorem mem_entries : (direction, bearing) ∈ placed.entries ↔ placed direction = some bearing := by
  simp only [entries, List.mem_filterMap, Option.map_eq_some_iff, Prod.mk.injEq]
  constructor
  · rintro ⟨_, -, _, isPlaced, rfl, rfl⟩
    exact isPlaced
  · intro isPlaced
    exact ⟨direction, by cases direction <;> decide, bearing, isPlaced, rfl, rfl⟩

theorem walk_eq (placed : Placement) : placed.walk = placed.entries.map Prod.snd := by
  simp [walk, entries, List.map_filterMap]

theorem mem_walk : bearing ∈ placed.walk ↔ ∃ direction, placed direction = some bearing := by
  simp [walk_eq, mem_entries]

theorem slots_sublist (placed : Placement) : (placed.entries.map Prod.fst).Sublist slotOrder := by
  have isFilter : placed.entries.map Prod.fst =
      slotOrder.filter fun direction => (placed direction).isSome := by
    rw [entries, List.map_filterMap, ← List.filterMap_eq_filter]
    congr 1
    funext direction
    cases isPlaced : placed direction <;> simp [Option.guard, isPlaced]
  rw [isFilter]
  exact List.filter_sublist

theorem nodup_slots (placed : Placement) : (placed.entries.map Prod.fst).Nodup :=
  placed.slots_sublist.nodup (by decide)

section

variable (areNear : ∀ direction bearing, placed direction = some bearing → Near direction bearing)

include areNear

/-- Bearings near their slots turn once around. -/
theorem turns_walk (several : 2 ≤ placed.walk.length) : turns placed.walk = 360 := by
  rw [walk_eq, List.length_map] at several
  obtain ⟨differ, once⟩ := turns_slots _ (List.mem_sublists.mpr placed.slots_sublist)
    (by rwa [List.length_map])
  have turned : turns placed.walk = turns ((placed.entries.map Prod.fst).map slotBearing) +
      ((neighbours placed.entries).map fun pair =>
        slotDeviation pair.2.1 pair.2.2 - slotDeviation pair.1.1 pair.1.2).sum := by
    rw [neighbours_map] at differ
    rw [turns, turns, walk_eq, List.map_map, neighbours_map, neighbours_map, List.map_map,
      List.map_map, ← List.sum_map_add]
    congr 1
    apply List.map_congr_left
    intro pair isPair
    obtain ⟨isOne, isNext⟩ := List.of_mem_zip isPair
    exact turn_eq (differ _ (List.mem_map_of_mem isPair)) (areNear _ _ (mem_entries.mp isOne))
      (areNear _ _ (mem_entries.mp (List.mem_rotate.mp isNext)))
  rw [turned, once, sum_neighbours fun entry : Direction × ℚ => slotDeviation entry.1 entry.2,
    add_zero]

/-- Bearings near their slots are in their order around the junction. -/
theorem isRotated_of_near {bearings : List ℚ}
    (isPerm : placed.walk.Perm (bearings.map modFullCircle)) :
    placed.walk.IsRotated (sortedBearings bearings) := by
  have inCircle {direction bearing} (isPlaced : placed direction = some bearing) :
      0 ≤ bearing ∧ bearing < 360 := by
    obtain ⟨raw, -, rfl⟩ := List.mem_map.mp (isPerm.subset (mem_walk.mpr ⟨_, isPlaced⟩))
    exact modFullCircle_bounds raw
  have bounds {direction bearing} (isPlaced : placed direction = some bearing) :=
    near_bounds (areNear _ _ isPlaced) (inCircle isPlaced)
  have sorted {turned : List ℚ} (isTurned : placed.walk.IsRotated turned)
      (inOrder : turned.Pairwise (· ≤ ·)) : placed.walk.IsRotated (sortedBearings bearings) := by
    have isSorted : turned = sortedBearings bearings :=
      List.Perm.eq_of_pairwise' inOrder (List.pairwise_insertionSort _ _)
        (isTurned.perm.symm.trans (isPerm.trans (List.perm_insertionSort _ _).symm))
    rwa [← isSorted]
  let rest := [Direction.east, .south, .west].filterMap placed
  have restSorted : rest.Pairwise (· ≤ ·) := by
    have inOrder : [Direction.east, .south, .west].Pairwise fun one other =>
        one ≠ .north ∧ other ≠ .north ∧ slotBearing one + 62 ≤ slotBearing other := by
      decide +kernel
    refine List.pairwise_filterMap.mpr (inOrder.imp ?_)
    rintro one other ⟨isOne, isOther, before⟩ bearing isPlaced next nextPlaced
    linarith [(bounds isPlaced isOne).2, (bounds nextPlaced isOther).1]
  have restBounds : ∀ bearing ∈ rest, 59 ≤ bearing ∧ bearing ≤ 301 := by
    have slots : ∀ one ∈ [Direction.east, .south, .west],
        one ≠ .north ∧ 90 ≤ slotBearing one ∧ slotBearing one ≤ 270 := by decide +kernel
    intro bearing isRest
    obtain ⟨one, isSlot, isPlaced⟩ := List.mem_filterMap.mp isRest
    obtain ⟨notNorth, _, _⟩ := slots one isSlot
    constructor <;> linarith [(bounds isPlaced notNorth).1, (bounds isPlaced notNorth).2]
  cases isNorth : placed .north with
  | none =>
    have isRest : placed.walk = rest := List.filterMap_cons_none isNorth
    exact sorted (isRest ▸ List.IsRotated.refl _) restSorted
  | some north =>
    have isRest : placed.walk = north :: rest := List.filterMap_cons_some isNorth
    rw [isRest] at sorted ⊢
    obtain east | west := near_north (areNear _ _ isNorth)
    · refine sorted (List.IsRotated.refl _) (List.pairwise_cons.mpr ⟨?_, restSorted⟩)
      intro bearing isMem
      linarith [(restBounds bearing isMem).1]
    · refine sorted List.IsRotated.cons_append_singleton (List.pairwise_append.mpr
        ⟨restSorted, List.pairwise_singleton _ _, ?_⟩)
      intro bearing isMem last isLast
      rw [List.mem_singleton.mp isLast]
      linarith [(restBounds bearing isMem).2]

/-- At most one placement of the same bearings has each near its slot. -/
theorem eq_of_near
    (otherNear : ∀ direction bearing, other direction = some bearing → Near direction bearing)
    (isPerm : placed.walk.Perm other.walk) : placed = other := by
  funext direction
  ext bearing
  constructor
  · intro isPlaced
    obtain ⟨slot, isOther⟩ := mem_walk.mp (isPerm.subset (mem_walk.mpr ⟨_, isPlaced⟩))
    rwa [near_unique (areNear _ _ isPlaced) (otherNear _ _ isOther)]
  · intro isOther
    obtain ⟨slot, isPlaced⟩ := mem_walk.mp (isPerm.symm.subset (mem_walk.mpr ⟨_, isOther⟩))
    rwa [near_unique (otherNear _ _ isOther) (areNear _ _ isPlaced)]

end

theorem le_worst (isPlaced : placed direction = some bearing) :
    |slotDeviation direction bearing| ≤ placed.worst := by
  unfold worst
  exact Folds.le_max_of_mem (List.mem_map.mpr ⟨_, mem_entries.mpr isPlaced, rfl⟩)

theorem worst_le {bound : ℚ} (nonnegative : 0 ≤ bound) (within : ∀ direction bearing,
    placed direction = some bearing → |slotDeviation direction bearing| ≤ bound) :
    placed.worst ≤ bound := by
  unfold worst
  cases isMax : (placed.entries.map fun entry => |slotDeviation entry.1 entry.2|).max? with
  | none => exact nonnegative
  | some =>
    obtain ⟨entry, isEntry, rfl⟩ := List.mem_map.mp (List.max?_mem isMax)
    exact within _ _ (mem_entries.mp isEntry)

end Placement

/-! ## The search -/

theorem mem_permutations {r : Nat} {items slots : List Direction} (distinct : items.Nodup) :
    slots ∈ permutations r items ↔ slots.length = r ∧ slots.Nodup ∧ slots ⊆ items := by
  induction r generalizing items slots with
  | zero => simp only [permutations, List.mem_singleton, List.length_eq_zero_iff]; aesop
  | succ _ ih =>
    cases slots with
    | nil => simp [permutations]
    | cons first rest =>
      simp only [permutations, List.mem_flatMap, List.mem_map, List.cons.injEq, ih (distinct.erase _)]
      constructor
      · rintro ⟨_, isFirst, _, ⟨isLength, nodup, within⟩, rfl, rfl⟩
        refine ⟨congrArg Nat.succ isLength, List.nodup_cons.mpr ⟨fun again => ?_, nodup⟩,
          List.cons_subset.mpr ⟨isFirst, fun item isRest => ?_⟩⟩
        · exact (distinct.mem_erase_iff.mp (within again)).1 rfl
        · exact (distinct.mem_erase_iff.mp (within isRest)).2
      · rintro ⟨isLength, nodup, within⟩
        obtain ⟨isNew, restNodup⟩ := List.nodup_cons.mp nodup
        obtain ⟨isFirst, restWithin⟩ := List.cons_subset.mp within
        refine ⟨first, isFirst, rest, ⟨Nat.succ.inj isLength, restNodup, fun item isRest => ?_⟩,
          rfl, rfl⟩
        exact distinct.mem_erase_iff.mpr ⟨ne_of_mem_of_not_mem isRest isNew, restWithin isRest⟩

/-- What the search has found among the placements it has tried. -/
theorem keepBest_spec (tried : List Placement) :
    (∀ worst assignment, tried.foldl keepBest none = some (worst, assignment) →
      assignment ∈ tried ∧ worst = assignment.worst) ∧
    ∀ assignment ∈ tried, turns assignment.walk = 360 →
      ∃ worst found, tried.foldl keepBest none = some (worst, found) ∧
        worst ≤ assignment.worst + angleSlack := by
  have slack : (0 : ℚ) < angleSlack := by norm_num [angleSlack]
  induction tried using List.reverseRecOn with
  | nil => simp
  | append_singleton tried last ih =>
    obtain ⟨isTried, isLeast⟩ := ih
    rw [List.foldl_append, List.foldl_cons, List.foldl_nil]
    generalize tried.foldl keepBest none = best at isTried isLeast ⊢
    have keeps {worst found} (isBest : best = some (worst, found)) :
        found ∈ tried ++ [last] ∧ worst = found.worst := by
      obtain ⟨isMem, isWorst⟩ := isTried worst found isBest
      exact ⟨List.mem_append_left _ isMem, isWorst⟩
    have isLast : last ∈ tried ++ [last] := List.mem_append_right _ (List.mem_singleton_self _)
    unfold keepBest
    split_ifs with outOfOrder
    · refine ⟨fun worst found isBest => keeps isBest, ?_⟩
      intro assignment isMem once
      obtain isEarlier | isNow := List.mem_append.mp isMem
      · exact isLeast assignment isEarlier once
      · rw [← List.mem_singleton.mp isNow, once] at outOfOrder
        norm_num [turnSlack] at outOfOrder
    · cases best with
      | none =>
        refine ⟨by rintro _ _ ⟨⟩; exact ⟨isLast, rfl⟩, fun assignment isMem once => ?_⟩
        obtain isEarlier | isNow := List.mem_append.mp isMem
        · obtain ⟨_, _, ⟨⟩, _⟩ := isLeast assignment isEarlier once
        · exact ⟨_, _, rfl, by rw [List.mem_singleton.mp isNow]; linarith⟩
      | some best =>
        obtain ⟨worst, found⟩ := best
        dsimp only
        split_ifs with improves
        · refine ⟨by rintro _ _ ⟨⟩; exact ⟨isLast, rfl⟩, fun assignment isMem once => ?_⟩
          obtain isEarlier | isNow := List.mem_append.mp isMem
          · obtain ⟨_, _, ⟨⟩, least⟩ := isLeast assignment isEarlier once
            exact ⟨_, _, rfl, by linarith⟩
          · exact ⟨_, _, rfl, by rw [List.mem_singleton.mp isNow]; linarith⟩
        · refine ⟨fun worst found isBest => keeps isBest, fun assignment isMem once => ?_⟩
          obtain isEarlier | isNow := List.mem_append.mp isMem
          · exact isLeast assignment isEarlier once
          · exact ⟨_, _, rfl, by rw [List.mem_singleton.mp isNow]; linarith⟩

/-- A dictionary of bearings places all of them. -/
theorem walk_lookup_perm {entries : List (Direction × ℚ)} (nodup : (entries.map Prod.fst).Nodup) :
    (Placement.walk fun direction => entries.lookup direction).Perm (entries.map Prod.snd) := by
  rw [Placement.walk_eq]
  refine List.Perm.map _ ((List.perm_ext_iff_of_nodup (.of_map _ (Placement.nodup_slots _))
    (.of_map _ nodup)).mpr ?_)
  rintro ⟨_, _⟩
  rw [Placement.mem_entries]
  constructor
  · intro isPlaced
    obtain ⟨_, _, isSplit, -⟩ := List.lookup_eq_some_iff.mp isPlaced
    simp [isSplit]
  · intro isEntry
    refine lookup_of_unique isEntry fun entry isOther sameSlot => ?_
    exact congrArg Prod.snd (List.inj_on_of_nodup_map nodup isOther isEntry sameSlot)

theorem lookup_eq_placed {entries : List (Direction × ℚ)} {placed : Placement}
    (isPlaced : ∀ direction bearing,
      (direction, bearing) ∈ entries ↔ placed direction = some bearing) :
    (fun direction => entries.lookup direction) = placed := by
  funext direction
  cases found : entries.lookup direction with
  | none =>
    cases placing : placed direction with
    | none => rfl
    | some =>
      have := List.lookup_eq_none_iff.mp found _ ((isPlaced _ _).mpr placing)
      simp at this
  | some =>
    obtain ⟨_, _, isSplit, -⟩ := List.lookup_eq_some_iff.mp found
    exact ((isPlaced _ _).mp (by simp [isSplit])).symm

section

variable {bearings : List ℚ} {placed : Placement}

theorem walk_perm_of_mem_candidates (isTried : placed ∈ candidates bearings) :
    placed.walk.Perm (sortedBearings bearings) := by
  obtain ⟨slots, isSlots, rfl⟩ := List.mem_map.mp isTried
  obtain ⟨isLength, nodup, -⟩ := (mem_permutations (by decide)).mp isSlots
  have sameLength : slots.length = (sortedBearings bearings).length := by
    simp [isLength, sortedBearings]
  have keys : ((slots.zip (sortedBearings bearings)).map Prod.fst).Nodup := by
    rwa [List.map_fst_zip sameLength.le]
  simpa only [List.map_snd_zip sameLength.ge] using walk_lookup_perm keys

theorem mem_candidates (inOrder : placed.walk.IsRotated (sortedBearings bearings)) :
    placed ∈ candidates bearings := by
  obtain ⟨k, isRotated⟩ := inOrder
  rw [Placement.walk_eq, ← List.map_rotate] at isRotated
  have isLength : (placed.entries.rotate k).length = bearings.length := by
    have := congrArg List.length isRotated
    simpa [sortedBearings] using this
  refine List.mem_map.mpr ⟨(placed.entries.rotate k).map Prod.fst,
    (mem_permutations (by decide)).mpr ⟨by rw [List.length_map, isLength], ?_, ?_⟩, ?_⟩
  · rw [List.map_rotate]
    exact List.nodup_rotate.mpr placed.nodup_slots
  · intro direction _
    cases direction <;> decide
  · rw [← isRotated, List.zip_map']
    apply lookup_eq_placed
    simp [Placement.mem_entries]

end

/-! ## Slots are assigned just when there is a placement -/

theorem roundaboutErrors_eq_nil_iff {placed : Placement} (several : 3 ≤ placed.walk.length)
    (areNear : ∀ direction bearing, placed direction = some bearing →
      |slotDeviation direction bearing| ≤ maxSlotDeviation + angleSlack) :
    (roundaboutErrors placed.arms).filter mentionsApart = [] ↔
      ∀ pair ∈ neighbours placed.walk,
        minArmSeparation - angleSlack ≤ modFullCircle (pair.2 - pair.1) := by
  have isCount : armCountErrors (placed.arms.map ArmGeometry.direction) = [] := by
    rw [armCountErrors, if_neg]
    simpa [Placement.arms, Placement.walk_eq] using several
  have isClose : placed.arms.flatMap bearingErrors = [] := by
    refine List.flatMap_eq_nil_iff.mpr fun arm isArm => ?_
    obtain ⟨entry, isEntry, rfl⟩ := List.mem_map.mp isArm
    exact if_neg (not_lt.mpr (areNear _ _ (Placement.mem_entries.mp isEntry)))
  rw [roundaboutErrors, if_neg (not_not.mpr isCount), if_neg (not_not.mpr isClose),
    List.filter_eq_nil_iff, separationErrors, Placement.arms, Placement.walk_eq, neighbours_map,
    neighbours_map]
  constructor
  · intro noErrors pair isPair
    obtain ⟨entries, isEntries, rfl⟩ := List.mem_map.mp isPair
    by_contra tooClose
    refine noErrors _ (List.mem_filterMap.mpr ⟨_, List.mem_map_of_mem isEntries,
      if_pos (not_le.mp tooClose)⟩) ?_
    exact List.any_eq_true.mpr ⟨.text "° apart (bearings ", by simp, by decide⟩
  · intro areApart message isMessage
    obtain ⟨pair, isPair, isError⟩ := List.mem_filterMap.mp isMessage
    obtain ⟨entries, isEntries, rfl⟩ := List.mem_map.mp isPair
    have isApart := areApart _ (List.mem_map_of_mem isEntries)
    have noError : none = some message := (if_neg (not_lt.mpr isApart)).symm.trans isError
    cases noError

theorem near_of_le {direction : Direction} {bearing bound : ℚ}
    (within : |slotDeviation direction bearing| ≤ bound)
    (small : bound ≤ maxSlotDeviation + angleSlack + angleSlack) : Near direction bearing := by
  unfold maxSlotDeviation angleSlack at small
  exact within.trans (by linarith)

theorem assignSlots_eq_ok_iff {bearings : List ℚ}
    (isJunction : 3 ≤ bearings.length ∧ bearings.length ≤ 4) {placed : Placement} :
    assignSlots bearings = .ok placed ↔ IsPlacement bearings placed := by
  have slack : (0 : ℚ) ≤ angleSlack := by norm_num [angleSlack]
  have length_walk {assignment : Placement}
      (isPerm : assignment.walk.Perm (sortedBearings bearings)) : 3 ≤ assignment.walk.length := by
    rw [isPerm.length_eq, sortedBearings, List.length_insertionSort, List.length_map]
    exact isJunction.1
  unfold assignSlots
  rw [if_neg (not_not.mpr isJunction)]
  constructor
  · intro isOk
    split at isOk
    · cases isOk
    · next worst assignment isBest =>
      dsimp only at isOk
      split_ifs at isOk with tooFar wrong
      obtain rfl := Except.ok.inj isOk
      obtain ⟨isTried, rfl⟩ := (keepBest_spec _).1 _ _ isBest
      have isPerm := walk_perm_of_mem_candidates isTried
      have close (direction bearing) (isPlaced : assignment direction = some bearing) :=
        (Placement.le_worst isPlaced).trans (not_lt.mp tooFar)
      refine ⟨Placement.isRotated_of_near (fun _ _ isPlaced => ?_)
        (isPerm.trans (List.perm_insertionSort _ _)), close,
        (roundaboutErrors_eq_nil_iff (length_walk isPerm) close).mp (not_not.mp wrong)⟩
      exact near_of_le (close _ _ isPlaced) (by linarith)
  · intro placement
    have isPerm := placement.clockwise.perm
    have areNear (direction bearing) (isPlaced : placed direction = some bearing) :
        Near direction bearing :=
      near_of_le (placement.close _ _ isPlaced) (by linarith)
    have once := Placement.turns_walk areNear ((by norm_num : 2 ≤ 3).trans (length_walk isPerm))
    obtain ⟨worst, found, isBest, least⟩ :=
      (keepBest_spec _).2 placed (mem_candidates placement.clockwise) once
    obtain ⟨isTried, rfl⟩ := (keepBest_spec _).1 _ _ isBest
    have isWorst : placed.worst ≤ maxSlotDeviation + angleSlack :=
      Placement.worst_le (by norm_num [maxSlotDeviation, angleSlack]) placement.close
    obtain rfl : found = placed := by
      refine Placement.eq_of_near (fun direction bearing isPlaced => ?_) areNear
        ((walk_perm_of_mem_candidates isTried).trans isPerm.symm)
      exact near_of_le (Placement.le_worst isPlaced) (by linarith)
    rw [isBest]
    dsimp only
    rw [if_neg (not_lt.mpr isWorst), if_neg (not_not.mpr
      ((roundaboutErrors_eq_nil_iff (length_walk isPerm) placement.close).mpr placement.apart))]

/-! ## Turning the junction -/

/-- The slot before a slot, clockwise. -/
def slotBefore : Direction → Direction
  | .north => .west
  | .east => .north
  | .south => .east
  | .west => .south

/-- A placement turned by one slot. -/
def Placement.turned (placed : Placement) : Placement := fun direction =>
  (placed (slotBefore direction)).map fun bearing => modFullCircle (bearing + 90)

theorem modFullCircle_eq_modFullCircle {angle other : ℚ} (turns : ℤ)
    (isTurned : angle = other + 360 * turns) : modFullCircle angle = modFullCircle other := by
  obtain ⟨nonnegative, below⟩ := modFullCircle_bounds other
  apply modFullCircle_eq_of nonnegative below (⌊other / 360⌋ + turns)
  rw [isTurned, modFullCircle]
  push_cast
  ring

theorem slotDeviation_turned (direction : Direction) (bearing : ℚ) :
    slotDeviation direction (modFullCircle (bearing + 90)) =
      slotDeviation (slotBefore direction) bearing := by
  obtain ⟨wraps, isNext⟩ : ∃ wraps : ℤ,
      slotBearing (slotBefore direction) + 90 = slotBearing direction + 360 * wraps := by
    cases direction with
    | north => exact ⟨1, by norm_num [slotBearing, slotBefore]⟩
    | _ => exact ⟨0, by norm_num [slotBearing, slotBefore]⟩
  have same : modFullCircle (modFullCircle (modFullCircle (bearing + 90)) - slotBearing direction) =
      modFullCircle (modFullCircle bearing - slotBearing (slotBefore direction)) := by
    apply modFullCircle_eq_modFullCircle (wraps + ⌊bearing / 360⌋ - ⌊(bearing + 90) / 360⌋ -
      ⌊modFullCircle (bearing + 90) / 360⌋)
    simp only [modFullCircle]
    push_cast
    linarith
  simp only [slotDeviation, same]

theorem walk_turned (placed : Placement) : placed.walk.IsRotated
    ((slotOrder.map slotBefore).filterMap placed) := by
  have isSplit : slotOrder = [.north, .east, .south] ++ [.west] := rfl
  have isTurned : slotOrder.map slotBefore = [.west] ++ [.north, .east, .south] := rfl
  rw [Placement.walk, isTurned, isSplit, List.filterMap_append, List.filterMap_append]
  exact List.isRotated_append

/-- A placement of bearings, turned, is one of the bearings turned. -/
theorem IsPlacement.turned {bearings : List ℚ} {placed : Placement}
    (placement : IsPlacement bearings placed) :
    IsPlacement (bearings.map (· + 90)) placed.turned := by
  let turn : ℚ → ℚ := fun bearing => modFullCircle (bearing + 90)
  obtain ⟨k, isRotated⟩ := walk_turned placed
  have isWalk : placed.turned.walk = (placed.walk.rotate k).map turn := by
    rw [isRotated, List.map_filterMap, List.filterMap_map]
    rfl
  have close (direction bearing) (isPlaced : placed.turned direction = some bearing) :
      |slotDeviation direction bearing| ≤ maxSlotDeviation + angleSlack := by
    obtain ⟨before, wasPlaced, rfl⟩ := Option.map_eq_some_iff.mp isPlaced
    rw [slotDeviation_turned]
    exact placement.close _ _ wasPlaced
  refine ⟨Placement.isRotated_of_near (fun _ _ isPlaced => ?_) ?_, close, ?_⟩
  · exact near_of_le (close _ _ isPlaced) (by norm_num [angleSlack])
  · have values : (bearings.map (· + 90)).map modFullCircle =
        (bearings.map modFullCircle).map turn := by
      rw [List.map_map, List.map_map]
      apply List.map_congr_left
      intro bearing _
      apply modFullCircle_eq_modFullCircle ⌊bearing / 360⌋
      rw [modFullCircle]
      ring
    rw [isWalk, values]
    exact ((List.rotate_perm _ _).trans (placement.clockwise.perm.trans
      (List.perm_insertionSort _ _))).map turn
  · rw [isWalk, neighbours_map, neighbours_rotate]
    intro pair isPair
    obtain ⟨earlier, isEarlier, rfl⟩ := List.mem_map.mp isPair
    have same : modFullCircle (turn earlier.2 - turn earlier.1) =
        modFullCircle (earlier.2 - earlier.1) := by
      apply modFullCircle_eq_modFullCircle (⌊(earlier.1 + 90) / 360⌋ - ⌊(earlier.2 + 90) / 360⌋)
      simp only [turn, modFullCircle]
      push_cast
      ring
    exact (placement.apart _ (List.mem_rotate.mp isEarlier)).trans_eq same.symm

/-- Three or four bearings are assigned slots just as there is a placement of them within
the rules, of which there is one at most; their order does not matter, and turning them by
a right angle turns the assignment by one slot. -/
theorem assignSlots_placement {bearings : List ℚ}
    (isJunction : bearings.length = 3 ∨ bearings.length = 4) :
    (∀ placed, assignSlots bearings = .ok placed ↔ IsPlacement bearings placed) ∧
      (∀ placed other, IsPlacement bearings placed → IsPlacement bearings other →
        placed = other) ∧
      (∀ given, given.Perm bearings → assignSlots given = assignSlots bearings) ∧
      ∀ placed, assignSlots bearings = .ok placed →
        assignSlots (bearings.map (· + 90)) = .ok placed.turned := by
  have inRange : 3 ≤ bearings.length ∧ bearings.length ≤ 4 := by omega
  refine ⟨fun placed => assignSlots_eq_ok_iff inRange, ?_, ?_, ?_⟩
  · intro placed other isPlacement isOther
    have isOk := (assignSlots_eq_ok_iff inRange).mpr isPlacement
    rw [(assignSlots_eq_ok_iff inRange).mpr isOther] at isOk
    exact (Except.ok.inj isOk).symm
  · intro given isPerm
    have sameOrder : sortedBearings given = sortedBearings bearings :=
      List.Perm.eq_of_pairwise' (List.pairwise_insertionSort _ _)
        (List.pairwise_insertionSort _ _) ((List.perm_insertionSort _ _).trans
          ((isPerm.map _).trans (List.perm_insertionSort _ _).symm))
    unfold assignSlots candidates
    rw [sameOrder, isPerm.length_eq]
  · intro placed isOk
    have isPlacement := (assignSlots_eq_ok_iff inRange).mp isOk
    exact (assignSlots_eq_ok_iff (by simpa using inRange)).mpr isPlacement.turned

theorem assignSlots_placement_three :
    assignSlots [350, 80, 200] = assignSlots [80, 350, 200] :=
  (assignSlots_placement (.inl rfl)).2.2.1 _ (by decide +kernel)

end UrbanFlow.Scenario
