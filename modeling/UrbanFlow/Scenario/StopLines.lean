import Mathlib.Analysis.SpecialFunctions.Trigonometric.Basic
import UrbanFlow.Library.Folds
import UrbanFlow.Scenario.LocalIssues

/-!
# Stop lines

How far from the centre of a signal its stop lines are (`signal_stop_distances`), and why
a vehicle that is held there stands on no other arm's carriageway.
-/

namespace UrbanFlow.Scenario

open JunctionContext
open Builder (opposite)

theorem atLeastTwo_oneEighty : Nat.AtLeastTwo 180 := ⟨by decide⟩

attribute [local instance] atLeastTwo_oneEighty in
/-- `math.radians`. -/
noncomputable def radians (degrees : ℚ) : ℝ := degrees * (Real.pi / 180)

def bearingDifference (a b : ℚ) : ℚ :=
  let difference := modFullCircle |modFullCircle a - modFullCircle b|
  min difference (360 - difference)

namespace ArmGeometry

variable (arm : ArmGeometry)

def onSlot : Prop := modFullCircle arm.bearing = slotBearing arm.direction

instance : Decidable arm.onSlot := by unfold onSlot; infer_instance

def halfWidth : ℚ := arm.lanes * arm.laneWidth

noncomputable def unit : ℝ × ℝ :=
  if arm.onSlot then
    match arm.direction with
    | .north => (0, 1)
    | .east => (1, 0)
    | .south => (0, -1)
    | .west => (-1, 0)
  else (Real.sin (radians arm.bearing), Real.cos (radians arm.bearing))

/-- The place `along` metres out on the axis and `lateral` metres to the outgoing side. -/
noncomputable def point (along lateral : ℝ) : ℝ × ℝ :=
  if arm.onSlot then
    match arm.direction with
    | .north => (lateral, along)
    | .south => (-lateral, -along)
    | .east => (along, -lateral)
    | .west => (-along, lateral)
  else
    let (ux, uy) := arm.unit
    let (nx, ny) := (uy, -ux)
    (along * ux + lateral * nx, along * uy + lateral * ny)

/-- The strip of the half width from the centre outwards, without its edges. -/
def carriageway : Set (ℝ × ℝ) :=
  {place | ∃ along lateral : ℝ, 0 ≤ along ∧ |lateral| < arm.halfWidth ∧ arm.point along lateral = place}

/-- The strip with its edges. -/
def pavement : Set (ℝ × ℝ) :=
  {place | ∃ along lateral : ℝ, 0 ≤ along ∧ |lateral| ≤ arm.halfWidth ∧ arm.point along lateral = place}

end ArmGeometry

/-- `_crossing_clearance`. -/
noncomputable def crossingClearance (a b : ArmGeometry) : ℝ :=
  let theta := radians (bearingDifference a.bearing b.bearing)
  (b.halfWidth + a.halfWidth * |Real.cos theta|) / |Real.sin theta|

/-- The arms of a junction, each in a slot of its own. -/
structure JunctionGeometry where
  arms : List ArmGeometry
  distinct : (arms.map ArmGeometry.direction).Nodup

namespace JunctionGeometry

variable (geometry : JunctionGeometry)

def skewed : Prop := ∃ arm ∈ geometry.arms, ¬ arm.onSlot

instance : Decidable geometry.skewed := by unfold skewed; infer_instance

/-- The largest half width. -/
def widest : ℚ := (geometry.arms.map ArmGeometry.halfWidth).max?.getD 0

/-- The roads that cross an arm: neither itself nor the road that continues it. -/
def crossing (arm : ArmGeometry) : List ArmGeometry :=
  geometry.arms.filter fun other =>
    ¬ (other.direction = arm.direction ∨ other.direction = opposite arm.direction)

/-- What an arm has to be clear of, from the centre. -/
noncomputable def need (arm : ArmGeometry) : ℝ :=
  if geometry.skewed then
    ((geometry.crossing arm).map (crossingClearance arm)).foldl max (geometry.widest : ℝ)
  else geometry.widest

noncomputable def signalStopDistances (setback : ℚ) : List (Direction × ℝ) :=
  geometry.arms.map fun arm => (arm.direction, geometry.need arm + setback)

end JunctionGeometry

/-! ## Angles -/

theorem radians_sub (a b : ℚ) : radians (a - b) = radians a - radians b := by
  unfold radians
  push_cast
  ring

/-- Whole turns change nothing. -/
theorem radians_add_turns (degrees : ℚ) (turns : ℤ) :
    radians (degrees + 360 * turns) = radians degrees + turns * (2 * Real.pi) := by
  unfold radians
  push_cast
  ring

theorem cos_radians_add_turns (degrees : ℚ) (turns : ℤ) :
    Real.cos (radians (degrees + 360 * turns)) = Real.cos (radians degrees) := by
  rw [radians_add_turns, Real.cos_add_int_mul_two_pi]

theorem cos_radians_modFullCircle (degrees : ℚ) :
    Real.cos (radians (modFullCircle degrees)) = Real.cos (radians degrees) := by
  rw [← cos_radians_add_turns degrees (-⌊degrees / 360⌋)]
  unfold modFullCircle
  push_cast
  ring_nf

/-- The angle that `bearing_difference` finds has the cosine of the difference. -/
theorem cos_bearingDifference (a b : ℚ) :
    Real.cos (radians (bearingDifference a b)) = Real.cos (radians a - radians b) := by
  have apart : Real.cos (radians (modFullCircle |modFullCircle a - modFullCircle b|)) =
      Real.cos (radians a - radians b) := by
    have isAbs : radians |modFullCircle a - modFullCircle b| =
        |radians (modFullCircle a - modFullCircle b)| := by
      unfold radians
      rw [abs_mul, abs_of_pos (a := Real.pi / 180) (by positivity), Rat.cast_abs]
    rw [cos_radians_modFullCircle, isAbs, Real.cos_abs, ← radians_sub,
      ← cos_radians_add_turns (a - b) (⌊b / 360⌋ - ⌊a / 360⌋)]
    unfold modFullCircle
    push_cast
    ring_nf
  unfold bearingDifference
  generalize modFullCircle |modFullCircle a - modFullCircle b| = rest at apart ⊢
  rcases min_choice rest (360 - rest) with least | least
  · rw [least, apart]
  · rw [least, ← apart, show 360 - rest = -rest + 360 * (1 : ℤ) by push_cast; ring,
      cos_radians_add_turns]
    unfold radians
    rw [Rat.cast_neg, neg_mul, Real.cos_neg]

theorem radians_slotBearing (direction : Direction) :
    radians (slotBearing direction) = match direction with
      | .north => 0
      | .east => Real.pi / 2
      | .south => Real.pi
      | .west => Real.pi / 2 + Real.pi := by
  cases direction <;> simp only [radians, slotBearing] <;> push_cast <;> ring

/-- Where a slot continues another, or crosses it. -/
theorem slots_opposite {one other : Direction} (isOpposite : other = opposite one) :
    Real.sin (radians (slotBearing one) - radians (slotBearing other)) = 0 ∧
      Real.cos (radians (slotBearing one) - radians (slotBearing other)) = -1 := by
  subst isOpposite
  rw [Real.sin_sub, Real.cos_sub]
  cases one <;>
    simp [opposite, radians_slotBearing, Real.sin_add, Real.cos_add]

theorem slots_crossing {one other : Direction} (differs : other ≠ one)
    (crosses : other ≠ opposite one) :
    |Real.sin (radians (slotBearing one) - radians (slotBearing other))| = 1 ∧
      Real.cos (radians (slotBearing one) - radians (slotBearing other)) = 0 := by
  rw [Real.sin_sub, Real.cos_sub]
  cases one <;> cases other <;>
    simp_all [opposite, radians_slotBearing, Real.sin_add, Real.cos_add]

namespace ArmGeometry

variable {arm other : ArmGeometry}

def deviation (arm : ArmGeometry) : ℚ := slotDeviation arm.direction arm.bearing

theorem deviation_of_onSlot (isOn : arm.onSlot) : arm.deviation = 0 := by
  unfold deviation slotDeviation
  rw [show modFullCircle arm.bearing = slotBearing arm.direction from isOn, sub_self]
  simp [modFullCircle]

/-- How far an arm is turned from another: as their slots are, and by what they deviate. -/
theorem exists_turned (arm other : ArmGeometry) : ∃ turns : ℤ,
    radians arm.bearing - radians other.bearing =
      radians (slotBearing arm.direction) - radians (slotBearing other.direction) +
        radians (arm.deviation - other.deviation) + turns * (2 * Real.pi) := by
  obtain ⟨own, isOwn⟩ := exists_turns arm.direction arm.bearing
  obtain ⟨its, isIts⟩ := exists_turns other.direction other.bearing
  refine ⟨own - its, ?_⟩
  have isOwn' := congrArg (Rat.cast : ℚ → ℝ) isOwn
  have isIts' := congrArg (Rat.cast : ℚ → ℝ) isIts
  unfold radians deviation
  push_cast at isOwn' isIts' ⊢
  linear_combination (Real.pi / 180) * (isOwn' - isIts')

/-- On its slot or not, a place is measured along the bearing. -/
theorem point_eq (arm : ArmGeometry) (along lateral : ℝ) : arm.point along lateral =
    (along * Real.sin (radians arm.bearing) + lateral * Real.cos (radians arm.bearing),
      along * Real.cos (radians arm.bearing) - lateral * Real.sin (radians arm.bearing)) := by
  unfold point
  split_ifs with isOn
  · have turned : radians arm.bearing =
        radians (slotBearing arm.direction) + ⌊arm.bearing / 360⌋ * (2 * Real.pi) := by
      rw [← radians_add_turns, ← show modFullCircle arm.bearing = _ from isOn, modFullCircle,
        sub_add_cancel]
    rw [turned, Real.sin_add_int_mul_two_pi, Real.cos_add_int_mul_two_pi, radians_slotBearing]
    cases arm.direction <;> simp [Real.sin_add, Real.cos_add]
  · simp only [unit, if_neg isOn]
    ring_nf

/-- Where a place of one arm is along and beside another. -/
theorem coordinates {along lateral outward across : ℝ}
    (same : other.point outward across = arm.point along lateral) :
    outward = along * Real.cos (radians arm.bearing - radians other.bearing) -
        lateral * Real.sin (radians arm.bearing - radians other.bearing) ∧
      across = along * Real.sin (radians arm.bearing - radians other.bearing) +
        lateral * Real.cos (radians arm.bearing - radians other.bearing) := by
  rw [point_eq, point_eq, Prod.mk.injEq] at same
  obtain ⟨isX, isY⟩ := same
  have unit := Real.sin_sq_add_cos_sq (radians other.bearing)
  rw [Real.sin_sub, Real.cos_sub]
  constructor
  · linear_combination Real.sin (radians other.bearing) * isX +
      Real.cos (radians other.bearing) * isY - outward * unit
  · linear_combination Real.cos (radians other.bearing) * isX -
      Real.sin (radians other.bearing) * isY - across * unit

end ArmGeometry

/-! ## Clearances -/

/-- The road that continues an arm leaves what is far enough out alone. -/
theorem clear_of_continuing {along lateral sine cosine : ℝ} (unit : sine ^ 2 + cosine ^ 2 = 1)
    (away : cosine ≤ 0) (isOut : 0 ≤ along) (ahead : 0 ≤ along * cosine - lateral * sine) :
    along ≤ |along * sine + lateral * cosine| := by
  have turned : (along * cosine - lateral * sine) ^ 2 + (along * sine + lateral * cosine) ^ 2 =
      along ^ 2 + lateral ^ 2 := by
    linear_combination (along ^ 2 + lateral ^ 2) * unit
  have behind : along * cosine ≤ 0 := mul_nonpos_of_nonneg_of_nonpos isOut away
  have isSine : |sine| ≤ 1 := abs_le_one_iff_mul_self_le_one.mpr (by nlinarith [sq_nonneg cosine])
  have beside : |along * cosine - lateral * sine| ≤ |lateral| := by
    rw [abs_of_nonneg ahead]
    calc along * cosine - lateral * sine ≤ -(lateral * sine) := by linarith
      _ ≤ |lateral| * |sine| := (neg_le_abs _).trans_eq (abs_mul _ _)
      _ ≤ |lateral| := mul_le_of_le_one_right (abs_nonneg _) isSine
  have := sq_le_sq.mpr beside
  exact (le_abs_self along).trans (sq_le_sq.mp (by linarith))

theorem clear_of_crossing {along lateral sine cosine reach halfWidth setback need : ℝ}
    (clears : reach + halfWidth * |cosine| ≤ need * |sine|) (beyond : need + setback ≤ along)
    (isOut : 0 ≤ along) (within : |lateral| ≤ halfWidth) :
    reach + setback * |sine| ≤ |along * sine + lateral * cosine| := by
  have apart : |along * sine| ≤ |along * sine + lateral * cosine| + |lateral * cosine| := by
    have := abs_sub (along * sine + lateral * cosine) (lateral * cosine)
    rwa [add_sub_cancel_right] at this
  rw [abs_mul, abs_mul, abs_of_nonneg isOut] at apart
  have := mul_le_mul_of_nonneg_right beyond (abs_nonneg sine)
  have := mul_le_mul_of_nonneg_right within (abs_nonneg cosine)
  linarith

/-- Two arms deviate by less than a right angle from how their slots are. -/
theorem cos_deviations_pos {a b : ℚ} (isNear : |a| ≤ maxSlotDeviation + angleSlack)
    (otherNear : |b| ≤ maxSlotDeviation + angleSlack) : 0 < Real.cos (radians (a - b)) := by
  obtain ⟨_, _⟩ := abs_le.mp isNear
  obtain ⟨_, _⟩ := abs_le.mp otherNear
  unfold maxSlotDeviation angleSlack at *
  have below : ((a - b : ℚ) : ℝ) < 90 := by
    have : a - b < 90 := by linarith
    exact_mod_cast this
  have above : -90 < ((a - b : ℚ) : ℝ) := by
    have : -90 < a - b := by linarith
    exact_mod_cast this
  apply Real.cos_pos_of_mem_Ioo
  unfold radians
  constructor <;> nlinarith [Real.pi_pos]

namespace JunctionGeometry

variable {geometry : JunctionGeometry} {arm other : ArmGeometry}

theorem need_of_skewed (isSkewed : geometry.skewed) : geometry.need arm =
    ((geometry.widest : ℝ) :: (geometry.crossing arm).map (crossingClearance arm)).max?.getD 0 :=
  if_pos isSkewed

theorem widest_le_need : (geometry.widest : ℝ) ≤ geometry.need arm := by
  by_cases isSkewed : geometry.skewed
  · rw [need_of_skewed isSkewed]
    exact Folds.le_max_of_mem List.mem_cons_self
  · exact (if_neg isSkewed).ge

theorem halfWidth_le_need (isOther : other ∈ geometry.arms) :
    (other.halfWidth : ℝ) ≤ geometry.need arm := by
  have fits : other.halfWidth ≤ geometry.widest :=
    Folds.le_max_of_mem (List.mem_map_of_mem isOther)
  exact le_trans (by exact_mod_cast fits) widest_le_need

theorem crossingClearance_le_need (isSkewed : geometry.skewed)
    (crosses : other ∈ geometry.crossing arm) :
    crossingClearance arm other ≤ geometry.need arm := by
  rw [need_of_skewed isSkewed]
  exact Folds.le_max_of_mem (List.mem_cons_of_mem _ (List.mem_map_of_mem crosses))

/-- An arm is clear of what crosses it as far out as it needs to be. -/
theorem need_clears {sine cosine : ℝ} (inArms : arm ∈ geometry.arms)
    (crosses : other ∈ geometry.crossing arm)
    (isSine : Real.sin (radians arm.bearing - radians other.bearing) = sine)
    (isCosine : Real.cos (radians arm.bearing - radians other.bearing) = cosine)
    (turns : 0 < |sine|) (square : arm.onSlot → other.onSlot → |sine| = 1 ∧ cosine = 0) :
    other.halfWidth + arm.halfWidth * |cosine| ≤ geometry.need arm * |sine| := by
  have isOther : other ∈ geometry.arms := List.mem_of_mem_filter crosses
  by_cases isSkewed : geometry.skewed
  · have clears := crossingClearance_le_need isSkewed crosses
    dsimp only [crossingClearance] at clears
    rw [Real.abs_sin_eq_sqrt_one_sub_cos_sq, cos_bearingDifference,
      ← Real.abs_sin_eq_sqrt_one_sub_cos_sq, isSine, isCosine, div_le_iff₀ turns] at clears
    exact clears
  · have isSquare : ∀ road ∈ geometry.arms, road.onSlot := by
      intro road isRoad
      by_contra isOff
      exact isSkewed ⟨road, isRoad, isOff⟩
    obtain ⟨isOne, isZero⟩ := square (isSquare arm inArms) (isSquare other isOther)
    rw [isOne, isZero, abs_zero, mul_zero, add_zero, mul_one]
    exact halfWidth_le_need isOther

end JunctionGeometry

open JunctionGeometry in
/-- How far beside another arm a place is that is past the stop line of its own. -/
theorem beside_of_past {context : JunctionContext} {config : Fields}
    {geometry : JunctionGeometry} (accepted : context.geometryErrors config geometry.arms false = [])
    {arm other : ArmGeometry} (inArms : arm ∈ geometry.arms) (isOther : other ∈ geometry.arms)
    (differs : other ≠ arm) {setback along lateral outward across : ℝ} (isSetback : 0 ≤ setback)
    (beyond : geometry.need arm + setback ≤ along) (within : |lateral| ≤ arm.halfWidth)
    (isOut : 0 ≤ outward) (same : other.point outward across = arm.point along lateral) :
    ∃ share : ℝ, 0 < share ∧ other.halfWidth + setback * share ≤ |across| := by
  have wide : (other.halfWidth : ℝ) ≤ geometry.need arm := halfWidth_le_need isOther
  have own : (arm.halfWidth : ℝ) ≤ geometry.need arm := halfWidth_le_need inArms
  have isAlong : 0 ≤ along := by linarith [abs_nonneg lateral]
  obtain ⟨isOutward, isAcross⟩ := ArmGeometry.coordinates same
  obtain ⟨turns, turned⟩ := ArmGeometry.exists_turned arm other
  have isNear : 0 < Real.cos (radians (arm.deviation - other.deviation)) :=
    cos_deviations_pos (deviation_le accepted inArms) (deviation_le accepted isOther)
  have unit := Real.sin_sq_add_cos_sq (radians arm.bearing - radians other.bearing)
  have isSine := congrArg Real.sin turned
  have isCosine := congrArg Real.cos turned
  rw [Real.sin_add_int_mul_two_pi, Real.sin_add] at isSine
  rw [Real.cos_add_int_mul_two_pi, Real.cos_add] at isCosine
  have isElsewhere : other.direction ≠ arm.direction := by
    intro sameSlot
    exact differs (List.inj_on_of_nodup_map geometry.distinct isOther inArms sameSlot)
  by_cases continues : other.direction = Builder.opposite arm.direction
  · obtain ⟨noSine, back⟩ := slots_opposite continues
    rw [noSine, back] at isCosine
    have away : Real.cos (radians arm.bearing - radians other.bearing) ≤ 0 := by
      rw [isCosine]
      linarith
    have clear := clear_of_continuing unit away isAlong (isOutward ▸ isOut)
    rw [← isAcross] at clear
    exact ⟨1, one_pos, by linarith⟩
  · obtain ⟨isOne, noCosine⟩ := slots_crossing isElsewhere continues
    rw [noCosine, zero_mul, add_zero] at isSine
    rw [noCosine, zero_mul, zero_sub] at isCosine
    have size : |Real.sin (radians arm.bearing - radians other.bearing)| =
        Real.cos (radians (arm.deviation - other.deviation)) := by
      rw [isSine, abs_mul, isOne, one_mul, abs_of_pos isNear]
    have crosses : other ∈ geometry.crossing arm :=
      List.mem_filter.mpr ⟨isOther, by simp [isElsewhere, continues]⟩
    have clears := need_clears inArms crosses rfl rfl (size ▸ isNear) fun isOn itsOn => by
      rw [size, isCosine, arm.deviation_of_onSlot isOn, other.deviation_of_onSlot itsOn]
      simp [radians]
    have clear := clear_of_crossing clears beyond isAlong within
    rw [← isAcross, size] at clear
    exact ⟨_, isNear, clear⟩

/-- At a signal whose geometry is accepted, what is past the stop line of an arm is on no
other arm's carriageway, and not on its edge where there is a setback. -/
theorem signalStopDistances_clear (context : JunctionContext) (config : Fields)
    (geometry : JunctionGeometry)
    (accepted : context.geometryErrors config geometry.arms false = [])
    {setback : ℚ} (isSetback : 0 ≤ setback) {arm other : ArmGeometry}
    (inArms : arm ∈ geometry.arms) (isOther : other ∈ geometry.arms) (differs : other ≠ arm)
    {stop along lateral : ℝ} (stops : (arm.direction, stop) ∈ geometry.signalStopDistances setback)
    (beyond : stop ≤ along) (within : |lateral| ≤ arm.halfWidth) :
    arm.point along lateral ∉ other.carriageway ∧
      (0 < setback → arm.point along lateral ∉ other.pavement) := by
  obtain ⟨found, isFound, isEntry⟩ := List.mem_map.mp stops
  obtain ⟨sameSlot, rfl⟩ := Prod.mk.inj isEntry
  obtain rfl := List.inj_on_of_nodup_map geometry.distinct isFound inArms sameSlot
  have nonnegative : (0 : ℝ) ≤ setback := by exact_mod_cast isSetback
  constructor
  · rintro ⟨outward, across, isOut, onRoad, same⟩
    obtain ⟨share, isShare, beside⟩ := beside_of_past accepted inArms isOther differs nonnegative
      beyond within isOut same
    exact absurd onRoad (not_lt.mpr (le_trans (by nlinarith) beside))
  · rintro isPositive ⟨outward, across, isOut, onRoad, same⟩
    obtain ⟨share, isShare, beside⟩ := beside_of_past accepted inArms isOther differs nonnegative
      beyond within isOut same
    have some : (0 : ℝ) < setback := by exact_mod_cast isPositive
    exact absurd onRoad (not_le.mpr (lt_of_lt_of_le (by nlinarith) beside))

def skewedArm : ArmGeometry := ⟨.north, 10, 2, 7 / 2, 200⟩

def crossingArm : ArmGeometry := ⟨.east, 90, 1, 7 / 2, 200⟩

def skewedJunction : JunctionGeometry where
  arms := [skewedArm, crossingArm, ⟨.west, 270, 1, 7 / 2, 200⟩]
  distinct := by decide

theorem signalStopDistances_clear_skewed :
    skewedArm.point (skewedJunction.need skewedArm + (1 : ℚ)) 3 ∉ crossingArm.carriageway := by
  let context : JunctionContext :=
    ⟨fun _ => none, fun _ => none, fun _ _ _ => [], fun _ _ _ => [], fun _ _ => [],
      fun _ _ _ => [], fun _ => [], fun _ => []⟩
  have isFirst : skewedArm ∈ skewedJunction.arms := List.mem_cons_self
  refine (signalStopDistances_clear context [] skewedJunction (by decide +kernel)
    (by norm_num) isFirst (.tail _ (.head _)) (by decide +kernel)
    (List.mem_map_of_mem isFirst) le_rfl ?_).1
  norm_num [ArmGeometry.halfWidth, skewedArm]

end UrbanFlow.Scenario
