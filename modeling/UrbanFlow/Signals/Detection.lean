import UrbanFlow.Signals.FixedTime

/-!
# Stop-line detection

A lane's detector covers the last metres before its stop line, and a green
phase releases the lanes whose signal head it shows green. An observation
counts the vehicles in the zones: those the current phase releases, and for
every other green the calls on lanes only that green releases.
-/

namespace UrbanFlow

open CarrySchedule CyclicOrder

/-- A vehicle at this speed or faster counts as passing. -/
def movingSpeed : ℚ := 1

structure IncomingLane where
  length : ℚ
  configuredTurns : Option (List TurnIntent) := none

/-- The incoming approaches of a junction; `none` where there is no arm. -/
abbrev JunctionLanes : Type := Direction → Option (List IncomingLane)

/-- A vehicle registered on a lane. Midway through a lane change it is
registered on both lanes, and `onLane` on the one it moves into. -/
structure LaneVehicle where
  onLane : Bool
  position : ℚ
  speed : ℚ

/-- The vehicles registered on each incoming lane at one instant. -/
abbrev LaneTraffic : Type := Direction → Nat → List LaneVehicle

/-- A lane's place in the junction: its approach and its index there. -/
abbrev LaneId : Type := Direction × Nat

/-- What the detectors see at one instant, relative to the current phase. -/
structure Observation (plan : Plan) where
  served : Nat
  passing : Nat
  calls : List (plan.Idx × Nat)
  perDirection : Direction → Nat

namespace StopLineDetection

variable (plan : Plan) (lanes : JunctionLanes)

/-- The lanes of one approach that a phase's turns release. -/
def approachLanes (direction : Direction) (allowedTurns : List TurnIntent) : List LaneId :=
  match lanes direction with
  | none => []
  | some approach =>
    ((List.range approach.length).filter fun idx =>
      ((laneTurns (approach[idx]?.bind IncomingLane.configuredTurns) idx
        approach.length).any fun turn => turn ∈ allowedTurns)).map
      fun idx => (direction, idx)

/-- `_released_lanes` of one phase; nothing for a phase that is not green. -/
def released (idx : plan.Idx) : List LaneId := if plan.isGreen idx then
    (plan.directions idx).flatMap fun direction =>
      approachLanes lanes direction (plan.phase idx).allowedTurns
  else []

/-- The green phases, in plan order. -/
def greens : List plan.Idx := (List.finRange plan.phases.length).filter plan.isGreen

variable (distance : ℚ) (traffic : LaneTraffic)

/-- `zone_count`: vehicles within `distance` of the stop line, and how many of
them are moving. -/
def zoneCount (lane : LaneId) : Nat × Nat :=
  let length := ((lanes lane.1).bind (·[lane.2]?)).elim 0 IncomingLane.length
  let present := (traffic lane.1 lane.2).filter fun vehicle =>
    vehicle.onLane && decide (length - distance ≤ vehicle.position)
  (present.length, (present.filter fun vehicle => decide (movingSpeed ≤ vehicle.speed)).length)

/-- Vehicles on lanes that phase `idx` releases and the current one does not. -/
def calls (current idx : plan.Idx) : Nat := (((released plan lanes idx).filter fun lane =>
    lane ∉ released plan lanes current).map fun lane =>
      (zoneCount lanes distance traffic lane).1).sum

def observe (current : plan.Idx) : Observation plan where
  served := ((released plan lanes current).map fun lane =>
    (zoneCount lanes distance traffic lane).1).sum
  passing := ((released plan lanes current).map fun lane =>
    (zoneCount lanes distance traffic lane).2).sum
  calls := ((greens plan).filter (· ≠ current)).map fun idx =>
    (idx, calls plan lanes distance traffic current idx)
  perDirection := fun direction =>
    ((((greens plan).flatMap (released plan lanes)).dedup.filter
      fun lane => lane.1 = direction).map fun lane => (zoneCount lanes distance traffic lane).1).sum

variable {plan lanes distance traffic}

@[simp] theorem mem_greens (idx : plan.Idx) : idx ∈ greens plan ↔ plan.isGreen idx = true := by
  simp [greens]

theorem mem_calls {current idx : plan.Idx} {count : Nat} :
    (idx, count) ∈ (observe plan lanes distance traffic current).calls ↔
      plan.isGreen idx = true ∧ idx ≠ current ∧
        count = calls plan lanes distance traffic current idx := by
  simp only [observe, List.mem_map, List.mem_filter, mem_greens, decide_eq_true_eq, Prod.mk.injEq]
  constructor
  · rintro ⟨found, ⟨isGreen, other⟩, rfl, rfl⟩
    exact ⟨isGreen, other, rfl⟩
  · rintro ⟨isGreen, other, rfl⟩
    exact ⟨idx, ⟨isGreen, other⟩, rfl, rfl⟩

theorem calls_eq_zero {current idx : plan.Idx} (isGreen : plan.isGreen current = true)
    (stillGreen : plan.isGreen idx = true)
    (directions : plan.directions idx = plan.directions current)
    (turns : (plan.phase idx).allowedTurns = (plan.phase current).allowedTurns) :
    calls plan lanes distance traffic current idx = 0 := by
  have same : released plan lanes idx = released plan lanes current := by
    unfold released
    rw [isGreen, stillGreen, directions, turns]
  unfold calls
  rw [same, List.filter_eq_nil_iff.mpr]
  · rfl
  · intro lane released
    simpa using released

end StopLineDetection
end UrbanFlow
