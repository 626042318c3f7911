import Mathlib.Data.List.MinMax
import UrbanFlow.Core.Enums

/-!
# The demand of a scenario

What a spawner is configured with: rates and splits, turning shares, the vehicle
population, the opt-in variability models, and the seeded streams it draws from.
-/

namespace UrbanFlow.Spawning

/-- `math.log` and `math.sqrt`, as the interpreter computes them on its floats. -/
structure Maths where
  log : ℚ → ℚ
  sqrt : ℚ → ℚ

/-- The `random()` values of a generator, from the state its seed puts it in. -/
abbrev RandomStream := Nat → ℚ

/-- A `min` and a `max`. -/
structure Range where
  low : ℚ
  high : ℚ

/-- `VehicleParams`: what the spawner reads of a vehicle class. -/
structure VehicleParams where
  typeId : String
  length : Range
  width : Range
  desiredSpeedRange : Range
  comfortDeceleration : ℚ
  minimumGap : ℚ

/-- `VehiclePopulation`: the classes of a mix with their shares. -/
structure VehiclePopulation where
  entries : List (VehicleParams × ℚ)

namespace VehiclePopulation

section

variable (population : VehiclePopulation)

def typeIds : List String := population.entries.map fun entry => entry.1.typeId

def weights : List ℚ := population.entries.map fun entry => entry.2

/-- `params_by_type.get(type_id)`; a later entry of the same class replaces an
earlier one. -/
def paramsByType (typeId : String) : Option VehicleParams :=
  (population.entries.reverse.map Prod.fst).find? fun params => params.typeId = typeId

end

theorem paramsByType_isSome {population : VehiclePopulation} {typeId : String}
    (member : typeId ∈ population.typeIds) : (population.paramsByType typeId).isSome := by
  unfold typeIds at member
  obtain ⟨entry, isEntry, rfl⟩ := List.mem_map.mp member
  unfold paramsByType
  rw [List.find?_isSome]
  exact ⟨entry.1, List.mem_map.mpr ⟨entry, List.mem_reverse.mpr isEntry, rfl⟩, by simp⟩

end VehiclePopulation

/-- The turning shares of an approach, as far as they are given. -/
structure TurnProbabilities where
  left : Option ℚ
  straight : Option ℚ
  right : Option ℚ
  uturn : Option ℚ := none

/-- `DriverHeterogeneity`: the spreads of the three driver traits. -/
structure DriverHeterogeneity where
  headwaySpread : ℚ
  accelerationSpread : ℚ
  decelerationSpread : ℚ

/-- `DemandVariability`: one factor a run, or one a block of `intervalSeconds`. -/
structure DemandVariability where
  spread : ℚ
  intervalSeconds : Option ℚ

/-- `DemandFactors.factor_at`. The blocks are drawn as they are first needed, in
order, from a stream of their own: block `index` is made from draw `index`. -/
def DemandVariability.factorAt (model : DemandVariability) (rng : RandomStream) (elapsed : ℚ) : ℚ :=
  let index := match model.intervalSeconds with
    | none => 0
    | some interval => ⌊max 0 elapsed / interval⌋₊
  1 + model.spread * (2 * rng index - 1)

/-- `DriverDraws.next_factors`, the stream having been drawn from `drawn` times. -/
def DriverHeterogeneity.factorsAt (model : DriverHeterogeneity) (rng : RandomStream)
    (drawn : Nat) : ℚ × ℚ × ℚ :=
  (1 + model.headwaySpread * (2 * rng drawn - 1),
    1 + model.accelerationSpread * (2 * rng (drawn + 1) - 1),
    1 + model.decelerationSpread * (2 * rng (drawn + 2) - 1))

/-- What a `VehicleSpawner` is built from. `rng` is the stream of its seed, which
arrival times, turns, classes and the placed vehicles are all drawn from; the two
variability models have streams of their own. -/
structure Demand where
  maths : Maths
  rng : RandomStream
  driverModel : Option DriverHeterogeneity
  driverRng : RandomStream
  demandModel : Option DemandVariability
  demandRng : RandomStream
  totalVehiclesLimit : Nat
  arrivalRate : ℚ
  arrivalDistribution : String
  directionalSplit : Option (Direction → Option ℚ)
  turnProbabilities : Option TurnProbabilities
  approachTurnProbabilities : Direction → Option TurnProbabilities
  lengthRange : Range
  widthRange : Range
  speedRange : Range
  minimumGap : ℚ
  comfortDeceleration : ℚ
  population : Option VehiclePopulation
  approachPopulations : Direction → Option VehiclePopulation
  entryQueueCapacity : Option Nat

/-- `approach_populations.get(d.value, self.population)`. -/
def Demand.populationOf (demand : Demand) (direction : Direction) : Option VehiclePopulation :=
  (demand.approachPopulations direction).or demand.population

/-- A vehicle on an entry lane. -/
structure LaneVehicle where
  position : ℚ
  length : ℚ
  speed : ℚ

structure EntryLane where
  permitted : List TurnIntent
  vehicles : List LaneVehicle

def selectLaneForTurn (laneCount : Nat) (turn : TurnIntent) : Nat := if laneCount ≤ 1 then 0
  else if laneCount = 2 then if turn = .left ∨ turn = .uturn then 0 else 1
  else if turn = .left ∨ turn = .uturn then 0
  else if turn = .right then laneCount - 1
  else laneCount / 2

/-- The lanes an arrival tries, in order: the preferred one, or the permitted one
nearest to it, then the other permitted ones. -/
def orderedLanes (lanes : List EntryLane) (turn : TurnIntent) : List Nat :=
  let wanted := selectLaneForTurn lanes.length turn
  let permitted := (List.range lanes.length).filter fun index =>
    match lanes[index]? with
    | some lane => turn ∈ lane.permitted
    | none => false
  let preferred := if wanted ∈ permitted then wanted else
      -- Of two equally near the earlier, which is the one of lower index.
      ((permitted.argmin fun index : Nat => ((index : ℤ) - wanted).natAbs).getD wanted)
  preferred :: permitted.filter fun index => index ≠ preferred

/-- The first of the lanes that has room, with the vehicle the new one would be
inserted behind. -/
def roomOn (lanes : List EntryLane) (clearance : ℚ) : List Nat → Option (Nat × Option LaneVehicle)
  | [] => none
  | index :: others =>
    match lanes[index]? with
    | none => roomOn lanes clearance others
    | some lane =>
      match lane.vehicles.argmin fun vehicle => vehicle.position with
      | none => some (index, none)
      | some preceding =>
        if clearance ≤ preceding.position - preceding.length / 2 then some (index, some preceding)
        else roomOn lanes clearance others

def Demand.safeInsertionSpeed (demand : Demand) (preceding : LaneVehicle)
    (newLength comfortDeceleration minimumGap : ℚ) : ℚ :=
  let gap := preceding.position - preceding.length / 2 - newLength
  let usable := max 0 (gap - minimumGap)
  demand.maths.sqrt (preceding.speed * preceding.speed + 2 * comfortDeceleration * usable)

end UrbanFlow.Spawning
