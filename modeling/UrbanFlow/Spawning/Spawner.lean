import UrbanFlow.Library.Effect
import UrbanFlow.Spawning.Demand

/-!
# The vehicle spawner

`VehicleSpawner` under the queue entry model: arrivals fall due on each approach
and wait in its entry queue, whose head is placed on an entry lane when one has
room. Everything but the variability models is drawn from one stream.
-/

namespace UrbanFlow.Spawning

structure QueuedArrival where
  arrivalTime : ℚ
  turn : TurnIntent
  typeId : Option String
  deriving DecidableEq, Repr

/-- What decides the coming arrivals, apart from the draws: the clocks and the
arrivals so far. `generated` is the history of the arrivals that joined a queue;
a timer of `none` is one at infinity. -/
structure Source where
  elapsedTime : ℚ := 0
  timers : Direction → Option ℚ := fun _ => none
  arrivals : Direction → Nat := fun _ => 0
  generated : Direction → List QueuedArrival := fun _ => []
  directionalSplit : Direction → Option ℚ := fun _ => none
  turnProbabilities : TurnProbabilities := ⟨none, none, none, none⟩

/-- `VehicleSpawner`. `drawn` and `driverDrawn` count the draws taken from its
stream and from that of the driver traits. -/
structure Spawner extends Source where
  drawn : Nat := 0
  driverDrawn : Nat := 0
  spawnedCount : Nat := 0
  backlog : Direction → List QueuedArrival := fun _ => []
  pendingTurn : Direction → Option TurnIntent := fun _ => none
  pendingType : Direction → Option String := fun _ => none
  admitted : Direction → Nat := fun _ => 0
  rejected : Direction → Nat := fun _ => 0
  blockedSeconds : Direction → ℚ := fun _ => 0
  generationTime : ℚ := 0
  entryWaitSum : ℚ := 0
  entryWaitMax : ℚ := 0

/-- A `Vehicle` as the spawner makes it. -/
structure PlacedVehicle where
  vehicleId : String
  length : ℚ
  width : ℚ
  desiredSpeed : ℚ
  laneIndex : Nat
  turnIntent : TurnIntent
  startPosition : ℚ
  initialSpeed : ℚ
  spawnTime : ℚ
  typeId : Option String
  driverFactors : Option (ℚ × ℚ × ℚ)
  entryWait : ℚ := 0

def Source.totalArrivals (source : Source) : Nat := (Direction.all.map source.arrivals).sum

namespace Demand

variable (demand : Demand)

/-- `self.rng.random()`. -/
def random : Effect Spawner ℚ := do
  let spawner ← Effect.read
  Effect.modify fun spawner => { spawner with drawn := spawner.drawn + 1 }
  pure (demand.rng spawner.drawn)

/-- `self.rng.uniform(low, high)`. -/
def uniform (range : Range) : Effect Spawner ℚ := do
  let draw ← demand.random
  pure (range.low + (range.high - range.low) * draw)

/-- `bisect.bisect`: where `value` goes among `sums`, to the right of its equals,
between `low` and `high`. The fuel is the width that is searched. -/
def bisect (sums : List ℚ) (value : ℚ) : Nat → Nat → Nat → Nat
  | 0, low, _ => low
  | fuel + 1, low, high =>
    if low < high then
      let middle := (low + high) / 2
      if value < sums.getD middle 0 then bisect sums value fuel low middle
      else bisect sums value fuel (middle + 1) high
    else low

def accumulate (weights : List ℚ) : List ℚ := (weights.scanl (· + ·) 0).tail

/-- `self.rng.choices(population, weights)[0]`. -/
def choices {Value : Type} (population : List Value) (weights : List ℚ) : Effect Spawner Value :=
  let sums := accumulate weights
  match sums.getLast? with
  | none => Effect.raise "list index out of range"
  | some total =>
    if total ≤ 0 then Effect.raise "Total of weights must be greater than zero"
    else do
      let draw ← demand.random
      let high := population.length - 1
      match population[bisect sums (draw * total) high 0 high]? with
      | none => Effect.raise "list index out of range"
      | some value => pure value

def drawTurn (direction : Direction) : Effect Spawner TurnIntent := do
  let spawner ← Effect.read
  let probabilities := (demand.approachTurnProbabilities direction).getD spawner.turnProbabilities
  let uturn := probabilities.uturn.getD 0
  let weights := [probabilities.left.getD (1 / 5), probabilities.straight.getD (3 / 5),
      probabilities.right.getD (1 / 5)]
  if 0 < uturn then demand.choices [.left, .straight, .right, .uturn] (weights ++ [uturn])
  else demand.choices [.left, .straight, .right] weights

/-- `_draw_type`, where the approach has a population. -/
def drawType (direction : Direction) : Effect Spawner (Option String) :=
  match demand.populationOf direction with
  | none => pure none
  | some population => do
    let typeId ← demand.choices population.typeIds population.weights
    pure (some typeId)

section

variable (direction : Direction)

/-- `_generate_next_arrival_time`, `none` for infinity. -/
def generateNextArrivalTime : Effect Spawner (Option ℚ) := do
  let spawner ← Effect.read
  let split := (spawner.directionalSplit direction).getD (1 / 4)
  let factor := match demand.demandModel with
    | none => 1
    | some model => model.factorAt demand.demandRng spawner.elapsedTime
  let directionRate := demand.arrivalRate * split * factor
  if directionRate ≤ 0 then pure none
  else if demand.arrivalDistribution = "poisson" then do
    let draw ← demand.random
    let draw := max (1 / 1000000000) draw
    pure (some (-demand.maths.log draw / directionRate))
  else if demand.arrivalDistribution = "uniform" then pure (some (1 / directionRate))
  else if demand.arrivalDistribution = "burst" then
    Effect.raise "arrivalDistribution='burst' is not implemented in VehicleSpawner"
  else Effect.raise s!"Unsupported arrivalDistribution: '{demand.arrivalDistribution}'"

/-- `self.timers[d] = timer`. -/
def setTimer (timer : Option ℚ) (spawner : Spawner) : Spawner :=
  { spawner with timers := Function.update spawner.timers direction timer }

/-- `self.timers[d] += gap`, which is infinite when either is. -/
def addToTimer (gap : Option ℚ) (spawner : Spawner) : Spawner :=
  setTimer direction (match spawner.timers direction, gap with
      | some timer, some gap => some (timer + gap)
      | _, _ => none)
    spawner

/-- `self._arrivals[d] += 1`. -/
def countArrival (spawner : Spawner) : Spawner :=
  { spawner with
    arrivals :=
      Function.update spawner.arrivals direction (spawner.arrivals direction + 1) }

/-- `self._rejected[d] += 1`. -/
def countRejected (spawner : Spawner) : Spawner :=
  { spawner with
    rejected :=
      Function.update spawner.rejected direction (spawner.rejected direction + 1) }

/-- `backlog.append(arrival)`. -/
def joinBacklog (arrival : QueuedArrival) (spawner : Spawner) : Spawner :=
  { spawner with
    backlog := Function.update spawner.backlog direction (spawner.backlog direction ++ [arrival])
    generated := Function.update spawner.generated direction
      (spawner.generated direction ++ [arrival]) }

/-- An arrival that fell due at `due`: turned away by a full queue, or given a
turn and a class and sent to the queue's back. -/
def takeArrival (due : ℚ) : Effect Spawner Unit := do
  let spawner ← Effect.read
  let isFull := match demand.entryQueueCapacity with
    | none => false
    | some capacity => decide (capacity ≤ (spawner.backlog direction).length)
  if isFull then Effect.modify (countRejected direction)
  else do
    let turn ← demand.drawTurn direction
    let typeId ← demand.drawType direction
    Effect.modify (joinBacklog direction ⟨due, turn, typeId⟩)

end

/-- The arrivals that fall due within a tick, at most `room` of them: the `while`
loop of `_step_queued`, whose condition has failed once `room` arrivals have been
generated. -/
def generateDue (direction : Direction) : Nat → Effect Spawner Unit
  | 0 => pure ()
  | room + 1 => do
    let spawner ← Effect.read
    match spawner.timers direction with
    | none => pure ()
    | some timer =>
      if timer ≤ 0 ∧ spawner.totalArrivals < demand.totalVehiclesLimit then do
        Effect.modify (countArrival direction)
        demand.takeArrival direction (spawner.elapsedTime + timer)
        let gap ← demand.generateNextArrivalTime direction
        Effect.modify (addToTimer direction gap)
        generateDue direction room
      else pure ()

section

variable (direction : Direction)

/-- The pending turn of an approach, drawn where there is none yet. -/
def resolveTurn : Effect Spawner TurnIntent := do
  let spawner ← Effect.read
  match spawner.pendingTurn direction with
  | some turn => pure turn
  | none => do
    let turn ← demand.drawTurn direction
    Effect.modify fun spawner =>
      { spawner with
        pendingTurn :=
          Function.update spawner.pendingTurn direction (some turn) }
    pure turn

/-- The pending class of an approach, drawn where there is none yet. -/
def resolveType (population : VehiclePopulation) : Effect Spawner String := do
  let spawner ← Effect.read
  match spawner.pendingType direction with
  | some typeId => pure typeId
  | none => do
    let typeId ← demand.choices population.typeIds population.weights
    Effect.modify fun spawner =>
      { spawner with
        pendingType :=
          Function.update spawner.pendingType direction (some typeId) }
    pure typeId

/-- The parameters of the pending class; none for an approach without a
population. -/
def resolveParams : Effect Spawner (Option VehicleParams) :=
  match demand.populationOf direction with
  | none => pure none
  | some population => do
    let typeId ← demand.resolveType direction population
    match population.paramsByType typeId with
    | none => Effect.raise typeId
    | some params => pure (some params)

/-- The pending arrival of an approach is no longer pending. -/
def forgetPending (spawner : Spawner) : Spawner :=
  { spawner with
    pendingTurn := Function.update spawner.pendingTurn direction none
    pendingType := Function.update spawner.pendingType direction none }

/-- `self._driver_draws.next_factors()`, where driver traits vary. -/
def nextDriverFactors : Effect Spawner (Option (ℚ × ℚ × ℚ)) := match demand.driverModel with
  | none => pure none
  | some model => do
    let spawner ← Effect.read
    Effect.modify fun spawner => { spawner with driverDrawn := spawner.driverDrawn + 3 }
    pure (some (model.factorsAt demand.driverRng spawner.driverDrawn))

/-- The vehicle that is inserted on lane `index`, behind `preceding`. -/
def makeVehicle (turn : TurnIntent) (params : Option VehicleParams) (index : Nat)
    (preceding : Option LaneVehicle) (minimumGap : ℚ) : Effect Spawner PlacedVehicle := do
  let length ← demand.uniform (params.elim demand.lengthRange VehicleParams.length)
  let width ← demand.uniform (params.elim demand.widthRange VehicleParams.width)
  let desiredSpeed ← demand.uniform (params.elim demand.speedRange VehicleParams.desiredSpeedRange)
  let insertionDecel := params.elim demand.comfortDeceleration VehicleParams.comfortDeceleration
  let initialSpeed := match preceding with
    | none => desiredSpeed
    | some preceding =>
      min desiredSpeed (demand.safeInsertionSpeed preceding length insertionDecel minimumGap)
  let spawner ← Effect.read
  let driverFactors ← demand.nextDriverFactors
  pure
    { vehicleId := s!"veh_{spawner.spawnedCount}"
      length := length
      width := width
      desiredSpeed := desiredSpeed
      laneIndex := index
      turnIntent := turn
      startPosition := length / 2
      initialSpeed := initialSpeed
      spawnTime := spawner.elapsedTime
      typeId := params.map VehicleParams.typeId
      driverFactors := driverFactors }

/-- `_attempt_spawn`. The network has an incoming approach on every side, and a
route for every turn it is asked for. -/
def attemptSpawn (lanes : List EntryLane) : Effect Spawner (Option PlacedVehicle) :=
  if lanes.isEmpty then pure none
  else do
    let turn ← demand.resolveTurn direction
    let params ← demand.resolveParams direction
    let requiredLength := params.elim demand.lengthRange.high fun params => params.length.high
    let minimumGap := params.elim demand.minimumGap VehicleParams.minimumGap
    match roomOn lanes (minimumGap + requiredLength) (orderedLanes lanes turn) with
    | none => pure none
    | some (index, preceding) => do
      Effect.modify (forgetPending direction)
      let vehicle ← demand.makeVehicle turn params index preceding minimumGap
      pure (some vehicle)

/-- The head of a queue as the pending arrival. -/
def offerHead (head : QueuedArrival) (spawner : Spawner) : Spawner :=
  { spawner with
    pendingTurn := Function.update spawner.pendingTurn direction (some head.turn)
    pendingType := Function.update spawner.pendingType direction
      (head.typeId.or (spawner.pendingType direction)) }

/-- The approach's entry was blocked for a tick. -/
def countBlocked (dt : ℚ) (spawner : Spawner) : Spawner :=
  { spawner with
    blockedSeconds := Function.update spawner.blockedSeconds direction
      (spawner.blockedSeconds direction + dt) }

/-- The head of a queue has entered, with `_record_entry_wait`. -/
def countAdmitted (wait : ℚ) (spawner : Spawner) : Spawner :=
  { spawner with
    backlog := Function.update spawner.backlog direction (spawner.backlog direction).tail
    spawnedCount := spawner.spawnedCount + 1
    admitted := Function.update spawner.admitted direction (spawner.admitted direction + 1)
    entryWaitSum := spawner.entryWaitSum + wait
    entryWaitMax := max spawner.entryWaitMax wait }

/-- The second half of an approach's turn: the head of its queue is offered the
entry. -/
def offerEntry (lanes : List EntryLane) (dt : ℚ) : Effect Spawner (Option PlacedVehicle) := do
  let spawner ← Effect.read
  match spawner.backlog direction with
  | [] => pure none
  | head :: _ => do
    Effect.modify (offerHead direction head)
    let placed ← demand.attemptSpawn direction lanes
    match placed with
    | none => do
      Effect.modify (countBlocked direction dt)
      pure none
    | some vehicle => do
      let wait := spawner.elapsedTime - head.arrivalTime
      Effect.modify (countAdmitted direction wait)
      pure (some { vehicle with entryWait := wait })

end

/-- The first half of an approach's turn: its clock runs on, and the arrivals that
fall due are generated. -/
def runClock (direction : Direction) (timer dt : ℚ) : Effect Spawner Unit := do
  let spawner ← Effect.read
  if spawner.totalArrivals < demand.totalVehiclesLimit then do
    Effect.modify (setTimer direction (some (timer - dt)))
    demand.generateDue direction (demand.totalVehiclesLimit - spawner.totalArrivals)
  else pure ()

/-- One approach's turn of a tick. -/
def stepApproach (direction : Direction) (lanes : List EntryLane)
    (dt : ℚ) : Effect Spawner (Option PlacedVehicle) := do
  let spawner ← Effect.read
  match spawner.timers direction with
  | none => pure none
  | some timer => do
    demand.runClock direction timer dt
    demand.offerEntry direction lanes dt

/-- The approaches' turns, in order, with the vehicles that are placed. -/
def stepApproaches (lanes : Direction → List EntryLane)
    (dt : ℚ) : List Direction → Effect Spawner (List PlacedVehicle)
  | [] => pure []
  | direction :: others => do
    let placed ← demand.stepApproach direction (lanes direction) dt
    let vehicles ← stepApproaches lanes dt others
    pure (placed.toList ++ vehicles)

/-- The clocks of a tick that are common to the approaches. -/
def startTick (dt : ℚ) (spawner : Spawner) : Spawner :=
  { spawner with
    elapsedTime := spawner.elapsedTime + dt
    generationTime := if spawner.totalArrivals < demand.totalVehiclesLimit then
        spawner.generationTime + dt
      else spawner.generationTime }

/-- `step` under the queue entry model, with `_step_queued`. -/
def step (lanes : Direction → List EntryLane) (dt : ℚ) : Effect Spawner (List PlacedVehicle) := do
  Effect.modify (demand.startTick dt)
  demand.stepApproaches lanes dt Direction.all

/-- The directional split, drawn where the configuration has none. -/
def resolveSplit : Effect Spawner (Direction → Option ℚ) := match demand.directionalSplit with
  | some split => pure split
  | none => do
    let range : Range := ⟨1 / 2, 2⟩
    let north ← demand.uniform range
    let south ← demand.uniform range
    let east ← demand.uniform range
    let west ← demand.uniform range
    let total := north + south + east + west
    pure fun direction =>
      some (match direction with
        | .north => north / total
        | .south => south / total
        | .east => east / total
        | .west => west / total)

/-- The turning shares, drawn where the configuration has none. -/
def resolveTurnProbabilities : Effect Spawner TurnProbabilities :=
  match demand.turnProbabilities with
  | some probabilities => pure probabilities
  | none => do
    let straight ← demand.uniform ⟨1 / 2, 7 / 10⟩
    let rest := 1 - straight
    let share ← demand.uniform ⟨3 / 10, 7 / 10⟩
    let left := share * rest
    pure ⟨some left, some straight, some (rest - left), none⟩

/-- The first arrival time of each approach. -/
def startTimers : List Direction → Effect Spawner Unit
  | [] => pure ()
  | direction :: others => do
    let timer ← demand.generateNextArrivalTime direction
    Effect.modify (setTimer direction timer)
    startTimers others

/-- `reset`, on a spawner whose stream has just been seeded. -/
def reset : Effect Spawner Unit := do
  let split ← demand.resolveSplit
  let probabilities ← demand.resolveTurnProbabilities
  Effect.modify fun spawner =>
    { spawner with
      directionalSplit := split
      turnProbabilities := probabilities }
  demand.startTimers Direction.all

end Demand
end UrbanFlow.Spawning
