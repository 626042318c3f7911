import Mathlib.Algebra.Order.Ring.Star
import Mathlib.Data.List.MinMax
import Mathlib.Data.NNRat.Floor
import Mathlib.Data.Prod.Lex
import Mathlib.Data.Rat.Star
import UrbanFlow.Core.Enums
import UrbanFlow.Library.Folds

/-!
# Lane changes

`LaneChangeModel.attempt`: the lanes a vehicle may move into, the room and the braking a
move would leave, and the start of the manoeuvre. Lanes and vehicles are known by their
identity. Numbers are of any ordered field; its square root and power are parameters.
-/

namespace UrbanFlow.LaneChange

/-! ## Car following -/

section

variable (K : Type)

/-- `math.sqrt` and `math.pow`. -/
structure Elementary where
  sqrt : K → K
  pow : K → K → K

/-- The numbers of `random()` that one call of `StochasticIDM` may take. -/
structure Draws where
  aggression : K
  nudge : K
  hesitation : K
  chaos : K
  chaosSize : K
  jitter : K
  jitterSize : K

variable [Field K] [LinearOrder K]

/-- The parameters of `IntelligentDriverModel`, or of `StochasticIDM`. -/
structure Idm where
  maxAcceleration : K
  comfortDeceleration : K
  desiredTimeHeadway : K
  minimumGap : K
  idmDelta : K
  maxDeceleration : K
  isStochastic : Bool := false
  positive : 0 < maxAcceleration ∧ 0 < comfortDeceleration ∧ 0 < desiredTimeHeadway ∧
    0 < minimumGap ∧ 0 < idmDelta ∧ 0 < maxDeceleration

end

section

variable {K : Type} [Field K] [LinearOrder K]

/-- The body of `calculate_acceleration`, at a minimum gap and a time headway. The lead
is the speed of the vehicle ahead and the gap to it. -/
def accelerationAt (maths : Elementary K) (idm : Idm K)
    (minimumGap timeHeadway speed desiredSpeed : K) (lead : Option (K × K)) : K :=
  let accFree := idm.maxAcceleration * (1 - maths.pow (speed / desiredSpeed) idm.idmDelta)
  match lead with
  | none => max (-idm.maxDeceleration) accFree
  | some (leadSpeed, gap) =>
    if gap ≤ 0 then -idm.maxDeceleration
    else
      let denom := 2.0 * maths.sqrt (idm.maxAcceleration * idm.comfortDeceleration)
      let spacingTerm := speed * (speed - leadSpeed) / denom
      let targetGap := max 0 (minimumGap + speed * timeHeadway + spacingTerm)
      max (-idm.maxDeceleration) (accFree - idm.maxAcceleration * maths.pow (targetGap / gap) 2.0)

/-- `Random.uniform`, of a number of `random()`. -/
def uniform (low high draw : K) : K := low + (high - low) * draw

section

variable (maths : Elementary K) (idm : Idm K) (draws : Draws K) (speed desiredSpeed : K)
  (lead : Option (K × K))

/-- `StochasticIDM.calculate_acceleration`. -/
def stochasticAcceleration : K :=
  let aggression := uniform 0.5 1.5 draws.aggression
  let scaled : K × K := if 1.2 < aggression then
      (max 0.2 (idm.minimumGap * 0.5), max 0.3 (idm.desiredTimeHeadway * 0.5))
    else if aggression < 0.8 then (idm.minimumGap * 1.5, idm.desiredTimeHeadway * 1.5)
    else (idm.minimumGap, idm.desiredTimeHeadway)
  let isClose := lead.any fun (_, gap) => gap < 5.0
  if speed < 0.1 ∧ isClose ∧ draws.nudge < 0.05 then idm.maxAcceleration * 0.4
  else if speed < 2.0 ∧ 0.1 ≤ speed ∧ draws.hesitation < 0.005 then -idm.maxDeceleration
  else
    let acc := accelerationAt maths idm scaled.1 scaled.2 speed desiredSpeed lead
    if draws.chaos < 0.005 then -idm.maxDeceleration * uniform 0.5 1.0 draws.chaosSize
    else if draws.jitter < 0.1 then acc + uniform (-0.5) 0.5 draws.jitterSize
    else acc

/-- `calculate_acceleration`, of either model. -/
def calculateAcceleration : K :=
  if idm.isStochastic then stochasticAcceleration maths idm draws speed desiredSpeed lead
  else accelerationAt maths idm idm.minimumGap idm.desiredTimeHeadway speed desiredSpeed lead

end

end

/-! ## Vehicles and lanes -/

section

variable (Key L K : Type) [Field K] [LinearOrder K]

/-- What lane changing reads of `VehicleTypeProfile`. -/
structure Profile where
  typeId : String
  politeness : K
  laneChangeDuration : K
  laneChangeMinDistance : K
  minDistance_pos : 0 < laneChangeMinDistance

/-- `VehicleParams`. -/
structure Params where
  profile : Profile K
  idm : Idm K

/-- `LaneChangeManeuver`; the offset it is drawn with is left out. -/
structure Maneuver where
  originLane : L
  startPosition : K
  distance : K
  distance_pos : 0 < distance

/-- What lane changing and `update_state` read and write of a vehicle. -/
structure Vehicle where
  length : K
  length_pos : 0 < length
  desiredSpeed : K
  params : Option (Params K)
  waitThreshold : K
  lane : Option L
  route : List L
  laneChange : Option (Maneuver L K)
  position : K
  speed : K
  speed_nonneg : 0 ≤ speed
  acceleration : K
  turnIntent : Option TurnIntent
  state : VehicleState
  waitTime : K

/-- What is read of a lane; `length_pos` is what its constructor checks. -/
structure LaneInfo where
  laneId : String
  role : String
  approach : Option Direction
  length : K
  length_pos : 0 < length

/-- The network: the lanes of its incoming approaches, which are parallel, and for an
incoming lane and a movement the connection lane and the exit lane, or none where
`generate_route` raises. -/
structure Network where
  lane : L → LaneInfo K
  incoming : Direction → Option (List L)
  distinct : ∀ direction lanes, incoming direction = some lanes → lanes.Nodup
  parallel : ∀ direction lanes, incoming direction = some lanes →
    ∀ one ∈ lanes, ∀ other ∈ lanes, (lane one).length = (lane other).length
  connection : Direction → Nat → TurnIntent → Option (L × L)

/-- `VirtualObstacle`. -/
structure Obstacle where
  position : K
  speed : K
  length : K

/-- The vehicles, the vehicles registered on each lane, the obstacle each lane holds, and
the counters of the lane-change model. -/
structure World where
  vehicles : Key → Vehicle L K
  registered : L → List Key
  virtualObstacle : L → Option (Obstacle K)
  changesStarted : Nat
  missedTurns : Nat

end

/-- What `permitted_turns` returns; `set_lane_use` refuses a lane without movements. -/
structure LaneUse where
  permitted : Direction → Nat → List TurnIntent
  permitted_ne_nil : ∀ direction index, permitted direction index ≠ []

def lanePermittedTurns (laneIndex laneCount : Nat) : List TurnIntent :=
  if laneCount ≤ 1 then [.left, .straight, .right]
  else [.straight] ++ (if laneIndex = 0 then [.left] else []) ++
      (if laneIndex + 1 = laneCount then [.right] else [])

/-- `LaneChangeSettings`. -/
structure Settings (K : Type) where
  enabled : Bool
  accelerationThreshold : K
  safeDeceleration : K
  politeness : Option K
  aggressiveTwoWheelers : Bool
  defaultPoliteness : K

/-- `LaneChangeModel`. -/
structure Model (K : Type) [Field K] [LinearOrder K] where
  settings : Settings K
  defaultIdm : Idm K

/-- A vehicle, or an obstacle, as seen from one lane. -/
structure Neighbour (Key K : Type) where
  vehicle : Option Key
  position : K
  speed : K
  length : K

/-- The calls of `_acc` that one attempt makes. -/
inductive Call
  | own
  | oldFollowerAfter
  | oldFollower
  | changed (target : Nat)
  | newFollowerAfter (target : Nat)
  | newFollower (target : Nat)

section

variable {Key L K : Type} [DecidableEq Key] [DecidableEq L] [Field K] [LinearOrder K]

def prefixDirections : List (String × Direction) :=
  [("n_in_", .north), ("s_in_", .south), ("e_in_", .east), ("w_in_", .west)]

def incomingDirection (lane : LaneInfo K) : Option Direction := match lane.approach with
  | some approach =>
    if lane.role = "incoming" then some approach
    else if lane.role ≠ "" then none
    else ofPrefix
  | none => if lane.role ≠ "" then none else ofPrefix
where
  /-- The direction of the prefix the id starts with. -/
  ofPrefix : Option Direction := (prefixDirections.find? fun (start, _) =>
      start.toList.isPrefixOf (lane.laneId.toList.map Char.toLower)).map Prod.snd

def Network.generateRoute (network : Network L K) (direction : Direction) (laneIndex : Nat)
    (turn : TurnIntent) : Option (List L) := do
  let lanes ← network.incoming direction
  let lane ← lanes[laneIndex]?
  let (connectionLane, exitLane) ← network.connection direction laneIndex turn
  return [lane, connectionLane, exitLane]

def Maneuver.progress (maneuver : Maneuver L K) (position : K) : K :=
  let travelled := position - maneuver.startPosition
  if travelled ≤ 0 then 0
  else if maneuver.distance ≤ travelled then 1
  else travelled / maneuver.distance

/-! ## The neighbourhood -/

section

variable (world : World Key L K)

def World.neighbour (vehicle : Key) : Neighbour Key K where
  vehicle := some vehicle
  position := (world.vehicles vehicle).position
  speed := (world.vehicles vehicle).speed
  length := (world.vehicles vehicle).length

def Obstacle.neighbour (obstacle : Obstacle K) : Neighbour Key K where
  vehicle := none
  position := obstacle.position
  speed := obstacle.speed
  length := obstacle.length

/-- The body of the loop of `_neighbours`. -/
def look (subject : Key) (seen : Option (Neighbour Key K) × Option (Neighbour Key K))
    (v : Key) : Option (Neighbour Key K) × Option (Neighbour Key K) :=
  let position := (world.vehicles v).position
  if v = subject then seen
  else if (world.vehicles subject).position ≤ position then
    if seen.1.all fun leader => position < leader.position then (some (world.neighbour v), seen.2)
    else seen
  else if seen.2.all fun follower => follower.position < position then
    (seen.1, some (world.neighbour v))
  else seen

/-- `_neighbours`: the leader and the follower of a vehicle's position on a lane. -/
def neighbours (lane : L) (subject : Key) : Option (Neighbour Key K) × Option (Neighbour Key K) :=
  let seen := (world.registered lane).foldl (look world subject) (none, none)
  match world.virtualObstacle lane with
  | some obstacle =>
    if (world.vehicles subject).position < obstacle.position ∧
        seen.1.all fun leader => obstacle.position < leader.position then
      (some obstacle.neighbour, seen.2)
    else seen
  | none => seen

end

def gap (front : Neighbour Key K) (backPosition backLength : K) : K :=
  front.position - backPosition - (front.length + backLength) / 2.0

def Model.idm (model : Model K) (vehicle : Vehicle L K) : Idm K := match vehicle.params with
  | some params => params.idm
  | none => model.defaultIdm

def Model.politeness (model : Model K) (vehicle : Vehicle L K) : K :=
  match model.settings.politeness, vehicle.params with
  | some politeness, _ => politeness
  | none, some params => params.profile.politeness
  | none, none => model.settings.defaultPoliteness

def Model.acc (model : Model K) (maths : Elementary K) (draws : Draws K) (vehicle : Vehicle L K)
    (leader : Option (Neighbour Key K)) : K :=
  calculateAcceleration maths (model.idm vehicle) draws vehicle.speed (max 0.1 vehicle.desiredSpeed)
    (leader.map fun leader => (leader.speed, gap leader vehicle.position vehicle.length))

/-! ## The decision -/

section

variable (isAggressive : Bool)

/-- `MIN_ACCEPTED_GAP`, and what an aggressive two-wheeler accepts. -/
def minAcceptedGap : K := if isAggressive then 0.2 else 1.0

/-- `END_MARGIN`, and that of an aggressive two-wheeler. -/
def endMargin : K := if isAggressive then 1.0 else 10.0

/-- `COOLDOWN`, and that of an aggressive two-wheeler. -/
def cooldown : K := if isAggressive then 0.2 else 3.0

end

/-- `b_safe`. -/
def Model.safeDeceleration (model : Model K) (isAggressive : Bool) : K :=
  if isAggressive then 8.0 else model.settings.safeDeceleration

def Model.isAggressive (model : Model K) (vehicle : Vehicle L K) : Bool :=
  model.settings.aggressiveTwoWheelers &&
    vehicle.params.any fun params => params.profile.typeId = "motorcycle"

def manoeuvreDistance (vehicle : Vehicle L K) : K := match vehicle.params with
  | some params =>
    max params.profile.laneChangeMinDistance (vehicle.speed * params.profile.laneChangeDuration)
  | none => max 12.0 (vehicle.speed * 3.0)

section

variable (permitted : Nat → List TurnIntent) (laneCount idx : Nat) (turn : TurnIntent)

/-- The nearest lane that permits a movement, the lower one of two. -/
def nearestAllowed : Option Nat :=
  ((List.range laneCount).filter fun i => turn ∈ permitted i).argmin fun i =>
    toLex (((i : ℤ) - idx).natAbs, i)

def candidates (mandatory isAggressive : Bool) : List Nat := if mandatory then
    match nearestAllowed permitted laneCount idx turn with
    | some nearest => [if idx < nearest then idx + 1 else idx - 1]
    | none => []
  else (List.range laneCount).filter fun i =>
      (i + 1 = idx ∨ i = idx + 1) ∧ (turn ∈ permitted i ∨ isAggressive)

end

/-- There is physical room, ahead and behind. -/
def hasRoom (minGap : K) (me : Neighbour Key K)
    (leader follower : Option (Neighbour Key K)) : Bool :=
  (leader.all fun leader => leader.vehicle.isNone || ¬ gap leader me.position me.length < minGap) &&
  follower.all fun follower => ¬ gap me follower.position follower.length < minGap

variable (model : Model K) (maths : Elementary K) (draws : Call → Draws K)
variable (world : World Key L K)

/-- `old_gain`: what the follower on the lane that is left gains. -/
def oldGain (key : Key) (leader follower : Option (Neighbour Key K)) : K :=
  match follower.bind Neighbour.vehicle with
  | some f =>
    model.acc maths (draws .oldFollowerAfter) (world.vehicles f) leader -
      model.acc maths (draws .oldFollower) (world.vehicles f) (some (world.neighbour key))
  | none => 0

section

variable (key : Key) (target : Nat)

/-- What the new follower accelerates at behind the vehicle. -/
def followerAcc (follower : Key) : K :=
  model.acc maths (draws (.newFollowerAfter target)) (world.vehicles follower)
    (some (world.neighbour key))

section

variable (leader follower : Option (Neighbour Key K))

/-- `new_gain`: what the new follower gains. -/
def newGain : K := match follower.bind Neighbour.vehicle with
  | some f =>
    followerAcc model maths draws world key target f -
      model.acc maths (draws (.newFollower target)) (world.vehicles f) leader
  | none => 0

/-- The safety criterion. -/
def isSafe : Bool :=
  let bSafe := model.safeDeceleration (model.isAggressive (world.vehicles key))
  ¬ model.acc maths (draws (.changed target)) (world.vehicles key) leader < -bSafe ∧
    (follower.bind Neighbour.vehicle).all fun f =>
      ¬ followerAcc model maths draws world key target f < -bSafe

end

/-- The incentive to move from a lane into another one; the lengths are those of the
two lanes. -/
def incentive (length newLength : K)
    (current new : Option (Neighbour Key K) × Option (Neighbour Key K)) : K :=
  let vehicle := world.vehicles key
  let aSelf := model.acc maths (draws .own) vehicle current.1
  let aSelfNew := model.acc maths (draws (.changed target)) vehicle new.1
  let gains := newGain model maths draws world key target new.1 new.2 +
    oldGain model maths draws world key current.1 current.2
  if model.isAggressive vehicle then
    let curDist := (current.1.map Neighbour.position).getD length
    let newDist := (new.1.map Neighbour.position).getD newLength
    (aSelfNew - aSelf) + 0 * gains + if curDist + 5.0 < newDist then 2.0 else 0
  else (aSelfNew - aSelf) + model.politeness vehicle * gains

end

def threshold (isAggressive : Bool) : K :=
  if isAggressive then 0.05 else model.settings.accelerationThreshold

variable (network : Network L K)

/-- The body of the loop over the candidates. -/
def assess (key : Key) (lane : L) (lanes : List L) (mandatory : Bool) (best : Option (K × Nat))
    (targetIdx : Nat) : Option (K × Nat) :=
  match lanes[targetIdx]? with
  | none => best
  | some target =>
    let isAggressive := model.isAggressive (world.vehicles key)
    let new := neighbours world target key
    let incentive := incentive model maths draws world key targetIdx
      (network.lane lane).length (network.lane target).length
      (neighbours world lane key) new
    if ¬ hasRoom (minAcceptedGap isAggressive) (world.neighbour key) new.1 new.2 then best
    else if ¬ isSafe model maths draws world key targetIdx new.1 new.2 then best
    else if ¬ mandatory ∧ incentive ≤ threshold model isAggressive then best
    else if best.all fun best => best.1 < incentive then some (incentive, targetIdx)
    else best

/-- What an attempt decides. -/
inductive Decision
  | raise
  | stay
  | miss (direction : Direction) (idx : Nat)
  | change (direction : Direction) (target : Nat)

/-- `turn` of `attempt`. -/
def Vehicle.turn (vehicle : Vehicle L K) : TurnIntent := vehicle.turnIntent.getD .straight

section

variable (laneUse : LaneUse) (currentTime lastChangeTime : K) (key : Key)

/-- `attempt`, from the lanes of the approach and the index of the vehicle's lane. -/
def decideAt (lane : L) (direction : Direction) (lanes : List L) (idx : Nat) : Decision :=
  let vehicle := world.vehicles key
  let permitted := laneUse.permitted direction
  let isAggressive := model.isAggressive vehicle
  let remaining := (network.lane lane).length - vehicle.position
  let mandatory : Bool := vehicle.turn ∉ permitted idx ∧ ¬ (isAggressive ∧ 30.0 < remaining)
  if remaining < manoeuvreDistance vehicle + endMargin isAggressive then
    if mandatory then .miss direction idx else .stay
  else if currentTime - lastChangeTime < cooldown isAggressive then .stay
  else
    let assessed :=
      (candidates permitted lanes.length idx vehicle.turn mandatory isAggressive).foldl
        (assess model maths draws world network key lane lanes mandatory) none
    match assessed with
    | some (_, target) => .change direction target
    | none => .stay

/-- The decision of `attempt`. -/
def decision : Decision :=
  let vehicle := world.vehicles key
  match vehicle.lane with
  | none => .stay
  | some lane =>
    if ¬ model.settings.enabled ∨ vehicle.laneChange.isSome ∨
        vehicle.route.head? ≠ some lane then .stay
    else match incomingDirection (network.lane lane) with
      | none => .stay
      | some direction =>
        match network.incoming direction with
        | none => .raise
        | some lanes =>
          if lanes.length ≤ 1 then .stay
          else if lane ∈ lanes then
            decideAt model maths draws world network laneUse currentTime
              lastChangeTime key lane direction lanes (lanes.idxOf lane)
          else .raise

end

/-! ## The attempt -/

section

variable (world : World Key L K)

def World.addVehicle (lane : L) (key : Key) : World Key L K :=
  { world with
    registered := Function.update world.registered lane
      (if key ∈ world.registered lane then world.registered lane
      else world.registered lane ++ [key]) }

/-- A vehicle replaced by what has become of it. -/
def World.setVehicle (key : Key) (vehicle : Vehicle L K) : World Key L K :=
  { world with vehicles := Function.update world.vehicles key vehicle }

/-- `begin_lane_change`, for a vehicle on a lane that changes no lane yet. -/
def World.beginLaneChange (key : Key) (origin target : L) (newRoute : List L) (distance : K)
    (distance_pos : 0 < distance) : World Key L K :=
  let vehicle := world.vehicles key
  (world.setVehicle key { vehicle with
      laneChange := some ⟨origin, vehicle.position, distance, distance_pos⟩
      lane := some target
      route := newRoute }).addVehicle target key

end

def turnPreference : List TurnIntent := [.straight, .right, .left, .uturn]

/-- `_miss_turn`; the first result is none where it raises. -/
def missTurn (laneUse : LaneUse) (direction : Direction) (idx : Nat)
    (key : Key) : Option Bool × World Key L K :=
  match turnPreference.find? (· ∈ laneUse.permitted direction idx) with
  | none => (none, world)
  | some newTurn =>
    let turned := { world.vehicles key with turnIntent := some newTurn }
    match network.generateRoute direction idx newTurn with
    | none => (none, world.setVehicle key turned)
    | some route =>
      (some false, { world.setVehicle key { turned with route := route } with
          missedTurns := world.missedTurns + 1 })

/-- `LaneChangeModel.attempt`: true if a change began, none where it raises. -/
def attempt (laneUse : LaneUse) (currentTime lastChangeTime : K)
    (key : Key) : Option Bool × World Key L K :=
  let vehicle := world.vehicles key
  match decision model maths draws world network laneUse currentTime lastChangeTime key with
  | .raise => (none, world)
  | .stay => (some false, world)
  | .miss direction idx => missTurn world network laneUse direction idx key
  | .change direction target =>
    match vehicle.lane, (network.incoming direction).bind (·[target]?),
      network.generateRoute direction target vehicle.turn with
    | some origin, some targetLane, some newRoute =>
      if distance_pos : 0 < manoeuvreDistance vehicle then
        (some true, { world.beginLaneChange key origin targetLane newRoute
              (manoeuvreDistance vehicle) distance_pos with
            changesStarted := world.changesStarted + 1 })
      else (none, world)
    | _, _, _ => (none, world)

end

/-! ## What a change leaves -/

section

variable {Key L K : Type} [DecidableEq Key] [Field K] [LinearOrder K]
variable (network : Network L K) (world : World Key L K)

/-- The vehicles of a lane are before its end, and a stop line is at it: `update_state`
takes a vehicle that reaches the end off the lane, and the controllers put their obstacles
at `lane.length`. -/
structure World.Placed : Prop where
  onLane : ∀ lane, ∀ v ∈ world.registered lane,
    (world.vehicles v).position ≤ (network.lane lane).length
  atEnd : ∀ lane obstacle, world.virtualObstacle lane = some obstacle →
    (network.lane lane).length ≤ obstacle.position

theorem atLeastTwo_two : Nat.AtLeastTwo 2 := ⟨le_rfl⟩

attribute [local instance] atLeastTwo_two in
/-- The free road between two vehicles, from bumper to bumper. -/
def World.bumperGap (one other : Key) : K :=
  |(world.vehicles one).position - (world.vehicles other).position| -
    ((world.vehicles one).length + (world.vehicles other).length) / 2

/-- No two vehicles of a lane overlap along it. -/
def World.Apart (lane : L) : Prop :=
  ∀ one ∈ world.registered lane, ∀ other ∈ world.registered lane, one ≠ other →
    0 ≤ world.bumperGap one other

section

variable (lane : L) (subject : Key)

/-- The other vehicles of a lane that are ahead of a vehicle. -/
def World.ahead : List Key := (world.registered lane).filter fun v =>
    v ≠ subject ∧ (world.vehicles subject).position ≤ (world.vehicles v).position

/-- The other vehicles of a lane that are behind a vehicle. -/
def World.behind : List Key := (world.registered lane).filter fun v =>
    v ≠ subject ∧ (world.vehicles v).position < (world.vehicles subject).position

end

/-- What leads a vehicle on a lane: the nearest vehicle ahead, or the obstacle where no
vehicle is ahead. -/
inductive World.Leads (lane : L) (subject : Key) : Option (Neighbour Key K) → Prop
  | vehicle (v : Key) (isAhead : v ∈ world.ahead lane subject)
      (nearest : ∀ other ∈ world.ahead lane subject,
        (world.vehicles v).position ≤ (world.vehicles other).position) :
      World.Leads lane subject (some (world.neighbour v))
  | obstacle (obstacle : Obstacle K) (isHeld : world.virtualObstacle lane = some obstacle)
      (isAhead : (world.vehicles subject).position < obstacle.position)
      (alone : world.ahead lane subject = []) :
      World.Leads lane subject (some obstacle.neighbour)
  | nobody (clear : ∀ obstacle, world.virtualObstacle lane = some obstacle →
        obstacle.position ≤ (world.vehicles subject).position)
      (alone : world.ahead lane subject = []) :
      World.Leads lane subject none

inductive World.Follows (lane : L) (subject : Key) : Option Key → Prop
  | vehicle (v : Key) (isBehind : v ∈ world.behind lane subject)
      (nearest : ∀ other ∈ world.behind lane subject,
        (world.vehicles other).position ≤ (world.vehicles v).position) :
      World.Follows lane subject (some v)
  | nobody (alone : world.behind lane subject = []) : World.Follows lane subject none

/-- A lane is the next one on the way to the nearest lane that permits a movement. -/
def TowardAllowed (permitted : Nat → List TurnIntent) (laneCount idx target : Nat)
    (turn : TurnIntent) : Prop :=
  turn ∉ permitted idx ∧ ∃ nearest < laneCount, turn ∈ permitted nearest ∧
      (∀ other < laneCount, turn ∈ permitted other →
        ((nearest : ℤ) - idx).natAbs ≤ ((other : ℤ) - idx).natAbs) ∧
      ((nearest : ℤ) - target).natAbs + 1 = ((nearest : ℤ) - idx).natAbs

/-! ### The neighbours -/

theorem foldl_look (subject : Key) (vehicles : List Key) (leader follower : Option Key) :
    vehicles.foldl (look world subject) (leader.map world.neighbour, follower.map world.neighbour) =
      (((vehicles.filter fun v =>
          v ≠ subject ∧ (world.vehicles subject).position ≤ (world.vehicles v).position).foldl
            (List.argAux fun b c => (world.vehicles b).position < (world.vehicles c).position)
            leader).map world.neighbour, ((vehicles.filter fun v =>
          v ≠ subject ∧ (world.vehicles v).position < (world.vehicles subject).position).foldl
            (List.argAux fun b c => (world.vehicles c).position < (world.vehicles b).position)
            follower).map world.neighbour) := by
  induction vehicles generalizing leader follower with
  | nil => rfl
  | cons v vehicles ih =>
    rw [List.foldl_cons]
    by_cases isSubject : v = subject
    · simp [look, isSubject, ih]
    by_cases isAhead : (world.vehicles subject).position ≤ (world.vehicles v).position
    · have isLook : look world subject
          (leader.map world.neighbour, follower.map world.neighbour) v =
        ((List.argAux (fun b c =>
            (world.vehicles b).position < (world.vehicles c).position) leader v).map
            world.neighbour, follower.map world.neighbour) := by
        cases leader with
        | none => simp [look, isSubject, isAhead, List.argAux]
        | some leader =>
          by_cases isNearer : (world.vehicles v).position < (world.vehicles leader).position
          all_goals simp [look, isSubject, isAhead, isNearer, List.argAux, World.neighbour]
      rw [isLook, ih]
      simp [isSubject, isAhead, not_lt.mpr isAhead]
    · have isLook : look world subject
          (leader.map world.neighbour, follower.map world.neighbour) v =
        (leader.map world.neighbour, (List.argAux (fun b c =>
            (world.vehicles c).position < (world.vehicles b).position) follower v).map
            world.neighbour) := by
        cases follower with
        | none => simp [look, isSubject, isAhead, List.argAux]
        | some follower =>
          by_cases isNearer : (world.vehicles follower).position < (world.vehicles v).position
          all_goals simp [look, isSubject, isAhead, isNearer, List.argAux, World.neighbour]
      rw [isLook, ih]
      simp [isSubject, isAhead, not_le.mp isAhead]

section

variable (lane : L) (subject : Key)

theorem foldl_look_eq : (world.registered lane).foldl (look world subject) (none, none) =
      (((world.ahead lane subject).argmin fun v => (world.vehicles v).position).map world.neighbour,
        ((world.behind lane subject).argmax fun v =>
          (world.vehicles v).position).map world.neighbour) :=
  foldl_look world subject (world.registered lane) none none

theorem neighbours_follows :
    ∃ follower, (neighbours world lane subject).2 = follower.map world.neighbour ∧
      world.Follows lane subject follower := by
  refine ⟨(world.behind lane subject).argmax fun v => (world.vehicles v).position, ?_, ?_⟩
  · unfold neighbours
    rw [foldl_look_eq]
    dsimp only
    split
    · split
      all_goals rfl
    · rfl
  · cases isFollower : (world.behind lane subject).argmax fun v =>
        (world.vehicles v).position with
    | none => exact .nobody (List.argmax_eq_none.mp isFollower)
    | some follower =>
      exact .vehicle follower (List.argmax_mem isFollower) fun other isOther =>
        List.le_of_mem_argmax (f := fun v => (world.vehicles v).position) isOther isFollower

end

variable {network world}

/-- With a stop line at the end of the lane, the vehicle ahead leads, if there is one. -/
theorem neighbours_leads (placed : world.Placed network) (lane : L) (subject : Key) :
    world.Leads lane subject (neighbours world lane subject).1 := by
  unfold neighbours
  rw [foldl_look_eq]
  cases isLeader : (world.ahead lane subject).argmin fun v => (world.vehicles v).position with
  | none =>
    have alone := List.argmin_eq_none.mp isLeader
    cases isHeld : world.virtualObstacle lane with
    | none => exact .nobody (fun obstacle isHeld' => by simp [isHeld] at isHeld') alone
    | some obstacle =>
      by_cases isAhead : (world.vehicles subject).position < obstacle.position
      · simpa [isAhead] using World.Leads.obstacle obstacle isHeld isAhead alone
      · simp only [isAhead, false_and, if_false]
        refine .nobody (fun other isOther => ?_) alone
        rw [isHeld] at isOther
        cases isOther
        exact not_lt.mp isAhead
  | some leader =>
    have isAhead : leader ∈ world.ahead lane subject := List.argmin_mem isLeader
    have leads := World.Leads.vehicle leader isAhead fun other isOther =>
      List.le_of_mem_argmin (f := fun v => (world.vehicles v).position) isOther isLeader
    cases isHeld : world.virtualObstacle lane with
    | none => exact leads
    | some obstacle =>
      have beforeLine : (world.vehicles leader).position ≤ obstacle.position :=
        (placed.onLane lane leader (List.mem_of_mem_filter isAhead)).trans
          (placed.atEnd lane obstacle isHeld)
      simpa [World.neighbour, not_lt.mpr beforeLine] using leads

section

variable {lane : L} {subject v : Key}

theorem mem_ahead : v ∈ world.ahead lane subject ↔ v ∈ world.registered lane ∧ v ≠ subject ∧
      (world.vehicles subject).position ≤ (world.vehicles v).position := by
  simp [World.ahead]

theorem mem_behind : v ∈ world.behind lane subject ↔ v ∈ world.registered lane ∧ v ≠ subject ∧
      (world.vehicles v).position < (world.vehicles subject).position := by
  simp [World.behind]

end

end

/-! ### Room -/

section

variable {Key L K : Type} [Field K] [LinearOrder K] [IsStrictOrderedRing K]
variable {world : World Key L K}

theorem bumperGap_of_le {one other : Key}
    (isBehind : (world.vehicles one).position ≤ (world.vehicles other).position) :
    world.bumperGap one other = (world.vehicles other).position - (world.vehicles one).position -
        ((world.vehicles one).length + (world.vehicles other).length) / 2 := by
  rw [World.bumperGap, abs_of_nonpos (by linarith)]
  ring

omit [IsStrictOrderedRing K] in
theorem bumperGap_comm (one other : Key) :
    world.bumperGap one other = world.bumperGap other one := by
  rw [World.bumperGap, World.bumperGap, abs_sub_comm, add_comm (world.vehicles one).length]

/-- The gap of the decision is the free road to a vehicle ahead. -/
theorem gap_neighbour {front : Key} {back : Key}
    (isBehind : (world.vehicles back).position ≤ (world.vehicles front).position) :
    gap (world.neighbour front) (world.vehicles back).position (world.vehicles back).length =
      world.bumperGap back front := by
  rw [bumperGap_of_le isBehind]
  simp only [gap, World.neighbour]
  linarith

section

variable {one between other : Key} {lane : L} (apart : world.Apart lane)
  (isMem : between ∈ world.registered lane) (otherMem : other ∈ world.registered lane)

include apart isMem otherMem

theorem bumperGap_le_of_between
    (isBefore : (world.vehicles one).position ≤ (world.vehicles between).position)
    (isNearer : (world.vehicles between).position ≤ (world.vehicles other).position) :
    world.bumperGap one between ≤ world.bumperGap one other := by
  by_cases isSame : between = other
  · rw [isSame]
  have isApart := apart between isMem other otherMem isSame
  rw [bumperGap_of_le isNearer] at isApart
  rw [bumperGap_of_le isBefore, bumperGap_of_le (isBefore.trans isNearer)]
  have := (world.vehicles between).length_pos
  linarith

/-- The same, seen from ahead. -/
theorem bumperGap_le_of_between_behind
    (isBefore : (world.vehicles between).position ≤ (world.vehicles one).position)
    (isNearer : (world.vehicles other).position ≤ (world.vehicles between).position) :
    world.bumperGap one between ≤ world.bumperGap one other := by
  by_cases isSame : between = other
  · rw [isSame]
  have isApart := apart other otherMem between isMem (Ne.symm isSame)
  rw [bumperGap_of_le isNearer] at isApart
  rw [bumperGap_comm one between, bumperGap_comm one other, bumperGap_of_le isBefore,
    bumperGap_of_le (isNearer.trans isBefore)]
  have := (world.vehicles between).length_pos
  linarith

end

/-- Where the room is enough to the nearest vehicles, it is to every vehicle. -/
theorem minGap_le_of_hasRoom [DecidableEq Key] {lane : L} {key : Key} {minGap : K}
    {leader : Option (Neighbour Key K)} {follower : Option Key}
    (leads : world.Leads lane key leader) (follows : world.Follows lane key follower)
    (room : hasRoom minGap (world.neighbour key) leader (follower.map world.neighbour))
    (apart : world.Apart lane) (other : Key) (otherMem : other ∈ world.registered lane)
    (isOther : other ≠ key) : minGap ≤ world.bumperGap key other := by
  rw [hasRoom, Bool.and_eq_true] at room
  obtain ⟨roomAhead, roomBehind⟩ := room
  by_cases isAhead : (world.vehicles key).position ≤ (world.vehicles other).position
  · have otherAhead := mem_ahead.mpr ⟨otherMem, isOther, isAhead⟩
    cases leads with
    | vehicle v vAhead nearest =>
      obtain ⟨vMem, -, vPosition⟩ := mem_ahead.mp vAhead
      have isRoom : minGap ≤ world.bumperGap key v := by
        rw [← gap_neighbour vPosition]
        simpa [World.neighbour] using roomAhead
      exact isRoom.trans
        (bumperGap_le_of_between apart vMem otherMem vPosition (nearest other otherAhead))
    | obstacle _ _ _ alone | nobody clear alone =>
      rw [alone] at otherAhead
      exact absurd otherAhead List.not_mem_nil
  · have otherBehind := mem_behind.mpr ⟨otherMem, isOther, not_le.mp isAhead⟩
    cases follows with
    | vehicle v vBehind nearest =>
      obtain ⟨vMem, -, vPosition⟩ := mem_behind.mp vBehind
      have isRoom : minGap ≤ world.bumperGap key v := by
        rw [bumperGap_comm, ← gap_neighbour vPosition.le]
        simpa [World.neighbour] using roomBehind
      exact isRoom.trans (bumperGap_le_of_between_behind apart vMem otherMem vPosition.le
        (nearest other otherBehind))
    | nobody alone =>
      rw [alone] at otherBehind
      exact absurd otherBehind List.not_mem_nil

end

/-! ### The decision -/

theorem nearestAllowed_spec {permitted : Nat → List TurnIntent} {laneCount idx nearest : Nat}
    {turn : TurnIntent} (isNearest : nearestAllowed permitted laneCount idx turn = some nearest) :
    nearest < laneCount ∧ turn ∈ permitted nearest ∧ ∀ other < laneCount, turn ∈ permitted other →
        ((nearest : ℤ) - idx).natAbs ≤ ((other : ℤ) - idx).natAbs := by
  have isMem := List.argmin_mem isNearest
  rw [List.mem_filter, List.mem_range, decide_eq_true_eq] at isMem
  refine ⟨isMem.1, isMem.2, fun other isLane isPermitted => ?_⟩
  have otherMem : other ∈ (List.range laneCount).filter fun i => turn ∈ permitted i := by
    simpa using ⟨isLane, isPermitted⟩
  exact Prod.Lex.monotone_fst _ _ (List.le_of_mem_argmin
      (f := fun i : Nat => toLex (((i : ℤ) - idx).natAbs, i)) otherMem isNearest)

section

variable {permitted : Nat → List TurnIntent} {laneCount idx target : Nat} {turn : TurnIntent}
  {mandatory isAggressive : Bool} (isMandatory : mandatory → turn ∉ permitted idx)
  (isCandidate : target ∈ candidates permitted laneCount idx turn mandatory isAggressive)

include isMandatory isCandidate

theorem candidates_permit : turn ∈ permitted target ∨ isAggressive ∨
      TowardAllowed permitted laneCount idx target turn := by
  unfold candidates at isCandidate
  cases mandatory with
  | false =>
    simp only [Bool.false_eq_true, if_false, List.mem_filter, decide_eq_true_eq] at isCandidate
    exact isCandidate.2.2.imp_right Or.inl
  | true =>
    have notPermitted := isMandatory rfl
    cases isNearest : nearestAllowed permitted laneCount idx turn with
    | none => simp [isNearest] at isCandidate
    | some nearest =>
      obtain ⟨isLane, isPermitted, isLeast⟩ := nearestAllowed_spec isNearest
      have isOther : nearest ≠ idx := by
        rintro rfl
        exact notPermitted isPermitted
      simp only [isNearest, if_true, List.mem_singleton] at isCandidate
      refine Or.inr (Or.inr ⟨notPermitted, nearest, isLane, isPermitted, isLeast, ?_⟩)
      split at isCandidate
      all_goals omega

/-- A candidate is another lane. -/
theorem candidates_ne : target ≠ idx := by
  unfold candidates at isCandidate
  cases mandatory with
  | false =>
    simp only [Bool.false_eq_true, if_false, List.mem_filter, decide_eq_true_eq] at isCandidate
    omega
  | true =>
    cases isNearest : nearestAllowed permitted laneCount idx turn with
    | none => simp [isNearest] at isCandidate
    | some nearest =>
      have isOther : nearest ≠ idx := by
        rintro rfl
        exact isMandatory rfl (nearestAllowed_spec isNearest).2.1
      simp only [isNearest, if_true, List.mem_singleton] at isCandidate
      split at isCandidate
      all_goals omega

end

section

variable {Key L K : Type} [DecidableEq Key] [Field K] [LinearOrder K]
variable {model : Model K} {maths : Elementary K} {draws : Call → Draws K}
variable {world : World Key L K} {network : Network L K}

variable (model maths draws world) in
/-- A lane passes the test of room and the safety criterion. -/
def Acceptable (key : Key) (lanes : List L) (targetIdx : Nat) : Prop :=
  ∃ target, lanes[targetIdx]? = some target ∧
    hasRoom (minAcceptedGap (model.isAggressive (world.vehicles key)))
      (world.neighbour key) (neighbours world target key).1
      (neighbours world target key).2 ∧
    isSafe model maths draws world key targetIdx (neighbours world target key).1
      (neighbours world target key).2

omit [DecidableEq Key] in
theorem isSafe_iff {key : Key} {target : Nat} {leader follower : Option (Neighbour Key K)} :
    isSafe model maths draws world key target leader follower ↔
      -model.safeDeceleration (model.isAggressive (world.vehicles key)) ≤
          model.acc maths (draws (.changed target)) (world.vehicles key) leader ∧
        ∀ f, follower.bind Neighbour.vehicle = some f →
          -model.safeDeceleration (model.isAggressive (world.vehicles key)) ≤
            followerAcc model maths draws world key target f := by
  dsimp only [isSafe]
  rw [decide_eq_true_eq, not_lt, Option.all_eq_true]
  simp only [decide_eq_true_eq, not_lt]

section

variable {key : Key} {lane : L} {lanes : List L} {mandatory : Bool}

/-- What the loop keeps is acceptable. -/
theorem assess_cases {best : Option (K × Nat)} {targetIdx : Nat} {kept : K × Nat}
    (isKept : assess model maths draws world network key lane lanes mandatory best targetIdx = some kept) :
    best = some kept ∨
      kept.2 = targetIdx ∧ Acceptable model maths draws world key lanes targetIdx := by
  unfold assess at isKept
  cases isTarget : lanes[targetIdx]? with
  | none =>
    rw [isTarget] at isKept
    exact Or.inl isKept
  | some target =>
    rw [isTarget] at isKept
    dsimp only at isKept
    split at isKept
    · exact Or.inl isKept
    rename_i room
    split at isKept
    · exact Or.inl isKept
    rename_i safe
    split at isKept
    · exact Or.inl isKept
    split at isKept
    · cases isKept
      exact Or.inr ⟨rfl, target, isTarget, not_not.mp room, not_not.mp safe⟩
    · exact Or.inl isKept

/-- What the loop over the candidates ends with is an acceptable candidate. -/
theorem foldl_assess {targets : List Nat} {kept : K × Nat}
    (isKept : targets.foldl (assess model maths draws world network key lane lanes mandatory) none = some kept) :
    kept.2 ∈ targets ∧ Acceptable model maths draws world key lanes kept.2 := by
  refine Folds.foldl_keeps (fun best : Option (K × Nat) => ∀ kept, best = some kept →
      kept.2 ∈ targets ∧ Acceptable model maths draws world key lanes kept.2)
    (fun targetIdx isTarget best isGood kept isKept => ?_) (fun kept isKept => ?_) kept isKept
  · rcases assess_cases isKept with isBest | ⟨rfl, isAcceptable⟩
    · exact isGood kept isBest
    · exact ⟨isTarget, isAcceptable⟩
  · cases isKept

end

section

variable {laneUse : LaneUse} {currentTime lastChangeTime : K} {key : Key} {lane : L}

theorem decideAt_change {direction taken : Direction} {lanes : List L} {idx target : Nat}
    (isChange : decideAt model maths draws world network laneUse currentTime lastChangeTime key lane direction lanes idx = .change taken target) :
    taken = direction ∧ target ≠ idx ∧ manoeuvreDistance (world.vehicles key) +
          endMargin (model.isAggressive (world.vehicles key)) ≤
        (network.lane lane).length - (world.vehicles key).position ∧
      Acceptable model maths draws world key lanes target ∧
      ((world.vehicles key).turn ∈ laneUse.permitted direction target ∨
        model.isAggressive (world.vehicles key) ∨
        TowardAllowed (laneUse.permitted direction) lanes.length idx target
          (world.vehicles key).turn) := by
  dsimp only [decideAt] at isChange
  split at isChange
  · split at isChange
    all_goals cases isChange
  rename_i isEnough
  split at isChange
  · cases isChange
  split at isChange
  · rename_i incentive target' assessed
    obtain ⟨rfl, rfl⟩ := Decision.change.inj isChange
    obtain ⟨isCandidate, isAcceptable⟩ := foldl_assess assessed
    exact ⟨rfl, candidates_ne (fun isMandatory => (of_decide_eq_true isMandatory).1)
        isCandidate, not_lt.mp isEnough, isAcceptable,
      candidates_permit (fun isMandatory => (of_decide_eq_true isMandatory).1) isCandidate⟩
  · cases isChange

theorem decideAt_miss {direction missed : Direction} {lanes : List L} {idx missedIdx : Nat}
    (isMiss : decideAt model maths draws world network laneUse currentTime lastChangeTime key lane direction lanes idx = .miss missed missedIdx) :
    missed = direction ∧ missedIdx = idx := by
  dsimp only [decideAt] at isMiss
  split at isMiss
  · split at isMiss
    · obtain ⟨rfl, rfl⟩ := Decision.miss.inj isMiss
      exact ⟨rfl, rfl⟩
    · cases isMiss
  · split at isMiss
    · cases isMiss
    · split at isMiss
      all_goals cases isMiss

end

variable (model maths draws world network) in
/-- An attempt that neither stays nor raises is decided on an incoming approach, for a
vehicle that starts its route and changes no lane. -/
theorem decision_cases [DecidableEq L] (laneUse : LaneUse) (currentTime lastChangeTime : K)
    (key : Key) :
    decision model maths draws world network laneUse currentTime lastChangeTime key = .stay ∨
      decision model maths draws world network laneUse currentTime lastChangeTime key = .raise ∨
      ∃ lane lanes direction, (world.vehicles key).lane = some lane ∧
        (world.vehicles key).laneChange = none ∧
        network.incoming direction = some lanes ∧ lane ∈ lanes ∧
        decision model maths draws world network laneUse currentTime lastChangeTime key =
          decideAt model maths draws world network laneUse currentTime lastChangeTime key
            lane direction lanes (lanes.idxOf lane) := by
  dsimp only [decision]
  cases isLane : (world.vehicles key).lane with
  | none => exact Or.inl rfl
  | some lane =>
    dsimp only
    split
    · exact Or.inl rfl
    rename_i isFree
    have notChanging : (world.vehicles key).laneChange = none := by
      simpa using (not_or.mp (not_or.mp isFree).2).1
    cases isDirection : incomingDirection (network.lane lane) with
    | none => exact Or.inl rfl
    | some direction =>
      cases isIncoming : network.incoming direction with
      | none =>
        dsimp only
        rw [isIncoming]
        exact Or.inr (Or.inl rfl)
      | some lanes =>
        dsimp only
        rw [isIncoming]
        dsimp only
        split
        · exact Or.inl rfl
        split
        · rename_i isMem
          exact Or.inr (Or.inr ⟨lane, lanes, direction, rfl, notChanging, isIncoming, isMem, rfl⟩)
        · exact Or.inr (Or.inl rfl)

section

variable [DecidableEq L] {laneUse : LaneUse} {currentTime lastChangeTime : K} {key : Key}

theorem decision_change {direction : Direction} {target : Nat}
    (isChange : decision model maths draws world network laneUse currentTime lastChangeTime key = .change direction target) :
    ∃ lane lanes, (world.vehicles key).lane = some lane ∧ (world.vehicles key).laneChange = none ∧
      network.incoming direction = some lanes ∧ lane ∈ lanes ∧
      decideAt model maths draws world network laneUse currentTime lastChangeTime key
        lane direction lanes (lanes.idxOf lane) = .change direction target := by
  rcases decision_cases model maths draws world network laneUse currentTime lastChangeTime
    key with isStay | isRaise |
    ⟨lane, lanes, approach, isLane, notChanging, isIncoming, isMem, isDecided⟩
  · simp [isStay] at isChange
  · simp [isRaise] at isChange
  · rw [isDecided] at isChange
    obtain rfl := (decideAt_change isChange).1
    exact ⟨lane, lanes, isLane, notChanging, isIncoming, isMem, isChange⟩

theorem decision_miss {direction : Direction} {idx : Nat}
    (isMiss : decision model maths draws world network laneUse currentTime lastChangeTime key = .miss direction idx) :
    ∃ lane lanes, (world.vehicles key).lane = some lane ∧
      network.incoming direction = some lanes ∧ lanes[idx]? = some lane := by
  rcases decision_cases model maths draws world network laneUse currentTime lastChangeTime
    key with isStay | isRaise |
    ⟨lane, lanes, approach, isLane, notChanging, isIncoming, isMem, isDecided⟩
  · simp [isStay] at isMiss
  · simp [isRaise] at isMiss
  · rw [isDecided] at isMiss
    obtain ⟨rfl, rfl⟩ := decideAt_miss isMiss
    exact ⟨lane, lanes, isLane, isIncoming, List.getElem?_idxOf isMem⟩

theorem attempt_started {after : World Key L K}
    (started : attempt model maths draws world network laneUse currentTime lastChangeTime key = (some true, after)) :
    ∃ direction targetIdx origin lanes target newRoute,
      decision model maths draws world network laneUse currentTime lastChangeTime key =
        .change direction targetIdx ∧
      (world.vehicles key).lane = some origin ∧
      network.incoming direction = some lanes ∧ lanes[targetIdx]? = some target ∧
      network.generateRoute direction targetIdx (world.vehicles key).turn = some newRoute ∧
      ∃ distance_pos : 0 < manoeuvreDistance (world.vehicles key),
        after = { world.beginLaneChange key origin target newRoute
            (manoeuvreDistance (world.vehicles key)) distance_pos with
          changesStarted := world.changesStarted + 1 } := by
  dsimp only [attempt] at started
  cases isDecision : decision model maths draws world network laneUse currentTime
      lastChangeTime key with
  | raise | stay => simp [isDecision] at started
  | miss =>
    simp only [isDecision, missTurn] at started
    split at started
    · simp at started
    · split at started
      all_goals simp at started
  | change direction targetIdx =>
    rw [isDecision] at started
    dsimp only at started
    split at started
    · rename_i origin target newRoute isOrigin isTarget isRoute
      obtain ⟨lanes, isLanes, isTarget⟩ := Option.bind_eq_some_iff.mp isTarget
      split at started
      · rename_i distance_pos
        exact ⟨direction, targetIdx, origin, lanes, target, newRoute, rfl, isOrigin,
          isLanes, isTarget, isRoute, distance_pos, (Prod.mk.inj started).2.symm⟩
      · simp at started
    · simp at started

end

end

section

variable {Key L K : Type} [DecidableEq Key] [DecidableEq L] [Field K] [LinearOrder K]
variable (model : Model K) (maths : Elementary K) (draws : Call → Draws K)
variable (world : World Key L K) (network : Network L K)

/-- What holds of a change of a vehicle that began. -/
structure SafeChange (laneUse : LaneUse) (key : Key) (after : World Key L K)
    (direction : Direction) (lanes : List L) (idx targetIdx : Nat) (origin target : L)
    (maneuver : Maneuver L K) : Prop where
  isApproach : network.incoming direction = some lanes
  originLane : lanes[idx]? = some origin ∧ (world.vehicles key).lane = some origin
  targetLane : lanes[targetIdx]? = some target ∧ (after.vehicles key).lane = some target
  begun : (after.vehicles key).laneChange = some maneuver ∧
    maneuver.originLane = origin ∧ maneuver.startPosition = (after.vehicles key).position
  minGap : world.Apart target → ∀ other ∈ world.registered target, other ≠ key →
    minAcceptedGap (model.isAggressive (world.vehicles key)) ≤ world.bumperGap key other
  ownBraking : ∃ leader, world.Leads target key leader ∧
    -model.safeDeceleration (model.isAggressive (world.vehicles key)) ≤
      model.acc maths (draws (.changed targetIdx)) (world.vehicles key) leader
  followerBraking : ∃ follower, world.Follows target key follower ∧ ∀ f, follower = some f →
      -model.safeDeceleration (model.isAggressive (world.vehicles key)) ≤
        model.acc maths (draws (.newFollowerAfter targetIdx)) (world.vehicles f)
          (some (world.neighbour key))
  permits : (world.vehicles key).turn ∈ laneUse.permitted direction targetIdx ∨
    model.isAggressive (world.vehicles key) ∨
    TowardAllowed (laneUse.permitted direction) lanes.length idx targetIdx (world.vehicles key).turn
  completes : ∀ position, maneuver.progress position < 1 →
    position + endMargin (model.isAggressive (world.vehicles key)) < (network.lane target).length

variable {model maths draws world network} [IsStrictOrderedRing K]

omit [DecidableEq L] in
theorem Maneuver.lt_of_progress_lt_one {maneuver : Maneuver L K} {position : K}
    (inProgress : maneuver.progress position < 1) :
    position < maneuver.startPosition + maneuver.distance := by
  by_contra isDriven
  have isPast : maneuver.distance ≤ position - maneuver.startPosition := by linarith
  have isMoved : ¬ position - maneuver.startPosition ≤ 0 :=
    not_le.mpr (maneuver.distance_pos.trans_le isPast)
  simp [Maneuver.progress, isMoved, isPast] at inProgress

/-- Whenever an attempt starts a change, there is room on the target lane, nobody has to
brake harder than the safe deceleration, the target lane permits the movement or is on the
way to the nearest one that does, but for an aggressive two-wheeler, and the manoeuvre is
over before the end of the lane. -/
theorem attempt_safe {laneUse : LaneUse} {currentTime lastChangeTime : K} {key : Key}
    {after : World Key L K} (placed : world.Placed network)
    (started : attempt model maths draws world network laneUse currentTime lastChangeTime
      key = (some true, after)) : ∃ direction lanes idx targetIdx origin target maneuver,
      SafeChange model maths draws world network laneUse key after direction lanes idx
        targetIdx origin target maneuver := by
  obtain ⟨direction, targetIdx, origin, lanes, target, newRoute, isDecision, isOrigin,
    isLanes, isTarget, isRoute, distance_pos, rfl⟩ := attempt_started started
  obtain ⟨lane, lanes', isLane, -, isLanes', isMem, isChange⟩ := decision_change isDecision
  cases isOrigin.symm.trans isLane
  cases isLanes.symm.trans isLanes'
  obtain ⟨-, -, isEnough, ⟨target', isTarget', room, safe⟩, permits⟩ := decideAt_change isChange
  cases isTarget.symm.trans isTarget'
  obtain ⟨follower, isFollower, follows⟩ := neighbours_follows world target key
  have leads := neighbours_leads placed target key
  rw [isFollower] at room safe
  rw [isSafe_iff] at safe
  refine ⟨direction, lanes, lanes.idxOf origin, targetIdx, origin, target,
    ⟨origin, (world.vehicles key).position, manoeuvreDistance (world.vehicles key),
      distance_pos⟩, ⟨isLanes, ⟨?_, isOrigin⟩, ⟨isTarget, ?_⟩, ⟨?_, rfl, ?_⟩,
      minGap_le_of_hasRoom leads follows room, ⟨_, leads, safe.1⟩,
      ⟨follower, follows, ?_⟩, permits, ?_⟩⟩
  · exact List.getElem?_idxOf isMem
  · simp [World.beginLaneChange, World.addVehicle, World.setVehicle]
  · simp [World.beginLaneChange, World.addVehicle, World.setVehicle]
  · simp [World.beginLaneChange, World.addVehicle, World.setVehicle]
  · rintro f rfl
    exact safe.2 f rfl
  · intro position inProgress
    have isBefore := Maneuver.lt_of_progress_lt_one inProgress
    have sameLength := network.parallel direction lanes isLanes origin isMem target
      (List.mem_of_getElem? isTarget)
    dsimp only at isBefore
    linarith

end

/-! ### Examples -/

/-- Roots of squares, and powers with a natural exponent. -/
def exact : Elementary ℚ where
  sqrt x := Nat.sqrt x.num.toNat / Nat.sqrt x.den
  pow x y := x ^ y.num.toNat

def defaultModel : Model ℚ where
  settings := ⟨true, 1 / 5, 4, none, false, 3 / 10⟩
  defaultIdm :=
    { maxAcceleration := 2, comfortDeceleration := 2, desiredTimeHeadway := 3 / 2,
      minimumGap := 2, idmDelta := 4, maxDeceleration := 9, positive := by norm_num }

theorem standing_nonneg : (0 : ℚ) ≤ 0 := le_rfl

/-- A car of 4.5 m on a lane of the northern approach. -/
def car (lane : ℕ) (position speed : ℚ) (speed_nonneg : 0 ≤ speed) (turn : TurnIntent) :
    Vehicle ℕ ℚ where
  length := 9 / 2
  length_pos := by norm_num
  desiredSpeed := 13
  params := none
  waitThreshold := 1 / 2
  lane := some lane
  route := [lane, 10 + lane, 20]
  laneChange := none
  position := position
  speed := speed
  speed_nonneg := speed_nonneg
  acceleration := 0
  turnIntent := some turn
  state := .approaching
  waitTime := 0

/-- An approach of some lanes, each 190 m long. -/
def northernApproach (laneCount : ℕ) : Network ℕ ℚ where
  lane _ := ⟨"n_in", "incoming", some .north, 190, by norm_num⟩
  incoming direction := if direction = .north then some (List.range laneCount) else none
  distinct direction lanes isLanes := by
    split at isLanes
    · cases isLanes
      exact List.nodup_range
    · cases isLanes
  parallel _ _ _ _ _ _ _ := rfl
  connection _ index _ := some (10 + index, 20)

/-- The default policy, for some lanes. -/
def defaultLaneUse (laneCount : ℕ) : LaneUse where
  permitted _ index := lanePermittedTurns index laneCount
  permitted_ne_nil direction index := by
    unfold lanePermittedTurns
    split
    all_goals simp

def threeCars (first second third : Vehicle ℕ ℚ) (lane : ℕ) : World ℕ ℕ ℚ where
  vehicles key := if key = 0 then first else if key = 1 then second else third
  registered l := if l = lane then [0, 1] else if l = 0 then [2] else []
  virtualObstacle _ := some ⟨190, 0, 0⟩
  changesStarted := 0
  missedTurns := 0

/-- No number of `random()` is taken. -/
def noDraws : Call → Draws ℚ := fun _ => ⟨0, 0, 0, 0, 0, 0, 0⟩

/-- A through car closes on a stopped one and moves in behind a faster one. -/
def closingIn : World ℕ ℕ ℚ :=
  threeCars (car 1 50 10 (by norm_num) .straight) (car 1 80 0 standing_nonneg .straight)
    (car 0 120 13 (by norm_num) .straight) 1

theorem closingIn_placed : closingIn.Placed (northernApproach 2) where
  onLane lane v _ := by
    simp only [closingIn, threeCars, northernApproach]
    split_ifs
    all_goals norm_num [car]
  atEnd lane obstacle isHeld := by
    cases isHeld
    exact le_rfl

theorem closingIn_safe : ∃ after direction lanes idx targetIdx origin target maneuver,
      SafeChange defaultModel exact noDraws closingIn (northernApproach 2)
        (defaultLaneUse 2) 0 after direction lanes idx targetIdx origin target maneuver :=
  ⟨_, attempt_safe closingIn_placed (Prod.ext (by decide +kernel) rfl :
      attempt defaultModel exact noDraws closingIn (northernApproach 2) (defaultLaneUse 2)
        10 0 0 = (some true, _))⟩

/-- A car that is to turn left, in the last of three lanes, moves into the middle one, from
which no left turn is permitted. -/
theorem leftTurner_intoMiddleLane :
    let world := threeCars (car 2 50 10 (by norm_num) .left) (car 2 20 0 standing_nonneg .straight)
      (car 0 120 13 (by norm_num) .left) 2
    let result := attempt defaultModel exact noDraws world (northernApproach 3)
      (defaultLaneUse 3) 10 0 0
    result.1 = some true ∧ (result.2.vehicles 0).lane = some 1 ∧
      TurnIntent.left ∉ (defaultLaneUse 3).permitted .north 1 ∧
      defaultModel.isAggressive (world.vehicles 0) = false := by
  decide +kernel

end UrbanFlow.LaneChange
