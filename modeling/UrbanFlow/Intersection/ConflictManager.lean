import Mathlib.Data.Finset.Basic
import UrbanFlow.Intersection.ConflictPoints

/-!
# The conflict manager

`ConflictManager` keeps a table of reservations, at most one for each conflict zone.
A vehicle asks for the distance to the nearest zone that blocks it and takes zones
as it may: a vehicle that approaches takes every zone of its path or none, one that
is on the junction takes the free ones as it reaches them.
-/

namespace UrbanFlow.Intersection

def zoneRadius : ℚ := 6

def clearanceTime : ℚ := 2

def stoppedSpeed : ℚ := 1 / 10

def committedDeceleration : ℚ := 9

def longVehicleThreshold : ℚ := 5

def bodyRadius (length : ℚ) : ℚ := max 3 (length / 2 + 1 / 2)

def turnPriority : TurnIntent → Nat
  | .straight => 3
  | .right => 2
  | .left => 1
  | .uturn => 0

/-- `_shares_entry_lane`: two connection lanes fed by one incoming lane, whose ids
agree in their first three parts. -/
def SharesEntryLane (laneIdA laneIdB : String) : Prop :=
  let partsA := laneIdA.toList.splitOn '_'
  let partsB := laneIdB.toList.splitOn '_'
  laneIdA ≠ "" ∧ laneIdB ≠ "" ∧ 3 ≤ partsA.length ∧ 3 ≤ partsB.length ∧
    partsA.take 3 = partsB.take 3

instance (laneIdA laneIdB : String) : Decidable (SharesEntryLane laneIdA laneIdB) := by
  unfold SharesEntryLane
  infer_instance

/-- `Reservation`: who owns a zone, until when, and from which connection lane. -/
structure Reservation where
  vehicleId : String
  clearTime : ℚ
  laneId : String
  deriving DecidableEq

/-- The reservation table. -/
abbrev Reservations := ZoneKey → Option Reservation

/-- What is known of a vehicle on a connection lane; all but its id may be left
out. -/
structure VehicleInfo where
  vehicleId : String
  turnIntent : Option TurnIntent := none
  connectionLaneId : Option String := none
  positionOnLane : Option ℚ := none
  speed : Option ℚ := none
  length : Option ℚ := none

namespace VehicleInfo

def lane (info : VehicleInfo) : String := info.connectionLaneId.getD ""

def position (info : VehicleInfo) : ℚ := info.positionOnLane.getD 0

end VehicleInfo

/-- The arguments of `get_conflict_distance`. -/
structure ConflictQuery where
  vehicleId : String
  vehicleTurnIntent : TurnIntent
  connectionLaneId : String
  vehiclePositionOnLane : ℚ
  currentTime : ℚ
  allVehiclesInfo : Option (List VehicleInfo) := none
  vehicleSpeed : ℚ := 0
  onConnectionLane : Bool := true
  vehicleLength : ℚ := 0

def ConflictQuery.infos (query : ConflictQuery) : List VehicleInfo := query.allVehiclesInfo.getD []

/-- How far along one of its lanes a conflict point lies. -/
def ConflictPoint.distOn (point : ConflictPoint) (laneId : String) : Option ℚ :=
  if laneId = point.laneIdA then some point.distOnA
  else if laneId = point.laneIdB then some point.distOnB
  else none

/-- How far a query's vehicle still is from a conflict point of its lane. -/
def ConflictPoint.remaining (point : ConflictPoint) (query : ConflictQuery) : ℚ :=
  let distToPoint := if query.connectionLaneId = point.laneIdA then point.distOnA else point.distOnB
  distToPoint - query.vehiclePositionOnLane

/-- How a zone stands to a vehicle. -/
inductive Verdict
  | blocked
  | owned
  | shared
  | free
  deriving DecidableEq, Repr

/-- A `ConflictManager`, apart from its reservations. -/
structure ConflictManager extends ConflictZones where
  mergeInPositionOrder : Bool := false
  protectUnstoppableCommitted : Bool := false

namespace ConflictManager

variable (manager : ConflictManager)

section

variable (point : ConflictPoint)

def zoneOccupiedByStalledVehicle (query : ConflictQuery) : Bool := query.infos.any fun info =>
    if info.vehicleId = query.vehicleId then false
    else if info.lane = query.connectionLaneId then false
    else match point.distOn info.lane with
      | none => false
      | some dist =>
        let offset := |dist - info.position|
        let radius := bodyRadius (info.length.getD 0)
        offset ≤ radius || (info.speed.getD 0 ≤ stoppedSpeed && offset ≤ max zoneRadius radius)

def committedLongCrossing (query : ConflictQuery) : Bool := query.infos.any fun info =>
    if info.vehicleId = query.vehicleId then false
    else if info.lane = query.connectionLaneId ∨
        SharesEntryLane info.lane query.connectionLaneId then
      false
    else match point.distOn info.lane with
      | none => false
      | some dist =>
        let length := info.length.getD 0
        let remaining := dist - info.position
        if longVehicleThreshold < query.vehicleLength ∨ longVehicleThreshold < length then
          decide (-bodyRadius length < remaining)
        else if manager.protectUnstoppableCommitted then
          let speed := info.speed.getD 0
          let room := remaining - zoneRadius
          0 < room && room < speed * speed / (2 * committedDeceleration)
        else false

def holderBehindOnMerge (holderId : String) (remaining : ℚ) (query : ConflictQuery) : Bool :=
  match query.infos.find? fun info => info.vehicleId = holderId with
  | none => false
  | some info =>
    match point.distOn info.lane with
    | none => false
    | some dist => remaining < dist - info.position

/-- The loop of `_judge_zone` over the vehicles that converge on an unreserved
zone: one of them goes first. -/
def yieldsTo (query : ConflictQuery) : Bool := query.infos.any fun info =>
    if info.vehicleId = query.vehicleId then false
    else if info.lane = query.connectionLaneId then false
    else match point.distOn info.lane with
      | none => false
      | some dist =>
        let myPriority := turnPriority query.vehicleTurnIntent
        let otherPriority := turnPriority (info.turnIntent.getD .straight)
        let otherRemaining := dist - info.position
        if otherRemaining < -zoneRadius then false
        else myPriority < otherPriority ||
            (otherPriority = myPriority && info.vehicleId < query.vehicleId)

end

def judgeZone (reservations : Reservations) (key : ZoneKey) (point : ConflictPoint)
    (query : ConflictQuery) (remaining : ℚ) : Verdict :=
  let admitting := !query.onConnectionLane
  if zoneOccupiedByStalledVehicle point query then .blocked
  else if admitting && manager.committedLongCrossing point query then .blocked
  else match reservations key with
    | some reservation =>
      if reservation.vehicleId = query.vehicleId then .owned
      else if SharesEntryLane reservation.laneId query.connectionLaneId then .shared
      else if ¬ admitting ∧ manager.mergeInPositionOrder ∧ key ∈ manager.mergeKeys ∧
          holderBehindOnMerge point reservation.vehicleId remaining query then
        .shared
      else .blocked
    | none =>
      if zoneRadius * 2 < remaining then .free
      else if yieldsTo point query then .blocked
      else .free

/-- A zone that was judged. -/
structure Judgement where
  key : ZoneKey
  remaining : ℚ
  verdict : Verdict

/-- The judgement of one zone, unless the vehicle is past it. Every key of a lane
has its conflict point. -/
def judge (reservations : Reservations) (query : ConflictQuery)
    (key : ZoneKey) : Option Judgement :=
  match manager.conflictPoints key with
  | none => none
  | some point =>
    let remaining := point.remaining query
    if remaining < -zoneRadius then none
    else some ⟨key, remaining, manager.judgeZone reservations key point query remaining⟩

section

variable (query : ConflictQuery) (reservations : Reservations) (key : ZoneKey)

def acquire : Reservations := Function.update reservations key
    (some ⟨query.vehicleId, query.currentTime + clearanceTime + 5, query.connectionLaneId⟩)

/-- A reservation of the query's vehicle is given up. -/
def giveUp : Reservations := match reservations key with
  | none => reservations
  | some held =>
    if held.vehicleId = query.vehicleId then Function.update reservations key none
    else reservations

end

/-- The least block distance, with one more zone: only one that lies ahead can
block the way. -/
def nearer (least : WithTop ℚ) (judgement : Judgement) : WithTop ℚ :=
  if judgement.verdict = .blocked ∧ 0 ≤ judgement.remaining then
    min least (max 0 (judgement.remaining - zoneRadius) : ℚ)
  else least

/-- The distance to the nearest zone that blocks the way ahead, `⊤` for none. -/
def blockDistance (judgements : List Judgement) : WithTop ℚ := judgements.foldl nearer ⊤

section

variable (reservations : Reservations)

/-- `get_conflict_distance`, the lane's set of conflict keys being iterated in the
given order. -/
def getConflictDistance (query : ConflictQuery) (order : List ZoneKey) : WithTop ℚ × Reservations :=
  let judgements := order.filterMap (manager.judge reservations query)
  let minBlockDist := blockDistance judgements
  let refusedAt : WithTop ℚ := if minBlockDist = ⊤ then ⊤ else 0
  if query.onConnectionLane then
    let taken := judgements.filter fun judgement =>
      judgement.verdict = .free ∧ judgement.remaining ≤ zoneRadius * 2
    (minBlockDist, (taken.map Judgement.key).foldl (acquire query) reservations)
  else if query.vehicleSpeed ≤ stoppedSpeed then
    (refusedAt, (judgements.map Judgement.key).foldl (giveUp query) reservations)
  else if minBlockDist ≠ ⊤ then (refusedAt, reservations)
  else
    let taken := judgements.filter fun judgement =>
      judgement.verdict = .free ∨ judgement.verdict = .owned
    (minBlockDist, (taken.map Judgement.key).foldl (acquire query) reservations)

def updateReservations (currentTime : ℚ) : Reservations :=
  fun key => (reservations key).filter fun reservation => ¬ reservation.clearTime ≤ currentTime

def releaseVehicle (vehicleId : String) : Reservations :=
  fun key => (reservations key).filter fun reservation => reservation.vehicleId ≠ vehicleId

end

def clearSoon (vehicleId : String) (currentTime : ℚ) (reservations : Reservations)
    (key : ZoneKey) : Reservations :=
  Function.update reservations key ((reservations key).map fun reservation =>
      if reservation.vehicleId = vehicleId then
        { reservation with clearTime := currentTime + clearanceTime }
      else reservation)

/-- `update_reservation_clear_time`, in the given order of the lane's keys. -/
def updateReservationClearTime (reservations : Reservations) (vehicleId : String)
    (currentTime : ℚ) (order : List ZoneKey) : Reservations :=
  order.foldl (clearSoon vehicleId currentTime) reservations

/-- An order in which a lane's set of conflict keys can be iterated. -/
structure IterationOrder (laneId : String) where
  keys : List ZoneKey
  nodup : keys.Nodup
  complete : ∀ key, key ∈ keys ↔ key ∈ manager.laneConflicts laneId

/-- The calls that change the reservation table. -/
inductive Call
  | getConflictDistance (query : ConflictQuery)
      (order : manager.IterationOrder query.connectionLaneId)
  | updateReservations (currentTime : ℚ)
  | updateReservationClearTime (vehicleId connectionLaneId : String) (currentTime : ℚ)
      (order : manager.IterationOrder connectionLaneId)
  | releaseVehicle (vehicleId : String)

variable {manager}

/-- The table after a call. -/
def step (reservations : Reservations) : manager.Call → Reservations
  | .getConflictDistance query order =>
    (manager.getConflictDistance reservations query order.keys).2
  | .updateReservations currentTime => updateReservations reservations currentTime
  | .updateReservationClearTime vehicleId _ currentTime order =>
    updateReservationClearTime reservations vehicleId currentTime order.keys
  | .releaseVehicle vehicleId => releaseVehicle reservations vehicleId

/-- The table after a sequence of calls, from an empty one. -/
def tableAfter (calls : List manager.Call) : Reservations := calls.foldl step fun _ => none

end ConflictManager
end UrbanFlow.Intersection
