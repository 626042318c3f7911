import Mathlib.Data.Finset.Basic
import UrbanFlow.Scenario.Validation
import UrbanFlow.Vehicles.Population

/-!
# The rules of a junction

The rules of `semantic_config_errors` on the lanes, the arms and the vehicle mixes of a
configuration: `vehicle_mix_errors`, `_lane_count_errors` and
`lane_configuration_errors`. A set of turns is a finite set, and an object that lists
approaches is its items. The rules on the width of a ring, the spread of the arms, the
mouths of a roundabout, U-turns and vehicle types are parameters, as is the reading of
a number from a text.
-/

namespace UrbanFlow.Scenario

open StrategyValidator VehiclePopulation

def coreTurns : List TurnIntent := [.left, .straight, .right]

/-- Every turn, in the order of the enumeration. -/
def allTurns : List TurnIntent := [.left, .straight, .right, .uturn]

def turnOrder : TurnIntent → Int
  | .uturn => -1
  | .left => 0
  | .straight => 1
  | .right => 2

/-- `sorted(turns, key=TURN_ORDER.__getitem__)`. -/
def sortedTurns (turns : Finset TurnIntent) : List TurnIntent :=
  [TurnIntent.uturn, .left, .straight, .right].filter (· ∈ turns)

def turnList (turns : Finset TurnIntent) : String :=
  "/".intercalate ((sortedTurns turns).map movement)

def targetDirection (origin : Direction) : TurnIntent → Direction
  | .left =>
    match origin with
    | .north => .east
    | .east => .south
    | .south => .west
    | .west => .north
  | .straight =>
    match origin with
    | .north => .south
    | .east => .west
    | .south => .north
    | .west => .east
  | .right =>
    match origin with
    | .north => .west
    | .east => .north
    | .south => .east
    | .west => .south
  | .uturn => origin

/-- `TurnIntent(str(value).lower())`. -/
def turnNamed : PyValue → Option TurnIntent
  | .str words => allTurns.find? fun turn => (movement turn).toList = pyLower words.toList
  | _ => none

def parseTurns (values : PyValue) : Option (Finset TurnIntent) :=
  values.asSequence.bind fun items => (items.mapM turnNamed).map List.toFinset

/-- `Direction(str(value).lower())`. -/
def namedDirection : PyValue → Option Direction
  | .str words => Direction.all.find? fun direction => direction.value.toList = pyLower words.toList
  | _ => none

/-- The items of `approaches` that name a direction. -/
def namedItems (parent : Fields) : List (Direction × Fields) :=
  ((parent.get "approaches").asList.getD []).filterMap fun item =>
    item.asDict.bind fun fields =>
      (namedDirection (fields.get "direction")).map fun direction => (direction, fields)

/-- The first entry of each approach after others: what `_approach_items` finds. -/
def firstItems (seen : List Direction) : List (Direction × Fields) → List (Direction × Fields)
  | [] => []
  | (direction, item) :: rest =>
    if direction ∈ seen then firstItems seen rest
    else (direction, item) :: firstItems (direction :: seen) rest

/-- The further entries of an approach: what `_approach_items` reports. -/
def repeatErrors (path : String)
    (seen : List Direction) : List (Direction × Fields) → List PyMessage
  | [] => []
  | (direction, _) :: rest =>
    if direction ∈ seen then [.text (path ++ " lists the " ++ direction.value ++
        " approach more than once; give each approach one entry")] ::
        repeatErrors path seen rest
    else repeatErrors path (direction :: seen) rest

/-- `int` of a number: towards zero. -/
def truncate (value : ℚ) : Int := if 0 ≤ value then ⌊value⌋ else ⌈value⌉

section

variable (parseInt : String → Option Int)

/-- `int(value)`, where it does not raise. -/
def intOf : PyValue → Option Int
  | .int value => some value
  | .bool value => some (if value then 1 else 0)
  | .float value => some (truncate value)
  | .str words => parseInt words
  | _ => none

/-- `float(value)`, where it does not raise. -/
def floatOf (parseFloat : String → Option ℚ) : PyValue → Option ℚ
  | .int value => some value
  | .bool value => some (if value then 1 else 0)
  | .float value => some value
  | .str words => parseFloat words
  | _ => none

/-- `lane_counts(resolve_lanes_per_approach(roads))`, where it does not raise. -/
def laneCounts (roads : Fields) : Option (Direction → Int) := do
  let base := (roads.lookup "lanesPerApproach").getD (.int 2)
  let items := ((roads.get "approaches").asList.getD []).filterMap fun item =>
    item.asDict.bind fun fields => if (fields.get "lanes").isNone then none else some fields
  let overrides ← items.mapM fun fields =>
    (intOf parseInt (fields.get "lanes")).map fun count =>
      (namedDirection (fields.get "direction"), count)
  let counts ← Direction.all.mapM fun direction =>
    (intOf parseInt (match base with
        | .dict counts => (counts.lookup direction.value).getD (.int 2)
        | value => value)).map fun count => (direction, count)
  pure fun direction =>
    (overrides.reverse.lookup (some direction)).getD ((counts.lookup direction).getD 0)

end

section

variable (config : Fields)

def configuredArms : Option (List Direction) :=
  ((sectionOf config "geometry").get "arms").asList.map fun names =>
    let found := names.filterMap namedDirection
    Direction.all.filter (· ∈ found)

def presentArms : List Direction := (configuredArms config).getD Direction.all

/-- Whether a configuration is a roundabout. -/
def isRoundabout : Bool :=
  ((sectionOf config "geometry").get "intersectionType").isText "roundabout"

end

def demandedTurns (traffic : Fields) (direction : Direction) : Option (Finset TurnIntent) :=
  let own := (namedItems traffic).reverse.findSome? fun (other, item) =>
    if other = direction then (item.get "turnProbabilities").asDict else none
  (own.or (traffic.get "turnProbabilities").asDict).map fun probabilities =>
    (allTurns.filter fun turn =>
      (probabilities.get (movement turn)).number.any fun share => 0 < share).toFinset

def maxCirculatingLanes : Int := 2

def circulatingLanesOf (config : Fields) (counts : Direction → Int) : Int :=
  match ((sectionOf config "geometry").get "circulatingLanes").number with
  | some value => truncate value
  | none =>
    min (max (max (counts .north) (counts .south))
      (max (counts .east) (counts .west))) maxCirculatingLanes

def entryHomeRingLane (laneIndex entryLanes ringLanes : Int) : Int :=
  if entryLanes ≤ ringLanes then laneIndex + (ringLanes - entryLanes)
  else max 0 (laneIndex - (entryLanes - ringLanes))

/-- Membership in `designated_ring_lanes`. -/
def isDesignated (ringLanes : Int) (turn : TurnIntent) (lane : Int) : Bool :=
  if ringLanes ≤ 1 then lane = 0
  else match turn with
    | .right => lane = ringLanes - 1
    | .straight => 0 ≤ lane && lane < ringLanes
    | .left | .uturn => lane = 0

def ringLaneFor (laneIndex entryLanes ringLanes : Int) (turn : TurnIntent) : Option Int :=
  let home := entryHomeRingLane laneIndex entryLanes ringLanes
  if isDesignated ringLanes turn home then some home
  else
    let lowest := if laneIndex = 0 ∧ entryLanes < ringLanes then 0 else home
    (((List.range (home + 1 - lowest).toNat).map fun (k : Nat) => lowest + k).filter
      (isDesignated ringLanes turn ·)).getLast?

/-- `roundabout_movement_routable`. -/
def isRoutable (origin : Direction) (counts : Direction → Int) (ringLanes : Int) (laneIndex : Nat)
    (turn : TurnIntent) : Bool :=
  0 < counts (targetDirection origin turn) &&
    (ringLaneFor laneIndex (counts origin) ringLanes turn).isSome

def defaultPolicyTurns (laneIndex laneCount : Nat) : Finset TurnIntent :=
  if laneCount ≤ 1 then coreTurns.toFinset
  else (TurnIntent.straight :: ((if laneIndex = 0 then [TurnIntent.left] else []) ++
        if laneIndex = laneCount - 1 then [TurnIntent.right] else [])).toFinset

section

variable (origin : Direction) (counts : Direction → Int)

def defaultSignalLaneUse : List (Finset TurnIntent) :=
  let lanes := (counts origin).toNat
  (List.range lanes).map fun i =>
    (defaultPolicyTurns i lanes).filter fun turn => 0 < counts (targetDirection origin turn)

/-- `default_roundabout_lane_use`: a turn that no lane is left with goes to every lane
that reaches it. -/
def defaultRoundaboutLaneUse (ringLanes : Int) : List (Finset TurnIntent) :=
  let count := (counts origin).toNat
  let lanes := (List.range count).map fun i =>
    (defaultPolicyTurns i count).filter fun turn => isRoutable origin counts ringLanes i turn
  coreTurns.foldl (fun lanes turn =>
      if lanes.any (turn ∈ ·) then lanes
      else lanes.zipIdx.map fun (lane, i) =>
        if isRoutable origin counts ringLanes i turn then insert turn lane else lane)
    lanes

end

/-- What `resolved_lane_use` reads as the configured lane use of an approach. -/
def configuredLaneUse (roads : Fields)
    (direction : Direction) : Option (List (Finset TurnIntent)) :=
  (namedItems roads).reverse.findSome? fun (other, item) =>
    if other = direction then (item.get "laneUse").asList.bind fun lanes => lanes.mapM parseTurns
    else none

/-- `resolved_lane_use`, of one approach. -/
def resolvedLaneUse (config : Fields) (counts : Direction → Int)
    (direction : Direction) : List (Finset TurnIntent) :=
  match configuredLaneUse (sectionOf config "roads") direction with
  | some lanes => lanes
  | none =>
    if isRoundabout config then
      defaultRoundaboutLaneUse direction counts (circulatingLanesOf config counts)
    else if (presentArms config).length < Direction.all.length then
      defaultSignalLaneUse direction counts
    else (List.range (counts direction).toNat).map fun i =>
        defaultPolicyTurns i (counts direction).toNat

/-- Whether the turns of a lane cross those of the lane to its right. -/
def crosses (left right : List Int) : Bool := match left.max?, right.min? with
  | some furthest, some nearest => nearest < furthest
  | _, _ => false

/-- `lane_use_order_errors`, from one lane on. -/
def laneUseOrderErrors (label : String) : Nat → List (Finset TurnIntent) → List PyMessage
  | index, left :: right :: rest =>
    (if crosses ((sortedTurns left).map turnOrder) ((sortedTurns right).map turnOrder) then
      [[.text (label ++ " lanes "), .count (index + 1), .text " and ",
        .count (index + 2), .text " cross: lane ", .count (index + 1),
        .text (" allows " ++ turnList left ++ " but lane "), .count (index + 2),
        .text (", to its right, allows " ++ turnList right ++
          ". Arrange lanes left turn → straight → right turn from the centre " ++
          "line outwards")]]
    else []) ++ laneUseOrderErrors label (index + 1) (right :: rest)
  | _, _ => []

/-- The tolerance of the sums to one. -/
def sumTolerance : ℚ := 1 / 100

def mixErrors (label : PyMessage) (rawMix : Fields) : List PyMessage :=
  let unknown := ((rawMix.map Prod.fst).filter fun key =>
    key ∉ VehicleClass.all.map VehicleClass.value).insertionSort (· ≤ ·)
  let shares := ((mixShares (.dict rawMix)).getD []).map Prod.snd
  let total := shares.sum
  (if unknown = [] then [] else [label ++ [.text " has unknown vehicle classes ",
      .str (.list (unknown.map .str)), .text "; expected some of ",
      .str (.list (VehicleClass.all.map fun vehicle => .str vehicle.value))]]) ++
  (if shares.any (· < 0) then [label ++ [.text " shares must be >= 0"]] else []) ++
  (if ¬ 0 < total then [label ++ [.text " must give at least one class a positive share"]]
  else if sumTolerance < |total - 1| then
    [label ++ [.text " values must sum to 1.0 (±0.01); got ", .general total]]
  else [])

/-- `vehicle_mix_errors`, but for the rules on vehicle types. -/
def vehicleMixErrors (config : Fields) : List PyMessage :=
  (((sectionOf config "traffic").get "approaches").asList.getD []).flatMap (fun item =>
      match item.asDict with
      | none => []
      | some fields =>
        match (fields.get "vehicleMix").asDict with
        | none => []
        | some mix =>
          let name : MessagePart PyValue := match (fields.lookup "direction").getD (.str "?") with
            | .str words => .text (String.ofList (pyLower words.toList))
            | value => .str value
          mixErrors [.text "traffic.approaches[", name, .text "].vehicleMix"] mix) ++
  match ((sectionOf config "vehicleGeneration").get "vehicleMix").asDict with
  | none => []
  | some mix => mixErrors [.text "vehicleGeneration.vehicleMix"] mix

def laneCountErrors (parseInt : String → Option Int) (config : Fields) : List PyMessage :=
  let roads := sectionOf config "roads"
  if roads = [] ∨ isRoundabout config then []
  else match laneCounts parseInt roads with
    | none => []
    | some counts =>
      [(Direction.north, Direction.south), (.east, .west)].flatMap fun (a, b) =>
        if a ∉ presentArms config ∨ b ∉ presentArms config then []
        else if counts a ≠ counts b then [[.text (a.value ++ " and " ++ b.value ++
              " approaches must have the same number of lanes (got "),
            .count (counts a), .text " and ", .count (counts b),
            .text ("): through traffic cannot merge inside the junction in " ++ "this model")]]
        else []

end UrbanFlow.Scenario
