import UrbanFlow.Scenario.JunctionRules

/-!
# The lane configuration of a junction

`lane_configuration_errors`: the arms that exist, their turning shares, lengths, lane
use and bearings, and whether every movement that arrives can be made. The checks stop
where the source stops: at a number of arms that is no junction, at a number of ring
lanes that is none, and at a geometry that cannot be laid out.
-/

namespace UrbanFlow.Scenario

open StrategyValidator VehiclePopulation

structure ArmGeometry where
  direction : Direction
  bearing : ℚ
  lanes : Int
  laneWidth : ℚ
  length : ℚ
  deriving DecidableEq, Repr

def slotBearing : Direction → ℚ
  | .north => 0
  | .east => 90
  | .south => 180
  | .west => 270

def maxSlotDeviation : ℚ := 30

/-- `angle % 360.0`. -/
def modFullCircle (angle : ℚ) : ℚ := angle - 360 * ⌊angle / 360⌋

theorem modFullCircle_eq_of {angle rest : ℚ} (nonnegative : 0 ≤ rest) (belowCircle : rest < 360)
    (turns : ℤ) (isRest : rest = angle - 360 * turns) : modFullCircle angle = rest := by
  have isFloor : ⌊angle / 360⌋ = turns := by
    apply Int.floor_eq_iff.mpr
    constructor
    · rw [le_div_iff₀ (by norm_num)]
      linarith
    · rw [div_lt_iff₀ (by norm_num)]
      linarith
  rw [modFullCircle, isFloor, isRest]

theorem modFullCircle_bounds (angle : ℚ) : 0 ≤ modFullCircle angle ∧ modFullCircle angle < 360 := by
  have below := Int.floor_le (angle / 360)
  have above := Int.lt_floor_add_one (angle / 360)
  rw [le_div_iff₀ (by norm_num)] at below
  rw [div_lt_iff₀ (by norm_num)] at above
  unfold modFullCircle
  constructor <;> linarith

def slotDeviation (direction : Direction) (bearing : ℚ) : ℚ :=
  let deviation := modFullCircle (modFullCircle bearing - slotBearing direction)
  if 180 < deviation then deviation - 360 else deviation

theorem exists_turns (direction : Direction) (bearing : ℚ) : ∃ turns : ℤ,
    bearing = slotBearing direction + slotDeviation direction bearing + 360 * turns := by
  unfold slotDeviation modFullCircle
  dsimp only
  split_ifs
  · refine ⟨⌊bearing / 360⌋ +
      ⌊(bearing - 360 * ⌊bearing / 360⌋ - slotBearing direction) / 360⌋ + 1, ?_⟩
    push_cast
    ring
  · refine ⟨⌊bearing / 360⌋ +
      ⌊(bearing - 360 * ⌊bearing / 360⌋ - slotBearing direction) / 360⌋, ?_⟩
    push_cast
    ring

/-- What the rules rest on beside the configuration: the reading of a number from a
text, and the rules that are parameters here. -/
structure JunctionContext where
  parseInt : String → Option Int
  parseFloat : String → Option ℚ
  ringErrors : Fields → (Direction → Int) → Int → List PyMessage
  spreadErrors : Fields → List ArmGeometry → Bool → List PyMessage
  mouthErrors : List ArmGeometry → ℚ → List PyMessage
  uturnErrors : Fields → Direction → List (Finset TurnIntent) → List PyMessage
  typeErrors : Fields → List PyMessage
  controlErrors : Fields → List String

namespace JunctionContext

variable (context : JunctionContext)

/-- A finite number of an item of `roads.approaches`: the last entry of an approach
decides. -/
def configuredNumber (roads : Fields) (key : String) (direction : Direction) : Option ℚ :=
  ((namedItems roads).reverse.lookup direction).bind fun item => (item.get key).number

/-- `approach_length_for`, where it does not raise. -/
def approachLengthFor (roads : Fields) (direction : Direction) : Option ℚ := do
  let approachLength ← floatOf context.parseFloat
    ((roads.lookup "approachLength").getD (.float 200))
  let own := (namedItems roads).reverse.findSome? fun (other, item) =>
    if other = direction then floatOf context.parseFloat (item.get "length") else none
  pure (own.getD approachLength)

section

variable (config : Fields)

/-- `resolve_junction_geometry`, where it does not raise: the arms that exist. -/
def resolveJunctionGeometry : Option (List ArmGeometry) := do
  let roads := sectionOf config "roads"
  let counts ← laneCounts context.parseInt roads
  let laneWidth ← floatOf context.parseFloat ((roads.lookup "laneWidth").getD (.float (7 / 2)))
  (presentArms config).mapM fun direction => do
    let length ← context.approachLengthFor roads direction
    pure
      { direction := direction
        bearing := modFullCircle
          ((configuredNumber roads "bearing" direction).getD (slotBearing direction))
        lanes := counts direction
        laneWidth := (configuredNumber roads "laneWidth" direction).getD laneWidth
        length := length }

def armList (arms : List Direction) : String := ", ".intercalate (arms.map Direction.value)

def armCountErrors (arms : List Direction) : List PyMessage := if arms.length < 3 then
    [[.text "geometry.arms lists ", .count arms.length,
      .text (" arm(s) (" ++ (if arms = [] then "none" else armList arms) ++
        "): a junction needs 3 or 4 arms. Two arms are a bend in one road, not " ++
        "a junction; give a three-arm (T or Y) or a four-arm junction")]]
  else []

/-- The slack of the comparisons of angles. -/
def angleSlack : ℚ := 1 / 10 ^ 9

/-- The rule of `geometry_errors` on the bearing of an arm. -/
def bearingErrors (arm : ArmGeometry) : List PyMessage :=
  let deviation := slotDeviation arm.direction arm.bearing
  let slot := slotBearing arm.direction
  if maxSlotDeviation + angleSlack < |deviation| then
    [[.text ("roads.approaches[" ++ arm.direction.value ++ "].bearing ("),
      .general arm.bearing, .text "°) is ", .count (roundHalfEven |deviation|),
      .text ("° from the " ++ arm.direction.value ++ " slot ("), .general slot,
      .text ("°). Arms keep their compass order so that left, straight and right " ++
        "keep their meaning, so an arm may lie at most "), .general maxSlotDeviation,
      .text ("° from its slot: give the " ++ arm.direction.value ++
        " arm a bearing from "), .general (modFullCircle (slot - maxSlotDeviation)),
      .text "° to ", .general (modFullCircle (slot + maxSlotDeviation)),
      .text ("°, or describe this road as the arm of the slot it is nearest to")]]
  else []

/-- `geometry_errors`: the first rule that is broken. -/
def geometryErrors (arms : List ArmGeometry) (roundabout : Bool) : List PyMessage :=
  if armCountErrors (arms.map ArmGeometry.direction) ≠ [] then
    armCountErrors (arms.map ArmGeometry.direction)
  else if arms.flatMap bearingErrors ≠ [] then arms.flatMap bearingErrors
  else context.spreadErrors config arms roundabout

variable {context config} in
theorem deviation_le {arms : List ArmGeometry} {roundabout : Bool}
    (accepted : context.geometryErrors config arms roundabout = []) {arm : ArmGeometry}
    (inArms : arm ∈ arms) :
    |slotDeviation arm.direction arm.bearing| ≤ maxSlotDeviation + angleSlack := by
  have noErrors : arms.flatMap bearingErrors = [] := by
    rw [geometryErrors] at accepted
    split at accepted
    · next wrong => exact absurd accepted wrong
    · split at accepted
      · next wrong => exact absurd accepted wrong
      · next passed => exact not_not.mp passed
  have noError := List.flatMap_eq_nil_iff.mp noErrors arm inArms
  by_contra tooFar
  simp [bearingErrors, not_le.mp tooFar] at noError

def junctionGeometryErrors : List PyMessage := match context.resolveJunctionGeometry config with
  | none => []
  | some arms =>
    let errors := context.geometryErrors config arms (isRoundabout config)
    if errors = [] ∧ isRoundabout config then
      match (((sectionOf config "controller").lookup "outerRadius").getD (.float 20)).number with
      | some outer => context.mouthErrors arms outer
      | none => []
    else errors

end

/-- What describes an arm that does not exist. -/
def describedMissing (path : String) (missing : List Direction)
    (items : List (Direction × Fields)) : List PyMessage :=
  items.filterMap fun (direction, _) =>
    if direction ∈ missing then some [.text (path ++ " describes the " ++ direction.value ++
        " approach, but geometry.arms has no " ++ direction.value ++
        " arm; remove that entry or add " ++ direction.value ++ " to geometry.arms")]
    else none

def armErrors (config : Fields) (present : List Direction)
    (roadItems trafficItems : List (Direction × Fields)) : List PyMessage :=
  if configuredArms config = none then []
  else if armCountErrors present ≠ [] then armCountErrors present
  else
    let missing := Direction.all.filter (· ∉ present)
    let names := armList missing
    describedMissing "roads.approaches" missing roadItems ++
      describedMissing "traffic.approaches" missing trafficItems ++
      match ((sectionOf config "traffic").get "directionalSplit").asDict with
      | none =>
        [[.text ("A junction without a " ++ names ++ " arm needs " ++
          "traffic.directionalSplit with a share of 0 for " ++ names ++
          ": without one the spawner would invent random shares for all four " ++
          "slots")]]
      | some split =>
        missing.filterMap fun direction =>
          (split.get direction.value).number.bind fun share =>
            if 0 < share then some [.text ("traffic.directionalSplit gives the " ++
                  direction.value ++ " slot "), .general share,
                .text (" of the traffic, but there is no " ++ direction.value ++
                  " arm; set it to 0")]
            else none

/-- The sum of the turning shares of an approach, when all of them are numbers. -/
def turningSum (probabilities : Fields) : Option ℚ := do
  let parts ← coreTurns.mapM fun turn => (probabilities.get (movement turn)).number
  let uturn ← ((probabilities.lookup (movement .uturn)).getD (.int 0)).number
  pure (parts.sum + uturn)

/-- The rule on the turning shares of an approach. -/
def turningErrors (entry : Direction × Fields) : List PyMessage :=
  match (entry.2.get "turnProbabilities").asDict.bind turningSum with
  | none => []
  | some total =>
    if sumTolerance < |total - 1| then
      [[.text ("traffic.approaches[" ++ entry.1.value ++ "].turnProbabilities " ++
        "must sum to 1.0 (±0.01); got "), .general total]]
    else []

/-- The rule on the length of an approach. -/
def lengthErrors (entry : Direction × Fields) : List PyMessage :=
  match (entry.2.get "length").number with
  | none => []
  | some length =>
    if ¬ (50 < length ∧ length ≤ 1000) then
      [[.text ("roads.approaches[" ++ entry.1.value ++ "].length ("),
        .general length, .text " m) must be more than 50 m and at most 1000 m"]]
    else []

/-- The lane use of an approach, from one lane on: the first lane that is wrong. -/
def readLanes (label : String) : Nat → List PyValue → Except PyMessage (List (Finset TurnIntent))
  | _, [] => .ok []
  | index, entry :: rest =>
    match parseTurns entry with
    | none =>
      .error [.text (label ++ " lane "), .count (index + 1),
        .text (": movements must be some of 'uturn', 'left', 'straight', " ++ "'right'")]
    | some turns =>
      if turns = ∅ then .error [.text (label ++ " lane "), .count (index + 1),
          .text (" allows no movement; every lane must allow at least one of " ++
            "U-turn, left, straight, right")]
      else (readLanes label (index + 1) rest).map (turns :: ·)

/-- The lane use that an entry configures: none where it gives none. -/
def readLaneUse (counts : Direction → Int)
    (entry : Direction × Fields) : Except PyMessage (Option (List (Finset TurnIntent))) :=
  let label := "roads.approaches[" ++ entry.1.value ++ "].laneUse"
  match entry.2.get "laneUse" with
  | .none => .ok none
  | .list lanes =>
    if (lanes.length : Int) ≠ counts entry.1 then
      .error [.text (label ++ " describes "), .count lanes.length,
        .text (" lane(s) but the " ++ entry.1.value ++ " approach has "),
        .count (counts entry.1),
        .text ("; give exactly one movement list per lane, lane 1 next to the " ++
          "centre line first")]
    else (readLanes label 0 lanes).map some
  | _ => .error [.text (label ++ " must be a list with one entry per lane")]

section

variable (counts : Direction → Int) (roadItems : List (Direction × Fields))

/-- The errors of the lane uses. -/
def shapeErrors : List PyMessage := roadItems.filterMap fun entry =>
    match readLaneUse counts entry with
    | .error message => some message
    | .ok _ => none

/-- `configured`: the lane use of an approach, where it gives one that is right. -/
def configuredLanes (direction : Direction) : Option (List (Finset TurnIntent)) :=
  (roadItems.lookup direction).bind fun item =>
    match readLaneUse counts (direction, item) with
    | .ok lanes => lanes
    | .error _ => none

end

/-- A number of ring lanes that is none: the checks stop there. -/
def ringCountError (config : Fields) : Option PyMessage :=
  match (sectionOf config "geometry").get "circulatingLanes" with
  | .none => none
  | value =>
    match value.number with
    | none => some [.text "geometry.circulatingLanes must be a whole number"]
    | some rings =>
      if rings ≠ truncate rings then some [.text "geometry.circulatingLanes must be a whole number"]
      else if truncate rings < 1 then some [.text "geometry.circulatingLanes must be at least 1"]
      else if maxCirculatingLanes < truncate rings then some [.count (truncate rings),
          .text (" circulating lanes are not supported yet: with more than two, " ++
            "a middle lane would carry traffic past an exit that the inner " ++
            "lane leaves by, and that weave has not been validated as " ++
            "collision-free. Use 1 or 2 circulating lanes (approaches may " ++
            "still have 3 lanes; two of them then merge onto the inner ring " ++
            "lane)")]
      else none

/-- The reserved ring lane field that disagrees. -/
def legacyRingErrors (config : Fields) : List PyMessage :=
  match ((sectionOf config "geometry").get "circulatingLanes").number,
      ((sectionOf config "controller").get "circulatingLanes").number with
  | some rings, some legacy =>
    if truncate legacy ≠ truncate rings then
      [[.text "controller.circulatingLanes (", .count (truncate legacy),
        .text ") disagrees with geometry.circulatingLanes (",
        .count (truncate rings),
        .text ("); controller.circulatingLanes is the reserved V1.0 field and " ++
          "has no effect — remove it and set geometry.circulatingLanes")]]
    else []
  | _, _ => []

def roundaboutLaneErrors (direction : Direction) (lanes : List (Finset TurnIntent))
    (counts : Direction → Int) (rings : Int) : List PyMessage :=
  lanes.zipIdx.flatMap fun (turns, i) =>
    (sortedTurns turns).filterMap fun turn =>
      match ringLaneFor i (counts direction) rings turn with
      | some _ => none
      | none =>
        let reason := if rings ≤ 1 ∨ turn = .right then
            "a right turn uses the outer circulating lane, which only the " ++
              "right-hand entry lane feeds"
          else "a " ++ (if turn = .uturn then "U-turn" else "left turn") ++
              " uses the inner circulating lane, which the right-hand entry lane " ++
              "does not feed"
        some [.text ("At the roundabout, " ++ direction.value ++ " lane "),
          .count (i + 1), .text (" cannot turn " ++ movement turn ++ ": on a "),
          .count rings,
          .text ("-lane ring " ++ reason ++ ". Allow it from another lane, or " ++
            "leave the roundabout lane markings automatic")]

/-- The turns that lead to an arm. -/
def possibleTurns (counts : Direction → Int) (direction : Direction) : Finset TurnIntent :=
  (allTurns.filter fun turn => 0 < counts (targetDirection direction turn)).toFinset

/-- What `_movement_errors` finds in a lane. -/
def laneMovementErrors (direction : Direction) (possible : Finset TurnIntent) (names : String)
    (entry : Finset TurnIntent × Nat) : List PyMessage :=
  let impossible := entry.1 \ possible
  if impossible ≠ ∅ then
    [[.text ("The " ++ direction.value ++ " approach's lane "), .count (entry.2 + 1),
      .text (" allows " ++ turnList impossible ++ ", which would leave by the " ++
        ", ".intercalate ((sortedTurns impossible).map fun turn =>
          (targetDirection direction turn).value) ++
        " slot, where this junction has no arm. From " ++ direction.value ++
        " a vehicle can go " ++ names ++ " (or U-turn where allowed)")]]
  else if entry.1 = ∅ then
    [[.text ("The " ++ direction.value ++ " approach's lane "), .count (entry.2 + 1),
      .text (" has no movement under the default lane use once movements into " ++
        "the missing arm are removed; give the " ++ direction.value ++
        " approach explicit lane arrows (it can go " ++ names ++ ")")]]
  else []

section

variable (direction : Direction) (lanes : List (Finset TurnIntent))

def movementErrors (needed : Finset TurnIntent) (counts : Direction → Int)
    (present : List Direction) : List PyMessage :=
  if present.length = Direction.all.length then []
  else
    let possible := possibleTurns counts direction
    let names := turnList (possible ∩ coreTurns.toFinset)
    let wanted := needed \ possible
    lanes.zipIdx.flatMap (laneMovementErrors direction possible names) ++ (if wanted ≠ ∅ then
        [[.text ("The " ++ direction.value ++ " approach has traffic turning " ++
          turnList wanted ++ ", into a slot this junction has no arm in; set that " ++
          "turning share to 0 (from " ++ direction.value ++ " a vehicle can go " ++
          names ++ ")")]]
      else []) ++
      (if possible ∩ coreTurns.toFinset = ∅ then
        [[.text ("The " ++ direction.value ++ " approach has no legal movement: " ++
          "no other arm can be reached from it")]]
      else [])

def signalLaneErrors (counts : Direction → Int) : List PyMessage :=
  laneUseOrderErrors ("The " ++ direction.value ++ " approach's") 0 lanes ++
    [TurnIntent.left, .right].flatMap fun turn =>
      let turning : Nat := (lanes.filter (turn ∈ ·)).length
      let exit := targetDirection direction turn
      if 0 < counts exit ∧ counts exit < turning then
        [[.text ("The " ++ direction.value ++ " approach has "), .count turning,
          .text (" lanes turning " ++ movement turn ++ " but the " ++ exit.value ++
            " road it turns into has only "), .count (counts exit),
          .text " lane(s); each turning lane needs its own receiving lane"]]
      else []

end

/-- What is wrong with the movements of an approach. -/
def approachErrors (config : Fields) (counts : Direction → Int)
    (roadItems : List (Direction × Fields)) (direction : Direction) : List PyMessage :=
  let present := presentArms config
  let configured := configuredLanes counts roadItems direction
  let lanes := configured.getD (resolvedLaneUse config counts direction)
  let isMalformed := configured = none ∧
    (roadItems.lookup direction).any fun item => ¬ (item.get "laneUse").isNone
  let demanded := demandedTurns (sectionOf config "traffic") direction
  let needed := demanded.getD coreTurns.toFinset
  let offered := lanes.foldr (· ∪ ·) ∅
  if isMalformed then []
  else if demanded = none ∧ present.length < Direction.all.length then
    [[.text ("The " ++ direction.value ++ " approach has no turning shares, so " ++
      "drivers would be sent every way, including into the missing arm; set its " ++
      "turning shares")]]
  else if movementErrors direction lanes needed counts present ≠ [] then
    movementErrors direction lanes needed counts present
  else (if needed \ offered ≠ ∅ then
      [[.text ("The " ++ direction.value ++ " approach has traffic turning " ++
        turnList (needed \ offered) ++ " but no lane allows it; allow it in a lane " ++
        "or set its turning share to 0")]]
    else []) ++
    if isRoundabout config then
      roundaboutLaneErrors direction lanes counts (circulatingLanesOf config counts)
    else (if configured = none then [] else signalLaneErrors direction lanes counts) ++
        if lanes.any (TurnIntent.uturn ∈ ·) then context.uturnErrors config direction lanes
        else []

/-- What `lane_configuration_errors` finds where the lanes can be counted. -/
def countedErrors (config : Fields) (counted : Direction → Int) : List PyMessage :=
  let present := presentArms config
  let roadEntries := firstItems [] (namedItems (sectionOf config "roads"))
  let trafficEntries := firstItems [] (namedItems (sectionOf config "traffic"))
  let arms := armErrors config present roadEntries trafficEntries
  let counts : Direction → Int := fun direction =>
    if direction ∈ present then counted direction else 0
  let roadItems := roadEntries.filter fun entry => entry.1 ∈ present
  let trafficItems := trafficEntries.filter fun entry => entry.1 ∈ present
  if present.length < 3 then arms
  else arms ++ trafficItems.flatMap turningErrors ++ roadItems.flatMap lengthErrors ++
      shapeErrors counts roadItems ++
      match ringCountError config with
      | some error => [error]
      | none =>
        legacyRingErrors config ++
        (if isRoundabout config then
          context.ringErrors config counts (circulatingLanesOf config counts)
        else []) ++
        if context.junctionGeometryErrors config ≠ [] then context.junctionGeometryErrors config
        else present.flatMap (context.approachErrors config counts roadItems)

def laneConfigurationErrors (config : Fields) : List PyMessage :=
  repeatErrors "roads.approaches" [] (namedItems (sectionOf config "roads")) ++
    repeatErrors "traffic.approaches" [] (namedItems (sectionOf config "traffic")) ++
    match laneCounts context.parseInt (sectionOf config "roads") with
    | none => []
    | some counts => context.countedErrors config counts

/-- `semantic_config_errors` with the rules of the junction in their place. -/
def contract (base : Contract) : Contract :=
  { base with
    rulesBefore := fun config =>
      base.rulesBefore config ++ (vehicleMixErrors config ++ context.typeErrors config ++
          laneCountErrors context.parseInt config ++
          context.laneConfigurationErrors config).map base.format ++
        context.controlErrors config }

end JunctionContext
end UrbanFlow.Scenario
