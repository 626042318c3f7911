import UrbanFlow.Scenario.LaneConfiguration

/-!
# The builder's own checks

`localIssues` of the frontend: the checks the builder makes on a document before it asks
the server. They are written a second time there, over the document itself.
-/

namespace UrbanFlow.Scenario
namespace Builder

inductive Strategy
  | fixedTime
  | adaptive
  | roundabout
  deriving DecidableEq, Repr

/-- The name of a strategy. -/
def Strategy.value : Strategy → String
  | fixedTime => "fixed_time"
  | adaptive => "adaptive"
  | roundabout => "roundabout"

/-- `APPROACHES`, clockwise. -/
def approachNames : List Direction := [.north, .east, .south, .west]

def movements : List TurnIntent := [.uturn, .left, .straight, .right]

def coreMovements : List TurnIntent := [.left, .straight, .right]

def opposite : Direction → Direction
  | .north => .south
  | .south => .north
  | .east => .west
  | .west => .east

def order : TurnIntent → Int
  | .uturn => -1
  | .left => 0
  | .straight => 1
  | .right => 2

/-- Where an issue is shown. -/
inductive IssuePlace
  | approach (name : Direction)
  | vehicles
  | simulation
  | junction
  deriving DecidableEq, Repr

inductive IssuePart
  | text (words : String)
  | number (value : ℚ)
  | percent (share : ℚ)
  deriving DecidableEq, Repr

structure LocalIssue where
  place : IssuePlace
  message : List IssuePart
  deriving DecidableEq, Repr

section

variable (doc : ScenarioDocument)

def presentArms : List (Direction × ApproachSpec) := approachNames.filterMap fun name =>
    (doc.approaches.arm name).map fun arm => (name, arm)

def totalVph : ℚ := ((presentArms doc).map fun entry => entry.2.vehiclesPerHour).sum

/-- The remainder of a division, of the sign of the dividend. -/
def remainder (value divisor : ℚ) : ℚ := value - divisor * truncate (value / divisor)

def slotDeviation (name : Direction) (bearing : ℚ) : ℚ :=
  let deviation := remainder (remainder (bearing - slotBearing name) 360 + 360) 360
  if 180 < deviation then deviation - 360 else deviation

def movementTarget (name : Direction) (turn : TurnIntent) : Direction :=
  let step := match turn with
    | .uturn => 0
    | .left => 1
    | .straight => 2
    | .right => 3
  approachNames.getD ((approachNames.idxOf name + step) % 4) name

def possibleMovements (name : Direction) : List TurnIntent := movements.filter fun turn =>
    (doc.approaches.arm (movementTarget name turn)).isSome

end

def defaultLaneUse (lanes : Nat) : List (List TurnIntent) := if lanes ≤ 1 then [coreMovements] else
    (List.range lanes).map fun i =>
      (if i = 0 then [TurnIntent.left] else []) ++ [.straight] ++
        if i = lanes - 1 then [.right] else []

def signalLaneUse (arm : ApproachSpec) (possible : List TurnIntent) : List (List TurnIntent) :=
  let default := (defaultLaneUse arm.lanes).map fun lane => lane.filter (· ∈ possible)
  match arm.laneUse with
  | none => default
  | some lanes => if lanes.length = arm.lanes then lanes else default

def mixTotal : Option Mix → ℚ
  | none => 1
  | some mix => (mix.shares.map Prod.snd).sum

def turningTotal (turning : Turning) : ℚ :=
  turning.left + turning.straight + turning.right + turning.uturn.getD 0

def turningShare (turning : Turning) : TurnIntent → ℚ
  | .uturn => turning.uturn.getD 0
  | .left => turning.left
  | .straight => turning.straight
  | .right => turning.right

def tolerance : ℚ := 1 / 100

/-- `Math.round`. -/
def mathRound (value : ℚ) : ℚ := ⌊value + 1 / 2⌋

section

variable (doc : ScenarioDocument)

/-- The issues of the junction as a whole. -/
def junctionIssues : List LocalIssue :=
  let arms := presentArms doc
  (if 0 < totalVph doc then []
    else [⟨.junction, [.text ("Every road has 0 vehicles per hour — give at " ++
      "least one some traffic.")]⟩]) ++
  (if tolerance < |mixTotal doc.vehicles.mix - 1| then
    [⟨.vehicles, [.text "The vehicle mix adds up to ",
      .percent (mixTotal doc.vehicles.mix), .text "; it must total 100%."]⟩]
  else []) ++
  (if doc.simulation.duration ≤ doc.simulation.warmup then
    [⟨.simulation, [.text ("The warm-up must be shorter than the run, or nothing " ++
      "is measured.")]⟩]
  else []) ++
  (if arms.length < 3 then
    [⟨.junction, [.text "A junction needs 3 or 4 arms; this one has ", .number arms.length,
      .text ". Two arms are a bend in one road, not a junction."]⟩]
  else [])

def bearingIssue (name : Direction) (bearing : ℚ) : LocalIssue :=
  ⟨.approach name, [.text "Bearing ", .number bearing, .text "° is ",
    .number (mathRound |slotDeviation name bearing|),
    .text ("° from the " ++ name.value ++ " slot ("), .number (slotBearing name),
    .text "°); an arm may lie at most ", .number maxSlotDeviation,
    .text "° from its slot."]⟩

section

variable (name : Direction) (arm : ApproachSpec)

/-- The issues of the bearing of an arm. -/
def bearingIssues : List LocalIssue := match arm.bearing with
  | none => []
  | some bearing =>
    if maxSlotDeviation < |slotDeviation name bearing| then [bearingIssue name bearing]
    else []

/-- The traffic of an arm that turns into a slot without a road. -/
def targetIssues : List LocalIssue := movements.filterMap fun turn =>
    if 0 < turningShare arm.turning turn ∧ doc.approaches.arm (movementTarget name turn) = none then
      some ⟨.approach name, [.percent (turningShare arm.turning turn),
        .text (" of this road's traffic turns " ++ movement turn ++ ", into the " ++
          (movementTarget name turn).value ++
          " slot, which has no road; set it to 0.")]⟩
    else none

/-- The issues of the sums of an arm. -/
def sumIssues : List LocalIssue := (if tolerance < |turningTotal arm.turning - 1| then
    [⟨.approach name, [.text "Turning shares add up to ",
      .percent (turningTotal arm.turning), .text "; they must total 100%."]⟩]
  else []) ++
  if arm.vehicleMix.isSome ∧ tolerance < |mixTotal arm.vehicleMix - 1| then
    [⟨.approach name, [.text "This road's own vehicle mix adds up to ",
      .percent (mixTotal arm.vehicleMix), .text "; it must total 100%."]⟩]
  else []

end

def crossingIssues (name : Direction) : Nat → List (List TurnIntent) → List LocalIssue
  | index, left :: right :: rest =>
    (if crosses (left.map order) (right.map order) then
      [⟨.approach name, [.text "Lanes ", .number (index + 1 : Nat), .text " and ",
        .number (index + 2 : Nat),
        .text (" cross: arrange arrows U-turn → left → straight → right from the " ++
          "centre line.")]⟩]
    else []) ++ crossingIssues name (index + 1) (right :: rest)
  | _, _ => []

def signalIssues (name : Direction) (arm : ApproachSpec) : List LocalIssue :=
  let use := signalLaneUse arm (possibleMovements doc name)
  (match doc.approaches.arm (opposite name) with
    | none => []
    | some other =>
      if arm.lanes ≠ other.lanes ∧ (name = .north ∨ name = .east) then
        [⟨.approach name, [.text ("A signal needs the same number of lanes on " ++
            name.value ++ " and " ++ (opposite name).value ++
            " (through traffic cannot merge inside the junction); they have "),
          .number arm.lanes, .text " and ", .number other.lanes, .text "."]⟩]
      else []) ++
  (use.zipIdx.filterMap fun (lane, i) =>
    if lane = [] then
      some ⟨.approach name, [.text "Lane ", .number (i + 1 : Nat), .text " allows no movement."]⟩
    else none) ++
  crossingIssues name 0 use ++
  movements.filterMap fun turn =>
    if 0 < turningShare arm.turning turn ∧ ∀ lane ∈ use, turn ∉ lane then
      some ⟨.approach name, [.percent (turningShare arm.turning turn),
        .text (" of this road's traffic turns " ++ movement turn ++ ", but no lane allows it.")]⟩
    else none

def armIssues (signal : Bool) (entry : Direction × ApproachSpec) : List LocalIssue :=
  let (name, arm) := entry
  bearingIssues name arm ++ targetIssues doc name arm ++ sumIssues name arm ++
    if signal then signalIssues doc name arm else []

def localIssues (strategies : List Strategy) : List LocalIssue :=
  let signal := strategies.any (· ≠ .roundabout)
  junctionIssues doc ++ (presentArms doc).flatMap (armIssues doc signal)

end

end Builder
end UrbanFlow.Scenario
