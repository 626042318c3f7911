import UrbanFlow.Core.Enums
import UrbanFlow.Core.Text
import UrbanFlow.Library.CarrySchedule
import UrbanFlow.Library.CyclicOrder

/-!
# The fixed-time signal controller

Phase plans, how they are built from a configuration, and the cursor that runs
them. The cursor is the library's carry-over cursor over the plan's positions:
`update` adds the time step and passes every phase whose time is used up.
-/

namespace UrbanFlow

open CarrySchedule CyclicOrder

/-- One phase of the signal cycle. `directions` are the approaches active in
it, `allowedTurns` the movements they are released for. -/
structure Phase where
  name : String
  directions : List Direction
  allowedTurns : List TurnIntent
  duration : ℚ
  color : Color
  deriving DecidableEq, Repr

/-- A phase plan. A controller without phases cannot be stepped, so the plan
carries that it has one. -/
structure Plan where
  phases : List Phase
  nonempty : 0 < phases.length

namespace Plan

instance (plan : Plan) : NeZero plan.phases.length := ⟨Nat.pos_iff_ne_zero.mp plan.nonempty⟩

/-- A position in the plan; the successor `i + 1` wraps at the end. -/
abbrev Idx (plan : Plan) : Type := Fin plan.phases.length

variable (plan : Plan)

/-- `phases[idx]`. -/
def phase (idx : plan.Idx) : Phase := plan.phases.get idx

def duration (idx : plan.Idx) : ℚ := (plan.phase idx).duration

def directions (idx : plan.Idx) : List Direction := (plan.phase idx).directions

def isGreen (idx : plan.Idx) : Bool := (plan.phase idx).color == .green

/-- The position after `idx`. -/
def next (idx : plan.Idx) : plan.Idx := idx + 1

/-- Phases never have a negative duration. -/
def Timed : Prop := ∀ idx, 0 ≤ plan.duration idx

instance : Decidable plan.Timed := inferInstanceAs (Decidable (∀ idx, 0 ≤ plan.duration idx))

end Plan

/-- Where a controller stands in its plan. -/
abbrev PlanCursor (plan : Plan) : Type := Cursor plan.Idx ℚ

/-- The keys of `config["controller"]` the signal controllers read. -/
structure ControllerSection where
  straightRightDuration : Option ℚ := none
  leftDuration : Option ℚ := none
  yellowDuration : Option ℚ := none
  allRedDuration : Option ℚ := none
  greenDuration : Option ℚ := none
  greenTime : Option ℚ := none
  yellowTime : Option ℚ := none
  allRedTime : Option ℚ := none
  nsGreenDuration : Option ℚ := none
  ewGreenDuration : Option ℚ := none
  phaseSequence : List String := []
  offset : ℚ := 0

/-- The durations a plan is built with. `uturn` is what the left turns are
joined by: `[.uturn]` where some lane carries U-turns, else nothing. -/
structure SignalTimings where
  straightRightDuration : ℚ
  leftDuration : ℚ
  yellowDuration : ℚ
  allRedDuration : ℚ
  nsGreenDuration : Option ℚ
  ewGreenDuration : Option ℚ
  uturn : List TurnIntent

/-- A duration under its own key, else under the last legacy key present, else
its default. -/
def resolveDuration (own : Option ℚ) (legacy : List (Option ℚ)) (fallback : ℚ) : ℚ := match own with
  | some value => value
  | none => legacy.foldl (fun value key => key.getD value) fallback

/-- The durations `FixedTimeSignalController.__init__` resolves. -/
def ControllerSection.timings (ctrl : ControllerSection)
    (uturn : List TurnIntent) : SignalTimings where
  straightRightDuration :=
    resolveDuration ctrl.straightRightDuration [ctrl.greenDuration, ctrl.greenTime] 30
  leftDuration := resolveDuration ctrl.leftDuration [] 5
  yellowDuration := resolveDuration ctrl.yellowDuration [ctrl.yellowTime] 4
  allRedDuration := resolveDuration ctrl.allRedDuration [ctrl.allRedTime] 2
  nsGreenDuration := ctrl.nsGreenDuration
  ewGreenDuration := ctrl.ewGreenDuration
  uturn := uturn

section

variable (timings : SignalTimings)

/-- `_green_duration_for`: the corridor's own green when configured. -/
def SignalTimings.greenDurationFor (directions : List Direction) : ℚ := match directions with
  | [] => timings.straightRightDuration
  | direction :: _ =>
    let override := if direction = .north ∨ direction = .south then timings.nsGreenDuration
      else timings.ewGreenDuration
    override.getD timings.straightRightDuration

/-- The all-red clearance phase. -/
def SignalTimings.allRed : Phase where
  name := "all_red"
  directions := []
  allowedTurns := []
  duration := timings.allRedDuration
  color := .red

/-- The four phases of one direction in the default cycle. -/
def SignalTimings.directionPhases (direction : Direction) : List Phase :=
  [{ name := direction.value ++ "_straight_right"
     directions := [direction]
     allowedTurns := [.straight, .right]
     duration := timings.greenDurationFor [direction]
     color := .green },
   { name := direction.value ++ "_left"
     directions := [direction]
     allowedTurns := .left :: timings.uturn
     duration := timings.leftDuration
     color := .green },
   { name := direction.value ++ "_yellow"
     directions := [direction]
     allowedTurns := [.left, .straight, .right] ++ timings.uturn
     duration := timings.yellowDuration
     color := .yellow },
   timings.allRed]

end

/-- What one entry of a `phaseSequence` names. -/
inductive PhaseName
  | allRed
  | group (directions : List Direction) (isGreen : Bool)
  deriving DecidableEq, Repr

def groupToDirections (group : List Char) : Option (List Direction) :=
  if group = ['n'] then some [.north]
  else if group = ['s'] then some [.south]
  else if group = ['e'] then some [.east]
  else if group = ['w'] then some [.west]
  else if group = ['n', 's'] ∨ group = ['s', 'n'] then some [.north, .south]
  else if group = ['e', 'w'] ∨ group = ['w', 'e'] then some [.east, .west]
  else none

/-- Reads a `phaseSequence` entry; `none` where the source raises. -/
def parsePhaseName (rawName : String) : Option PhaseName :=
  let name := pyLower (pyStrip rawName.toList)
  if name = "all_red".toList then some .allRed
  else match pyRpartition '_' name with
    | none => none
    | some (group, color) =>
      match groupToDirections group with
      | none => none
      | some directions =>
        if color = "green".toList then some (.group directions true)
        else if color = "yellow".toList then some (.group directions false)
        else none

/-- The phase a `phaseSequence` entry stands for. -/
def SignalTimings.namedPhase (timings : SignalTimings) (rawName : String) : PhaseName → Phase
  | .allRed => timings.allRed
  | .group directions isGreen =>
    { name := rawName
      directions := directions
      allowedTurns := [.left, .straight, .right] ++ timings.uturn
      duration := if isGreen then timings.greenDurationFor directions else timings.yellowDuration
      color := if isGreen then .green else .yellow }

/-- The message of the `ValueError` for an entry that names no phase. -/
def unsupportedEntry (rawName : String) : List (MessagePart String) :=
  [.text "Unsupported phaseSequence entry ", .repr rawName,
   .text "; expected '<n|s|e|w|ns|ew>_<green|yellow>' or 'all_red'"]

def SignalTimings.buildPhaseSequenceFromNames (timings : SignalTimings) :
    List String → Except (List (MessagePart String)) (List Phase)
  | [] => .ok []
  | rawName :: names =>
    match parsePhaseName rawName with
    | none => .error (unsupportedEntry rawName)
    | some name =>
      match timings.buildPhaseSequenceFromNames names with
      | .error message => .error message
      | .ok phases => .ok (timings.namedPhase rawName name :: phases)

/-- `_build_phase_sequence`: a configured sequence, else one direction at a
time in the given order. -/
def SignalTimings.buildPhaseSequence (timings : SignalTimings) (directionOrder : List Direction)
    (phaseSequence : List String) : Except (List (MessagePart String)) (List Phase) :=
  if phaseSequence = [] then .ok (directionOrder.flatMap timings.directionPhases)
  else timings.buildPhaseSequenceFromNames phaseSequence

namespace FixedTimeSignalController

variable {plan : Plan}

def currentPhase (cursor : PlanCursor plan) : Phase := plan.phase cursor.currentPhaseIdx

def phaseTimeRemaining (cursor : PlanCursor plan) : ℚ :=
  max 0 (plan.duration cursor.currentPhaseIdx - cursor.timeInCurrentState)

/-- `update`: at most one pass through the plan. -/
def update (deltaTime : ℚ) (cursor : PlanCursor plan) : PlanCursor plan :=
  Cursor.roll plan.duration plan.next plan.phases.length { cursor with
      timeInCurrentState := cursor.timeInCurrentState + deltaTime }

/-- The loop of `_advance_by`, run `fuel` times at most. -/
def advanceByLoop : Nat → ℚ → PlanCursor plan → PlanCursor plan
  | 0, _, cursor => cursor
  | fuel + 1, remaining, cursor =>
    if 0 < remaining then
      let timeLeft := plan.duration cursor.currentPhaseIdx - cursor.timeInCurrentState
      if remaining < timeLeft then
        { cursor with
          timeInCurrentState := cursor.timeInCurrentState + remaining }
      else
        let following := plan.next cursor.currentPhaseIdx
        advanceByLoop fuel (remaining - timeLeft)
          { currentPhaseIdx := following
            timeInCurrentState := 0
            cycleNumber := if following < cursor.currentPhaseIdx then cursor.cycleNumber + 1
              else cursor.cycleNumber }
    else cursor

section

variable (plan : Plan)

def atStart : PlanCursor plan where
  currentPhaseIdx := 0
  timeInCurrentState := 0
  cycleNumber := 0

/-- Length of one cycle. -/
def cycleDuration : ℚ := (plan.phases.map Phase.duration).sum

/-- `reset`: the start of the plan, moved by the offset within one cycle. A
seconds value below one cycle uses up at most every phase once. -/
def reset (offset : ℚ) : PlanCursor plan :=
  let total := cycleDuration plan
  if offset ≠ 0 ∧ 0 < total then
    advanceByLoop (plan.phases.length + 1) (offset - total * ⌊offset / total⌋) (atStart plan)
  else atStart plan

end

end FixedTimeSignalController

/-- The plan's order is the successor, so `n` steps are once around. -/
theorem Plan.iterate_next {plan : Plan} (idx : plan.Idx) (k : Nat) :
    plan.next^[k] idx = ahead idx k :=
  iterate_succ_eq_ahead idx k

/-- What is left of the plan before a position with the property shrinks by each
phase passed. -/
theorem Plan.spent_gap {plan : Plan} {p : plan.Idx → Bool} {idx found : plan.Idx}
    (absent : p idx = false) (holds : p found = true) :
    spent plan.duration plan.next idx (gap p idx) = plan.duration idx +
        spent plan.duration plan.next (plan.next idx) (gap p (plan.next idx)) := by
  rw [← gap_succ absent holds, spent_succ']
  rfl

/-- The time shown of a phase is within its duration, or the phase has just
been entered. -/
structure WellTimed {plan : Plan} (cursor : PlanCursor plan) : Prop where
  nonnegative : 0 ≤ cursor.timeInCurrentState
  within : cursor.timeInCurrentState < plan.duration cursor.currentPhaseIdx ∨
    cursor.timeInCurrentState = 0

theorem advanceByLoop_wellTimed {plan : Plan} (fuel : Nat) (remaining : ℚ)
    {cursor : PlanCursor plan} (well : WellTimed cursor) :
    WellTimed (FixedTimeSignalController.advanceByLoop fuel remaining cursor) := by
  induction fuel generalizing remaining cursor with
  | zero => exact well
  | succ _ ih =>
    dsimp only [FixedTimeSignalController.advanceByLoop]
    split
    · next positive =>
        split
        · next inside =>
            have nonnegative := well.nonnegative
            refine ⟨?_, .inl ?_⟩
            · dsimp only
              linarith
            · dsimp only
              linarith
        · exact ih _ ⟨le_refl 0, .inr rfl⟩
    · exact well

theorem reset_wellTimed (plan : Plan) (offset : ℚ) :
    WellTimed (FixedTimeSignalController.reset plan offset) := by
  have atStart : WellTimed (FixedTimeSignalController.atStart plan) := ⟨le_refl 0, .inr rfl⟩
  dsimp only [FixedTimeSignalController.reset]
  split
  · exact advanceByLoop_wellTimed _ _ atStart
  · exact atStart

/-- `_lane_turn_intent`: the policy by lane index. -/
def laneTurnIntent (laneIndex totalLanes : Nat) : List TurnIntent :=
  if totalLanes ≤ 1 then [.left, .straight, .right]
  else if totalLanes = 2 then if laneIndex = 0 then [.left] else [.straight, .right]
  else if laneIndex = 0 then [.left]
  else if laneIndex + 1 = totalLanes then [.right]
  else [.straight]

/-- `_lane_turns`: the lane's configured arrows, else the policy. -/
def laneTurns (configured : Option (List TurnIntent))
    (laneIndex totalLanes : Nat) : List TurnIntent :=
  match configured with
  | some (turn :: turns) => [TurnIntent.left, .straight, .right, .uturn].filter (· ∈ turn :: turns)
  | _ => laneTurnIntent laneIndex totalLanes

end UrbanFlow
