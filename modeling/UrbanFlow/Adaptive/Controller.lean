import UrbanFlow.Adaptive.Stages
import UrbanFlow.Library.Machine
import UrbanFlow.Signals.Detection

/-!
# The adaptive signal controller

The phase plan of the fixed-time controller, with greens that end when detected
traffic says so. The current phase and its clock are the plan's cursor; the
rest of the state is the timers, the pending target and the counters.
-/

namespace UrbanFlow

open CarrySchedule CyclicOrder

/-- `controller.adaptive` as configured. -/
structure AdaptiveSection where
  minGreen : Option ℚ := none
  maxGreen : Option ℚ := none
  extensionStep : Option ℚ := none
  detectionDistance : Option ℚ := none
  demandThreshold : Option Nat := none

/-- The resolved settings. The constructor rejects a maximum green that is not
above the minimum. -/
structure AdaptiveSettings where
  minGreen : ℚ
  maxGreen : ℚ
  extensionStep : ℚ
  detectionDistance : ℚ
  demandThreshold : Nat
  ordered : minGreen < maxGreen

/-- `resolve_adaptive_settings` and the constructor's check. -/
def resolveAdaptiveSettings (raw : AdaptiveSection) : Except Message AdaptiveSettings :=
  let minGreen := raw.minGreen.getD 10
  let maxGreen := raw.maxGreen.getD 50
  if ordered : minGreen < maxGreen then
    .ok { minGreen, maxGreen, ordered
          extensionStep := raw.extensionStep.getD (5 / 2)
          detectionDistance := raw.detectionDistance.getD 30
          demandThreshold := raw.demandThreshold.getD 1 }
  else .error [.text "adaptive maxGreen must be greater than minGreen"]

/-- An adaptive signal at a junction: its staged plan, its settings and the
junction's lanes. -/
structure AdaptiveSignal (plan : Plan) extends AdaptivePlan plan where
  settings : AdaptiveSettings
  lanes : JunctionLanes

/-- What the controller reports of itself. -/
inductive AdaptiveStatus
  | minGreen
  | extending
  | resting
  | clearance
  deriving DecidableEq, Repr

/-- Why a green was ended. -/
inductive GreenDecision
  | gapOut
  | maxOut
  deriving DecidableEq, Repr

structure DecisionRow where
  time : ℚ
  phase : String
  decision : GreenDecision
  greenSeconds : ℚ
  next : String
  waiting : Nat
  deriving DecidableEq, Repr

/-- State of an `AdaptiveSignalController`. -/
structure AdaptiveController (plan : Plan) where
  base : PlanCursor plan
  clock : ℚ := 0
  gapTimer : ℚ := 0
  maxTimerStart : Option ℚ := none
  target : Option plan.Idx := none
  extended : Bool := false
  status : AdaptiveStatus := .minGreen
  servedCount : Nat := 0
  calls : List (plan.Idx × Nat) := []
  detected : Direction → Nat := fun _ => 0
  gapOuts : Nat := 0
  maxOuts : Nat := 0
  greensStarted : Nat := 1
  greensExtended : Nat := 0
  phasesSkipped : Nat := 0
  restSeconds : ℚ := 0
  recentDecisions : List DecisionRow := []

namespace AdaptiveController

variable {plan : Plan}

/-- `reset`: the start of the plan, whatever offset is configured. -/
def reset (plan : Plan) : AdaptiveController plan where
  base := FixedTimeSignalController.atStart plan

/-- The phase shown. -/
def index (s : AdaptiveController plan) : plan.Idx := s.base.currentPhaseIdx

/-- How long the phase has been shown. -/
def time (s : AdaptiveController plan) : ℚ := s.base.timeInCurrentState

/-- The clock of the phase shown, set. -/
def setTime (time : ℚ) (s : AdaptiveController plan) : AdaptiveController plan :=
  { s with base := { s.base with timeInCurrentState := time } }

/-- `_order_after`: the green phases in plan order after `idx`. -/
def orderAfter (idx : plan.Idx) : List plan.Idx := (walk idx).tail.filter plan.isGreen

section

variable (signal : AdaptiveSignal plan)

/-- The greens with enough calls, and their calls. -/
def waiting (observation : Observation plan) : List (plan.Idx × Nat) :=
  observation.calls.filter fun call => decide (signal.settings.demandThreshold ≤ call.2)

def enterGreen (idx : plan.Idx) (s : AdaptiveController plan) : AdaptiveController plan :=
  { s with
    base :=
      { currentPhaseIdx := idx
        timeInCurrentState := 0
        cycleNumber := if idx ≤ s.index then s.base.cycleNumber + 1
          else s.base.cycleNumber }
    gapTimer := 0
    maxTimerStart := none
    extended := false
    status := .minGreen
    greensStarted := s.greensStarted + 1 }

/-- The greens of the stage of `idx` that the plan numbers after it. -/
def laterInStage (idx : plan.Idx) : List plan.Idx := (signal.stageOf idx).greens.filter (idx < ·)

section

variable (reason : GreenDecision)

def decisionRow (target : plan.Idx) (count : Nat) (s : AdaptiveController plan) : DecisionRow where
  time := pyRound s.clock 1
  phase := (plan.phase s.index).name
  decision := reason
  greenSeconds := pyRound s.time 1
  next := (plan.phase target).name
  waiting := count

/-- The count of a decision and its row, the last twelve kept. -/
def record (row : DecisionRow) (s : AdaptiveController plan) : AdaptiveController plan :=
  { s with
    gapOuts := if reason = .gapOut then s.gapOuts + 1 else s.gapOuts
    maxOuts := if reason = .maxOut then s.maxOuts + 1 else s.maxOuts
    recentDecisions :=
      (s.recentDecisions ++ [row]).drop (s.recentDecisions.length + 1 - 12) }

/-- `_terminate`. The waiting phases are greens other than the current one, so
the search for the next of them succeeds. -/
def terminate (calling : List (plan.Idx × Nat))
    (s : AdaptiveController plan) : AdaptiveController plan :=
  match (orderAfter s.index).find? (· ∈ calling.map Prod.fst) with
  | none => s
  | some target =>
    let later := laterInStage signal s.index
    let count := ((calling.find? (·.1 = target)).map Prod.snd).getD 0
    let recorded := s.record reason (s.decisionRow reason target count)
    if target ∈ later then
      enterGreen target { recorded with
          phasesSkipped := s.phasesSkipped + later.idxOf target }
    else
      { recorded with
        phasesSkipped := s.phasesSkipped + later.length
        target := some target
        base :=
          { s.base with
            currentPhaseIdx := (signal.stageOf s.index).clearances.headD s.index
            timeInCurrentState := 0 }
        status := .clearance }

end

end

/-- Greens of the stages passed over, from stage `number` to stage `goal`. -/
def stagesSkipped (signal : AdaptiveSignal plan) (goal : Nat) : Nat → Nat → Nat
  | 0, _ => 0
  | fuel + 1, number =>
    if number = goal then 0
    else (signal.stages.getD number ⟨[], []⟩).greens.length +
        stagesSkipped signal goal fuel ((number + 1) % signal.stages.length)

/-- `_after_clearance`: the stage's next clearance phase, or the green the
signal is heading for. -/
def afterClearance (signal : AdaptiveSignal plan)
    (s : AdaptiveController plan) : AdaptiveController plan :=
  let stage := signal.stageOf s.index
  let pos := stage.clearances.idxOf s.index
  match stage.clearances[pos + 1]? with
  | some following =>
    { s with
      base := { s.base with currentPhaseIdx := following }
      status := .clearance }
  | none =>
    match s.target.or (orderAfter s.index).head? with
    | none => s
    | some target =>
      let skipped := stagesSkipped signal (signal.stageIndex target) signal.stages.length
        ((signal.stageIndex s.index + 1) % signal.stages.length) +
          (signal.stageOf target).greens.idxOf target
      (enterGreen target { s with
          target := none
          phasesSkipped := s.phasesSkipped + skipped }).setTime s.time

/-- The loop of `update` over clearance phases whose time is used up. -/
def passClearances (signal : AdaptiveSignal plan) :
    Nat → AdaptiveController plan → AdaptiveController plan
  | 0, s => s
  | fuel + 1, s =>
    if plan.isGreen s.index = false ∧ plan.duration s.index ≤ s.time then passClearances signal fuel
        (afterClearance signal (s.setTime (s.time - plan.duration s.index)))
    else s

/-- Whether the green shown is over, and why. -/
def greenOver (signal : AdaptiveSignal plan) (calling : List (plan.Idx × Nat))
    (s : AdaptiveController plan) : Option GreenDecision :=
  if s.time < signal.settings.minGreen ∨ calling = [] then none
  else if signal.settings.extensionStep ≤ s.gapTimer then some .gapOut
  else if signal.settings.maxGreen ≤ s.time - s.maxTimerStart.getD 0 then some .maxOut
  else none

section

variable (signal : AdaptiveSignal plan) (deltaTime : ℚ) (observation : Observation plan)
  (s : AdaptiveController plan)

/-- The part of `_update_green` before its decision: what is detected, and the
timers. -/
def observeGreen : AdaptiveController plan :=
  { s with
    detected := observation.perDirection
    servedCount := observation.served
    calls := observation.calls
    gapTimer := if 0 < observation.passing then 0 else s.gapTimer + deltaTime
    maxTimerStart := if waiting signal observation ≠ [] ∧ s.maxTimerStart = none then
        some (max 0 (s.time - deltaTime))
      else s.maxTimerStart }

/-- How a green that goes on is reported. -/
def goOn : AdaptiveController plan :=
  if s.time < signal.settings.minGreen then { s with status := .minGreen }
  else if waiting signal observation = [] then
    { s with
      status := if 0 < observation.passing then .extending else .resting
      restSeconds := if 0 < observation.passing then s.restSeconds
        else s.restSeconds + deltaTime }
  else
    { s with
      status := .extending
      extended := true
      greensExtended :=
        if s.extended then s.greensExtended else s.greensExtended + 1 }

def updateGreen : AdaptiveController plan :=
  let observed := s.observeGreen signal deltaTime observation
  match greenOver signal (waiting signal observation) observed with
  | some reason => terminate signal reason (waiting signal observation) observed
  | none => observed.goOn signal deltaTime observation

end

/-- What the detectors see while phase `idx` is shown. -/
def observe (signal : AdaptiveSignal plan) (traffic : LaneTraffic)
    (idx : plan.Idx) : Observation plan :=
  StopLineDetection.observe plan signal.lanes signal.settings.detectionDistance traffic idx

def update (signal : AdaptiveSignal plan) (deltaTime : ℚ) (traffic : LaneTraffic)
    (s : AdaptiveController plan) : AdaptiveController plan :=
  let ticked : AdaptiveController plan :=
    { s with
      clock := s.clock + deltaTime
      base :=
        { s.base with
          timeInCurrentState := s.base.timeInCurrentState + deltaTime } }
  if plan.isGreen ticked.index then
    ticked.updateGreen signal deltaTime (observe signal traffic ticked.index)
  else if plan.duration ticked.index ≤ ticked.time then
    passClearances signal plan.phases.length ticked
  else { ticked with status := .clearance }

end AdaptiveController

/-- One tick's input: the time step and the vehicles on the lanes. -/
structure AdaptiveTick where
  deltaTime : ℚ
  traffic : LaneTraffic

namespace AdaptiveRun

variable {plan : Plan}

/-- The controller after `n` ticks from its reset. -/
def controllerAt (signal : AdaptiveSignal plan) (ticks : Nat → AdaptiveTick)
    (n : Nat) : AdaptiveController plan :=
  Machine.stateAt (fun s (tick : AdaptiveTick) => s.update signal tick.deltaTime tick.traffic)
    (AdaptiveController.reset plan) ticks n

end AdaptiveRun
end UrbanFlow
