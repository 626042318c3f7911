import UrbanFlow.Library.Machine
import UrbanFlow.Priority.Models
import UrbanFlow.Signals.FixedTime

/-!
# The priority controller

Emergency pre-emption and transit priority around a fixed-time plan. The
controller's state wraps the plan's cursor; `update` is one engine tick, given
the emergency vehicles and buses observed on it. `PhaseDriver` reads the plan around
the cursor and moves it. Vehicle injection, yielding
and the bus-stop dwell act on vehicles only, so they are part of what a tick
may observe.

The engine's clock counts ticks, and `now` is the tick count times the step.
-/

namespace UrbanFlow

open CarrySchedule CyclicOrder

namespace PhaseDriver

variable {plan : Plan}

variable {idx after : plan.Idx} {direction : Direction} {turn : TurnIntent}

/-- `serves`: phase `idx` is a green that releases the movement. -/
def serves (plan : Plan) (idx : plan.Idx) (direction : Direction) (turn : TurnIntent) : Bool :=
  plan.isGreen idx && direction ∈ plan.directions idx && turn ∈ (plan.phase idx).allowedTurns

/-- `find_green`: the next green, from the cursor on, releasing the movement. -/
def findGreen (cursor : PlanCursor plan) (direction : Direction)
    (turn : TurnIntent) : Option plan.Idx :=
  firstFrom (fun idx => serves plan idx direction turn) cursor.currentPhaseIdx

/-- `next_green`: the first green after `after` whose directions differ from
`exclude`. -/
def nextGreen (plan : Plan) (after : plan.Idx)
    (exclude : Option (List Direction)) : Option plan.Idx :=
  firstFrom (fun idx => plan.isGreen idx && match exclude with
      | none => true
      | some directions => plan.directions idx != directions)
    (plan.next after)

/-- `clearance_start`: where the plan begins to clear a green. It is `none`
when a green of other directions follows without a clearance. -/
def clearanceStart (plan : Plan) (green : plan.Idx) : Option plan.Idx :=
  match firstFrom (fun idx => !(plan.isGreen idx && plan.directions idx == plan.directions green))
      (plan.next green) with
  | none => none
  | some idx => if plan.isGreen idx then none else some idx

/-- `jump`: enter phase `idx` now, from its start. -/
def jump (idx : plan.Idx) (cursor : PlanCursor plan) : PlanCursor plan where
  currentPhaseIdx := idx
  timeInCurrentState := 0
  cycleNumber := if idx < cursor.currentPhaseIdx then cursor.cycleNumber + 1 else cursor.cycleNumber

/-- `advance`: the time step of `FixedTimeSignalController.update`, with the
phase entered when one ends chosen by `select`. -/
def advance (dt : ℚ) (select : plan.Idx → plan.Idx) (cursor : PlanCursor plan) : PlanCursor plan :=
  Cursor.roll plan.duration select plan.phases.length
    { cursor with timeInCurrentState := cursor.timeInCurrentState + dt }

/-- `skip_ahead`: shorten the phase shown, never past its end. -/
def skipAhead (seconds : ℚ) (cursor : PlanCursor plan) : PlanCursor plan :=
  { cursor with
    timeInCurrentState := min (cursor.timeInCurrentState + max 0 seconds)
        (max 0 (plan.duration cursor.currentPhaseIdx - 1 / 1000000)) }

/-- Without a selector `advance` is the wrapped controller's own update. -/
theorem advance_next (dt : ℚ) (cursor : PlanCursor plan) : advance dt plan.next cursor =
      FixedTimeSignalController.update dt cursor := rfl

theorem serves_isGreen (served : serves plan idx direction turn = true) :
    plan.isGreen idx = true := by
  simp only [serves, Bool.and_eq_true] at served
  exact served.1.1

theorem findGreen_serves {cursor : PlanCursor plan} {target : plan.Idx}
    (found : findGreen cursor direction turn = some target) :
    serves plan target direction turn = true :=
  firstFrom_some found

theorem nextGreen_isGreen {exclude : Option (List Direction)}
    (found : nextGreen plan after exclude = some idx) : plan.isGreen idx = true := by
  have both := firstFrom_some found
  simp only [Bool.and_eq_true] at both
  exact both.1

theorem nextGreen_differs {directions : List Direction}
    (found : nextGreen plan after (some directions) = some idx) :
    plan.directions idx ≠ directions := by
  have both := firstFrom_some found
  simp only [Bool.and_eq_true, bne_iff_ne, ne_eq] at both
  exact both.2

/-- A next green of directions other than the phase's own is another phase. -/
theorem two_le_of_nextGreen (found : nextGreen plan after (some (plan.directions after)) = some idx)
    : 2 ≤ plan.phases.length := by
  have differs : idx ≠ after := fun same => nextGreen_differs found (congrArg plan.directions same)
  have notSame : idx.val ≠ after.val := fun same => differs (Fin.ext same)
  have isShort := idx.isLt
  have isShortAfter := after.isLt
  omega

theorem clearanceStart_notGreen {green : plan.Idx} (found : clearanceStart plan green = some idx) :
    plan.isGreen idx = false := by
  unfold clearanceStart at found
  split at found
  · exact absurd found (by simp)
  · split at found
    · exact absurd found (by simp)
    · next notGreen =>
        cases found
        simpa using notGreen

end PhaseDriver

/-- States of the pre-emption. -/
inductive PriorityState
  | normal
  | clearingMinGreen
  | clearing
  | hold
  | recovering
  deriving DecidableEq, Repr

/-- Why the cursor last moved. -/
inductive Reason
  | plan
  | preemptClearance
  | preemptHold
  | preemptRecovery
  | transitExtension
  | transitEarlyGreen
  deriving DecidableEq, Repr

structure PhaseLogRow where
  time : ℚ
  fromName : String
  toName : String
  fromColor : Color
  toColor : Color
  fromDirections : List Direction
  toDirections : List Direction
  phaseSeconds : ℚ
  greenAge : Option ℚ
  reason : Reason
  deriving DecidableEq, Repr

/-- An entry of the event log. -/
inductive PriorityEvent
  | preemptStart (time : ℚ) (vehicle target interrupted : String) (distance : Option ℚ)
  | holdStart (time : ℚ) (phase : String)
  | holdEnd (time heldSeconds : ℚ) (timedOut : Bool)
  | restored (time : ℚ) (phase : String)
  | aborted (time : ℚ) (reason : String)
  deriving DecidableEq, Repr

/-- What is fixed over a run: the time step and the two configurations. -/
structure PrioritySettings where
  dt : ℚ
  preemption : Option PreemptionConfig := none
  transit : Option TransitPriorityConfig := none

/-- The vehicles observed on one tick. -/
structure Tick where
  emergencies : List EmergencyView := []
  buses : List TransitView := []

/-- State of a `PriorityController`. A pair of a phase and a cycle number is
`none` where the source writes `(-1, -1)`. -/
structure PriorityController (plan : Plan) where
  base : PlanCursor plan
  state : PriorityState := .normal
  goal : Option plan.Idx := none
  servedIds : List String := []
  resume : Option plan.Idx := none
  holdStarted : ℚ := 0
  holdTotal : ℚ := 0
  lockout : ℚ := 0
  reason : Reason := .plan
  lastIdx : plan.Idx
  phaseStarted : ℚ := 0
  greenSince : Option ℚ
  phaseLog : List PhaseLogRow := []
  events : List PriorityEvent := []
  preemptionCount : Nat := 0
  tspKey : Option (plan.Idx × Nat) := none
  tspExtended : ℚ := 0
  tspCutKey : Option (plan.Idx × Nat) := none
  tspLastAction : ℚ := -1000000000
  tspExtensionTotal : ℚ := 0
  tspEarlyGreenTotal : ℚ := 0
  tspActions : Nat := 0

namespace PriorityController

variable {plan : Plan}

/-- `_reset_state` around a base controller standing at `base`. -/
def start (base : PlanCursor plan) : PriorityController plan where
  base := base
  lastIdx := base.currentPhaseIdx
  greenSince := if plan.isGreen base.currentPhaseIdx then some 0 else none

/-- The phase shown. -/
def index (s : PriorityController plan) : plan.Idx := s.base.currentPhaseIdx

def greenAge (now : ℚ) (s : PriorityController plan) : ℚ := match s.greenSince with
  | none => 0
  | some since => now - since

/-- `_after_step`: log a phase change and restart the ages it ends. -/
def afterStep (now : ℚ) (s : PriorityController plan) : PriorityController plan :=
  if s.index = s.lastIdx then s
  else
    let prev := plan.phase s.lastIdx
    let cur := plan.phase s.index
    { s with
      phaseLog := s.phaseLog ++ [
         { time := pyRound now 3
           fromName := prev.name
           toName := cur.name
           fromColor := prev.color
           toColor := cur.color
           fromDirections := prev.directions
           toDirections := cur.directions
           phaseSeconds := pyRound (now - s.phaseStarted) 3
           greenAge := s.greenSince.map fun since => pyRound (now - since) 3
           reason := s.reason }]
      greenSince := if cur.color = .green then
          if prev.color = .green ∧ prev.directions = cur.directions then s.greenSince
          else some now
        else none
      phaseStarted := now
      lastIdx := s.index }

def onApproach (ev : EmergencyView) : Bool := ev.state != .exited && match ev.lane with
    | none => false
    | some lane => lane.isOn ev.approach

section

variable (config : PreemptionConfig)

def detected (ev : EmergencyView) : Bool := onApproach ev && match ev.lane with
    | none => false
    | some lane =>
      let dist := max 0 (lane.length - ev.position)
      (match config.detectionDistanceM with
        | some distance => decide (dist ≤ distance)
        | none => false) ||
      (match config.detectionTimeS with
        | some time => decide (1 / 2 < ev.speed) && decide (dist / ev.speed ≤ time)
        | none => false)

section

variable (cursor : PlanCursor plan)

/-- One vehicle of the loop in `_request`: the nearest request wins, the first
one on a tie. -/
def requestStep (best : Option (ℚ × EmergencyView × plan.Idx))
    (ev : EmergencyView) : Option (ℚ × EmergencyView × plan.Idx) :=
  if detected config ev then match ev.lane, PhaseDriver.findGreen cursor ev.approach ev.turn with
    | some lane, some target =>
      let dist := lane.length - ev.position
      match best with
      | none => some (dist, ev, target)
      | some (nearest, _) => if dist < nearest then some (dist, ev, target) else best
    | _, _ => best
  else best

def request (emergencies : List EmergencyView) : Option (EmergencyView × plan.Idx) :=
  (emergencies.foldl (requestStep config cursor) none).map Prod.snd

/-- `_select_toward`: the plan's next phase, except that a green other than the
goal is replaced by the goal. -/
def selectToward (goal : Option plan.Idx) (old : plan.Idx) : plan.Idx :=
  let nxt := plan.next old
  match goal with
  | none => nxt
  | some goal => if plan.isGreen nxt && nxt != goal then goal else nxt

def enterHold (now : ℚ) (s : PriorityController plan) : PriorityController plan :=
  { s with
    state := .hold
    holdStarted := now
    reason := .preemptHold
    events := s.events ++ [.holdStart (pyRound now 3) (plan.phase s.index).name] }

/-- The green a pre-emption interrupts: the one showing, else the one the
clearance showing leads to. -/
def interrupted : Option plan.Idx :=
  if plan.isGreen cursor.currentPhaseIdx then some cursor.currentPhaseIdx
  else PhaseDriver.nextGreen plan cursor.currentPhaseIdx none

/-- The green `_begin` plans to resume at. -/
def resumeTarget (target : plan.Idx) : Option plan.Idx := match interrupted cursor with
  | some idx =>
    if plan.directions idx = plan.directions target then
      PhaseDriver.nextGreen plan target (some (plan.directions target))
    else some idx
  | none => PhaseDriver.nextGreen plan target (some (plan.directions target))

end

def begin (now : ℚ) (ev : EmergencyView) (target : plan.Idx)
    (s : PriorityController plan) : PriorityController plan :=
  let begun : PriorityController plan :=
    { s with
      preemptionCount := s.preemptionCount + 1
      resume := resumeTarget s.base target
      goal := some target
      servedIds := [ev.vehicleId]
      events := s.events ++ [.preemptStart (pyRound now 3) ev.vehicleId (plan.phase target).name
          (plan.phase s.index).name
          (ev.lane.map fun lane =>
            pyRound (max 0 (lane.length - ev.position)) 2)] }
  if s.index = target then enterHold now begun
  else if plan.isGreen s.index then { begun with state := .clearingMinGreen }
  else { begun with state := .clearing }

def abort (now : ℚ) (why : String) (s : PriorityController plan) : PriorityController plan :=
  { s with
    state := .normal
    lockout := config.minRecoveryS
    events := s.events ++ [.aborted (pyRound now 3) why] }

/-- `_release` of the hold on `goal`. -/
def release (now : ℚ) (goal : plan.Idx) (timedOut : Bool)
    (s : PriorityController plan) : PriorityController plan :=
  let held := now - s.holdStarted
  let ended : PriorityController plan :=
    { s with
      holdTotal := s.holdTotal + held
      events := s.events ++ [.holdEnd (pyRound now 3) (pyRound held 2) timedOut]
      reason := .preemptRecovery }
  match PhaseDriver.clearanceStart plan goal with
  | none => { ended with state := .normal, lockout := config.minRecoveryS }
  | some clearance =>
    { ended with
      base := PhaseDriver.jump clearance s.base
      state := .recovering }

/-- The ids of the detected vehicles join the served ones. -/
def collectServed (emergencies : List EmergencyView)
    (s : PriorityController plan) : PriorityController plan :=
  { s with
    servedIds := s.servedIds ++
      ((emergencies.filter (detected config)).map EmergencyView.vehicleId) }

section

variable (dt now : ℚ) (s : PriorityController plan)

/-- The CLEARING branch of `_preemption_step`. -/
def clearingStep : PriorityController plan :=
  let moved : PriorityController plan :=
    { s with
      reason := .preemptClearance
      base := PhaseDriver.advance dt (selectToward s.goal) s.base }
  if some moved.index = s.goal then enterHold now moved else moved

/-- The CLEARING_MIN_GREEN branch, falling through to CLEARING once the plan
has left its green by itself. -/
def clearingMinGreenStep : Bool × PriorityController plan := if plan.isGreen s.index then
    if config.minGreenS ≤ s.greenAge now then match PhaseDriver.clearanceStart plan s.index with
      | none => (false, abort config now "the plan has no clearance after this green" s)
      | some clearance =>
        (true, { s with
          reason := .preemptClearance
          base := PhaseDriver.jump clearance s.base
          state := .clearing })
    else
      (true, { s with
        reason := .plan
        base := PhaseDriver.advance dt plan.next s.base })
  else (true, clearingStep dt now { s with state := .clearing })

end

/-- The served vehicles still waiting for the held green. -/
def waiting (goal : plan.Idx) (emergencies : List EmergencyView)
    (s : PriorityController plan) : List EmergencyView :=
  emergencies.filter fun ev =>
    ev.vehicleId ∈ s.servedIds && onApproach ev && PhaseDriver.serves plan goal ev.approach ev.turn

/-- The HOLD branch: the cursor is frozen until the hold is released. -/
def holdStep (now : ℚ) (emergencies : List EmergencyView)
    (s : PriorityController plan) : PriorityController plan :=
  match s.goal with
  | none => s
  | some goal =>
    let queue := waiting goal emergencies s
    if (queue.isEmpty ∧ config.minGreenS ≤ s.greenAge now) ∨
        config.maxHoldS ≤ now - s.holdStarted then
      release config now goal (!queue.isEmpty) s
    else s

/-- The RECOVERING branch: the plan runs to the green to resume at. -/
def recoveringStep (dt now : ℚ) (s : PriorityController plan) : PriorityController plan :=
  let moved : PriorityController plan :=
    { s with
      reason := .preemptRecovery
      base := PhaseDriver.advance dt (selectToward s.resume) s.base }
  if plan.isGreen moved.index then
    { moved with
      state := .normal
      lockout := config.minRecoveryS
      reason := .plan
      events := s.events ++ [.restored (pyRound now 3) (plan.phase moved.index).name] }
  else moved

end

section

variable (config : PreemptionConfig) (dt now : ℚ) (emergencies : List EmergencyView)
  (s : PriorityController plan)

/-- `_preemption_step` from the state after a request has been taken. -/
def preemptionBranch : Bool × PriorityController plan := match s.state with
  | .normal => (false, s)
  | .clearingMinGreen => clearingMinGreenStep config dt now (collectServed config emergencies s)
  | .clearing => (true, clearingStep dt now (collectServed config emergencies s))
  | .hold => (true, holdStep config now emergencies (collectServed config emergencies s))
  | .recovering => (true, recoveringStep config dt now s)

/-- `_preemption_step`: whether the tick was handled, and the new state. -/
def preemptionStep : Bool × PriorityController plan := if s.state = .normal then
    if 0 < s.lockout then (false, { s with lockout := max 0 (s.lockout - dt) })
    else match request config s.base emergencies with
      | none => (false, s)
      | some (ev, target) => preemptionBranch config dt now emergencies (begin now ev target s)
  else preemptionBranch config dt now emergencies s

end

def remainingDwell (bus : TransitView) (now : ℚ) : ℚ := match bus.dwellState with
  | .dwelling => max 0 (bus.dwellS - (now - bus.dwellStarted))
  | .approach => bus.dwellS
  | .done => 0

section

variable (bus : TransitView) (lane : LaneView) (now : ℚ)

/-- `_bus_eta` at a distance from the end of its lane. -/
def busEta : ℚ :=
  let dist := max 0 (lane.length - bus.position)
  let speed := max bus.speed (6 / 10 * bus.desiredSpeed)
  remainingDwell bus now + dist / speed

def lateness : ℚ :=
  let dist := max 0 (lane.length - bus.position)
  now + dist / bus.desiredSpeed + remainingDwell bus now - bus.plannedArrival

end

section

variable (config : TransitPriorityConfig)

/-- A bus with a request: its lane and its distance from the stop line. -/
def transitCandidate (now : ℚ) (bus : TransitView) : Option (ℚ × TransitView × LaneView) :=
  match bus.lane with
  | none => none
  | some lane =>
    let dist := lane.length - bus.position
    if bus.state = .exited ∨ lane.isOn bus.approach = false ∨ config.detectionDistanceM < dist ∨
        (config.conditional ∧ lateness bus lane now < config.latenessThresholdS) then none
    else some (dist, bus, lane)

/-- The candidate sorted first: the nearest, then the smallest id. -/
def firstCandidate (candidates : List (ℚ × TransitView × LaneView)) :
    Option (ℚ × TransitView × LaneView) :=
  candidates.foldl (fun best candidate =>
      match best with
      | none => some candidate
      | some current =>
        if candidate.1 < current.1 ∨ (candidate.1 = current.1 ∧
              candidate.2.1.vehicleId < current.2.1.vehicleId) then
          some candidate
        else some current)
    none

/-- `_phases_between`: the phases after `first` and before `last`. -/
def phasesBetween (plan : Plan) (first last : plan.Idx) : List plan.Idx :=
  (walk (plan.next first)).takeWhile (· ≠ last)

/-- Green extension for a bus whose green is showing. -/
def extendGreen (dt now eta : ℚ) (s : PriorityController plan) : Bool × PriorityController plan :=
  let remaining := FixedTimeSignalController.phaseTimeRemaining s.base
  let left := config.maxExtensionS - s.tspExtended
  if remaining < eta + 1 ∧ eta ≤ remaining + left ∧ 0 < left ∧
      (0 < s.tspExtended ∨ config.minSpacingS ≤ now - s.tspLastAction) then
    (true, { s with
      tspExtended := s.tspExtended + dt
      tspExtensionTotal := s.tspExtensionTotal + dt
      tspActions := if s.tspExtended + dt ≤ dt + 1 / 1000000000 then s.tspActions + 1
        else s.tspActions
      tspLastAction := now
      reason := .transitExtension })
  else (false, s)

def earlyGreen (now eta : ℚ) (bus : TransitView)
    (s : PriorityController plan) : PriorityController plan :=
  let key := (s.index, s.base.cycleNumber)
  if plan.isGreen s.index = false ∨ s.tspCutKey = some key ∨
      now - s.tspLastAction < config.minSpacingS then s
  else match PhaseDriver.findGreen s.base bus.approach bus.turn with
    | none => s
    | some target =>
      if PhaseDriver.nextGreen plan s.index (some (plan.directions s.index)) ≠ some target then s
      else
        let remaining := FixedTimeSignalController.phaseTimeRemaining s.base
        let wait := remaining + ((phasesBetween plan s.index target).map plan.duration).sum
        if wait ≤ eta then s
        else
          let keep := max 0 (config.minGreenS - s.base.timeInCurrentState)
          let cut := min (min config.maxEarlyGreenS (remaining - keep)) (wait - eta)
          if cut < 1 / 2 then s
          else
            { s with
              base := PhaseDriver.skipAhead cut s.base
              tspCutKey := some key
              tspLastAction := now
              tspEarlyGreenTotal := s.tspEarlyGreenTotal + cut
              tspActions := s.tspActions + 1
              reason := .transitEarlyGreen }

end

/-- A phase the transit step has not seen yet starts without an extension. -/
def keyPhase (s : PriorityController plan) : PriorityController plan :=
  if s.tspKey = some (s.index, s.base.cycleNumber) then s
  else
    { s with
      tspKey := some (s.index, s.base.cycleNumber)
      tspExtended := 0 }

def transitStep (config : Option TransitPriorityConfig) (dt now : ℚ) (buses : List TransitView)
    (s : PriorityController plan) : Bool × PriorityController plan :=
  match config with
  | none => (false, s)
  | some config =>
    if config.enabled then match firstCandidate (buses.filterMap (transitCandidate config now)) with
      | none => (false, s)
      | some (_, bus, lane) =>
        let eta := busEta bus lane now
        if PhaseDriver.serves plan s.index bus.approach bus.turn then
          extendGreen config dt now eta s.keyPhase
        else (false, earlyGreen config now eta bus s.keyPhase)
    else (false, s)

section

variable (settings : PrioritySettings) (now : ℚ) (tick : Tick) (s : PriorityController plan)

/-- The part of `update` before the wrapped controller runs. -/
def prioritySteps : Bool × PriorityController plan :=
  let opened := if s.state = .normal then { s with reason := .plan } else s
  let preempted := match settings.preemption with
    | none => (false, opened)
    | some config =>
      if config.enabled then preemptionStep config settings.dt now
          (tick.emergencies.filter fun ev => ev.state != .exited) opened
      else (false, opened)
  if preempted.1 = false ∧ preempted.2.state = .normal then
    transitStep settings.transit settings.dt now tick.buses preempted.2
  else preempted

/-- A tick nothing handled is left to the wrapped controller. -/
def handOver (dt : ℚ) (stepped : Bool × PriorityController plan) : PriorityController plan :=
  if stepped.1 then stepped.2
  else
    { stepped.2 with
      base := FixedTimeSignalController.update dt stepped.2.base }

def update : PriorityController plan :=
  afterStep now (handOver settings.dt (prioritySteps settings now tick s))

end

end PriorityController

/-- A run: the engine's tick count and the controller. -/
structure PriorityRun (plan : Plan) where
  ticks : Nat
  controller : PriorityController plan

namespace PriorityRun

variable {plan : Plan}

section

variable (settings : PrioritySettings)

/-- The engine's elapsed time. -/
def now (run : PriorityRun plan) : ℚ := run.ticks * settings.dt

/-- `SimulationEngine.step` as the controller sees it: the clock ticks, then
the controller is updated. -/
def step (run : PriorityRun plan) (tick : Tick) : PriorityRun plan where
  ticks := run.ticks + 1
  controller := run.controller.update settings ((run.ticks + 1 : Nat) * settings.dt) tick

/-- The run after `n` ticks from a base controller standing at `base`. -/
def after (base : PlanCursor plan) (ticks : Nat → Tick) (n : Nat) : PriorityRun plan :=
  Machine.stateAt (step settings) ⟨0, PriorityController.start base⟩ ticks n

end

end PriorityRun
end UrbanFlow
