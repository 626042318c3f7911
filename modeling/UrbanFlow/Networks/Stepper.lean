import UrbanFlow.Library.Folds
import UrbanFlow.Networks.ShortestPath

/-!
# The step-wise network

`NetworkStepper`: gate arrivals, the signals, and the service of every node in
the order of its id. The arrivals take their numbers from one stream of draws.
A step that is asked for a phase other than 0 or 1 raises.
-/

namespace UrbanFlow.Networks

structure Vehicle where
  vid : Nat
  path : List String
  index : Nat
  entered_at : ℚ
  free_flow : ℚ
  deriving DecidableEq, Repr

def phaseEW : Int := 0

def phaseNS : Int := 1

/-- The tolerance of the clearance timer and of the minimum green. -/
def timeTolerance : ℚ := 1 / 10 ^ 9

/-- The signal of a node. -/
structure Signal where
  phase : Int := phaseEW
  time_in_phase : ℚ := 0
  clear_left : ℚ := 0
  pending : Int := phaseEW
  switches : Nat := 0
  deriving DecidableEq, Repr

/-- What a `NetworkStepper` is built with. -/
structure StepperConfig where
  graph : RoadGraph
  flows : List Flow
  dt : ℚ
  signal_cycle : ℚ := signalCycle
  clearance : ℚ
  dt_pos : 0 < dt
  clearance_nonneg : 0 ≤ clearance

/-- A vehicle in the queue of a link, and when it has crossed the link. -/
abbrev Queue := List (Vehicle × ℚ)

/-- What a `NetworkStepper` changes. -/
structure Stepper where
  queues : String → Queue
  credit : String → ℚ
  peak : String → Nat
  passed_link : String → Nat
  passed_node : String → Nat
  signals : String → Signal
  step_index : Nat
  generated : Nat
  entered : Nat
  blocked : Nat
  completed : Nat
  travel_total : ℚ
  delay_total : ℚ
  waiting_seconds : ℚ
  next_id : Nat
  drawn : Nat

/-- A new stepper. -/
def Stepper.initial : Stepper where
  queues := fun _ => []
  credit := fun _ => 0
  peak := fun _ => 0
  passed_link := fun _ => 0
  passed_node := fun _ => 0
  signals := fun _ => {}
  step_index := 0
  generated := 0
  entered := 0
  blocked := 0
  completed := 0
  travel_total := 0
  delay_total := 0
  waiting_seconds := 0
  next_id := 0
  drawn := 0

namespace StepperConfig

variable (config : StepperConfig)

/-- The route of a flow; `none` where there is no link to drive. -/
def route (flow : Flow) : Option (List String) :=
  match shortestPath config.graph flow.origin flow.destination noPenalty with
  | some (first :: rest) => some (first :: rest)
  | _ => none

/-- The signalised nodes with traffic arriving, in order. -/
def signalNodes : List String := config.graph.sortedNodes.filter fun node =>
    decide ((config.graph.nodeMap node).control = some .signal) &&
      !(config.graph.incoming node).isEmpty

/-- Seconds to cross a link. -/
def cross (id : String) : ℚ := freeFlowSeconds (config.graph.linkMap id)

/-- The capacity of a link. -/
def room (id : String) : Nat := capacity (config.graph.linkMap id)

end StepperConfig

/-- `_update_signals` with a requested phase for one node; `none` where it
raises. -/
def Signal.update (clearance dt : ℚ) (want : Int) (signal : Signal) : Option Signal :=
  if 0 < signal.clear_left then
    let left := signal.clear_left - dt
    if left ≤ timeTolerance then
      some { signal with
        clear_left := 0, phase := signal.pending, time_in_phase := 0 }
    else some { signal with clear_left := left }
  else if want ≠ phaseEW ∧ want ≠ phaseNS then none
  else if want ≠ signal.phase then if clearance ≤ 0 then
      some { signal with
        switches := signal.switches + 1, phase := want, time_in_phase := dt }
    else
      some { signal with
        switches := signal.switches + 1, pending := want, clear_left := clearance }
  else some { signal with time_in_phase := signal.time_in_phase + dt }

def scheduledPhase (signal_cycle t : ℚ) : Int := (t / (signal_cycle / 2)).floor % 2

/-- `_update_signals` of the fixed schedule, for one node. -/
def Signal.follow (dt : ℚ) (scheduled : Int) (signal : Signal) : Signal :=
  if scheduled ≠ signal.phase then
    { signal with
      switches := signal.switches + 1, phase := scheduled, time_in_phase := dt }
  else { signal with time_in_phase := signal.time_in_phase + dt }

/-- The phase a signal serves, if it is not in a clearance. -/
def Signal.served (signal : Signal) : Option Int :=
  if 0 < signal.clear_left then none else some signal.phase

/-- `_update_signals`: every signalised node in order. -/
def updateSignals (config : StepperConfig) (phases : Option (String → Option Int)) (t : ℚ)
    (signals : String → Signal) : Option (String → Signal) :=
  match phases with
  | none =>
    some (config.signalNodes.foldl (fun signals node => Function.update signals node
        ((signals node).follow config.dt (scheduledPhase config.signal_cycle t)))
      signals)
  | some phases =>
    config.signalNodes.foldlM (Folds.updateAt fun node signal =>
        signal.update config.clearance config.dt ((phases node).getD signal.phase))
      signals

/-- A vehicle joins the queue of a link. -/
def Stepper.enqueue (stepper : Stepper) (link : String) (vehicle : Vehicle) (ready : ℚ) : Stepper :=
  let queue := stepper.queues link ++ [(vehicle, ready)]
  { stepper with
    queues := Function.update stepper.queues link queue
    peak := Function.update stepper.peak link (max (stepper.peak link) queue.length) }

section

variable (config : StepperConfig)

def Stepper.arrive (draws : Nat → ℚ) (t : ℚ) (stepper : Stepper) (flow : Flow) : Stepper :=
  match config.route flow with
  | none => stepper
  | some path =>
    if flow.vehicles_per_hour ≤ 0 then stepper
    else
      let drawn := { stepper with drawn := stepper.drawn + 1 }
      if draws stepper.drawn < min 1 (flow.vehicles_per_hour / 3600 * config.dt)
      then
        let first := path.headD ""
        let generated := { drawn with generated := drawn.generated + 1 }
        if config.room first ≤ (generated.queues first).length then
          { generated with blocked := generated.blocked + 1 }
        else
          let vehicle : Vehicle :=
            { vid := generated.next_id
              path := path
              index := 0
              entered_at := t
              free_flow := (path.map config.cross).sum }
          { generated with
            next_id := generated.next_id + 1
            entered := generated.entered + 1 }.enqueue first vehicle (t + config.cross first)
      else drawn

/-- The head of a queue leaves its link at a node. -/
def Stepper.dequeue (stepper : Stepper) (link node : String) (rest : Queue) : Stepper :=
  { stepper with
    queues := Function.update stepper.queues link rest
    credit := Function.update stepper.credit link (stepper.credit link - 1)
    passed_link := Function.update stepper.passed_link link (stepper.passed_link link + 1)
    passed_node :=
      Function.update stepper.passed_node node (stepper.passed_node node + 1) }

section

variable (link node : String) (t : ℚ) (stepper : Stepper)

/-- One round of `_serve`; `none` when the loop ends. -/
def Stepper.serveOne : Option Stepper := match stepper.queues link with
  | [] => none
  | (vehicle, ready) :: rest =>
    if 1 ≤ stepper.credit link ∧ ready ≤ t then if vehicle.index + 1 = vehicle.path.length then
        let left := stepper.dequeue link node rest
        let elapsed := t - vehicle.entered_at
        some { left with
          completed := left.completed + 1
          travel_total := left.travel_total + elapsed
          delay_total := left.delay_total + max 0 (elapsed - vehicle.free_flow) }
      else
        let next := vehicle.path.getD (vehicle.index + 1) ""
        if config.room next ≤ (stepper.queues next).length then none
        else some ((stepper.dequeue link node rest).enqueue next
            { vehicle with index := vehicle.index + 1 } (t + config.cross next))
    else none

/-- Rounds of a loop until it ends, at most a number of times. -/
def untilDone {State : Type} (round : State → Option State) : Nat → State → State
  | 0, state => state
  | rounds + 1, state =>
    match round state with
    | none => state
    | some after => untilDone round rounds after

/-- `_serve`. Every round takes the head of the queue, and what joins the queue
meanwhile is not ready, so there are at most as many rounds as vehicles. -/
def Stepper.serve : Stepper :=
  untilDone (Stepper.serveOne config link node t) (stepper.queues link).length stepper

end

/-- The service of one incoming link of a node. -/
def Stepper.serveLink (node : String) (t : ℚ) (stepper : Stepper) (link : GraphLink) : Stepper :=
  let credited :=
    { stepper with
      credit := Function.update stepper.credit link.id
        (min (stepper.credit link.id + link.lanes * saturationPerLane * config.dt) link.lanes) }
  if (config.graph.nodeMap node).control = some .signal then
    if 0 < (stepper.signals node).clear_left then credited
    else if decide (config.graph.axis link = .ew) ≠
        decide ((stepper.signals node).phase = phaseEW) then credited
    else credited.serve config link.id node t
  else credited.serve config link.id node t

/-- The service of a node. -/
def Stepper.serveNode (t : ℚ) (stepper : Stepper) (node : String) : Stepper :=
  (config.graph.incoming node).foldl (Stepper.serveLink config node t) stepper

/-- `waiting`: the vehicles at the stop line of a link. -/
def Stepper.waiting (stepper : Stepper) (t : ℚ) (link : String) : Nat :=
  ((stepper.queues link).takeWhile fun entry => decide (entry.2 ≤ t)).length

def Stepper.time (stepper : Stepper) : ℚ := stepper.step_index * config.dt

/-- `step`; `none` where a requested phase makes it raise. -/
def Stepper.step (draws : Nat → ℚ) (phases : Option (String → Option Int))
    (stepper : Stepper) : Option Stepper :=
  let t := stepper.time config
  let arrived := config.flows.foldl (Stepper.arrive config draws t) stepper
  (updateSignals config phases t arrived.signals).map fun signals =>
    let served := config.graph.sortedNodes.foldl (Stepper.serveNode config t)
      { arrived with signals := signals }
    let ended := { served with step_index := served.step_index + 1 }
    { ended with
      waiting_seconds := ended.waiting_seconds + ((config.graph.linkIds.map fun link =>
          ended.waiting (ended.time config) link).sum : Nat) * config.dt }

end

end UrbanFlow.Networks
