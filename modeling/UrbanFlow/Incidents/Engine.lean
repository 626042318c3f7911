import UrbanFlow.Incidents.Disruptions
import UrbanFlow.Networks.NetworkSim

/-!
# The network run with disruptions

`run_disruption`: the rules of a tick of `simulate_network`, with parameters of the
links that are read again where a window starts or ends. When the set of fully blocked
links changes, flows and vehicles look for other paths.
-/

namespace UrbanFlow.Incidents

open Networks

/-- `STRATEGIES`. -/
inductive Strategy
  | fixed_time
  | max_pressure
  deriving DecidableEq, Repr

/-- `CLOSED_PENALTY`, in seconds. -/
def closedPenalty : ℚ := 1000000

/-- `UTURN_PENALTY`, in seconds. -/
def uturnPenalty : ℚ := 10000

/-- What `run_disruption` is given; it raises where `dt` or `duration` is not positive,
and where the cycle has no length. -/
structure DisruptionInput where
  graph : RoadGraph
  flows : List Flow
  scenario : Scenario
  duration : ℚ
  strategy : Strategy := .fixed_time
  dt : ℚ
  signal_cycle : ℚ := signalCycle
  clearance : ℚ := 2
  min_hold : ℚ := 10
  switch_margin : ℚ := 1
  dt_pos : 0 < dt
  duration_pos : 0 < duration
  cycle_ne : signal_cycle ≠ 0

/-- What incidents do to the links: lanes lost, speed factors, the links that are fully
blocked and those that nothing leaves. -/
structure Effects where
  lost : String → Option Nat
  slow : String → ℚ
  full : String → Bool
  held : String → Bool

/-- Without incidents. -/
def Effects.none : Effects where
  lost := fun _ => Option.none
  slow := fun _ => 1
  full := fun _ => false
  held := fun _ => false

/-- An incident on one of its links. -/
def Effects.strike (incident : Incident) (effects : Effects) (id : String) : Effects :=
  let struck := match incident.type with
    | .closure =>
      { effects with
        full := Function.update effects.full id true
        held := Function.update effects.held id
          (effects.held id || decide (incident.policy = ClosurePolicy.hold)) }
    | _ =>
      { effects with
        lost := Function.update effects.lost id
          (some (max ((effects.lost id).getD 0) incident.lanesBlocked)) }
  { struck with
    slow := Function.update struck.slow id (struck.slow id * incident.speed_factor) }

section

variable (graph : RoadGraph) (effects : Effects)

/-- An incident on its links, as far as the graph has them. -/
def Effects.add (incident : Incident) : Effects :=
  (incident.links.filter fun id => id ∈ graph.linkIds).foldl (Effects.strike incident) effects

/-- A link that has lost all its lanes is fully blocked, and nothing leaves it. -/
def Effects.settle : Effects :=
  let allLost (id : String) : Bool :=
    (effects.lost id).any fun lost => decide ((graph.linkMap id).lanes ≤ lost)
  { effects with
    full := fun id => effects.full id || allLost id
    held := fun id => effects.held id || allLost id }

end

/-- The parameters of a segment. -/
structure Params where
  roads : Roads
  hold : List String
  p_arr : Flow → ℚ
  closed : List String

namespace DisruptionInput

variable (input : DisruptionInput)

/-- What the incidents do that count. -/
def effects (counts : Window → Bool) : Effects :=
  ((input.scenario.incidents.filter fun incident => counts incident.toWindow).foldl
    (Effects.add input.graph) Effects.none).settle input.graph

def weather (counts : Window → Bool) : WeatherFactors :=
  combine ((input.scenario.weather.filter fun window => counts window.toWindow).map
    fun window => weatherFactors window.kind window.severity)

/-- The surges that count, on the arrivals of a flow. -/
def surgeScale (counts : Window → Bool) (flow : Flow) : ℚ :=
  ((input.scenario.surges.filter fun surge =>
    counts surge.toWindow && surge.matches_ flow).map Surge.multiplier).foldl (· * ·) 1

/-- The lanes of a link that are served. -/
def serveLanes (effects : Effects) (id : String) : Nat :=
  let lanes := (input.graph.linkMap id).lanes
  if effects.full id then if effects.held id then 0 else lanes
  else lanes - (effects.lost id).getD 0

def parameters (counts : Window → Bool) : Params :=
  let effects := input.effects counts
  let weather := input.weather counts
  { roads :=
      { cap := fun id =>
          let link := input.graph.linkMap id
          if effects.full id then 0
          else match effects.lost id with
            | some lost =>
              max 1 (((link.lanes : ℚ) - lost) * link.length / vehicleSpace).floor.toNat
            | none => capacity link
        cross := fun id =>
          let link := input.graph.linkMap id
          link.length / (link.speed * (weather.speed * effects.slow id))
        refill := fun id =>
          let r := input.serveLanes effects id * saturationPerLane * input.dt
          if weather.discharge ≠ 1 then r * weather.discharge else r
        lim := fun id => max 1 (input.serveLanes effects id) }
    hold := input.graph.linkIds.filter effects.held
    p_arr := fun flow =>
      min 1 (flow.vehicles_per_hour * input.surgeScale counts flow / 3600 * input.dt)
    closed :=
      if input.scenario.reroute then input.graph.linkIds.filter effects.full else [] }

/-- The parameters of a time, from the windows that are active then. -/
def parametersAt (t : ℚ) : Params := input.parameters (Window.active t)

end DisruptionInput

/-- A path crosses a blocked link. -/
def crosses (closed path : List String) : Bool := path.any fun id => id ∈ closed

section

variable (graph : RoadGraph)

section

variable (closed : List String)

/-- A path found with penalties, if there is one that crosses no blocked link. -/
def openPath (penalty : String → ℚ) (origin destination : String) : Option (List String) :=
  match shortestPath graph origin destination penalty with
  | some (first :: rest) => if crosses closed (first :: rest) then none else some (first :: rest)
  | _ => none

def blockedPenalty (id : String) : ℚ := if id ∈ closed then closedPenalty else 0

/-- The penalties at the end of a link: those of blocked links, and of the links that
lead back. -/
def turnPenalty (current : GraphLink) (id : String) : ℚ := if id ∈ closed then closedPenalty
  else if (graph.outgoing current.to_).any fun link =>
      decide (link.to_ = current.from_ ∧ link.id = id) then uturnPenalty
  else 0

def baseRoute (flow : Flow) : List String := (flowRoute graph flow).getD []

/-- The path of new vehicles of a flow, when links are blocked. -/
def plannedPath (flow : Flow) : List String := if closed = [] then baseRoute graph flow else
    (openPath graph closed (blockedPenalty closed) flow.origin flow.destination).getD
      (baseRoute graph flow)

end

def remaining (vehicle : Vehicle) : List String := vehicle.path.drop (vehicle.index + 1)

/-- `dest`: where the path of a vehicle leads. -/
def destinationOf (vehicle : Vehicle) : String := (graph.linkMap (vehicle.path.getLastD "")).to_

end

section

variable (graph : RoadGraph) (closed : List String) (id : String) (vehicle : Vehicle)

/-- The other path of a vehicle on a link whose remaining path is blocked. -/
def detour : Option (List String) := if crosses closed (remaining vehicle) then
    let current := graph.linkMap id
    openPath graph closed (turnPenalty graph closed current) current.to_
      (destinationOf graph vehicle)
  else none

/-- A vehicle takes its other path, if it has one. -/
def replan : Vehicle := match detour graph closed id vehicle with
  | none => vehicle
  | some path => { vehicle with path := vehicle.path.take (vehicle.index + 1) ++ path }

end

section

variable (graph : RoadGraph) (closed : List String) (traffic : Traffic)

/-- `_reroute_active`: the paths of the vehicles. -/
def rerouteActive : Traffic :=
  { traffic with
    queues := fun id =>
      (traffic.queues id).map fun entry => (replan graph closed id entry.1, entry.2) }

/-- `_reroute_active`: how many vehicles took another path. -/
def rerouteCount : Nat := (graph.linkIds.map fun id =>
    (traffic.queues id).countP fun entry => (detour graph closed id entry.1).isSome).sum

end

/-- A signal under max pressure: `mp_phase`, `mp_tip`, `mp_clear`, `mp_pending` and
`switches`. -/
structure PressureSignal where
  phase : Int := 0
  tip : ℚ := 0
  clear : ℚ := 0
  pending : Int := 0
  switches : Nat := 0

/-- `straight`: the link straight ahead, unless it leads to a gate. -/
def straight (graph : RoadGraph) (link : GraphLink) : Option String :=
  match (graph.outgoing link.to_).find? fun next =>
      decide (graph.axis next = graph.axis link ∧ next.to_ ≠ link.from_) with
  | none => none
  | some next => if (graph.nodeMap next.to_).kind = .gate then none else some next.id

/-- The waiting vehicles of an axis at a node, less those straight ahead. -/
def pressure (graph : RoadGraph) (traffic : Traffic) (t : ℚ) (node : String) (axis : Axis) : ℚ :=
  (((graph.incoming node).filter fun link => graph.axis link = axis).map fun link =>
    ((((traffic.queues link.id).takeWhile fun entry => decide (entry.2 ≤ t)).length : ℚ) -
      ((straight graph link).elim 0 fun next => (traffic.queues next).length))).sum

/-- A signal under max pressure in a tick. -/
def PressureSignal.update (input : DisruptionInput) (traffic : Traffic) (t : ℚ) (node : String)
    (signal : PressureSignal) : PressureSignal :=
  if 0 < signal.clear then
    let left := signal.clear - input.dt
    if left ≤ eps then { signal with clear := 0, phase := signal.pending, tip := 0 }
    else { signal with clear := left }
  else
    let ew := pressure input.graph traffic t node .ew
    let ns := pressure input.graph traffic t node .ns
    let mine := if signal.phase = 0 then ew else ns
    let other := if signal.phase = 0 then ns else ew
    let want := if input.min_hold ≤ signal.tip ∧ mine + input.switch_margin < other then
        1 - signal.phase
      else signal.phase
    if want ≠ signal.phase then if input.clearance ≤ 0 then
        { signal with switches := signal.switches + 1, phase := want, tip := input.dt }
      else
        { signal with
          switches := signal.switches + 1, pending := want, clear := input.clearance }
    else { signal with tip := signal.tip + input.dt }

/-- What a run changes. `pending` has the boundaries that the run has not reached. -/
structure Run where
  traffic : Traffic
  params : Params
  paths : Flow → List String
  pending : List ℚ
  signals : String → PressureSignal
  rerouted_vehicles : Nat
  reroute_events : Nat

namespace DisruptionInput

variable (input : DisruptionInput)

/-- `live`: the flows with a route and vehicles. -/
def live : List Flow := input.flows.filter fun flow =>
    (flowRoute input.graph flow).isSome && decide (0 < flow.vehicles_per_hour)

/-- Before the first tick; no parameters are read before the first segment. -/
def start : Run where
  traffic := Traffic.initial
  params :=
    { roads := ⟨fun _ => 0, fun _ => 0, fun _ => 0, fun _ => 0⟩
      hold := []
      p_arr := fun _ => 0
      closed := [] }
  paths := baseRoute input.graph
  pending := boundaries input.scenario input.duration
  signals := fun _ => {}
  rerouted_vehicles := 0
  reroute_events := 0

/-- The set of blocked links has changed. -/
def reroute (grew : Bool) (run : Run) : Run :=
  let closed := run.params.closed
  let planned :=
    { run with
      paths := fun flow =>
        if flow ∈ input.live then plannedPath input.graph closed flow
        else run.paths flow
      reroute_events := run.reroute_events + 1 }
  if grew then
    { planned with
      traffic := rerouteActive input.graph closed planned.traffic
      rerouted_vehicles :=
        planned.rerouted_vehicles + rerouteCount input.graph closed planned.traffic }
  else planned

section

variable (t : ℚ)

def apply (run : Run) : Run :=
  let params := input.parametersAt t
  let renewed := { run with params := params }
  if params.closed ≠ run.params.closed then
    input.reroute (params.closed.any fun id => id ∉ run.params.closed) renewed
  else renewed

/-- A new segment, where a boundary is reached. -/
def prepare (run : Run) : Run := match run.pending with
  | [] => run
  | boundary :: _ =>
    if boundary ≤ t + eps then
      input.apply t { run with pending := run.pending.dropWhile fun x => decide (x ≤ t + eps) }
    else run

/-- The flows with arrivals. -/
def gates (run : Run) : List Gate := input.live.map fun flow =>
    { path := run.paths flow
      p_arrive := run.params.p_arr flow
      free_flow := ((baseRoute input.graph flow).map fun id =>
        freeFlowSeconds (input.graph.linkMap id)).sum }

def signalNodes : List String := input.graph.sortedNodes.filter fun node =>
    (input.graph.nodeMap node).control = some .signal

/-- `node_phase`; `none` where the node passes nothing. -/
def nodePhase (signals : String → PressureSignal) (node : String) : Option Int :=
  match input.strategy with
  | .fixed_time => some (scheduledPhase input.signal_cycle t)
  | .max_pressure => if 0 < (signals node).clear then none else some (signals node).phase

/-- A link that is red or held. -/
def shut (run : Run) (node : String) (link : GraphLink) : Bool :=
  (decide ((input.graph.nodeMap node).control = some .signal) &&
    match input.nodePhase t run.signals node with
    | none => true
    | some phase => decide (decide (input.graph.axis link = .ew) ≠ decide (phase = 0))) ||
  decide (link.id ∈ run.params.hold)

/-- The signals in a tick. -/
def updateSignals (run : Run) : Run := match input.strategy with
  | .fixed_time => run
  | .max_pressure =>
    { run with
      signals := input.signalNodes.foldl (fun signals node => Function.update signals node
          ((signals node).update input run.traffic t node))
        run.signals }

end

/-- The rest of a tick. -/
def move (draws : Nat → ℚ) (t : ℚ) (run : Run) : Run :=
  let arrived :=
    { run with
      traffic := run.traffic.arrivals run.params.roads draws t (input.gates run) }
  let signalled := input.updateSignals t arrived
  { signalled with
    traffic := signalled.traffic.service input.graph signalled.params.roads t
      (input.shut t signalled) }

def steps : Nat := (roundHalfEven (input.duration / input.dt)).toNat

end DisruptionInput

/-- The run after some ticks. -/
def DisruptionInput.after (input : DisruptionInput) (draws : Nat → ℚ) : Nat → Run
  | 0 => input.start
  | step + 1 =>
    input.move draws (step * input.dt) (input.prepare (step * input.dt) (input.after draws step))

/-- The run in a tick, with the parameters of the tick. -/
def DisruptionInput.during (input : DisruptionInput) (draws : Nat → ℚ) (step : Nat) : Run :=
  input.prepare (step * input.dt) (input.after draws step)

end UrbanFlow.Incidents
