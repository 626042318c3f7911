import UrbanFlow.Networks.RouteSearch
import UrbanFlow.Networks.TickLaws

/-!
# The batch network run

`simulate_network`: the flows take their shortest paths, every link allows the same in
every tick, and signalised nodes serve the two axes in turn, half a cycle each.
-/

namespace UrbanFlow.Networks

open Traffic

/-- What `simulate_network` is given; a cycle of no length raises. -/
structure SimulationInput where
  graph : RoadGraph
  flows : List Flow
  duration : ℚ
  dt : ℚ
  signal_cycle : ℚ := signalCycle
  dt_pos : 0 < dt
  cycle_ne : signal_cycle ≠ 0

/-- The path of a flow; `none` where there is no link to drive. -/
def flowRoute (graph : RoadGraph) (flow : Flow) : Option (List String) :=
  match shortestPath graph flow.origin flow.destination noPenalty with
  | some (first :: rest) => some (first :: rest)
  | _ => none

namespace SimulationInput

variable (input : SimulationInput)

/-- What the links allow: `cap`, `cross`, `refill` and `lanes_f`. -/
def roads : Roads where
  cap := fun id => capacity (input.graph.linkMap id)
  cross := fun id => freeFlowSeconds (input.graph.linkMap id)
  refill := fun id => (input.graph.linkMap id).lanes * saturationPerLane * input.dt
  lim := fun id => (input.graph.linkMap id).lanes

/-- `live`: the flows with a path and vehicles. -/
def live : List Gate := input.flows.filterMap fun flow =>
    match flowRoute input.graph flow with
    | none => none
    | some path =>
      if flow.vehicles_per_hour ≤ 0 then none
      else some
        { path := path
          p_arrive := min 1 (flow.vehicles_per_hour / 3600 * input.dt)
          free_flow := (path.map input.roads.cross).sum }

/-- `is_signal and is_ew != (phase == 0)`. -/
def red (t : ℚ) (node : String) (link : GraphLink) : Bool :=
  decide ((input.graph.nodeMap node).control = some .signal) &&
    decide (decide (input.graph.axis link = .ew) ≠
      decide (scheduledPhase input.signal_cycle t = phaseEW))

def tick (draws : Nat → ℚ) (t : ℚ) (traffic : Traffic) : Traffic :=
  (traffic.arrivals input.roads draws t input.live).service input.graph input.roads t (input.red t)

def steps : Nat := (roundHalfEven (input.duration / input.dt)).toNat

end SimulationInput

def SimulationInput.after (input : SimulationInput) (draws : Nat → ℚ) : Nat → Traffic
  | 0 => Traffic.initial
  | step + 1 => input.tick draws (step * input.dt) (input.after draws step)

structure RouteResult where
  origin : String
  destination : String
  path : Option (List String)
  freeFlowSeconds : Option ℚ

structure LinkResult where
  passed : Nat
  peakOccupancy : Nat
  occupancy : Nat

/-- The result of `simulate_network`. -/
structure SimulationResult where
  duration : ℚ
  generated : Nat
  entered : Nat
  blockedAtEntry : Nat
  completed : Nat
  active : Nat
  conserved : Bool
  meanTravelSeconds : Option ℚ
  meanDelaySeconds : Option ℚ
  totalTravelSeconds : ℚ
  totalDelaySeconds : ℚ
  unroutable : List String
  routes : List RouteResult
  perLink : List (String × LinkResult)
  perNode : List (String × Nat)

def simulateNetwork (input : SimulationInput) (draws : Nat → ℚ) : SimulationResult :=
  let traffic := input.after draws input.steps
  let active := traffic.active input.graph.linkIds
  { duration := input.duration
    generated := traffic.generated
    entered := traffic.entered
    blockedAtEntry := traffic.blocked
    completed := traffic.completed
    active := active
    conserved := decide (traffic.entered = traffic.completed + active)
    meanTravelSeconds := if traffic.completed = 0 then none
      else some (pyRound (traffic.travel_total / traffic.completed) 3)
    meanDelaySeconds := if traffic.completed = 0 then none
      else some (pyRound (traffic.delay_total / traffic.completed) 3)
    totalTravelSeconds := pyRound traffic.travel_total 3
    totalDelaySeconds := pyRound traffic.delay_total 3
    unroutable := (input.flows.filter fun flow =>
      (flowRoute input.graph flow).isNone).map fun flow => flow.origin ++ "->" ++ flow.destination
    routes := input.flows.map fun flow =>
      let path := flowRoute input.graph flow
      { origin := flow.origin
        destination := flow.destination
        path := path
        freeFlowSeconds :=
          path.map fun path => pyRound ((path.map input.roads.cross).sum) 3 }
    perLink := (input.graph.linkIds.insertionSort fun first second => first ≤ second).map
      fun id => (id, ⟨traffic.passed_link id, traffic.peak id, (traffic.queues id).length⟩)
    perNode := input.graph.sortedNodes.map fun node => (node, traffic.passed_node node) }

theorem flowRoute_spec {graph : RoadGraph} {flow : Flow} {path : List String}
    (isRoute : flowRoute graph flow = some path) :
    path ≠ [] ∧ ∃ chain, path = chain.map GraphLink.id ∧
      (graph.network noPenalty).Chain flow.origin chain flow.destination ∧
      ∀ link ∈ chain, link.from_ ≠ flow.destination := by
  simp only [flowRoute] at isRoute
  split at isRoute
  · rename_i first rest isPath
    cases isRoute
    refine ⟨List.cons_ne_nil _ _, ?_⟩
    have differs : flow.origin ≠ flow.destination := by
      intro same
      rw [shortestPath] at isPath
      simp only [if_pos same] at isPath
      split at isPath
      · cases isPath
      · cases isPath
    obtain ⟨chain, isChain, leads, _, starts, _⟩ :=
      shortestPath_chain (fun _ => le_rfl) differs isPath
    exact ⟨chain, isChain, leads, starts⟩
  · cases isRoute

variable {input : SimulationInput} {gate : Gate}

section

variable (isGate : gate ∈ input.live)

include isGate

theorem live_spec : ∃ flow ∈ input.flows, flowRoute input.graph flow = some gate.path ∧
      gate.free_flow = (gate.path.map input.roads.cross).sum := by
  obtain ⟨flow, isFlow, isLive⟩ := List.mem_filterMap.mp isGate
  split at isLive
  · cases isLive
  · rename_i path isRoute
    split at isLive
    · cases isLive
    · cases isLive
      exact ⟨flow, isFlow, isRoute, rfl⟩

theorem live_path_ne_nil : gate.path ≠ [] := by
  obtain ⟨flow, _, isRoute, _⟩ := live_spec isGate
  exact (flowRoute_spec isRoute).1

theorem live_path_ids {id : String} (isLink : id ∈ gate.path) : id ∈ input.graph.linkIds := by
  obtain ⟨flow, _, isRoute, _⟩ := live_spec isGate
  obtain ⟨_, chain, isPath, isChain, _⟩ := flowRoute_spec isRoute
  rw [isPath] at isLink
  obtain ⟨link, isMember, rfl⟩ := List.mem_map.mp isLink
  exact List.mem_dedup.mpr (List.mem_map_of_mem (isChain.mem_edges isMember))

end

/-- What every run keeps from tick to tick. -/
structure Kept (input : SimulationInput) (traffic : Traffic) : Prop where
  in_order (link : String) : InOrder input.roads traffic link
  bounded (link : String) : Traffic.Bounded input.roads traffic link
  travels : Travels input.roads input.live traffic
  balanced : Balanced input.graph.linkIds traffic

section

variable (input : SimulationInput)

theorem refill_nonneg (id : String) : 0 ≤ input.roads.refill id := by
  have saturation_nonneg : 0 ≤ saturationPerLane := by
    rw [saturationPerLane]
    positivity
  have dt_nonneg := input.dt_pos.le
  simp only [SimulationInput.roads]
  positivity

theorem lim_nonneg (id : String) : 0 ≤ input.roads.lim id := Nat.cast_nonneg _

theorem kept_initial : Kept input Traffic.initial := by
  constructor
  · exact fun link => ⟨[], [], rfl, .nil, rfl⟩
  · exact fun link => ⟨Nat.zero_le _, Nat.zero_le _, rfl, le_rfl, lim_nonneg input link⟩
  · exact ⟨nofun,
      nofun, rfl, rfl, rfl⟩
  · refine ⟨?_, rfl⟩
    simp [Traffic.initial, Traffic.active]

end

theorem Kept.moves {t : ℚ} {before after : Traffic}
    (moves : Moves input.roads t input.live before after) (kept : Kept input before) :
    Kept input after := by
  refine moves.keep (fun before after isMove kept => ?_) kept
  constructor
  · exact fun link => (kept.in_order link).move isMove
  · exact fun link => (kept.bounded link).move (refill_nonneg input) (lim_nonneg input) isMove
  · exact kept.travels.move (fun gate isGate => live_path_ne_nil isGate) isMove
  · refine kept.balanced.move (List.nodup_dedup _) (fun gate isGate => ?_) isMove
      fun id entry isThere => (kept.travels.driving id entry isThere).known
        fun gate isGate id isLink => live_path_ids isGate isLink
    obtain ⟨_, _, isPath⟩ := List.exists_cons_of_ne_nil (live_path_ne_nil isGate)
    exact live_path_ids isGate (isPath ▸ List.mem_cons_self)

theorem kept_after (input : SimulationInput) (draws : Nat → ℚ) (step : Nat) :
    Kept input (input.after draws step) := by
  induction step with
  | zero => exact kept_initial input
  | succ _ ih => exact ih.moves ((moves_arrivals _).trans (moves_service _ _ _))

section

variable (valid : input.graph.Valid) (draws : Nat → ℚ)

include valid

/-- In a tick the credit of a link and the vehicles that passed it grow by at most the
credit of the tick. -/
theorem account_after_succ (step : Nat)
    (link : String) : (input.after draws (step + 1)).account link ≤
      (input.after draws step).account link + input.roads.refill link := by
  have served := @account_service_le input.graph input.roads (step * input.dt)
    (input.red (step * input.dt)) valid link (refill_nonneg input link)
    ((input.after draws step).arrivals input.roads draws (step * input.dt) input.live)
  rwa [(account_arrivals draws input.live link _).1] at served

theorem account_after_add (step ticks : Nat)
    (link : String) : (input.after draws (step + ticks)).account link ≤
      (input.after draws step).account link + ticks * input.roads.refill link := by
  induction ticks with
  | zero => simp
  | succ ticks =>
    have next := account_after_succ valid draws (step + ticks) link
    rw [← Nat.add_assoc, Nat.cast_add, Nat.cast_one]
    linarith

end

/-- The rules of `simulate_network` after some ticks. -/
structure FollowsRules (input : SimulationInput) (draws : Nat → ℚ) (step : Nat) : Prop where
  in_order : ∀ link, InOrder input.roads (input.after draws step) link
  in_time : ∀ arrival ∈ Traffic.arrived (input.after draws step).log,
    Traffic.Arrived input.roads input.live (input.after draws step).log arrival.1 arrival.2
  all_arrived : (input.after draws step).completed =
    (Traffic.arrived (input.after draws step).log).length
  occupancy : ∀ link ∈ input.graph.links,
    ((input.after draws step).queues link.id).length ≤ capacity link ∧
      (input.after draws step).peak link.id ≤ capacity link
  passed : ∀ link, (input.after draws step).passed_link link =
    (Traffic.exits link (input.after draws step).log).length
  discharge : ∀ link ∈ input.graph.links, ∀ ticks : Nat,
    ((input.after draws (step + ticks)).passed_link link.id : ℚ) -
        (input.after draws step).passed_link link.id ≤
      link.lanes + ticks * (link.lanes * saturationPerLane * input.dt)
  red : ∀ link ∈ input.graph.links, input.red (step * input.dt) link.to_ link = true →
    (input.after draws (step + 1)).passed_link link.id =
      (input.after draws step).passed_link link.id
  entered : (input.after draws step).entered = (input.after draws step).completed +
      (input.after draws step).active input.graph.linkIds
  generated : (input.after draws step).generated =
    (input.after draws step).entered + (input.after draws step).blocked

/-- Every run of `simulate_network` follows its rules after any number of ticks, and
its result says so. -/
theorem simulateNetwork_followsRules (input : SimulationInput) (valid : input.graph.Valid)
    (draws : Nat → ℚ) : (∀ step, FollowsRules input draws step) ∧
      (simulateNetwork input draws).conserved = true := by
  have follows (step : Nat) : FollowsRules input draws step := by
    have kept := kept_after input draws step
    constructor
    case in_order => exact kept.in_order
    case in_time => exact fun arrival hasArrived => kept.travels.completed _ _ hasArrived
    case all_arrived => exact kept.travels.count
    case occupancy =>
      intro link isLink
      have bounded := kept.bounded link.id
      have sameLink : input.roads.cap link.id = capacity link := by
        simp only [SimulationInput.roads, valid.linkMap_eq isLink]
      exact ⟨sameLink ▸ bounded.length_le, sameLink ▸ bounded.peak_le⟩
    case passed => exact fun link => (kept.bounded link).passed
    case discharge =>
      intro link isLink ticks
      have later := (kept_after input draws (step + ticks)).bounded link.id
      have credit_le := (kept.bounded link.id).credit_le
      have grown := account_after_add valid draws step ticks link.id
      simp only [Traffic.account, SimulationInput.roads, valid.linkMap_eq isLink] at grown credit_le
      linarith [later.credit_nonneg]
    case red =>
      intro link isLink isRed
      have unchanged := @Traffic.passed_service_of_shut input.graph input.roads
        (step * input.dt) (input.red (step * input.dt)) valid link isLink isRed
        ((input.after draws step).arrivals input.roads draws (step * input.dt) input.live)
      exact unchanged.trans (account_arrivals draws input.live link.id _).2
    case entered => exact kept.balanced.entered
    case generated => exact kept.balanced.generated
  exact ⟨follows, decide_eq_true (follows input.steps).entered⟩

/-- Two links in a row, and a flow of a vehicle a second. -/
def chainInput : SimulationInput where
  graph := chainGraph
  flows := [{ origin := "a", destination := "c", vehicles_per_hour := 3600 }]
  duration := 10
  dt := 1
  dt_pos := unit_pos
  cycle_ne := signalCycle_ne

theorem chainGraph_valid : chainGraph.Valid := by constructor <;> decide +kernel

theorem simulateNetwork_followsRules_chain : (∀ step, FollowsRules chainInput (fun _ => 0) step) ∧
      (simulateNetwork chainInput fun _ => 0).conserved = true :=
  simulateNetwork_followsRules chainInput chainGraph_valid fun _ => 0

example : (chainInput.after (fun _ => 0) 4).completed = 1 := by decide +kernel

end UrbanFlow.Networks
