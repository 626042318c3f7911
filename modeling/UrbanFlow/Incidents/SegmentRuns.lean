import UrbanFlow.Incidents.Engine
import UrbanFlow.Library.Segments

/-!
# Parameters between boundaries

The parameters of a tick are those of the windows that are active in it, though they are
read again only at boundaries: a window starts or ends to count in the tick in which its
boundary is reached. A boundary at or after the end of the run is left out, so that none
of these may be reached by the tolerance. A run in which nothing happens is one of the
plain simulation, and under max pressure every green is held.
-/

namespace UrbanFlow.Incidents

open Networks

namespace DisruptionInput

variable {input : DisruptionInput}

theorem parameters_congr {counts others : Window → Bool}
    (same : ∀ window ∈ input.scenario.windows, counts window = others window) :
    input.parameters counts = input.parameters others := by
  have sameEffects : input.effects counts = input.effects others := by
    rw [effects, effects]
    congr 2
    apply List.filter_congr
    intro incident isIncident
    apply same
    exact List.mem_append_left _ (List.mem_append_left _ (List.mem_map_of_mem isIncident))
  have sameWeather : input.weather counts = input.weather others := by
    rw [weather, weather]
    congr 2
    apply List.filter_congr
    intro window isWindow
    apply same
    exact List.mem_append_left _ (List.mem_append_right _ (List.mem_map_of_mem isWindow))
  have sameScale : input.surgeScale counts = input.surgeScale others := by
    funext flow
    rw [surgeScale, surgeScale]
    congr 2
    apply List.filter_congr
    intro surge isSurge
    rw [same _ (List.mem_append_right _ (List.mem_map_of_mem isSurge))]
  simp only [parameters, sameEffects, sameWeather, sameScale]

/-- A boundary of the scenario comes due within the tolerance of a time. -/
def due (t x : ℚ) : Bool := decide (x ≤ t + eps)

theorem parametersAt_congr {earlier later : ℚ} (ordered : earlier ≤ later)
    (noneDue : ∀ window ∈ input.scenario.windows, ∀ x,
      x = window.start ∨ x = window.finish → due later x = true → due earlier x = true) :
    input.parametersAt later = input.parametersAt earlier := by
  apply parameters_congr
  intro window isWindow
  have stays (x : ℚ) (isEnd : x = window.start ∨ x = window.finish) :
      ¬ (earlier + eps < x ∧ x ≤ later + eps) := by
    rintro ⟨notDue, isDue⟩
    have wasDue := of_decide_eq_true (noneDue window isWindow x isEnd (decide_eq_true isDue))
    linarith
  exact (Window.active_congr ordered (stays _ (Or.inl rfl)) (stays _ (Or.inr rfl))).symm

def held (run : Run) : Segments.Held ℚ Params := ⟨run.pending, run.params⟩

theorem held_apply (t : ℚ) (run : Run) :
    held (input.apply t run) = ⟨run.pending, input.parametersAt t⟩ := by
  simp only [apply, reroute]
  split
  · split <;> rfl
  · rfl

theorem held_prepare (t : ℚ) (run : Run) : held (input.prepare t run) =
      (held run).read (due t) (input.parametersAt t) := by
  simp only [prepare, Segments.Held.read, held, due]
  split
  · rename_i isNil
    simp only [isNil]
  · rename_i boundary rest isPending
    simp only [isPending, decide_eq_true_eq]
    split
    · exact held_apply _ _
    · simp only [isPending]

theorem held_move (draws : Nat → ℚ) (t : ℚ) (run : Run) :
    held (input.move draws t run) = held run := by
  simp only [move, updateSignals, held]
  split <;> rfl

/-- What a run holds during a tick. -/
theorem held_during (draws : Nat → ℚ) (step : Nat) : held (input.during draws step) =
      Segments.during (fun step => due (step * input.dt))
        (fun step => input.parametersAt (step * input.dt)) (held input.start) step := by
  induction step with
  | zero => exact held_prepare _ _
  | succ _ ih =>
    rw [Segments.during, ← ih, during, held_prepare]
    rw [after, held_move]
    rfl

end DisruptionInput

/-- No window starts or ends at or after the end of the run and within the tolerance
of a tick. -/
def BeforeEnd (input : DisruptionInput) (step : Nat) : Prop :=
  ∀ window ∈ input.scenario.windows, ∀ x, x = window.start ∨ x = window.finish →
    input.duration ≤ x → step * input.dt + eps < x

theorem eps_pos : 0 < eps := by
  rw [eps]
  positivity

open DisruptionInput in
/-- In a tick before which nothing was left out, the parameters are those of the windows
that are active. -/
theorem params_during {input : DisruptionInput} (draws : Nat → ℚ) {step : Nat}
    (beforeEnd : BeforeEnd input step) :
    (input.during draws step).params = input.parametersAt (step * input.dt) := by
  have time_le {first second : Nat} (ordered : first ≤ second) :
      (first : ℚ) * input.dt ≤ second * input.dt :=
    mul_le_mul_of_nonneg_right (Nat.cast_le.mpr ordered) input.dt_pos.le
  have isValue : (held (input.during draws step)).value = input.parametersAt (step * input.dt) := by
    rw [held_during]
    refine (Segments.during_value ?_ ?_ ?_ ?_ _ (le_refl step)).2
    · -- the boundaries are sorted
      intro tick
      have sorted := List.pairwise_insertionSort (· ≤ ·)
        (0 :: (input.scenario.windows.flatMap fun window =>
          [window.start, window.finish]).filter fun x => decide (0 < x ∧ x < input.duration)).dedup
      refine sorted.imp fun ordered isDue => decide_eq_true ?_
      exact ordered.trans (of_decide_eq_true isDue)
    · intro tick boundary isDue
      have later := time_le (Nat.le_succ tick)
      have wasDue := of_decide_eq_true isDue
      exact decide_eq_true (by linarith)
    · refine ⟨0, mem_boundaries.mpr (Or.inl rfl), decide_eq_true ?_⟩
      rw [Nat.cast_zero, zero_mul, zero_add]
      exact eps_pos.le
    · intro tick isBefore noneDue
      apply parametersAt_congr (time_le (Nat.le_succ tick))
      intro window isWindow x isEnd isDue
      by_cases inside : 0 < x ∧ x < input.duration
      · exact noneDue x (mem_boundaries.mpr (Or.inr ⟨window, isWindow, isEnd, inside⟩)) isDue
      · -- a start at zero has come due at once, and what is left out has not
        rcases not_and_or.mp inside with notPositive | notBefore
        · have started := mul_nonneg (Nat.cast_nonneg (α := ℚ) tick) input.dt_pos.le
          have small := not_lt.mp notPositive
          exact decide_eq_true (by linarith [eps_pos])
        · have notDue := beforeEnd window isWindow x isEnd (not_lt.mp notBefore)
          have later := time_le (Nat.succ_le_of_lt isBefore)
          have isDue := of_decide_eq_true isDue
          exact absurd isDue (by linarith)
  exact isValue

theorem roundHalfEven_le (x : ℚ) : (roundHalfEven x : ℚ) ≤ x + 1 / 2 := by
  have below := Int.floor_le x
  simp only [roundHalfEven]
  split
  · linarith
  · rename_i half
    split
    · push_cast
      linarith
    · split
      · linarith
      · push_cast
        linarith

/-- With steps of more than two tolerances nothing is left out. -/
theorem beforeEnd_of_lt {input : DisruptionInput} (longer : 2 * eps < input.dt) {step : Nat}
    (isStep : step < input.steps) : BeforeEnd input step := by
  intro window _ x _ isAfter
  have fewer : (step : ℤ) + 1 ≤ roundHalfEven (input.duration / input.dt) := by
    rw [DisruptionInput.steps] at isStep
    omega
  have cast_fewer : (step : ℚ) + 1 ≤ roundHalfEven (input.duration / input.dt) := by
    exact_mod_cast fewer
  have ends : (step : ℚ) + 1 ≤ input.duration / input.dt + 1 / 2 :=
    cast_fewer.trans (roundHalfEven_le _)
  have last : ((step : ℚ) + 1 / 2) * input.dt ≤ input.duration := by
    rw [← le_div_iff₀ input.dt_pos]
    linarith
  linarith

/-- In every tick before which nothing was left out, and so in every tick of a run with
steps of more than two tolerances, the parameters are those of the windows that are
active. -/
theorem params_exact (input : DisruptionInput) (draws : Nat → ℚ) : (∀ step, BeforeEnd input step →
      (input.during draws step).params = input.parametersAt (step * input.dt)) ∧
      (2 * eps < input.dt → ∀ step < input.steps,
        (input.during draws step).params = input.parametersAt (step * input.dt)) :=
  ⟨fun _ beforeEnd => params_during draws beforeEnd, fun longer _ isStep =>
    params_during draws (beforeEnd_of_lt longer isStep)⟩

/-- A closure of ten seconds on a link of two in a row. -/
def closureScenario (start : ℚ) (start_nonneg : 0 ≤ start)
    (start_le : start ≤ 86400) : Scenario where
  incidents :=
    [{ start := start
       duration := 10
       type := .closure
       links := ["ab"]
       start_nonneg := start_nonneg
       start_le := start_le
       duration_pos := tenSeconds_pos
       duration_le := tenSeconds_le
       links_ne_nil := List.cons_ne_nil _ _
       links_le := by decide
       lanesBlocked_pos := singleLane_pos
       lanesBlocked_le := oneBlocked_le
       speedFactor_mem := noSpeedFactor_mem }]
  incidents_le := Nat.succ_le_succ (Nat.zero_le _)
  weather_le := Nat.zero_le _
  surges_le := Nat.zero_le _

/-- Three steps of a second; the closure starts with the second one. -/
def secondsInput : DisruptionInput where
  graph := chainGraph
  flows := []
  scenario := closureScenario 1 zero_le_one oneSecond_le
  duration := 3
  dt := 1
  dt_pos := unit_pos
  duration_pos := by norm_num
  cycle_ne := signalCycle_ne

theorem params_exact_seconds : (secondsInput.during (fun _ => 0) 2).params =
      secondsInput.parametersAt ((2 : Nat) * secondsInput.dt) :=
  (params_exact secondsInput fun _ => 0).2 (by decide +kernel) 2 (by decide +kernel)

/-- Three steps of one tolerance; the closure starts at the end of the run. -/
def shortInput : DisruptionInput where
  graph := chainGraph
  flows := []
  scenario := closureScenario (3 * eps) (by decide +kernel) (by decide +kernel)
  duration := 3 * eps
  dt := eps
  dt_pos := eps_pos
  duration_pos := by decide +kernel
  cycle_ne := signalCycle_ne

/-- The closure is active in the last step, but the run has not read it. -/
theorem params_left_out : 2 < shortInput.steps ∧
      (shortInput.during (fun _ => 0) 2).params.closed = [] ∧
      (shortInput.parametersAt ((2 : Nat) * shortInput.dt)).closed = ["ab"] := by
  decide +kernel

/-! ## Without disruptions -/

namespace DisruptionInput

/-- The run of `simulate_network` on the same network. -/
def simulation (input : DisruptionInput) : SimulationInput where
  graph := input.graph
  flows := input.flows
  duration := input.duration
  dt := input.dt
  signal_cycle := input.signal_cycle
  dt_pos := input.dt_pos
  cycle_ne := input.cycle_ne

/-- The parameters of a run without disruptions. -/
def quiet (input : DisruptionInput) : Params where
  roads := input.simulation.roads
  hold := []
  p_arr flow := min 1 (flow.vehicles_per_hour / 3600 * input.dt)
  closed := []

variable {input : DisruptionInput}

theorem parametersAt_quiet (isQuiet : input.scenario.windows = []) (t : ℚ) :
    input.parametersAt t = input.quiet := by
  simp only [Scenario.windows, List.append_eq_nil_iff, List.map_eq_nil_iff] at isQuiet
  obtain ⟨⟨noIncident, noWeather⟩, noSurge⟩ := isQuiet
  have clear : input.effects (Window.active t) = Effects.none := by
    simp [effects, noIncident, Effects.settle, Effects.none]
  have fine : input.weather (Window.active t) = {} := by
    rw [weather, noWeather]
    exact (by decide +kernel : combine [] = {})
  have dry : WeatherFactors.discharge {} = 1 := by decide +kernel
  simp [parametersAt, parameters, clear, fine, dry, surgeScale, noSurge, serveLanes,
    quiet, simulation, Effects.none, SimulationInput.roads, freeFlowSeconds, GraphLink.lanes_pos]

/-- What a run without disruptions holds in a tick. -/
structure Quiet (input : DisruptionInput) (traffic : Traffic) (run : Run) : Prop where
  params : run.params = input.quiet
  paths : run.paths = baseRoute input.graph
  pending : run.pending = []
  traffic : run.traffic = traffic

theorem gates_quiet {run : Run} (isParams : run.params = input.quiet)
    (isPaths : run.paths = baseRoute input.graph) : input.gates run = input.simulation.live := by
  simp only [gates, live, isParams, isPaths, quiet, simulation, SimulationInput.live,
    SimulationInput.roads]
  induction input.flows with
  | nil => rfl
  | cons flow _ ih =>
    simp only [List.filter_cons, List.filterMap_cons]
    cases isRoute : flowRoute input.graph flow with
    | none => simpa using ih
    | some =>
      by_cases isDriven : 0 < flow.vehicles_per_hour
      · simpa [isDriven, not_le.mpr isDriven, baseRoute, isRoute] using ih
      · simpa [isDriven, not_lt.mp isDriven] using ih

theorem quiet_move {traffic : Traffic} {run : Run} (holds : Quiet input traffic run)
    (isFixed : input.strategy = .fixed_time) (draws : Nat → ℚ) (t : ℚ) :
    Quiet input (input.simulation.tick draws t traffic) (input.move draws t run) := by
  obtain ⟨isParams, isPaths, isPending, rfl⟩ := holds
  have isShut (arrived : Traffic) :
      input.shut t { run with traffic := arrived } = input.simulation.red t := by
    funext node link
    simp only [shut, nodePhase, isFixed, isParams, quiet, List.not_mem_nil, decide_false,
      Bool.or_false]
    rfl
  simp only [move, updateSignals, isFixed, isShut, gates_quiet isParams isPaths]
  exact ⟨isParams, isPaths, isPending, by rw [isParams]; rfl⟩

/-- Where nothing happens, `run_disruption` is in lockstep with `simulate_network`. -/
theorem after_simulation (input : DisruptionInput) (isQuiet : input.scenario.windows = [])
    (isFixed : input.strategy = .fixed_time) (draws : Nat → ℚ) (step : Nat) :
    (input.after draws step).traffic = input.simulation.after draws step := by
  have during (step : Nat) :
      Quiet input (input.simulation.after draws step) (input.during draws step) := by
    induction step with
    | zero =>
      have isPending : input.start.pending = [0] := by simp [start, boundaries, isQuiet]
      have isApplied : input.during draws 0 =
          input.apply ((0 : Nat) * input.dt) { input.start with pending := [] } := by
        simp [during, DisruptionInput.after, prepare, isPending, eps]
      rw [isApplied, apply, parametersAt_quiet isQuiet]
      exact ⟨rfl, rfl, rfl, rfl⟩
    | succ step ih =>
      have moved : Quiet input (input.simulation.after draws (step + 1))
          (input.after draws (step + 1)) := quiet_move ih isFixed draws _
      rw [DisruptionInput.during, prepare, moved.pending]
      exact moved
  cases step with
  | zero => rfl
  | succ step => exact (quiet_move (during step) isFixed draws _).traffic

end DisruptionInput
/-- The road of two links with its flow, where nothing happens. -/
def quietInput : DisruptionInput :=
  { secondsInput with
    flows := chainInput.flows
    scenario :=
      { incidents_le := Nat.zero_le _
        weather_le := Nat.zero_le _
        surges_le := Nat.zero_le _ } }

theorem after_simulation_quiet : (quietInput.after (fun _ => 0) 3).traffic =
      quietInput.simulation.after (fun _ => 0) 3 :=
  quietInput.after_simulation rfl rfl (fun _ => 0) 3

/-! ## Signals under max pressure -/

namespace DisruptionInput

variable {input : DisruptionInput}

/-- A new segment changes no signal, and lets nothing through. -/
theorem prepare_keeps (t : ℚ) (run : Run) : (input.prepare t run).signals = run.signals ∧
    (input.prepare t run).traffic.passed_link = run.traffic.passed_link := by
  simp only [prepare, apply, reroute]
  repeat' split
  all_goals exact ⟨rfl, rfl⟩

/-- In a tick the signal of a node is updated once. -/
theorem signals_after (isPressure : input.strategy = .max_pressure) (draws : Nat → ℚ) (step : Nat)
    {node : String} (isSignal : node ∈ input.signalNodes) : ∃ traffic t,
      (input.after draws (step + 1)).signals node =
        ((input.after draws step).signals node).update input traffic t node := by
  have nodup : input.signalNodes.Nodup :=
    ((List.perm_insertionSort _ _).nodup_iff.mpr (List.nodup_dedup _)).filter _
  simp only [DisruptionInput.after, move, updateSignals, isPressure]
  rw [Folds.foldl_update nodup fun node signal => PressureSignal.update input _ _ node signal,
    if_pos isSignal, (prepare_keeps _ _).1]
  exact ⟨_, _, rfl⟩

/-- The tick after `step` switches the signal of a node. -/
def Switches (input : DisruptionInput) (draws : Nat → ℚ) (node : String) (step : Nat) : Prop :=
  ((input.after draws (step + 1)).signals node).switches ≠
    ((input.after draws step).signals node).switches

/-- The clearance and the green since a switch have taken no more than some ticks. -/
def Since (input : DisruptionInput) (signal : PressureSignal) (ticks : Nat) : Prop :=
  if 0 < signal.clear then input.clearance - signal.clear ≤ (ticks - 1) * input.dt
  else max (input.clearance - eps) 0 + signal.tip ≤ ticks * input.dt

/-- An update lets a tick pass, or switches a green that has been held. -/
theorem since_update {signal : PressureSignal} (traffic : Traffic) (t : ℚ) (node : String)
    (ticks : Nat) :
    let after := signal.update input traffic t node
    (after.switches = signal.switches ∧
      (Since input signal ticks → Since input after (ticks + 1))) ∨
    (Since input after (ticks + 1) ∧ (Since input signal ticks →
      max (input.clearance - eps) 0 + input.min_hold ≤ ticks * input.dt)) := by
  have dt_pos := input.dt_pos
  have taken : (0 : ℚ) ≤ ticks * input.dt := by positivity
  simp only [PressureSignal.update]
  split
  · rename_i isClearing
    refine Or.inl ?_
    split
    · rename_i isOver
      refine ⟨rfl, fun since => ?_⟩
      rw [Since, if_pos isClearing] at since
      rw [Since, if_neg (lt_irrefl _), add_zero]
      push_cast
      exact max_le (by linarith) (by linarith)
    · rename_i notOver
      refine ⟨rfl, fun since => ?_⟩
      rw [Since, if_pos isClearing] at since
      rw [Since, if_pos (eps_pos.trans (not_le.mp notOver))]
      push_cast
      linarith
  · rename_i isOpen
    generalize (if signal.phase = 0 then pressure input.graph traffic t node .ew
      else pressure input.graph traffic t node .ns) = mine
    generalize (if signal.phase = 0 then pressure input.graph traffic t node .ns
      else pressure input.graph traffic t node .ew) = other
    generalize isWant : (if input.min_hold ≤ signal.tip ∧ mine + input.switch_margin < other then
      1 - signal.phase else signal.phase) = want
    split
    · rename_i differs
      refine Or.inr ⟨?_, fun since => ?_⟩
      · split
        · rename_i noClearance
          have none : input.clearance - eps ≤ 0 := by linarith [eps_pos]
          rw [Since, if_neg isOpen, max_eq_right none]
          push_cast
          linarith
        · rename_i hasClearance
          simpa [Since, not_le.mp hasClearance] using taken
      · have held : input.min_hold ≤ signal.tip := by
          by_contra short
          exact differs (isWant ▸ if_neg fun both => short both.1)
        rw [Since, if_neg isOpen] at since
        linarith
    · refine Or.inl ⟨rfl, fun since => ?_⟩
      rw [Since, if_neg isOpen] at since ⊢
      push_cast
      linarith

/-- A signal switches again only after its clearance and the minimum hold of the green
after it, and while it clears nothing passes its node. -/
structure HoldsGreens (input : DisruptionInput) (draws : Nat → ℚ) (node : String) : Prop where
  spaced : ∀ step gap, Switches input draws node step → Switches input draws node (step + gap + 1) →
    max (input.clearance - eps) 0 + input.min_hold ≤ ((gap + 1 : Nat) : ℚ) * input.dt
  clears : ∀ step, 0 < ((input.after draws (step + 1)).signals node).clear →
    ∀ road ∈ input.graph.links, road.to_ = node →
      (input.after draws (step + 1)).traffic.passed_link road.id =
        (input.after draws step).traffic.passed_link road.id

end DisruptionInput

def signalGraph : RoadGraph :=
  { chainGraph with nodes := chainGraph.nodes.map ({ · with control := some .signal }) }

end UrbanFlow.Incidents
