import UrbanFlow.Networks.SignalTiming
import Mathlib.Data.List.Chain

/-!
# The signal environment

`NetworkSignalEnv`: one decision asks every signalised node for a phase, checks
the minimum green of the phases it would end, and steps the network for the
interval. In every episode whose decisions stay clear of the two ways a green is
cut short, each green that a switch ends has been shown for the minimum green,
and each node is closed for the clearance between its two axes.
-/

namespace UrbanFlow.Rl

open Networks Stepper

/-- `NetworkSignalEnv`, with what its constructor requires of the parameters that
a step reads. -/
structure NetworkSignalEnv where
  stepper : StepperConfig
  episode_seconds : ℚ
  decision_interval : ℚ
  min_green : ℚ
  dt_le : stepper.dt ≤ decision_interval
  interval_le : decision_interval ≤ episode_seconds
  has_signals : stepper.signalNodes ≠ []

namespace NetworkSignalEnv

variable (env : NetworkSignalEnv)

/-- `_ticks`: the steps of a decision. -/
def ticks : Nat := max 1 (roundHalfEven (env.decision_interval / env.stepper.dt)).toNat

/-- The phase asked of a node: the one it has when its minimum green has not been
served yet. -/
def want (signal : Signal) (action : Int) : Int :=
  if action ≠ signal.phase ∧ signal.time_in_phase < env.min_green - timeTolerance then signal.phase
  else action

/-- The phases asked of the signalised nodes. -/
def phases (stepper : Stepper) (actions : List Int) (node : String) : Option Int :=
  ((env.stepper.signalNodes.zip actions).lookup node).map (env.want (stepper.signals node))

/-- Steps with the same phases: the state after each. -/
def runTicks (draws : Nat → ℚ)
    (phases : String → Option Int) : Nat → Stepper → Option (List Stepper)
  | 0, _ => some []
  | count + 1, stepper =>
    (stepper.step env.stepper draws (some phases)).bind fun after =>
      (runTicks draws phases count after).map (after :: ·)

/-- `step`: the state after each step of the interval; `none` where it raises. -/
def step (draws : Nat → ℚ) (stepper : Stepper) (actions : List Int) : Option (List Stepper) :=
  if actions.length ≠ env.stepper.signalNodes.length then none
  else env.runTicks draws (env.phases stepper actions) env.ticks stepper

/-- Decisions from a state: the state after each step of each interval. -/
def episode (draws : Nat → ℚ) : Stepper → List (List Int) → Option (List Stepper)
  | _, [] => some []
  | stepper, actions :: later =>
    (env.step draws stepper actions).bind fun states =>
      (episode draws (states.getLastD stepper) later).map (states ++ ·)

/-- What is asked of a signal does not use the tolerance of the minimum green and
does not recall the old phase from a clearance that ends before the interval. -/
structure Undisturbed (signal : Signal) (want : Int) : Prop where
  not_tolerated : ¬ 0 < signal.clear_left → want ≠ signal.phase →
    ¬ (env.min_green - timeTolerance ≤ signal.shown env.stepper.clearance env.stepper.dt ∧
      signal.shown env.stepper.clearance env.stepper.dt < env.min_green)
  not_recalled : 0 < signal.clear_left → want ≠ signal.pending → env.min_green ≤ env.stepper.dt ∨
      timeTolerance < signal.clear_left - (env.ticks - 1) * env.stepper.dt

/-- Every decision of an episode leaves every signal undisturbed. -/
def Clear (draws : Nat → ℚ) : Stepper → List (List Int) → Prop
  | _, [] => True
  | stepper, actions :: later =>
    (∀ node ∈ env.stepper.signalNodes, ∀ want, env.phases stepper actions node = some want →
      env.Undisturbed (stepper.signals node) want) ∧
    ∀ states, env.step draws stepper actions = some states →
      Clear draws (states.getLastD stepper) later

def served (node : String) (states : List Stepper) : List (Option Int) :=
  states.map fun stepper => (stepper.signals node).served

/-- The timing of a node over the steps of an episode: its greens, its clearances,
and that no vehicle passes it while it is closed. -/
structure TimingKept (node : String) (start : Stepper) (states : List Stepper) : Prop where
  green : GreenKept env.min_green env.stepper.dt (served node states)
  clearance : ClearanceKept env.stepper.clearance env.stepper.dt (served node states)
  closed : (start :: states).IsChain fun before after =>
    (after.signals node).served = none → after.passed_node node = before.passed_node node

end NetworkSignalEnv

section Step

variable {config : StepperConfig} {draws : Nat → ℚ} {stepper after : Stepper} {node : String}
  {t : ℚ}

theorem untilDone_frame {State View : Type} {round : State → Option State} (view : State → View)
    (unchanged : ∀ state after, round state = some after → view after = view state) (rounds : Nat)
    (state : State) : view (untilDone round rounds state) = view state := by
  induction rounds generalizing state with
  | zero => rfl
  | succ _ ih =>
    rw [untilDone]
    split
    · rfl
    · next after isRound => rw [ih, unchanged state after isRound]

theorem arrive_frame (config : StepperConfig) (draws : Nat → ℚ) (t : ℚ) (stepper : Stepper)
    (flow : Flow) : (stepper.arrive config draws t flow).signals = stepper.signals ∧
      (stepper.arrive config draws t flow).passed_node = stepper.passed_node := by
  unfold arrive
  split
  · exact ⟨rfl, rfl⟩
  · simp only
    split_ifs <;> exact ⟨rfl, rfl⟩

theorem serveOne_frame {link : String}
    (isServed : stepper.serveOne config link node t = some after) :
    after.signals = stepper.signals ∧ ∀ other, other ≠ node →
      after.passed_node other = stepper.passed_node other := by
  unfold serveOne at isServed
  split at isServed
  · simp at isServed
  · simp only at isServed
    split_ifs at isServed <;>
      · cases isServed
        refine ⟨rfl, fun other isOther => ?_⟩
        simp [dequeue, enqueue, isOther]

theorem serve_signals (link node : String) (t : ℚ) (stepper : Stepper) :
    (stepper.serve config link node t).signals = stepper.signals :=
  untilDone_frame signals (fun _ _ isServed => (serveOne_frame isServed).1) _ _

theorem serve_passed_node (link : String) {other : String} (isOther : other ≠ node) (t : ℚ)
    (stepper : Stepper) : (stepper.serve config link node t).passed_node other =
      stepper.passed_node other :=
  untilDone_frame (fun stepper => stepper.passed_node other)
    (fun _ _ isServed => (serveOne_frame isServed).2 other isOther) _ _

theorem serveLink_signals (node : String) (t : ℚ) (stepper : Stepper) (link : GraphLink) :
    (stepper.serveLink config node t link).signals = stepper.signals := by
  simp only [serveLink]
  split_ifs <;> first | rfl | exact serve_signals _ _ _ _

theorem serveLink_passed_node {other : String} (isOther : other ≠ node) (t : ℚ)
    (stepper : Stepper) (link : GraphLink) :
    (stepper.serveLink config node t link).passed_node other = stepper.passed_node other := by
  simp only [serveLink]
  split_ifs <;> first | rfl | exact serve_passed_node _ isOther _ _

theorem serveLink_of_closed (isSignal : (config.graph.nodeMap node).control = some .signal)
    (isClosed : 0 < (stepper.signals node).clear_left) (link : GraphLink) :
    (stepper.serveLink config node t link).passed_node = stepper.passed_node := by
  simp only [serveLink, isSignal, if_true]
  rw [if_pos isClosed]

section

variable (nodes : List String) (t : ℚ)

/-- The service of all nodes leaves the signals alone, and no vehicle passes a
node whose signal is closed. -/
theorem serveNodes_frame (stepper : Stepper) :
    (nodes.foldl (serveNode config t) stepper).signals = stepper.signals := by
  refine Folds.foldl_frame signals (fun other _ stepper => ?_) stepper
  exact Folds.foldl_frame signals
    (fun link _ stepper => serveLink_signals other t stepper link) stepper

theorem serveNodes_passed_node (isSignal : (config.graph.nodeMap node).control = some .signal)
    (isClosed : 0 < (stepper.signals node).clear_left) :
    (nodes.foldl (serveNode config t) stepper).passed_node node =
      stepper.passed_node node := by
  let kept : Stepper → Prop := fun served =>
    served.signals = stepper.signals ∧ served.passed_node node = stepper.passed_node node
  have linkKept : ∀ other link served, kept served →
      kept (served.serveLink config other t link) := by
    rintro other link served ⟨sameSignals, samePassed⟩
    refine ⟨(serveLink_signals other t served link).trans sameSignals, ?_⟩
    by_cases isNode : node = other
    · subst isNode
      rw [serveLink_of_closed isSignal (by rw [sameSignals]; exact isClosed)]
      exact samePassed
    · rw [serveLink_passed_node isNode, samePassed]
  have whole : kept (nodes.foldl (serveNode config t) stepper) :=
    Folds.foldl_keeps kept (fun other _ _ known =>
        Folds.foldl_keeps kept (fun link _ served => linkKept other link served) known)
      ⟨rfl, rfl⟩
  exact whole.2

end

theorem signalNodes_nodup (config : StepperConfig) : config.signalNodes.Nodup := by
  refine List.Nodup.filter _ ?_
  rw [RoadGraph.sortedNodes, (List.perm_insertionSort _ _).nodup_iff]
  exact List.nodup_dedup _

/-- A step updates the signal of every signalised node with the phase asked of it,
and lets no vehicle pass a node whose signal is then closed. -/
theorem step_signal {phases : String → Option Int} (isNode : node ∈ config.signalNodes)
    (isStep : stepper.step config draws (some phases) = some after) :
    (stepper.signals node).update config.clearance config.dt
        ((phases node).getD (stepper.signals node).phase) = some (after.signals node) ∧
    ((after.signals node).served = none → after.passed_node node = stepper.passed_node node) := by
  simp only [Stepper.step] at isStep
  obtain ⟨signals, isUpdate, rfl⟩ := Option.map_eq_some_iff.mp isStep
  have arrivedSignals : (config.flows.foldl
      (Stepper.arrive config draws (stepper.time config)) stepper).signals = stepper.signals :=
    Folds.foldl_frame Stepper.signals
      (fun flow _ stepper => (arrive_frame config draws _ stepper flow).1) stepper
  have arrivedPassed : (config.flows.foldl
      (Stepper.arrive config draws (stepper.time config)) stepper).passed_node =
        stepper.passed_node :=
    Folds.foldl_frame Stepper.passed_node
      (fun flow _ stepper => (arrive_frame config draws _ stepper flow).2) stepper
  rw [arrivedSignals] at isUpdate
  have isAfter := Folds.foldlM_updateAt_of_mem (signalNodes_nodup config) isNode isUpdate
  have isSignal : (config.graph.nodeMap node).control = some .signal := by
    have isThere := (List.mem_filter.mp isNode).2
    simp only [Bool.and_eq_true, decide_eq_true_eq] at isThere
    exact isThere.1
  constructor
  · simp only [serveNodes_frame]
    exact isAfter
  · simp only [serveNodes_frame]
    intro isClosed
    have closed : 0 < (signals node).clear_left := by
      by_contra notClosed
      simp [Signal.served, notClosed] at isClosed
    rw [serveNodes_passed_node _ _ isSignal closed]
    exact congrFun arrivedPassed node

end Step

namespace NetworkSignalEnv

variable {env : NetworkSignalEnv} {draws : Nat → ℚ} {node : String}

variable {states : List Stepper} {past : List (Option Int)}

theorem Undisturbed.fits {signal : Signal} {action : Int}
    (undisturbed : env.Undisturbed signal (env.want signal action)) :
    Fits env.min_green env.stepper.clearance env.stepper.dt
      (env.want signal action) env.ticks signal where
  open_ := by
    intro isOpen isOther
    have isServed : env.min_green - timeTolerance ≤ signal.time_in_phase := by
      by_contra notServed
      refine isOther ?_
      unfold want
      split_ifs with isEarly
      · rfl
      · by_contra isOtherAction
        exact isEarly ⟨isOtherAction, not_le.mp notServed⟩
    have notShort := undisturbed.not_tolerated isOpen isOther
    by_contra isShort
    refine notShort ⟨isServed.trans ?_, not_le.mp isShort⟩
    unfold Signal.shown Signal.lead
    split_ifs
    · exact le_add_of_nonneg_right env.stepper.dt_pos.le
    · exact le_of_eq (add_zero _).symm
  closed := by
    intro isClosed
    by_cases isPending : env.want signal action = signal.pending
    · exact Or.inl isPending
    · exact Or.inr (undisturbed.not_recalled isClosed isPending)

theorem runTicks_shows {phases : String → Option Int} {want : Int}
    (isExact : ClearanceExact env.stepper.clearance env.stepper.dt)
    (isNode : node ∈ env.stepper.signalNodes) (isWant : phases node = some want) {count : Nat}
    {stepper : Stepper}
    (shows_ : Shows env.min_green env.stepper.clearance env.stepper.dt past (stepper.signals node))
    (fits : 0 < count → Fits env.min_green env.stepper.clearance env.stepper.dt want count
      (stepper.signals node)) (isRun : runTicks env draws phases count stepper = some states) :
    Shows env.min_green env.stepper.clearance env.stepper.dt (past ++ served node states)
        ((states.getLastD stepper).signals node) ∧ (stepper :: states).IsChain fun before after =>
        (after.signals node).served = none → after.passed_node node = before.passed_node node := by
  induction count generalizing stepper states past with
  | zero =>
    cases isRun
    exact ⟨by simpa [served] using shows_, List.isChain_singleton _⟩
  | succ count ih =>
    rw [runTicks, Option.bind_eq_some_iff] at isRun
    obtain ⟨after, isStep, isMap⟩ := isRun
    obtain ⟨rest, isRest, rfl⟩ := Option.map_eq_some_iff.mp isMap
    obtain ⟨isUpdate, passesNothing⟩ := step_signal isNode isStep
    rw [isWant, Option.getD_some] at isUpdate
    obtain ⟨showsAfter, fitsAfter⟩ := shows_.update env.stepper.dt_pos isExact
      (fits (Nat.succ_pos count)) isUpdate
    obtain ⟨showsLast, chain⟩ := ih showsAfter fitsAfter isRest
    refine ⟨?_, List.isChain_cons_cons.mpr ⟨passesNothing, chain⟩⟩
    have isServed : past ++ served node (after :: rest) =
        past ++ [(after.signals node).served] ++ served node rest := by
      simp [served]
    rw [isServed, List.getLastD_cons]
    exact showsLast

/-- Two pieces of a run that meet. -/
theorem isChain_cons_append {State : Type} {related : State → State → Prop} {start : State}
    {first second : List State} (firstChain : (start :: first).IsChain related)
    (secondChain : (first.getLastD start :: second).IsChain related) :
    (start :: (first ++ second)).IsChain related := by
  induction first generalizing start with
  | nil => simpa using secondChain
  | cons _ _ ih =>
    obtain ⟨isRelated, rest⟩ := List.isChain_cons_cons.mp firstChain
    rw [List.getLastD_cons] at secondChain
    exact List.isChain_cons_cons.mpr ⟨isRelated, ih rest secondChain⟩

theorem phases_isSome {stepper : Stepper} {actions : List Int}
    (isNode : node ∈ env.stepper.signalNodes)
    (isLength : actions.length = env.stepper.signalNodes.length) :
    ∃ action, env.phases stepper actions node = some (env.want (stepper.signals node) action) := by
  unfold phases
  generalize env.stepper.signalNodes = nodes at isNode isLength
  have isAction : ∃ action, (nodes.zip actions).lookup node = some action := by
    induction nodes generalizing actions with
    | nil => simp at isNode
    | cons _ _ ih =>
      cases actions with
      | nil => simp at isLength
      | cons action =>
        rw [List.zip_cons_cons, List.lookup_cons]
        obtain isFirst | isLater := List.mem_cons.mp isNode
        · exact ⟨action, by simp [isFirst]⟩
        · split
          · exact ⟨action, rfl⟩
          · exact ih isLater (by simpa using isLength)
  obtain ⟨action, isFound⟩ := isAction
  exact ⟨action, by rw [isFound, Option.map_some]⟩

theorem episode_shows (isExact : ClearanceExact env.stepper.clearance env.stepper.dt)
    (isNode : node ∈ env.stepper.signalNodes) {decisions : List (List Int)} {stepper : Stepper}
    (shows_ : Shows env.min_green env.stepper.clearance env.stepper.dt past (stepper.signals node))
    (isClear : Clear env draws stepper decisions)
    (isEpisode : episode env draws stepper decisions = some states) :
    Shows env.min_green env.stepper.clearance env.stepper.dt (past ++ served node states)
        ((states.getLastD stepper).signals node) ∧ (stepper :: states).IsChain fun before after =>
        (after.signals node).served = none → after.passed_node node = before.passed_node node := by
  induction decisions generalizing stepper states past with
  | nil =>
    cases isEpisode
    exact ⟨by simpa [served] using shows_, List.isChain_singleton _⟩
  | cons _ _ ih =>
    rw [episode, Option.bind_eq_some_iff] at isEpisode
    obtain ⟨first, isFirst, isMap⟩ := isEpisode
    obtain ⟨rest, isRest, rfl⟩ := Option.map_eq_some_iff.mp isMap
    obtain ⟨undisturbed, clearLater⟩ := isClear
    have isRun := isFirst
    unfold step at isRun
    split_ifs at isRun with isLength
    obtain ⟨action, isWant⟩ := phases_isSome isNode (not_not.mp isLength)
    have fits := (undisturbed node isNode _ isWant).fits
    obtain ⟨showsFirst, firstChain⟩ :=
      runTicks_shows isExact isNode isWant shows_ (fun _ => fits) isRun
    obtain ⟨showsLast, restChain⟩ := ih showsFirst (clearLater first isFirst) isRest
    refine ⟨?_, isChain_cons_append firstChain restChain⟩
    have isLast : (first ++ rest).getLastD stepper = rest.getLastD (first.getLastD stepper) := by
      rw [List.getLastD_eq_getLast?, List.getLastD_eq_getLast?,
        List.getLastD_eq_getLast?, List.getLast?_append]
      cases rest.getLast? <;> rfl
    rw [isLast]
    simpa [served, List.append_assoc] using showsLast

/-- In every episode whose decisions stay clear of the ways a green is cut short,
every signalised node shows each green that a switch ends for the minimum green,
and is closed for the clearance between its two axes, with no vehicle passing. -/
theorem clear_episode_kept (env : NetworkSignalEnv) (draws : Nat → ℚ)
    (decisions : List (List Int)) (states : List Stepper)
    (isExact : ClearanceExact env.stepper.clearance env.stepper.dt)
    (isEpisode : env.episode draws .initial decisions = some states)
    (isClear : env.Clear draws .initial decisions) :
    ∀ node ∈ env.stepper.signalNodes, env.TimingKept node .initial states := by
  intro node isNode
  obtain ⟨shows_, chain⟩ := episode_shows isExact isNode Shows.initial isClear isEpisode
  rw [List.nil_append] at shows_
  exact ⟨shows_.green, shows_.clear, chain⟩

theorem signalLink_pos : (0 : ℚ) < 100 := by norm_num

theorem signalSpeed_pos : (0 : ℚ) < 10 := by norm_num

/-- A gate and a signalised junction. -/
def oneSignal : StepperConfig where
  graph :=
    { nodes := [{ id := "G", x := -100, y := 0, kind := .gate },
          { id := "J", x := 0, y := 0, control := some .signal }]
      links :=
        [{ id := "G>J", from_ := "G", to_ := "J", length := 100, lanes := 1,
           speed := 10, length_pos := signalLink_pos, lanes_pos := singleLane_pos,
           speed_pos := signalSpeed_pos }] }
  flows := []
  dt := 1
  clearance := 7
  dt_pos := unit_pos
  clearance_nonneg := by norm_num

/-- Decisions of five seconds, a minimum green of five and a clearance of seven. -/
def longClearance : NetworkSignalEnv where
  stepper := oneSignal
  episode_seconds := 300
  decision_interval := 5
  min_green := 5
  dt_le := by norm_num [oneSignal]
  interval_le := by norm_num
  has_signals := by decide

/-- No arrivals. -/
def noDraws : Nat → ℚ := fun _ => 0

/-- A switch that the next decision takes back shows the new green for one
second. -/
theorem recalled_green_cut : ∃ states,
      longClearance.episode noDraws .initial [[0], [1], [0]] = some states ∧
      served "J" states = List.replicate 5 (some 0) ++ List.replicate 7 none ++
          [some 1, none, none] ∧
      ¬ GreenKept longClearance.min_green longClearance.stepper.dt (served "J" states) := by
  have isServed : (longClearance.episode noDraws .initial [[0], [1], [0]]).map
      (served "J") = some (List.replicate 5 (some 0) ++
        List.replicate 7 none ++ [some 1, none, none]) := by
    decide +kernel
  obtain ⟨states, isEpisode, isTrace⟩ := Option.map_eq_some_iff.mp isServed
  refine ⟨states, isEpisode, isTrace, fun kept => ?_⟩
  have isLong := kept (List.replicate 5 (some 0) ++ List.replicate 7 none) 1 1 none [none] isTrace
    Nat.one_pos (by decide) (by simp)
  norm_num [longClearance, oneSignal] at isLong

theorem longClearance_exact :
    ClearanceExact longClearance.stepper.clearance longClearance.stepper.dt := by
  intro ticks _ isEnd
  have isClearance : longClearance.stepper.clearance = 7 := rfl
  have isStep : longClearance.stepper.dt = 1 := rfl
  rw [isClearance, isStep, mul_one] at isEnd ⊢
  have atLeast : (6 : ℚ) < ticks := by
    norm_num [timeTolerance] at isEnd
    linarith
  have atLeastSeven : 7 ≤ ticks := by exact_mod_cast atLeast
  exact_mod_cast atLeastSeven

theorem longClearance_clear : longClearance.Clear noDraws .initial [[0], [1]] := by
  have onlyNode : ∀ {node}, node ∈ longClearance.stepper.signalNodes → node = "J" := by
    intro node isNode
    have isNodes : longClearance.stepper.signalNodes = ["J"] := by decide
    simpa [isNodes] using isNode
  refine ⟨fun node isNode want isWant => ?_, fun states isStep =>
    ⟨fun node isNode want isWant => ?_, fun _ _ => trivial⟩⟩
  · obtain rfl := onlyNode isNode
    have isAsked : longClearance.phases .initial [0] "J" = some 0 := by decide
    cases isAsked.symm.trans isWant
    exact ⟨fun _ isOther => absurd rfl isOther,
      fun isClosed => absurd isClosed (by simp [initial])⟩
  · obtain rfl := onlyNode isNode
    have isSignal : (longClearance.step noDraws .initial [0]).map
        (fun states => (states.getLastD .initial).signals "J") =
        some ({ time_in_phase := 5 } : Signal) := by
      decide +kernel
    rw [isStep, Option.map_some, Option.some_inj] at isSignal
    rw [isSignal]
    refine ⟨fun _ _ isShort => ?_, nofun⟩
    have notShort := isShort.2
    norm_num [Signal.shown, Signal.lead, longClearance] at notShort

/-- A switch that is kept is timed right. -/
theorem kept_switch_timed : ∃ states,
      longClearance.episode noDraws .initial [[0], [1]] = some states ∧
      ClearanceExact longClearance.stepper.clearance longClearance.stepper.dt ∧
      longClearance.Clear noDraws .initial [[0], [1]] ∧ ∀ node ∈ longClearance.stepper.signalNodes,
        longClearance.TimingKept node .initial states := by
  have isSome : (longClearance.episode noDraws .initial [[0], [1]]).isSome := by decide +kernel
  obtain ⟨states, isEpisode⟩ := Option.isSome_iff_exists.mp isSome
  exact ⟨states, isEpisode, longClearance_exact, longClearance_clear,
    clear_episode_kept longClearance noDraws [[0], [1]] states
      longClearance_exact isEpisode longClearance_clear⟩

end NetworkSignalEnv

end UrbanFlow.Rl
