import Mathlib.Algebra.BigOperators.Ring.List
import UrbanFlow.Core.Rounding
import UrbanFlow.Library.Dict
import UrbanFlow.Networks.NetworkSim

/-!
# The digital twin

Observations fill windows of time, and `run` predicts every window up to the latest one
from the observations of the window before. A window is complete once a later one is
observed, so that a prediction never has to be taken back.
-/

namespace UrbanFlow.Twin

open Networks

structure Observation where
  link_id : String
  timestamp : ℚ
  count : Nat
  mean_speed : Option ℚ

/-- What `predict_counts` returns. -/
structure Prediction where
  counts : List (String × ℤ)
  peakOccupancy : List (String × Nat)
  completed : Nat
  meanDelaySeconds : Option ℚ
  meanTravelSeconds : Option ℚ
  unroutable : List String

/-- The run that `predict_counts` asks for. -/
def inputOf (graph : RoadGraph) (flows : List Flow) (duration : ℚ) : SimulationInput where
  graph := graph
  flows := flows
  duration := duration
  dt := 1
  dt_pos := unit_pos
  cycle_ne := signalCycle_ne

/-- `predict_counts`, with the draws of its seed. -/
def predictCounts (graph : RoadGraph) (flows : List Flow) (interval warmup : ℚ) (draws : Nat → ℚ)
    (windows : Nat := 1) : Prediction :=
  let full := simulateNetwork (inputOf graph flows (warmup + interval * windows)) draws
  let base : List (String × Nat) := if 0 < warmup then
      (simulateNetwork (inputOf graph flows warmup) draws).perLink.map (Prod.map id LinkResult.passed)
    else full.perLink.map (Prod.map id fun _ => 0)
  { counts := full.perLink.map fun item =>
      (item.1, (item.2.passed : ℤ) - ((base.lookup item.1).getD 0 : Nat))
    peakOccupancy := full.perLink.map (Prod.map id LinkResult.peakOccupancy)
    completed := full.completed
    meanDelaySeconds := full.meanDelaySeconds
    meanTravelSeconds := full.meanTravelSeconds
    unroutable := full.unroutable }

def maxWindows : Nat := 96

/-- A number for each link in each window. -/
abbrev Rows := List (Nat × List (String × ℚ))

/-- What a `TwinRunner` changes; `state` and `compare` read nothing else that changes. -/
structure TwinRunner where
  observed : Rows := []
  speeds : Rows := []
  predicted : List (Nat × List (String × ℤ)) := []
  flows_used : List (Nat × List Flow) := []

/-- What a `TwinRunner` is made from, and the draws of every seed. -/
structure TwinSetup where
  graph : RoadGraph
  base_flows : List Flow
  interval : ℚ
  warmup : ℚ
  seed : ℤ
  start : ℚ
  draws : ℤ → Nat → ℚ
  interval_pos : 0 < interval
  warmup_nonneg : 0 ≤ warmup

def latestWindow (observed : Rows) : Option Nat := (observed.map Prod.fst).max?

namespace TwinSetup

variable (twin : TwinSetup)

def windowOf (timestamp : ℚ) : ℤ := ⌊(timestamp - twin.start) / twin.interval + 1 / 10 ^ 9⌋

/-- An observation that `ingest` does not ignore. -/
def Accepts (o : Observation) : Prop := 0 ≤ twin.windowOf o.timestamp ∧ o.link_id ∈ twin.graph.linkIds

instance : DecidablePred twin.Accepts := fun _ => inferInstanceAs (Decidable (_ ∧ _))

/-- The body of the loop of `ingest`. -/
def take (runner : TwinRunner) (o : Observation) : TwinRunner := if twin.Accepts o then
    let w := (twin.windowOf o.timestamp).toNat
    { runner with
      observed := Dict.upsert (Dict.upsert (· + (o.count : ℚ)) 0 o.link_id) [] w runner.observed
      speeds := match o.mean_speed with
        | some speed => Dict.upsert (Dict.upsert (fun _ => speed) 0 o.link_id) [] w runner.speeds
        | none => runner.speeds }
  else runner

/-- `ingest`, with how many observations were taken. -/
def ingest (observations : List Observation) (runner : TwinRunner) : TwinRunner × Nat :=
  (observations.foldl twin.take runner, observations.countP fun o => twin.Accepts o)

/-- The node that a link leaves. -/
def origin (link_id : String) : String := (twin.graph.linkMap link_id).from_

def gateIds : List String :=
  (twin.graph.nodes.filter fun node => node.kind = .gate).map GraphNode.id

def baseRate (origin : String) : ℚ :=
  ((twin.base_flows.filter fun f => f.origin = origin).map Flow.vehicles_per_hour).sum

/-- `entry`, of a row of the observed windows. -/
def entry (row : List (String × ℚ)) (origin : String) : ℚ :=
  (row.map fun item => if twin.origin item.1 = origin then item.2 else 0).sum

/-- A base flow in `implied_flows`, by the row of a window. -/
def implied (row : List (String × ℚ)) (f : Flow) : Flow :=
  if (f.origin ∈ twin.gateIds ∧ ∃ item ∈ row, twin.origin item.1 = f.origin) ∧
      0 < twin.baseRate f.origin then
    let observed_rate := twin.entry row f.origin / twin.interval * 3600
    { f with vehicles_per_hour := f.vehicles_per_hour * (observed_rate / twin.baseRate f.origin) }
  else f

def impliedFlows (observed : Rows) (window : Option Nat) : List Flow :=
  match window.bind fun w => observed.lookup w with
  | none => twin.base_flows
  | some row => twin.base_flows.map (twin.implied row)

/-- The flows that `predict_window` uses. -/
def flowsFor (observed : Rows) (window : Nat) : List Flow :=
  if 0 < window then twin.impliedFlows observed (some (window - 1)) else twin.base_flows

/-- The counts that `predict_window` predicts from some flows. -/
def countsFor (flows : List Flow) (window : Nat) : List (String × ℤ) :=
  (predictCounts twin.graph flows twin.interval twin.warmup
    (twin.draws (twin.seed + window))).counts

def predictWindow (runner : TwinRunner) (window : Nat) : TwinRunner :=
  let flows := twin.flowsFor runner.observed window
  { runner with
    flows_used := Dict.upsert (fun _ => flows) [] window runner.flows_used
    predicted := Dict.upsert (fun _ => twin.countsFor flows window) [] window runner.predicted }

/-- The windows that `run` predicts. -/
def due (observed : Rows) : Nat := (latestWindow observed).elim 0 (· + 1)

/-- `run`; beyond `MAX_WINDOWS` it raises. -/
def run (runner : TwinRunner) : Option TwinRunner := if maxWindows < due runner.observed then none
  else some ((List.range (due runner.observed)).foldl (fun runner w =>
    if w ∈ runner.predicted.map Prod.fst then runner else twin.predictWindow runner w) runner)

inductive Call
  | ingest (observations : List Observation)
  | run

def call (runner : TwinRunner) : Call → Option TwinRunner
  | .ingest observations => some (twin.ingest observations runner).1
  | .run => twin.run runner

/-- The observations of some calls. -/
def streamOf (calls : List Call) : List Observation := calls.flatMap fun
    | .ingest observations => observations
    | .run => []

/-! ## The windows -/

/-- The observations alone. -/
def ingested (seen : List Observation) : TwinRunner := seen.foldl twin.take {}

/-- The runner that has seen some observations and predicted some windows. -/
def settled (predicted : Nat) (seen : List Observation) : TwinRunner :=
  let observed := (twin.ingested seen).observed
  { twin.ingested seen with
    predicted := (List.range predicted).map fun w =>
      (w, twin.countsFor (twin.flowsFor observed w) w)
    flows_used := (List.range predicted).map fun w => (w, twin.flowsFor observed w) }

variable {twin} {seen : List Observation} {o : Observation} {m : Nat}

theorem ingested_concat (seen : List Observation) (o : Observation) :
    twin.ingested (seen ++ [o]) = twin.take (twin.ingested seen) o := by
  simp [ingested]

theorem windowOf_mono {t t' : ℚ} (le : t ≤ t') : twin.windowOf t ≤ twin.windowOf t' :=
  Int.floor_mono (add_le_add_left
    (div_le_div_of_nonneg_right (sub_le_sub_right le _) twin.interval_pos.le) _)

theorem exists_of_mem_observed {w : Nat}
    (isWindow : w ∈ (twin.ingested seen).observed.map Prod.fst) :
    ∃ o ∈ seen, twin.windowOf o.timestamp = w := by
  induction seen using List.reverseRecOn with
  | nil => cases isWindow
  | append_singleton _ o ih =>
    rw [ingested_concat, take] at isWindow
    split at isWindow
    · rename_i accepted
      rcases Dict.mem_keys_upsert.mp isWindow with rfl | isEarlier
      · exact ⟨o, by simp, (Int.toNat_of_nonneg accepted.1).symm⟩
      · obtain ⟨other, isSeen, isWindow⟩ := ih isEarlier
        exact ⟨other, List.mem_append_left _ isSeen, isWindow⟩
    · obtain ⟨other, isSeen, isWindow⟩ := ih isWindow
      exact ⟨other, List.mem_append_left _ isSeen, isWindow⟩

theorem lt_due_iff {observed : Rows} : m < due observed ↔ ∃ w ∈ observed.map Prod.fst, m ≤ w := by
  simp only [due, latestWindow]
  cases isMax : (observed.map Prod.fst).max? with
  | none =>
    rw [List.max?_eq_none_iff] at isMax
    simp [isMax]
  | some last =>
    obtain ⟨isLast, atMost⟩ := (List.max?_eq_some_iff).mp isMax
    simp only [Option.elim_some, Nat.lt_succ_iff]
    exact ⟨fun le => ⟨last, isLast, le⟩, fun ⟨w, isWindow, le⟩ => le.trans (atMost w isWindow)⟩

theorem lookup_take (runner : TwinRunner) (o : Observation) (w : Nat) :
    (twin.take runner o).observed.lookup w = if twin.Accepts o ∧ twin.windowOf o.timestamp = w then
        some (Dict.upsert (· + (o.count : ℚ)) 0 o.link_id ((runner.observed.lookup w).getD []))
      else runner.observed.lookup w := by
  rw [take]
  by_cases accepted : twin.Accepts o
  · rw [if_pos accepted]
    by_cases same : twin.windowOf o.timestamp = w
    · rw [if_pos ⟨accepted, same⟩]
      simp only [same, Int.toNat_natCast, Dict.lookup_upsert_self]
    · rw [if_neg fun isRow => same isRow.2]
      refine Dict.lookup_upsert_of_ne fun same' => same ?_
      rw [same', Int.toNat_of_nonneg accepted.1]
  · rw [if_neg accepted, if_neg fun isRow => accepted isRow.1]

theorem flowsFor_congr {observed other : Rows} {w : Nat}
    (same : 0 < w → observed.lookup (w - 1) = other.lookup (w - 1)) :
    twin.flowsFor observed w = twin.flowsFor other w := by
  simp only [flowsFor]
  split
  · rename_i isLater
    simp only [impliedFlows, Option.bind_some, same isLater]
  · rfl

/-- What is predicted stands when a window no earlier than those observed is added to. -/
theorem take_settled (atMost : m ≤ due (twin.ingested seen).observed)
    (inOrder : ∀ other ∈ seen, other.timestamp ≤ o.timestamp) :
    twin.take (twin.settled m seen) o = twin.settled m (seen ++ [o]) := by
  have sameFlows : ∀ w ∈ List.range m, twin.flowsFor (twin.ingested (seen ++ [o])).observed w =
      twin.flowsFor (twin.ingested seen).observed w := by
    intro w isWindow
    refine flowsFor_congr fun isLater => ?_
    rw [ingested_concat, lookup_take, if_neg]
    rintro ⟨_, same⟩
    obtain ⟨_, isLast, _⟩ := lt_due_iff.mp ((List.mem_range.mp isWindow).trans_le atMost)
    obtain ⟨other, isSeen, isWindow⟩ := exists_of_mem_observed isLast
    have := twin.windowOf_mono (inOrder other isSeen)
    omega
  have samePredicted : (List.range m).map (fun w =>
        (w, twin.countsFor (twin.flowsFor (twin.ingested (seen ++ [o])).observed w) w)) =
      (List.range m).map fun w =>
        (w, twin.countsFor (twin.flowsFor (twin.ingested seen).observed w) w) :=
    List.map_congr_left fun w isWindow => by rw [sameFlows w isWindow]
  have sameUsed : (List.range m).map (fun w =>
        (w, twin.flowsFor (twin.ingested (seen ++ [o])).observed w)) =
      (List.range m).map fun w => (w, twin.flowsFor (twin.ingested seen).observed w) :=
    List.map_congr_left fun w isWindow => by rw [sameFlows w isWindow]
  simp only [settled]
  rw [samePredicted, sameUsed, ingested_concat, take, take]
  split <;> rfl

theorem due_le_concat (seen : List Observation) (o : Observation) :
    due (twin.ingested seen).observed ≤ due (twin.ingested (seen ++ [o])).observed := by
  refine le_of_forall_lt fun m isDue => ?_
  obtain ⟨w, isWindow, le⟩ := lt_due_iff.mp isDue
  refine lt_due_iff.mpr ⟨w, ?_, le⟩
  rw [ingested_concat, take]
  split
  · exact Dict.mem_keys_upsert.mpr (.inr isWindow)
  · exact isWindow

theorem due_le_append (seen observations : List Observation) :
    due (twin.ingested seen).observed ≤ due (twin.ingested (seen ++ observations)).observed := by
  induction observations generalizing seen with
  | nil => simp
  | cons o _ ih => simpa using (due_le_concat seen o).trans (ih (seen ++ [o]))

theorem ingest_settled (observations : List Observation)
    (atMost : m ≤ due (twin.ingested seen).observed)
    (inOrder : (seen ++ observations).Pairwise (·.timestamp ≤ ·.timestamp)) :
    observations.foldl twin.take (twin.settled m seen) = twin.settled m (seen ++ observations) := by
  induction observations generalizing seen with
  | nil => simp
  | cons o _ ih =>
    have before := (List.pairwise_append.mp inOrder).2.2
    rw [List.foldl_cons, take_settled atMost fun other isSeen => before other isSeen o (by simp),
      ih (atMost.trans (due_le_concat seen o)) (by simpa using inOrder)]
    simp

theorem run_settled (atMost : m ≤ due (twin.ingested seen).observed)
    (supported : due (twin.ingested seen).observed ≤ maxWindows) : twin.run (twin.settled m seen) =
      some (twin.settled (due (twin.ingested seen).observed) seen) := by
  have loop : ∀ n, (List.range n).foldl (fun runner w =>
      if w ∈ runner.predicted.map Prod.fst then runner else twin.predictWindow runner w)
      (twin.settled m seen) = twin.settled (max m n) seen := by
    intro n
    induction n with
    | zero => simp
    | succ n ih =>
      have keys : ∀ k, (twin.settled k seen).predicted.map Prod.fst = List.range k ∧
          (twin.settled k seen).flows_used.map Prod.fst = List.range k := by
        intro k
        simp [settled, Function.comp_def]
      rw [List.range_succ, List.foldl_append, ih, List.foldl_cons, List.foldl_nil]
      by_cases known : n < m
      · rw [if_pos (by rw [(keys _).1, List.mem_range]; omega), max_eq_left known.le,
          max_eq_left known]
      · rw [max_eq_right (not_lt.mp known), max_eq_right (by omega)]
        have isNew : n ∉ List.range n := by simp
        rw [if_neg (by rwa [(keys n).1]), predictWindow, Dict.upsert_of_notMem (by rwa [(keys n).1]),
          Dict.upsert_of_notMem (by rwa [(keys n).2])]
        simp [settled, List.range_succ]
  have sameObserved : (twin.settled m seen).observed = (twin.ingested seen).observed := rfl
  rw [run, sameObserved, if_neg supported.not_gt, loop, max_eq_right atMost]

/-- Whatever the calls, a last run leaves what one of them makes of the whole stream. -/
theorem foldlM_settled (calls : List Call) (atMost : m ≤ due (twin.ingested seen).observed)
    (inOrder : (seen ++ streamOf calls).Pairwise (·.timestamp ≤ ·.timestamp))
    (supported : due (twin.ingested (seen ++ streamOf calls)).observed ≤ maxWindows) :
    (calls ++ [Call.run]).foldlM twin.call (twin.settled m seen) =
      some (twin.settled (due (twin.ingested (seen ++ streamOf calls)).observed)
        (seen ++ streamOf calls)) := by
  induction calls generalizing seen m with
  | nil =>
    simp only [streamOf, List.flatMap_nil, List.append_nil] at supported ⊢
    simp [call, run_settled atMost supported]
  | cons first rest ih =>
    rw [List.cons_append, List.foldlM_cons]
    cases first with
    | ingest observations =>
      have isStream : seen ++ streamOf (.ingest observations :: rest) =
          seen ++ observations ++ streamOf rest := by
        simp [streamOf]
      rw [isStream] at inOrder supported ⊢
      simp only [call, ingest, Option.bind_eq_bind, Option.bind_some,
        ingest_settled observations atMost (List.pairwise_append.mp inOrder).1]
      refine ih (atMost.trans ?_) inOrder supported
      exact due_le_append seen observations
    | run =>
      have isStream : streamOf (.run :: rest) = streamOf rest := by simp [streamOf]
      rw [isStream] at inOrder supported ⊢
      have reached := (due_le_append seen (streamOf rest)).trans supported
      simp only [call, run_settled atMost reached, Option.bind_eq_bind, Option.bind_some]
      exact ih le_rfl inOrder supported

/-! ## The flows and the counts -/

variable (twin) in
def flowsOf (window : Nat) (observations : List Observation) : List Flow :=
  twin.flowsFor (twin.ingested observations).observed window

variable (twin) in
/-- The rate, in vehicles an hour, that a window shows at an origin. -/
def observedRate (stream : List Observation) (window : Nat) (gate : String) : ℚ :=
  ((stream.filter fun o => (twin.Accepts o ∧ twin.windowOf o.timestamp = window) ∧
    twin.origin o.link_id = gate).map fun o => (o.count : ℚ)).sum / twin.interval * 3600

theorem flowsOf_filter (w : Nat) (stream : List Observation) : twin.flowsOf w stream =
    twin.flowsOf w (stream.filter fun o => twin.windowOf o.timestamp + 1 = w) := by
  refine flowsFor_congr fun isLater => ?_
  induction stream using List.reverseRecOn with
  | nil => rfl
  | append_singleton _ o ih =>
    have window : twin.windowOf o.timestamp = (w - 1 : Nat) ↔ twin.windowOf o.timestamp + 1 = w := by
      omega
    rw [ingested_concat, lookup_take, ih, List.filter_append, List.filter_singleton]
    by_cases isWindow : twin.windowOf o.timestamp + 1 = w
    · simp only [isWindow, decide_true, cond_true]
      rw [ingested_concat, lookup_take]
    · simp [isWindow, window]

theorem entry_upsert (count : ℚ) (link_id gate : String) (row : List (String × ℚ)) :
    twin.entry (Dict.upsert (· + count) 0 link_id row) gate =
      twin.entry row gate + if twin.origin link_id = gate then count else 0 := by
  simp only [entry]
  induction row with
  | nil => simp [Dict.upsert]
  | cons item _ ih =>
    by_cases same : item.1 = link_id
    · by_cases isGate : twin.origin link_id = gate
      · simp [Dict.upsert, same, isGate, add_right_comm]
      · simp [Dict.upsert, same, isGate]
    · simp [Dict.upsert, same, ih, add_assoc]

theorem row_spec (stream : List Observation) (w : Nat) (gate : String) :
    twin.entry (((twin.ingested stream).observed.lookup w).getD []) gate / twin.interval * 3600 =
      twin.observedRate stream w gate ∧
    ∀ o ∈ stream, twin.Accepts o ∧ twin.windowOf o.timestamp = w →
      ∃ row, (twin.ingested stream).observed.lookup w = some row ∧ o.link_id ∈ row.map Prod.fst := by
  simp only [observedRate]
  induction stream using List.reverseRecOn with
  | nil => simp [ingested, entry]
  | append_singleton _ o ih =>
    rw [ingested_concat, lookup_take, List.filter_append, List.filter_singleton]
    by_cases isRow : twin.Accepts o ∧ twin.windowOf o.timestamp = w
    · rw [if_pos isRow, Option.getD_some, entry_upsert]
      refine ⟨?_, fun other isOther isRow' => ⟨_, rfl, Dict.mem_keys_upsert.mpr ?_⟩⟩
      · by_cases isGate : twin.origin o.link_id = gate
        · simp only [isRow, isGate, and_self, decide_true, cond_true, if_true, List.map_append,
            List.sum_append, add_div, add_mul, ih.1]
          simp
        · simpa [isGate] using ih.1
      · rcases List.mem_append.mp isOther with isSeen | isLast
        · obtain ⟨row, isSome, isThere⟩ := ih.2 other isSeen isRow'
          rw [isSome]
          exact .inr isThere
        · exact .inl (congrArg Observation.link_id (List.mem_singleton.mp isLast))
    · rw [if_neg isRow]
      refine ⟨by simpa [isRow] using ih.1, fun other isOther isRow' => ?_⟩
      rcases List.mem_append.mp isOther with isSeen | isLast
      · exact ih.2 other isSeen isRow'
      · exact absurd (List.mem_singleton.mp isLast ▸ isRow') isRow

/-- The simulated run is the same up to the shorter duration. -/
theorem after_inputOf (graph : RoadGraph) (flows : List Flow) (duration other : ℚ)
    (draws : Nat → ℚ) (step : Nat) : (inputOf graph flows duration).after draws step =
      (inputOf graph flows other).after draws step := by
  induction step with
  | zero => rfl
  | succ _ ih => rw [SimulationInput.after, ih]; rfl

theorem perLink_inputOf (graph : RoadGraph) (flows : List Flow) (seconds : Nat)
    (draws : Nat → ℚ) : (simulateNetwork (inputOf graph flows seconds) draws).perLink =
      (graph.linkIds.insertionSort fun first second => first ≤ second).map fun id =>
        (id, ⟨((inputOf graph flows seconds).after draws seconds).passed_link id,
          ((inputOf graph flows seconds).after draws seconds).peak id,
          (((inputOf graph flows seconds).after draws seconds).queues id).length⟩) := by
  have steps : (inputOf graph flows seconds).steps = seconds := by
    have whole : (seconds : ℚ) / 1 = ((seconds : ℤ) : ℚ) := by simp
    simp only [SimulationInput.steps, inputOf, whole, roundHalfEven_intCast, Int.toNat_natCast]
  rw [simulateNetwork, steps]
  rfl

/-- In whole seconds the counts are the crossings of the last interval. -/
theorem lookup_countsFor {flows : List Flow} {w warm span : Nat} (isWarmup : twin.warmup = warm)
    (isInterval : twin.interval = span) {id : String} (isLink : id ∈ twin.graph.linkIds) :
    (twin.countsFor flows w).lookup id = some
      (((inputOf twin.graph flows (warm + span : Nat)).after (twin.draws (twin.seed + w))
          (warm + span)).passed_link id -
        ((inputOf twin.graph flows (warm + span : Nat)).after (twin.draws (twin.seed + w))
          warm).passed_link id : ℤ) := by
  have isId : id ∈ twin.graph.linkIds.insertionSort fun first second => first ≤ second := by
    rwa [List.mem_insertionSort]
  have duration : twin.warmup + twin.interval * (1 : Nat) = ((warm + span : Nat) : ℚ) := by
    rw [isWarmup, isInterval]
    push_cast
    ring
  simp only [countsFor, predictCounts, duration, perLink_inputOf, List.map_map]
  rw [Function.comp_def, Dict.lookup_map_of_mem isId]
  by_cases isWarm : (0 : ℚ) < warm
  · rw [isWarmup, if_pos isWarm, perLink_inputOf, List.map_map]
    simp only [Function.comp_def, Prod.map, id_eq]
    rw [Dict.lookup_map_of_mem isId, after_inputOf _ _ warm (warm + span : Nat)]
    rfl
  · have noWarmup : warm = 0 := by simpa using isWarm
    rw [isWarmup, if_neg isWarm]
    subst noWarmup
    simp only [Function.comp_def, Prod.map, id_eq]
    rw [Dict.lookup_map_of_mem isId]
    rfl

theorem flowsOf_spec {stream : List Observation} {w : Nat} {o : Observation} (isSeen : o ∈ stream)
    (isRow : twin.Accepts o ∧ twin.windowOf o.timestamp = w)
    (isGate : twin.origin o.link_id ∈ twin.gateIds)
    (hasBase : 0 < twin.baseRate (twin.origin o.link_id)) :
    (∀ (i : Nat) (f : Flow), twin.base_flows[i]? = some f → f.origin = twin.origin o.link_id →
      (twin.flowsOf (w + 1) stream)[i]? = some
        { f with vehicles_per_hour := twin.observedRate stream w f.origin *
            (f.vehicles_per_hour / twin.baseRate f.origin) }) ∧
    (((twin.flowsOf (w + 1) stream).filter fun f => f.origin = twin.origin o.link_id).map
      Flow.vehicles_per_hour).sum = twin.observedRate stream w (twin.origin o.link_id) := by
  obtain ⟨isRate, hasRow⟩ := @row_spec twin stream w (twin.origin o.link_id)
  obtain ⟨row, isSome, isThere⟩ := hasRow o isSeen isRow
  obtain ⟨item, isItem, isLink⟩ := List.mem_map.mp isThere
  rw [isSome, Option.getD_some] at isRate
  have scaled : ∀ f : Flow, f.origin = twin.origin o.link_id → twin.implied row f =
      { f with vehicles_per_hour := twin.observedRate stream w f.origin *
          (f.vehicles_per_hour / twin.baseRate f.origin) } := by
    intro f same
    rw [implied, if_pos (by rw [same]; exact ⟨⟨isGate, item, isItem, by rw [isLink]⟩, hasBase⟩)]
    simp only [same, isRate, mul_div_left_comm f.vehicles_per_hour]
  have sameOrigin : ∀ f, (twin.implied row f).origin = f.origin := by
    intro f
    rw [implied]
    split <;> rfl
  simp only [flowsOf, flowsFor, if_pos (Nat.succ_pos w), Nat.add_sub_cancel, impliedFlows,
    Option.bind_some, isSome]
  constructor
  · intro i f isFlow same
    rw [List.getElem?_map, isFlow, Option.map_some, scaled f same]
  · rw [List.filter_map, List.map_map]
    simp only [Function.comp_def, sameOrigin]
    rw [List.map_congr_left (g := fun f => f.vehicles_per_hour *
      (twin.observedRate stream w (twin.origin o.link_id) / twin.baseRate (twin.origin o.link_id))),
      List.sum_map_mul_right]
    · exact mul_div_cancel₀ _ hasBase.ne'
    · intro f isFlow
      have same : f.origin = twin.origin o.link_id := of_decide_eq_true (List.mem_filter.mp isFlow).2
      rw [scaled f same, same]
      ring

variable (twin) in
/-- What is promised of a runner that has run after a stream of observations. -/
structure Predicts (stream : List Observation) (runner : TwinRunner) : Prop where
  windows : runner.predicted.map Prod.fst = List.range (due runner.observed)
  flows : ∀ w < due runner.observed, runner.flows_used.lookup w =
    some (twin.flowsOf w (stream.filter fun o => twin.windowOf o.timestamp + 1 = w))
  rates : ∀ w, w + 1 < due runner.observed → ∀ o ∈ stream,
    twin.Accepts o ∧ twin.windowOf o.timestamp = w → ∀ gate ∈ twin.gateIds,
    twin.origin o.link_id = gate → 0 < twin.baseRate gate →
    ∃ flows, runner.flows_used.lookup (w + 1) = some flows ∧
      (∀ (i : Nat) (f : Flow), twin.base_flows[i]? = some f → f.origin = gate → flows[i]? = some
        { f with vehicles_per_hour := twin.observedRate stream w gate *
            (f.vehicles_per_hour / twin.baseRate gate) }) ∧
      ((flows.filter fun f => f.origin = gate).map Flow.vehicles_per_hour).sum =
        twin.observedRate stream w gate
  counts : ∀ warm span : Nat, twin.warmup = warm → twin.interval = span →
    ∀ w < due runner.observed, ∀ id ∈ twin.graph.linkIds, ∃ flows counts,
      runner.flows_used.lookup w = some flows ∧ runner.predicted.lookup w = some counts ∧
      counts.lookup id = some
        (((inputOf twin.graph flows (warm + span : Nat)).after (twin.draws (twin.seed + w))
            (warm + span)).passed_link id -
          ((inputOf twin.graph flows (warm + span : Nat)).after (twin.draws (twin.seed + w))
            warm).passed_link id : ℤ)

/-- However a stream is cut and however often the twin runs in between, a last run leaves
the same runner, and it predicts as promised. -/
theorem calls_predict (twin : TwinSetup) (calls : List Call)
    (ordered : (streamOf calls).Pairwise (·.timestamp ≤ ·.timestamp))
    (supported : ∀ o ∈ streamOf calls, twin.windowOf o.timestamp < maxWindows) :
    ∃ runner, (calls ++ [Call.run]).foldlM twin.call {} = some runner ∧
      [.ingest (streamOf calls), Call.run].foldlM twin.call {} = some runner ∧
      twin.Predicts (streamOf calls) runner := by
  have isDue : due (twin.ingested (streamOf calls)).observed ≤ maxWindows := by
    by_contra tooMany
    obtain ⟨w, isWindow, le⟩ := lt_due_iff.mp (not_le.mp tooMany)
    obtain ⟨o, isSeen, isWindow⟩ := exists_of_mem_observed isWindow
    have := supported o isSeen
    omega
  have start : twin.settled 0 [] = {} := rfl
  have cut := @foldlM_settled twin [] 0 calls (Nat.zero_le _) ordered isDue
  have whole := @foldlM_settled twin [] 0 [.ingest (streamOf calls)]
    (Nat.zero_le _) (by simpa [streamOf] using ordered) (by simpa [streamOf] using isDue)
  have isStream : streamOf [.ingest (streamOf calls)] = streamOf calls := by simp [streamOf]
  rw [List.nil_append, start] at cut
  rw [List.nil_append, start, isStream] at whole
  refine ⟨_, cut, whole, ?_, ?_, ?_, ?_⟩
  · simp [settled, Function.comp_def]
  · intro w isDue
    rw [← flowsOf_filter]
    exact Dict.lookup_map_of_mem (List.mem_range.mpr isDue)
  · rintro w isDue o isSeen isRow _ isGate rfl hasBase
    refine ⟨_, Dict.lookup_map_of_mem (List.mem_range.mpr isDue), ?_⟩
    obtain ⟨each, total⟩ := flowsOf_spec isSeen isRow isGate hasBase
    exact ⟨fun i f isFlow same => by rw [← same]; exact each i f isFlow same, total⟩
  · intro warm span isWarmup isInterval w isDue id isLink
    exact ⟨_, _, Dict.lookup_map_of_mem (List.mem_range.mpr isDue),
      Dict.lookup_map_of_mem (List.mem_range.mpr isDue),
      lookup_countsFor isWarmup isInterval isLink⟩

theorem noWarmup : (0 : ℚ) ≤ 0 := le_rfl

/-- Two links in a row between gates, where half of the base flow is observed. -/
def chainTwin : TwinSetup where
  graph := { chainGraph with nodes := chainGraph.nodes.map fun node => { node with kind := .gate } }
  base_flows := chainInput.flows
  interval := 60
  warmup := 0
  seed := 1
  start := 0
  draws := fun _ _ => 0
  interval_pos := by norm_num
  warmup_nonneg := noWarmup

/-- Thirty vehicles on the first link, in the window of a time. -/
def thirty (timestamp : ℚ) : Observation where
  link_id := "ab"
  timestamp := timestamp
  count := 30
  mean_speed := none

theorem calls_predict_chain : ∃ runner,
    [.ingest [thirty 0], .run, .ingest [thirty 60], Call.run].foldlM chainTwin.call {} =
        some runner ∧
      [.ingest [thirty 0, thirty 60], Call.run].foldlM chainTwin.call {} = some runner ∧
      chainTwin.Predicts [thirty 0, thirty 60] runner :=
  calls_predict chainTwin [.ingest [thirty 0], .run, .ingest [thirty 60]] (by decide +kernel)
    (by decide +kernel)

example : chainTwin.flowsOf 1 [thirty 0] =
    [{ origin := "a", destination := "c", vehicles_per_hour := 1800 }] := by
  decide +kernel

end TwinSetup
end UrbanFlow.Twin
