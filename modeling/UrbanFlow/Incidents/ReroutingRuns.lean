import UrbanFlow.Incidents.Rerouting

/-!
# Runs that reroute

In a run the blocked links change from segment to segment. Between the changes the ways
of vehicles stay as good as they were, since nothing enters a blocked link. At a change
they do where detours pay, and where a change that only opens links opens no way round
to a vehicle on a blocked way: such a vehicle is not planned again.
-/

namespace UrbanFlow.Incidents

open Networks LabelSetting

/-- The paths of new vehicles avoid what is blocked where there is a way round, and the
way of a vehicle is blocked only where there is none. -/
structure Rerouted (input : DisruptionInput) (run : Run) : Prop where
  flows : ∀ flow ∈ input.live, WayRound input.graph run.params.closed flow.origin flow.destination →
      crosses run.params.closed (run.paths flow) = false
  vehicles : ∀ id, ∀ entry ∈ run.traffic.queues id,
    Unavoidable input.graph run.params.closed id entry.1

/-- The set of blocked links changes in a tick. -/
def Changes (input : DisruptionInput) (draws : Nat → ℚ) (step : Nat) : Prop :=
  (input.during draws step).params.closed ≠ (input.after draws step).params.closed

/-- Detours pay at a change of the blocked links: those of flows, and where a link is
added those of vehicles on a blocked way. Where none is added, such a vehicle has a way
round only if it had one before. -/
structure ChangeMeets (graph : RoadGraph) (live : List Flow) (old closed : List String)
    (traffic : Traffic) : Prop where
  flows : ∀ flow ∈ live,
    DetourPays graph closed (blockedPenalty closed) flow.origin flow.destination
  grown : (∃ id ∈ closed, id ∉ old) →
    ∀ id, ∀ entry ∈ traffic.queues id, crosses closed (remaining entry.1) = true →
      DetourPays graph closed (turnPenalty graph closed (graph.linkMap id))
        (graph.linkMap id).to_ (destinationOf graph entry.1)
  shrunk : (∀ id ∈ closed, id ∈ old) →
    ∀ id, ∀ entry ∈ traffic.queues id, crosses closed (remaining entry.1) = true →
      WayRound graph closed (graph.linkMap id).to_ (destinationOf graph entry.1) →
        WayRound graph old (graph.linkMap id).to_ (destinationOf graph entry.1)

/-- Nothing may enter a blocked link; flows and vehicles are settled. -/
structure Settled (input : DisruptionInput) (run : Run) : Prop where
  isBlocked : ∀ id ∈ run.params.closed, run.params.roads.cap id = 0
  flows : ∀ flow ∈ input.live, FlowSettled input.graph run.params.closed flow (run.paths flow)
  vehicles : AllSettled input.graph run.params.closed run.traffic

variable {input : DisruptionInput} {run : Run} {t : ℚ}

theorem Settled.rerouted (settled : Settled input run) : Rerouted input run :=
  ⟨fun flow isLive => (settled.flows flow isLive).avoids,
    fun id entry isThere => (settled.vehicles id entry isThere).2⟩

theorem crosses_nil (path : List String) : crosses [] path = false := by simp [crosses]

theorem isSome_of_live {flow : Flow} (isLive : flow ∈ input.live) :
    (flowRoute input.graph flow).isSome := by
  have kept := (List.mem_filter.mp isLive).2
  exact (Bool.and_eq_true_iff.mp kept).1

theorem settled_start (input : DisruptionInput) : Settled input input.start := by
  constructor
  · exact nofun
  · intro flow isLive
    obtain ⟨nonempty, isWay⟩ := baseRoute_isWay (isSome_of_live isLive)
    exact ⟨nonempty, isWay, fun _ => crosses_nil _⟩
  · exact nofun

/-- A blocked link stores nothing. -/
theorem cap_of_closed {id : String} (isClosed : id ∈ (input.parametersAt t).closed) :
    (input.parametersAt t).roads.cap id = 0 := by
  simp only [DisruptionInput.parametersAt, DisruptionInput.parameters] at isClosed ⊢
  split at isClosed
  · rw [if_pos (List.mem_filter.mp isClosed).2]
  · cases isClosed

/-- The rest of a tick moves vehicles, and changes no parameter and no path. -/
theorem move_spec (input : DisruptionInput) (draws : Nat → ℚ) (run : Run) (t : ℚ) :
    (input.move draws t run).params = run.params ∧ (input.move draws t run).paths = run.paths ∧
      Traffic.Moves run.params.roads t (input.gates run) run.traffic
        (input.move draws t run).traffic := by
  simp only [DisruptionInput.move, DisruptionInput.updateSignals]
  split <;> exact ⟨rfl, rfl, (Traffic.moves_arrivals _).trans (Traffic.moves_service _ _ _)⟩

/-- The rest of a tick keeps it. -/
theorem Settled.move (valid : input.graph.Valid) (draws : Nat → ℚ) (settled : Settled input run) :
    Settled input (input.move draws t run) := by
  have gates : ∀ gate ∈ input.gates run,
      ∃ flow, FlowSettled input.graph run.params.closed flow gate.path := by
    intro gate isGate
    obtain ⟨flow, isLive, rfl⟩ := List.mem_map.mp isGate
    exact ⟨flow, settled.flows flow isLive⟩
  obtain ⟨sameParams, samePaths, moves⟩ := move_spec input draws run t
  constructor
  · rw [sameParams]
    exact settled.isBlocked
  · rw [sameParams, samePaths]
    exact settled.flows
  · rw [sameParams]
    exact moves.keep (fun _ _ isMove kept => kept.move valid settled.isBlocked gates isMove)
      settled.vehicles

/-- A change of the blocked links keeps it, if detours pay and no way round opens. -/
theorem Settled.reroute (valid : input.graph.Valid) (settled : Settled input run)
    {params : Params} (isBlocked : ∀ id ∈ params.closed, params.roads.cap id = 0)
    (meets : ChangeMeets input.graph input.live run.params.closed params.closed run.traffic) :
    Settled input (input.reroute (params.closed.any fun id => id ∉ run.params.closed)
        { run with params := params }) := by
  have flows : ∀ flow ∈ input.live, FlowSettled input.graph params.closed flow
      (plannedPath input.graph params.closed flow) := by
    intro flow isLive
    have isWay := @plannedPath_isWay input.graph params.closed flow (isSome_of_live isLive)
    exact ⟨isWay.1, isWay.2, plannedPath_avoids (isSome_of_live isLive) (meets.flows flow isLive)⟩
  simp only [DisruptionInput.reroute]
  split
  · rename_i grew
    constructor
    · exact isBlocked
    · intro flow isLive
      simp only [if_pos isLive]
      exact flows flow isLive
    · intro id entry isThere
      obtain ⟨old, isOld, rfl⟩ := List.mem_map.mp isThere
      have driving := (settled.vehicles id old isOld).1
      have added : ∃ id ∈ params.closed, id ∉ run.params.closed := by simpa using grew
      exact ⟨driving.replan valid,
        unavoidable_replan valid driving (meets.grown added id old isOld)⟩
  · rename_i notGrew
    constructor
    · exact isBlocked
    · intro flow isLive
      simp only [if_pos isLive]
      exact flows flow isLive
    · intro id entry isThere
      obtain ⟨driving, unavoidable⟩ := settled.vehicles id entry isThere
      have fewer : ∀ id ∈ params.closed, id ∈ run.params.closed := by simpa using notGrew
      refine ⟨driving, fun blocked wayRound => ?_⟩
      have wasBlocked : crosses run.params.closed (remaining entry.1) = true := by
        simp only [crosses, List.any_eq_true, decide_eq_true_eq] at blocked ⊢
        obtain ⟨link, isAhead, isClosed⟩ := blocked
        exact ⟨link, isAhead, fewer link isClosed⟩
      exact unavoidable wasBlocked (meets.shrunk fewer id entry isThere blocked wayRound)

/-- A tick starts with no change, or with new parameters. -/
theorem prepare_cases (input : DisruptionInput) (t : ℚ) (run : Run) : input.prepare t run = run ∨
      ∃ pending, input.prepare t run = input.apply t { run with pending := pending } := by
  simp only [DisruptionInput.prepare]
  split
  · exact Or.inl rfl
  · split
    · exact Or.inr ⟨_, rfl⟩
    · exact Or.inl rfl

/-- A new segment keeps it. -/
theorem Settled.prepare (valid : input.graph.Valid) (settled : Settled input run)
    (meets : (input.prepare t run).params.closed ≠ run.params.closed →
      ChangeMeets input.graph input.live run.params.closed
        (input.prepare t run).params.closed run.traffic) : Settled input (input.prepare t run) := by
  rcases prepare_cases input t run with unchanged | ⟨pending, applied⟩
  · rw [unchanged]
    exact settled
  · have isClosed : (input.apply t { run with pending := pending }).params.closed =
        (input.parametersAt t).closed := by
      simp only [DisruptionInput.apply, DisruptionInput.reroute]
      split
      · split <;> rfl
      · rfl
    rw [applied, isClosed] at meets
    rw [applied]
    simp only [DisruptionInput.apply]
    split
    · rename_i differs
      have waiting : Settled input { run with pending := pending } :=
        ⟨settled.isBlocked, settled.flows, settled.vehicles⟩
      exact waiting.reroute valid (fun id isClosed => cap_of_closed isClosed) (meets differs)
    · rename_i same
      have sameClosed : (input.parametersAt t).closed = run.params.closed := not_not.mp same
      constructor
      · exact fun id isClosed => cap_of_closed isClosed
      · simp only [sameClosed]
        exact settled.flows
      · simp only [sameClosed]
        exact settled.vehicles

theorem settled_after (valid : input.graph.Valid) (draws : Nat → ℚ) {step : Nat}
    (meets : ∀ tick < step, Changes input draws tick →
      ChangeMeets input.graph input.live (input.after draws tick).params.closed
        (input.during draws tick).params.closed (input.after draws tick).traffic) :
    Settled input (input.after draws step) := by
  induction step with
  | zero => exact settled_start input
  | succ step ih =>
    have before := ih fun tick isEarlier => meets tick (Nat.lt_succ_of_lt isEarlier)
    exact (before.prepare valid (meets step (Nat.lt_succ_self step))).move valid draws

/-- In every run whose changes of the blocked links meet the condition, new vehicles and
vehicles on their way go round what is blocked wherever they can, in every tick and
after it. -/
theorem rerouted_of_changeMeets (input : DisruptionInput) (valid : input.graph.Valid)
    (draws : Nat → ℚ) (step : Nat) (meets : ∀ tick ≤ step, Changes input draws tick →
      ChangeMeets input.graph input.live (input.after draws tick).params.closed
        (input.during draws tick).params.closed (input.after draws tick).traffic) :
    Rerouted input (input.during draws step) ∧ Rerouted input (input.after draws (step + 1)) := by
  have before : Settled input (input.after draws step) :=
    settled_after valid draws fun tick isEarlier => meets tick isEarlier.le
  have within : Settled input (input.during draws step) := before.prepare valid (meets step le_rfl)
  exact ⟨within.rerouted, (within.move valid draws).rerouted⟩

def closureOf (link : String) (duration : ℚ) (pos : 0 < duration)
    (le : duration ≤ 86400) : Incident where
  start := 0
  duration := duration
  start_nonneg := nothing_nonneg
  start_le := by norm_num
  duration_pos := pos
  duration_le := le
  type := .closure
  links := [link]
  links_ne_nil := List.cons_ne_nil _ _
  links_le := Nat.succ_le_succ (Nat.zero_le _)
  lanesBlocked_pos := singleLane_pos
  lanesBlocked_le := oneBlocked_le
  speedFactor_mem := noSpeedFactor_mem

/-- A vehicle a second from one place to another. -/
def everySecond : Flow where
  origin := "o"
  destination := "d"
  vehicles_per_hour := 3600

/-- A vehicle a second for five seconds, and closures. -/
def closureInput (graph : RoadGraph) (incidents : List Incident)
    (few : incidents.length ≤ maxEvents) : DisruptionInput where
  graph := graph
  flows := [everySecond]
  scenario :=
    { incidents := incidents
      incidents_le := few
      weather_le := Nat.zero_le _
      surges_le := Nat.zero_le _ }
  duration := 5
  dt := 1
  dt_pos := unit_pos
  duration_pos := by norm_num
  cycle_ne := signalCycle_ne

/-- A link of ten metres, then a link ahead or two links round it, then a link. -/
def forkGraph : RoadGraph where
  nodes := ["o", "a", "b", "c", "d"].map fun id => { id := id, x := 0, y := 0 }
  links := [metreLink "oa" "o" "a" 9 (by norm_num), metreLink "ab" "a" "b" 0 nothing_nonneg,
      metreLink "ac" "a" "c" 0 nothing_nonneg, metreLink "cb" "c" "b" 0 nothing_nonneg,
      metreLink "bd" "b" "d" 0 nothing_nonneg]

theorem forkGraph_valid : forkGraph.Valid := by constructor <;> decide +kernel

/-- The way from the fork round the link ahead. -/
def roundAhead : List GraphLink :=
  [metreLink "ac" "a" "c" 0 nothing_nonneg, metreLink "cb" "c" "b" 0 nothing_nonneg,
    metreLink "bd" "b" "d" 0 nothing_nonneg]

theorem roundAhead_leads : Leads forkGraph "a" roundAhead "d" :=
  ⟨by decide +kernel, rfl, by decide +kernel, rfl, by decide +kernel, rfl, rfl⟩

theorem roundAhead_avoids : Avoids ["ab"] roundAhead := by
  intro link isLink
  simp only [roundAhead, List.mem_cons, List.not_mem_nil, or_false] at isLink
  rcases isLink with rfl | rfl | rfl <;> decide

def aheadClosed : DisruptionInput :=
  closureInput forkGraph [closureOf "ab" 10 tenSeconds_pos tenSeconds_le] (by decide)

theorem rerouted_aheadClosed : Rerouted aheadClosed (aheadClosed.during (fun _ => 0) 1) ∧
      Rerouted aheadClosed (aheadClosed.after (fun _ => 0) 2) := by
  apply rerouted_of_changeMeets aheadClosed forkGraph_valid
  intro tick isEarlier changes
  obtain rfl | rfl : tick = 0 ∨ tick = 1 := by omega
  · have isClosed : (aheadClosed.during (fun _ => 0) 0).params.closed = ["ab"] := by
      decide +kernel
    have isLive : aheadClosed.live = [everySecond] := by decide +kernel
    rw [isClosed]
    constructor
    · intro flow isFlow
      rw [isLive, List.mem_singleton] at isFlow
      subst isFlow
      have leads : Leads forkGraph "o" (metreLink "oa" "o" "a" 9 (by norm_num) :: roundAhead) "d" :=
        ⟨by decide +kernel, rfl, roundAhead_leads⟩
      have avoids : Avoids ["ab"] (metreLink "oa" "o" "a" 9 (by norm_num) :: roundAhead) := by
        intro link isLink
        rcases List.mem_cons.mp isLink with rfl | isLater
        · decide
        · exact roundAhead_avoids link isLater
      refine detourPays_of_lt (blockedPenalty_nonneg _) ?_ leads avoids (by decide +kernel)
      intro id isClosed
      rw [blockedPenalty, if_pos isClosed]
    · exact fun _ id entry isThere => absurd isThere List.not_mem_nil
    · exact fun _ id entry isThere => absurd isThere List.not_mem_nil
  · have unchanged : (aheadClosed.during (fun _ => 0) 1).params.closed =
        (aheadClosed.after (fun _ => 0) 1).params.closed := by
      decide +kernel
    exact absurd unchanged changes

/-- The link ahead is closed, and for the first second the way round it too. -/
def bothClosed : DisruptionInput :=
  closureInput forkGraph [closureOf "ab" 10 tenSeconds_pos tenSeconds_le,
    closureOf "cb" 1 unit_pos oneSecond_le] (by decide)

/-- A link, and one beside it that takes longer than the penalty. -/
def slowGraph : RoadGraph where
  nodes := ["o", "d"].map fun id => { id := id, x := 0, y := 0 }
  links :=
    [metreLink "od" "o" "d" 0 nothing_nonneg, { metreLink "slow" "o" "d" 9999 (by norm_num) with
        speed := 1 / 1000
        speed_pos := by norm_num }]

/-- The link is closed. -/
def quickClosed : DisruptionInput :=
  closureInput slowGraph [closureOf "od" 10 tenSeconds_pos tenSeconds_le] (by decide)

/-- Where the way round opens again, a vehicle stays on its way through the link that is
closed; and new vehicles wait at a closed link beside one that takes longer than the
penalty. -/
theorem not_rerouted_after_change : (forkGraph.Valid ∧ Changes bothClosed (fun _ => 0) 1 ∧
      (bothClosed.during (fun _ => 0) 1).params.closed = ["ab"] ∧
      ¬ Rerouted bothClosed (bothClosed.during (fun _ => 0) 1)) ∧
    (slowGraph.Valid ∧ Changes quickClosed (fun _ => 0) 0 ∧
      (quickClosed.during (fun _ => 0) 0).params.closed = ["od"] ∧
      ¬ Rerouted quickClosed (quickClosed.during (fun _ => 0) 0)) := by
  have aheadOnly : (bothClosed.during (fun _ => 0) 1).params.closed = ["ab"] := by decide +kernel
  have wasBoth : (bothClosed.after (fun _ => 0) 1).params.closed = ["ab", "cb"] := by decide +kernel
  have quickOnly : (quickClosed.during (fun _ => 0) 0).params.closed = ["od"] := by decide +kernel
  refine ⟨⟨forkGraph_valid, ?_, aheadOnly, fun rerouted => ?_⟩,
    ⟨by constructor <;> decide +kernel, ?_, quickOnly, fun rerouted => ?_⟩⟩
  · rw [Changes, aheadOnly, wasBoth]
    decide
  · have isThere : ((⟨0, ["oa", "ab", "bd"], 0, 0, 12⟩, 10) : Vehicle × ℚ) ∈
        (bothClosed.during (fun _ => 0) 1).traffic.queues "oa" := by
      decide +kernel
    have unavoidable := rerouted.vehicles "oa" _ isThere
    rw [aheadOnly] at unavoidable
    exact unavoidable (by decide) ⟨roundAhead, roundAhead_leads, roundAhead_avoids⟩
  · rw [Changes, quickOnly]
    decide
  · have isLive : everySecond ∈ quickClosed.live := by decide +kernel
    have isBlocked : crosses ["od"]
        ((quickClosed.during (fun _ => 0) 0).paths everySecond) = true := by
      decide +kernel
    have avoids := rerouted.flows everySecond isLive
    rw [quickOnly] at avoids
    have around := avoids ⟨[_], ⟨List.mem_cons_of_mem _ (List.mem_singleton_self _), rfl, rfl⟩,
      by simp [Avoids, metreLink]⟩
    rw [around] at isBlocked
    cases isBlocked

/-! ## Vehicles on their ways -/

/-- New vehicles take ways to the destinations of their flows, those on links are on
theirs, and none is made or lost. -/
structure Carries (input : DisruptionInput) (run : Run) : Prop where
  paths : ∀ flow ∈ input.live, run.paths flow ≠ [] ∧
    IsWay input.graph flow.origin (run.paths flow) flow.destination
  driving : ∀ id, ∀ entry ∈ run.traffic.queues id, Driving input.graph id entry.1 ∧
    ∃ flow ∈ input.live, destinationOf input.graph entry.1 = flow.destination
  balanced : run.traffic.Balanced input.graph.linkIds

section

variable (valid : input.graph.Valid)

include valid

theorem Carries.step {traffic : Traffic} {roads : Roads} (carries : Carries input run)
    (isMove : Traffic.Move roads t (input.gates run) run.traffic traffic) :
    Carries input { run with traffic := traffic } := by
  have isKnown {id : String} (isLink : ∃ link ∈ input.graph.links, id = link.id) :
      id ∈ input.graph.linkIds := by
    obtain ⟨link, isLink, rfl⟩ := isLink
    exact List.mem_dedup.mpr (List.mem_map_of_mem isLink)
  have enters {gate : Gate} (isGate : gate ∈ input.gates run) : ∃ flow ∈ input.live,
      ∀ vehicle : Vehicle, vehicle.path = gate.path → vehicle.index = 0 →
        destinationOf input.graph vehicle = flow.destination ∧
          Driving input.graph (gate.path.headD "") vehicle := by
    obtain ⟨flow, isLive, rfl⟩ := List.mem_map.mp isGate
    obtain ⟨nonempty, isWay⟩ := carries.paths flow isLive
    refine ⟨flow, isLive, fun vehicle isPath isFirst => ?_⟩
    obtain ⟨link, _, isHead, _, _, isDestination, driving⟩ :=
      driving_enter valid isWay nonempty isPath isFirst
    exact ⟨isDestination, isHead ▸ driving⟩
  refine ⟨carries.paths, fun id entry isThere => ?_, ?_⟩
  · rcases mem_queues_of_move isMove isThere with isOld | isNew | comes
    · exact carries.driving id entry isOld
    · obtain ⟨gate, isGate, rfl, _, isPath, isFirst⟩ := isNew
      obtain ⟨flow, isLive, drives⟩ := enters isGate
      obtain ⟨isDestination, driving⟩ := drives entry.1 isPath isFirst
      exact ⟨driving, flow, isLive, isDestination⟩
    · obtain ⟨left, old, isOld, rfl, _, notLast, isEntry⟩ := comes
      obtain ⟨driving, towards⟩ := carries.driving left old isOld
      obtain ⟨link, _, isNext, _, _, drives⟩ := driving.next valid notLast
      rw [isNext, isEntry]
      exact ⟨drives, towards⟩
  · refine carries.balanced.move (List.nodup_dedup _) (fun gate isGate => ?_) isMove
      fun id entry isThere => ?_
    · obtain ⟨flow, _, drives⟩ := enters isGate
      obtain ⟨link, isLink, sameId⟩ := (drives ⟨0, gate.path, 0, 0, 0⟩ rfl rfl).2.isLink
      exact isKnown ⟨link, isLink, sameId.symm⟩
    · have driving := (carries.driving id entry isThere).1
      obtain ⟨link, isLink, sameId⟩ := driving.isLink
      refine ⟨isKnown ⟨link, isLink, sameId.symm⟩, fun notLast => isKnown ?_⟩
      obtain ⟨next, isNext, sameNext, _⟩ := driving.next valid notLast
      exact ⟨next, isNext, sameNext⟩

theorem Carries.reroute (carries : Carries input run) (grew : Bool) :
    Carries input (input.reroute grew run) := by
  have planned : Carries input { run with
      paths := fun flow =>
        if flow ∈ input.live then plannedPath input.graph run.params.closed flow
        else run.paths flow
      reroute_events := run.reroute_events + 1 } := by
    refine ⟨fun flow isLive => ?_, carries.driving, carries.balanced⟩
    simp only [if_pos isLive]
    exact plannedPath_isWay (isSome_of_live isLive)
  rw [DisruptionInput.reroute]
  split
  · refine ⟨planned.paths, fun id entry isThere => ?_, ?_, carries.balanced.generated⟩
    · obtain ⟨old, isOld, rfl⟩ := List.mem_map.mp isThere
      obtain ⟨driving, flow, isLive, towards⟩ := carries.driving id old isOld
      refine ⟨driving.replan valid, flow, isLive, ?_⟩
      rw [← towards]
      cases isDetour : detour input.graph run.params.closed id old.1 with
      | none => rw [replan_of_none isDetour]
      | some => exact (replan_of_detour valid driving isDetour).2.1
    · simpa [Traffic.active, rerouteActive] using carries.balanced.entered
  · exact planned

/-- In every run, through all changes of the blocked links, vehicles are on ways to the
destinations of their flows, and those that have entered are on links or have arrived. -/
theorem carries_after (draws : Nat → ℚ) (step : Nat) :
    Carries input (input.after draws step) := by
  induction step with
  | zero =>
    refine ⟨fun flow isLive => baseRoute_isWay (isSome_of_live isLive),
      nofun, ?_, rfl⟩
    simp [DisruptionInput.after, DisruptionInput.start, Traffic.initial, Traffic.active]
  | succ step ih =>
    have within : Carries input (input.during draws step) := by
      rcases prepare_cases input (step * input.dt) (input.after draws step) with
        unchanged | ⟨pending, applied⟩
      · rwa [DisruptionInput.during, unchanged]
      · have renewed (params : Params) : Carries input
            { input.after draws step with pending := pending, params := params } :=
          ⟨ih.paths, ih.driving, ih.balanced⟩
        rw [DisruptionInput.during, applied, DisruptionInput.apply]
        split
        · exact (renewed _).reroute valid _
        · exact renewed _
    obtain ⟨_, samePaths, moves⟩ := move_spec input draws (input.during draws step)
      (step * input.dt)
    have keeps (before after : Traffic)
        (isMove : Traffic.Move (input.during draws step).params.roads (step * input.dt)
          (input.gates (input.during draws step)) before after) :
        Carries input { input.during draws step with traffic := before } →
          Carries input { input.during draws step with traffic := after } :=
      fun kept => kept.step valid isMove
    have moved := moves.keep keeps within
    exact ⟨fun flow isLive => samePaths ▸ moved.paths flow isLive, moved.driving, moved.balanced⟩

end

theorem carries_aheadClosed : Carries aheadClosed (aheadClosed.after (fun _ => 0) 5) :=
  carries_after forkGraph_valid (fun _ => 0) 5

/-! ## First in, first out -/

/-- The vehicles that entered a link have left it in this order, or wait on it. -/
def Fifo (traffic : Traffic) (link : String) : Prop :=
  (Traffic.entries link traffic.log).map (·.1.vid) =
    (Traffic.exits link traffic.log ++ traffic.queues link).map (·.1.vid)

section

variable {traffic : Traffic} {link : String} {roads : Roads} {t : ℚ}

theorem Fifo.enqueue (fifo : Fifo traffic link) (joined : String) (vehicle : Vehicle) :
    Fifo (traffic.enqueue roads t joined vehicle) link := by
  rw [Fifo, List.map_append] at fifo ⊢
  by_cases same : link = joined
  · subst same
    simp [Traffic.enqueue, fifo]
  · simpa [Traffic.enqueue, Traffic.entries_enters_ne same, Function.update_of_ne same] using fifo

theorem Fifo.dequeue (fifo : Fifo traffic link) {from_ : String} (node : String)
    {vehicle : Vehicle} {ready : ℚ} {rest : Queue}
    (isQueue : traffic.queues from_ = (vehicle, ready) :: rest) :
    Fifo (traffic.dequeue t from_ node vehicle rest) link := by
  rw [Fifo, List.map_append] at fifo ⊢
  by_cases same : link = from_
  · subst same
    simp [Traffic.dequeue, fifo, isQueue]
  · simpa [Traffic.dequeue, Traffic.exits_leaves_ne same, Function.update_of_ne same] using fifo

theorem Fifo.move {gates : List Gate} {after : Traffic}
    (isMove : Traffic.Move roads t gates traffic after) (fifo : Fifo traffic link) :
    Fifo after link := by
  cases isMove with
  | draw | block | grant => exact fifo
  | enter => exact Fifo.enqueue fifo _ _
  | finish _ node _ _ _ isQueue => exact fifo.dequeue node isQueue
  | pass _ node _ _ _ isQueue => exact (fifo.dequeue node isQueue).enqueue _ _

end

/-- Through all disruptions no vehicle passes another on a link, and none is lost there. -/
theorem fifo_after (input : DisruptionInput) (draws : Nat → ℚ) (step : Nat) (link : String) :
    Fifo (input.after draws step).traffic link := by
  induction step with
  | zero => rfl
  | succ step ih =>
    have rerouted : Fifo (input.during draws step).traffic link := by
      rcases prepare_cases input (step * input.dt) (input.after draws step) with
        unchanged | ⟨pending, applied⟩
      · rwa [DisruptionInput.during, unchanged]
      · simp only [DisruptionInput.during, applied, DisruptionInput.apply, DisruptionInput.reroute]
        split
        · split
          · have sameVid (closed : List String) (id : String) (vehicle : Vehicle) :
                (replan input.graph closed id vehicle).vid = vehicle.vid := by
              rw [replan]
              split <;> rfl
            simpa [Fifo, rerouteActive, sameVid, Function.comp_def] using ih
          · exact ih
        · exact ih
    exact (move_spec input draws _ _).2.2.keep (fun _ _ => Fifo.move) rerouted

end UrbanFlow.Incidents
