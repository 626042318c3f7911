import UrbanFlow.Networks.NetworkSim

/-!
# What a signal tells connected vehicles

A signalised node broadcasts the state of its two groups and the seconds until it
changes. The receiver rebuilds the cycle from one message. The half-cycle a time lies in
decides who is served: the simulator, the sender and the receiver agree on it.
-/

namespace UrbanFlow.V2x

open Networks

def halfCycle : ℚ := signalCycle / 2

/-- `PhaseState`; the groups are the two axes. -/
structure PhaseState where
  group : Axis
  state : Color
  timeToChange : ℚ

structure SignalPhaseAndTiming where
  intersection : String
  timestamp : ℚ
  phases : List PhaseState

/-- A `ValueError`: a message the schemas refuse, or a penetration out of range. -/
inductive ValueError
  | spat
  | hazard
  | penetration
  deriving DecidableEq, Repr

def maxId : Nat := 64

/-- `MAX_TIME`, in seconds. -/
def maxTime : ℚ := 10 ^ 10

/-- `_ttc`: east-west is green, and the seconds until the phase changes. -/
def ttc (t : ℚ) : Bool × ℚ :=
  (⌊t / halfCycle⌋ % 2 = 0, (⌊t / halfCycle⌋ + 1) * halfCycle - t)

/-- The message of `spat_for`, before it is validated. -/
def spat (node : String) (t : ℚ) : SignalPhaseAndTiming where
  intersection := node
  timestamp := t
  phases :=
    [{ group := .ew, state := if (ttc t).1 then .green else .red, timeToChange := (ttc t).2 },
      { group := .ns, state := if (ttc t).1 then .red else .green, timeToChange := (ttc t).2 }]

/-- The schema takes the message; its groups and seconds to change are always within it. -/
abbrev SpatAccepted (node : String) (t : ℚ) : Prop :=
  1 ≤ node.length ∧ node.length ≤ maxId ∧ 0 ≤ t ∧ t ≤ maxTime

def spatFor (node : String) (t : ℚ) : Except ValueError SignalPhaseAndTiming :=
  if SpatAccepted node t then .ok (spat node t) else .error .spat

/-- `seconds_to_green`, from the entry of the group. -/
def PhaseState.secondsToGreen (ph : PhaseState) (timestamp time : ℚ) : ℚ :=
  let boundary := timestamp + ph.timeToChange
  if time < boundary then if ph.state = .green then 0 else boundary - time
  else
    let pos := time - boundary - 2 * halfCycle * ⌊(time - boundary) / (2 * halfCycle)⌋
    if ph.state = .green then if pos < halfCycle then halfCycle - pos else 0
    else if pos < halfCycle then 0 else 2 * halfCycle - pos

/-- `seconds_to_green`; `none` where the message has no such group. -/
def secondsToGreen (msg : SignalPhaseAndTiming) (group : Axis) (time : ℚ) : Option ℚ :=
  (msg.phases.find? fun ph => ph.group = group).map fun ph =>
    ph.secondsToGreen msg.timestamp time

/-- A group is served in every other half-cycle, east-west first. -/
def servedIn (group : Axis) (half : ℤ) : Prop := group = .ew ↔ half % 2 = 0

instance (group : Axis) (half : ℤ) : Decidable (servedIn group half) :=
  inferInstanceAs (Decidable (group = .ew ↔ half % 2 = 0))

/-- The wait at a time until a group is served: none, or for the next half-cycle. -/
def waitAt (group : Axis) (time : ℚ) : ℚ :=
  let half := ⌊time / halfCycle⌋
  if servedIn group half then 0 else (half + 1) * halfCycle - time

section

variable {group : Axis} {half : ℤ} {t time : ℚ}

theorem halfCycle_eq : halfCycle = 30 := by decide +kernel

theorem floor_eq_iff : ⌊time / halfCycle⌋ = half ↔ half * 30 ≤ time ∧ time < half * 30 + 30 := by
  have scale : (0 : ℚ) < 30 := by decide
  rw [Int.floor_eq_iff, halfCycle_eq, le_div_iff₀ scale, div_lt_iff₀ scale, add_mul, one_mul]

theorem servedIn_succ : servedIn group (half + 1) ↔ ¬servedIn group half := by
  unfold servedIn
  rcases Int.emod_two_eq_zero_or_one half with even | odd
  · have next : (half + 1) % 2 = 1 := by omega
    simp [even, next]
  · have next : (half + 1) % 2 = 0 := by omega
    simp [odd, next]

theorem servedIn_add_two_mul (more : ℤ) : servedIn group (half + 2 * more) ↔ servedIn group half := by
  have same : (half + 2 * more) % 2 = half % 2 := by omega
  rw [servedIn, servedIn, same]

theorem waitAt_of_served (served : servedIn group half) (isHalf : ⌊time / halfCycle⌋ = half) :
    waitAt group time = 0 := by
  subst isHalf
  exact if_pos served

theorem waitAt_of_not_served (notServed : ¬servedIn group half)
    (isHalf : ⌊time / halfCycle⌋ = half) : waitAt group time = half * 30 + 30 - time := by
  subst isHalf
  refine (if_neg notServed).trans ?_
  rw [halfCycle_eq]
  ring

theorem waitAt_isLeast (group : Axis) (time : ℚ) :
    IsLeast {wait | 0 ≤ wait ∧ servedIn group ⌊(time + wait) / halfCycle⌋} (waitAt group time) := by
  obtain ⟨_, _⟩ := floor_eq_iff.mp (rfl : ⌊time / halfCycle⌋ = _)
  by_cases served : servedIn group ⌊time / halfCycle⌋
  · rw [waitAt_of_served served rfl]
    exact ⟨⟨le_rfl, by rwa [add_zero]⟩, fun wait isWait => isWait.1⟩
  · rw [waitAt_of_not_served served rfl]
    constructor
    · have isNext : ⌊(time + (⌊time / halfCycle⌋ * 30 + 30 - time)) / halfCycle⌋ =
          ⌊time / halfCycle⌋ + 1 := by
        rw [floor_eq_iff]
        push_cast
        constructor <;> linarith
      refine ⟨by linarith, ?_⟩
      rw [isNext]
      exact servedIn_succ.mpr served
    · rintro wait ⟨nonneg, isServed⟩
      by_contra early
      have same : ⌊(time + wait) / halfCycle⌋ = ⌊time / halfCycle⌋ :=
        floor_eq_iff.mpr ⟨by linarith, by linarith⟩
      exact served (same ▸ isServed)

/-- The receiver's reconstruction, from the half-cycle in which the message was sent. -/
theorem secondsToGreen_eq_waitAt {ph : PhaseState}
    (isBoundary : t + ph.timeToChange = half * 30 + 30)
    (isGreen : ph.state = .green ↔ servedIn group half) (started : half * 30 ≤ time) :
    ph.secondsToGreen t time = waitAt group time := by
  have cycle : (2 : ℚ) * 30 = 60 := by norm_num
  have scale : (0 : ℚ) < 60 := by norm_num
  simp only [PhaseState.secondsToGreen, isBoundary, isGreen, halfCycle_eq, cycle]
  by_cases isSame : time < half * 30 + 30
  · have isHalf : ⌊time / halfCycle⌋ = half := floor_eq_iff.mpr ⟨started, isSame⟩
    rw [if_pos isSame]
    split_ifs with served
    · exact (waitAt_of_served served isHalf).symm
    · exact (waitAt_of_not_served served isHalf).symm
  · rw [if_neg isSame]
    -- whole cycles after the first change, the half-cycle is the next one or the one after it
    generalize isCycles : ⌊(time - (half * 30 + 30)) / 60⌋ = cycles
    rw [Int.floor_eq_iff, le_div_iff₀ scale, div_lt_iff₀ scale] at isCycles
    have first : servedIn group (half + 1 + 2 * cycles) ↔ ¬servedIn group half :=
      servedIn_add_two_mul cycles |>.trans servedIn_succ
    have second : servedIn group (half + 2 * (cycles + 1)) ↔ servedIn group half :=
      servedIn_add_two_mul (cycles + 1)
    by_cases isFirst : time - (half * 30 + 30) - 60 * cycles < 30
    · have isHalf : ⌊time / halfCycle⌋ = half + 1 + 2 * cycles := by
        rw [floor_eq_iff]
        push_cast
        constructor <;> linarith
      simp only [if_pos isFirst]
      split_ifs with served
      · rw [waitAt_of_not_served (by rwa [first, not_not]) isHalf]
        push_cast
        ring
      · exact (waitAt_of_served (first.mpr served) isHalf).symm
    · have isHalf : ⌊time / halfCycle⌋ = half + 2 * (cycles + 1) := by
        rw [floor_eq_iff]
        push_cast
        constructor <;> linarith
      simp only [if_neg isFirst]
      split_ifs with served
      · exact (waitAt_of_served (second.mpr served) isHalf).symm
      · rw [waitAt_of_not_served (by rwa [second]) isHalf]
        push_cast
        ring

/-- What any receiver makes of the message sent at a time. -/
theorem secondsToGreen_spat (node : String) (later : t ≤ time) :
    secondsToGreen (spat node t) group time = some (waitAt group time) := by
  obtain ⟨starts, _⟩ := floor_eq_iff.mp (rfl : ⌊t / halfCycle⌋ = _)
  have isBoundary : t + (ttc t).2 = ⌊t / halfCycle⌋ * 30 + 30 := by
    rw [ttc, halfCycle_eq]
    ring
  have colours : (ttc t).1 = true ↔ ⌊t / halfCycle⌋ % 2 = 0 := by simp [ttc]
  cases group
  · exact congrArg some (secondsToGreen_eq_waitAt isBoundary (by simp [servedIn, ← colours])
      (starts.trans later))
  · exact congrArg some (secondsToGreen_eq_waitAt isBoundary (by simp [servedIn, ← colours])
      (starts.trans later))

end

theorem red_iff (input : SimulationInput) (isDefault : input.signal_cycle = signalCycle)
    {link : GraphLink} (isSignal : (input.graph.nodeMap link.to_).control = some .signal)
    (time : ℚ) : input.red time link.to_ link = false ↔
      servedIn (input.graph.axis link) ⌊time / halfCycle⌋ := by
  simp [SimulationInput.red, isDefault, isSignal, scheduledPhase, halfCycle, servedIn, phaseEW]
  rfl

/-- A vehicle that receives the message of a signal knows, for any later time, how long the
simulator keeps it waiting on the axis of its link. -/
theorem secondsToGreen_exact (input : SimulationInput)
    (isDefault : input.signal_cycle = signalCycle) {node : String} {t : ℚ}
    {msg : SignalPhaseAndTiming} (isBuilt : spatFor node t = .ok msg) (group : Axis) {time : ℚ}
    (later : t ≤ time) : ∃ wait, secondsToGreen msg group time = some wait ∧
      ∀ link ∈ input.graph.links, input.graph.axis link = group →
        (input.graph.nodeMap link.to_).control = some .signal →
          IsLeast {wait | 0 ≤ wait ∧ input.red (time + wait) link.to_ link = false} wait := by
  have isMessage : spat node t = msg := by
    unfold spatFor at isBuilt
    split at isBuilt
    · exact Except.ok.inj isBuilt
    · cases isBuilt
  refine ⟨waitAt group time, isMessage ▸ secondsToGreen_spat node later, ?_⟩
  rintro link _ rfl isSignal
  simp only [red_iff input isDefault isSignal]
  exact waitAt_isLeast _ time

/-- Two links in a row, with signals at every node. -/
def signalInput : SimulationInput :=
  { chainInput with graph :=
      { chainGraph with nodes :=
          chainGraph.nodes.map fun node => { node with control := some .signal } } }

theorem secondsToGreen_exact_signal : ∃ wait, secondsToGreen (spat "b" 29) .ew 45 = some wait ∧
    ∀ link ∈ signalInput.graph.links, signalInput.graph.axis link = .ew →
      (signalInput.graph.nodeMap link.to_).control = some .signal →
        IsLeast {wait | 0 ≤ wait ∧ signalInput.red (45 + wait) link.to_ link = false} wait :=
  have isBuilt : spatFor "b" 29 = .ok (spat "b" 29) := if_pos (by decide +kernel)
  secondsToGreen_exact signalInput rfl isBuilt .ew (by norm_num)

example : secondsToGreen (spat "b" 29) .ew 45 = some 15 := by decide +kernel

end UrbanFlow.V2x
