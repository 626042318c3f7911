import UrbanFlow.Spawning.CommonRandomNumbers

/-!
# Runs of two spawners

Runs of one demand over ticks that differ in the entry lanes alone. They generate
the same arrivals while they keep pace: an arrival never falls due when one run
has placed more vehicles than the other.
-/

namespace UrbanFlow.Spawning
namespace Demand

open Effect

variable {demand : Demand}

/-- An arrival falls due in an approach's turn: the clock is to run, and runs out. -/
def FallsDue (demand : Demand) (direction : Direction) (dt : ℚ) (spawner : Spawner) : Prop :=
  spawner.totalArrivals < demand.totalVehiclesLimit ∧
    ∃ timer ∈ spawner.timers direction, timer - dt ≤ 0

instance (demand : Demand) (direction : Direction) (dt : ℚ) (spawner : Spawner) :
    Decidable (demand.FallsDue direction dt spawner) := by
  unfold FallsDue
  infer_instance

/-- No arrival is generated while the clock has not run out. -/
theorem generateDue_idle {direction : Direction} {timer : ℚ} {spawner : Spawner}
    (isTimer : spawner.timers direction = some timer) (isAhead : ¬ timer ≤ 0) (room : Nat) :
    demand.generateDue direction room spawner = (.ok (), spawner) := by
  cases room with
  | zero => rfl
  | succ =>
    unfold generateDue
    rw [read_bind_run, isTimer]
    simp only [isAhead, false_and, if_false]
    rfl

/-- A timer that is set alike on both sides. -/
theorem InStep.setTimer {spawner other : Spawner} (inStep : demand.InStep spawner other)
    (direction : Direction) (timer : Option ℚ) :
    demand.InStep (setTimer direction timer spawner) (setTimer direction timer other) where
  source := by
    simp only [Demand.setTimer, inStep.source]
  apart := inStep.apart
  classed := inStep.classed
  classed' := inStep.classed'

section

variable (unlimited : demand.entryQueueCapacity = none) {spawner other : Spawner}
  (inStep : demand.InStep spawner other) {direction : Direction}

include unlimited inStep

/-- The clocks of two spawners in step run alike, when they have placed equally
many vehicles at any arrival. -/
theorem runClock_endTogether {timer dt : ℚ} (isTimer : spawner.timers direction = some timer)
    (paced : demand.FallsDue direction dt spawner → spawner.spawnedCount = other.spawnedCount) :
    EndTogether (fun _ _ => demand.InStep) demand.InStep
      (demand.runClock direction timer dt spawner) (demand.runClock direction timer dt other) := by
  unfold runClock
  rw [read_bind_run, read_bind_run, ← inStep.source]
  split
  · next isOpen =>
      rw [Effect.modify_bind_run, Effect.modify_bind_run]
      have clocks := inStep.setTimer direction (some (timer - dt))
      by_cases runsOut : timer - dt ≤ 0
      · have agree : demand.AtOne _ _ :=
          { clocks with spawned := paced ⟨isOpen, timer, isTimer, runsOut⟩ }
        apply Couples.mono (generateDue_couples unlimited direction _)
          (fun _ _ _ _ agree => agree.toInStep) (fun _ _ agree => agree.toInStep)
        exact agree
      · rw [generateDue_idle (by simp [setTimer]) runsOut,
          generateDue_idle (by simp [setTimer]) runsOut]
        exact clocks
  · exact inStep

theorem stepApproach_endTogether {dt : ℚ}
    (paced : demand.FallsDue direction dt spawner → spawner.spawnedCount = other.spawnedCount)
    (lanes lanes' : List EntryLane) : EndTogether (fun _ _ => demand.InStep) demand.InStep
      (demand.stepApproach direction lanes dt spawner)
      (demand.stepApproach direction lanes' dt other) := by
  unfold stepApproach
  rw [read_bind_run, read_bind_run, ← inStep.source]
  cases isTimer : spawner.timers direction with
  | none => exact inStep
  | some =>
    apply EndTogether.bind (runClock_endTogether unlimited inStep isTimer paced)
    intro _ _ later later' _ _ inStep
    obtain ⟨_, _, ends, offered⟩ := offerEntry_returns inStep.classed direction lanes dt
    obtain ⟨_, _, ends', offered'⟩ :=
      offerEntry_returns inStep.classed' direction lanes' dt
    rw [ends, ends']
    exact inStep.offered offered offered'

end

variable {lanes lanes' : Direction → List EntryLane} {dt : ℚ}

/-- Two runs keep pace through a tick: before each approach's turn in which an
arrival falls due, both have placed equally many vehicles. -/
def KeepPace (demand : Demand) (lanes lanes' : Direction → List EntryLane)
    (dt : ℚ) : List Direction → Spawner → Spawner → Prop
  | [], _, _ => True
  | direction :: others, spawner, other =>
    (demand.FallsDue direction dt spawner → spawner.spawnedCount = other.spawnedCount) ∧
    match demand.stepApproach direction (lanes direction) dt spawner,
      demand.stepApproach direction (lanes' direction) dt other with
    | (.ok _, later), (.ok _, later') => demand.KeepPace lanes lanes' dt others later later'
    | _, _ => True

instance decidableKeepPace (demand : Demand) (lanes lanes' : Direction → List EntryLane)
    (dt : ℚ) : (directions : List Direction) → (spawner other : Spawner) →
      Decidable (demand.KeepPace lanes lanes' dt directions spawner other)
  | [], _, _ => isTrue trivial
  | direction :: others, spawner, other =>
    have : Decidable (match demand.stepApproach direction (lanes direction) dt spawner,
          demand.stepApproach direction (lanes' direction) dt other with
        | (.ok _, later), (.ok _, later') => demand.KeepPace lanes lanes' dt others later later'
        | _, _ => True) :=
      match demand.stepApproach direction (lanes direction) dt spawner,
        demand.stepApproach direction (lanes' direction) dt other with
      | (.ok _, later), (.ok _, later') =>
        decidableKeepPace demand lanes lanes' dt others later later'
      | (.error _, _), _ => isTrue trivial
      | (.ok _, _), (.error _, _) => isTrue trivial
    inferInstanceAs (Decidable (_ ∧ _))

theorem stepApproaches_endTogether (unlimited : demand.entryQueueCapacity = none)
    {directions : List Direction} {spawner other : Spawner} (inStep : demand.InStep spawner other)
    (paced : demand.KeepPace lanes lanes' dt directions spawner other) :
    EndTogether (fun _ _ => demand.InStep) demand.InStep
      (demand.stepApproaches lanes dt directions spawner)
      (demand.stepApproaches lanes' dt directions other) := by
  induction directions generalizing spawner other with
  | nil => exact inStep
  | cons _ _ ih =>
    unfold stepApproaches
    apply EndTogether.bind (stepApproach_endTogether unlimited inStep paced.1 _ _)
    intro placed placed' later later' ended ended' inStep
    have goesOn := paced.2
    rw [ended, ended'] at goesOn
    apply EndTogether.bind (ih inStep goesOn)
    intro _ _ _ _ _ _ inStep
    exact inStep

/-- The clocks that are common to the approaches run alike. -/
theorem InStep.startTick {spawner other : Spawner} (inStep : demand.InStep spawner other)
    (dt : ℚ) : demand.InStep (demand.startTick dt spawner) (demand.startTick dt other) where
  source := by
    simp only [Demand.startTick, inStep.source]
  apart := inStep.apart
  classed := inStep.classed
  classed' := inStep.classed'

theorem step_endTogether (unlimited : demand.entryQueueCapacity = none) {spawner other : Spawner}
    (inStep : demand.InStep spawner other)
    (paced : demand.KeepPace lanes lanes' dt Direction.all (demand.startTick dt spawner)
      (demand.startTick dt other)) : EndTogether (fun _ _ => demand.InStep) demand.InStep
      (demand.step lanes dt spawner) (demand.step lanes' dt other) :=
  stepApproaches_endTogether unlimited (inStep.startTick dt) paced

/-- What a tick gives a spawner: its length, and the entry lanes as they are. -/
structure Tick where
  dt : ℚ
  lanes : Direction → List EntryLane

/-- One tick of two runs, which differ in the entry lanes alone. -/
structure SharedTick where
  dt : ℚ
  lanes : Direction → List EntryLane
  lanes' : Direction → List EntryLane

namespace SharedTick

def one (tick : SharedTick) : Tick := ⟨tick.dt, tick.lanes⟩

def another (tick : SharedTick) : Tick := ⟨tick.dt, tick.lanes'⟩

end SharedTick

/-- The steps of a run. -/
def steps (demand : Demand) : List Tick → Effect Spawner Unit
  | [] => pure ()
  | tick :: ticks => do
    let _ ← demand.step tick.lanes tick.dt
    demand.steps ticks

/-- A run: a spawner that is reset, then stepped. -/
def run (demand : Demand) (ticks : List Tick) : Effect Spawner Unit := do
  demand.reset
  demand.steps ticks

/-- Two runs keep pace through every tick that they reach. -/
def StepsKeepPace (demand : Demand) : List SharedTick → Spawner → Spawner → Prop
  | [], _, _ => True
  | tick :: ticks, spawner, other =>
    demand.KeepPace tick.lanes tick.lanes' tick.dt Direction.all
      (demand.startTick tick.dt spawner) (demand.startTick tick.dt other) ∧
    match demand.step tick.lanes tick.dt spawner, demand.step tick.lanes' tick.dt other with
    | (.ok _, later), (.ok _, later') => demand.StepsKeepPace ticks later later'
    | _, _ => True

instance decidableStepsKeepPace (demand : Demand) :
    (ticks : List SharedTick) → (spawner other : Spawner) →
      Decidable (demand.StepsKeepPace ticks spawner other)
  | [], _, _ => isTrue trivial
  | tick :: ticks, spawner, other =>
    have : Decidable (match demand.step tick.lanes tick.dt spawner,
          demand.step tick.lanes' tick.dt other with
        | (.ok _, later), (.ok _, later') => demand.StepsKeepPace ticks later later'
        | _, _ => True) :=
      match demand.step tick.lanes tick.dt spawner, demand.step tick.lanes' tick.dt other with
      | (.ok _, later), (.ok _, later') => decidableStepsKeepPace demand ticks later later'
      | (.error _, _), _ => isTrue trivial
      | (.ok _, _), (.error _, _) => isTrue trivial
    inferInstanceAs (Decidable (_ ∧ _))

/-- Two runs keep pace from their common start. -/
def RunsKeepPace (demand : Demand) (ticks : List SharedTick) : Prop :=
  demand.StepsKeepPace ticks (demand.reset {}).2 (demand.reset {}).2

instance (demand : Demand) (ticks : List SharedTick) : Decidable (demand.RunsKeepPace ticks) :=
  decidableStepsKeepPace demand ticks _ _

/-- Two runs have generated the same arrivals on every approach: the same due
times, turns and classes in the same order. Neither or both have raised. -/
def GenerateAlike (demand : Demand) (ticks : List SharedTick) : Prop :=
  EndTogether (fun _ _ spawner other => spawner.generated = other.generated)
    (fun spawner other => spawner.generated = other.generated)
    (demand.run (ticks.map SharedTick.one) {})
    (demand.run (ticks.map SharedTick.another) {})

/-- The histories of two runs that generate alike. -/
theorem GenerateAlike.generated {ticks : List SharedTick} (alike : demand.GenerateAlike ticks) :
    (demand.run (ticks.map SharedTick.one) {}).2.generated =
      (demand.run (ticks.map SharedTick.another) {}).2.generated := by
  unfold GenerateAlike EndTogether at alike
  split at alike
  · next ended ended' => rw [ended, ended']; exact alike
  · next ended ended' => rw [ended, ended']; exact alike
  · exact alike.elim

theorem steps_endTogether (unlimited : demand.entryQueueCapacity = none) {ticks : List SharedTick}
    {spawner other : Spawner} (inStep : demand.InStep spawner other)
    (paced : demand.StepsKeepPace ticks spawner other) :
    EndTogether (fun _ _ => demand.InStep) demand.InStep
      (demand.steps (ticks.map SharedTick.one) spawner)
      (demand.steps (ticks.map SharedTick.another) other) := by
  induction ticks generalizing spawner other with
  | nil => exact inStep
  | cons _ _ ih =>
    apply EndTogether.bind (step_endTogether unlimited inStep paced.1)
    intro _ _ later later' ended ended' inStep
    have goesOn := paced.2
    rw [ended, ended'] at goesOn
    exact ih inStep goesOn

/-- The first `random()` values of the seed 42. -/
def seed42 : RandomStream := fun index =>
  ([5759444582531269, 225276855802115, 2477243871446254, 2010503594304263,
    6633542971356286, 6095167118799258, 8036039137326224,
    783075388467729].getD index 0 : ℚ) / 2 ^ 53

/-- One car a second from the north, turning left or right equally often. -/
def northOnly : Demand where
  maths := ⟨id, id⟩
  rng := seed42
  driverModel := none
  driverRng := fun _ => 0
  demandModel := none
  demandRng := fun _ => 0
  totalVehiclesLimit := 100
  arrivalRate := 1
  arrivalDistribution := "uniform"
  directionalSplit := some fun direction => some (if direction = .north then 1 else 0)
  turnProbabilities := some ⟨some (1 / 2), some 0, some (1 / 2), none⟩
  approachTurnProbabilities := fun _ => none
  lengthRange := ⟨4, 5⟩
  widthRange := ⟨9 / 5, 11 / 5⟩
  speedRange := ⟨18, 25⟩
  minimumGap := 2
  comfortDeceleration := 3
  population := none
  approachPopulations := fun _ => none
  entryQueueCapacity := none

/-- One lane an approach, with no vehicle on it. -/
def freeEntry : Direction → List EntryLane := fun _ => [⟨[.left, .straight, .right], []⟩]

/-- The same lane, with a vehicle standing at its start. -/
def blockedEntry : Direction → List EntryLane :=
  fun _ => [⟨[.left, .straight, .right], [⟨2, 4, 0⟩]⟩]

end Demand
end UrbanFlow.Spawning
