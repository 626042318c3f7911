import UrbanFlow.Spawning.SpawnerRuns

/-!
# Both entry models of the spawner

`VehicleSpawner.step` under the suspend and the queue entry model, with a history
of each approach beside the spawner. Without the histories the queue model is the
spawner's own step.
-/

namespace UrbanFlow.Spawning

open Demand

/-- `entry_queue`: how a full entry is handled. -/
inductive EntryModel
  | suspend
  | queue
  deriving DecidableEq, Repr

/-- The history of an approach: the inter-arrival times drawn for it, `none` for
infinity, the moments its arrivals fell due, and the vehicles that entered. -/
structure ApproachLog where
  gaps : List (Option ℚ) := []
  dues : List ℚ := []
  entered : List PlacedVehicle := []

/-- A spawner with what its suspend model holds, `_held` and `_due_time`, and with
the histories. -/
structure Desk where
  spawner : Spawner := {}
  held : Direction → Bool := fun _ => false
  dueTime : Direction → Option ℚ := fun _ => none
  log : Direction → ApproachLog := fun _ => {}

namespace Desk

variable {Value Other : Type}

/-- What the spawner does, the rest being left alone. -/
def onSpawner (effect : Effect Spawner Value) : Effect Desk Value := fun desk =>
    let ended := effect desk.spawner
    (ended.1, { desk with spawner := ended.2 })

section

variable (direction : Direction) (change : ApproachLog → ApproachLog)

/-- One more entry in the history of an approach. -/
def noted (desk : Desk) : Desk :=
  { desk with log := Function.update desk.log direction (change (desk.log direction)) }

def note : Effect Desk Unit := Effect.modify (noted direction change)

end

section

variable (demand : Demand) (direction : Direction)

/-- `_generate_next_arrival_time`, noted. -/
def drawGap : Effect Desk (Option ℚ) := do
  let gap ← onSpawner (demand.generateNextArrivalTime direction)
  note direction fun log => { log with gaps := log.gaps ++ [gap] }
  pure gap

/-- The `while` loop of `_step_queued`. -/
def generateDue : Nat → Effect Desk Unit
  | 0 => pure ()
  | room + 1 => do
    let spawner ← onSpawner Effect.read
    match spawner.timers direction with
    | none => pure ()
    | some timer =>
      if timer ≤ 0 ∧ spawner.totalArrivals < demand.totalVehiclesLimit then do
        onSpawner (Effect.modify (countArrival direction))
        let due := spawner.elapsedTime + timer
        note direction fun log => { log with dues := log.dues ++ [due] }
        onSpawner (demand.takeArrival direction due)
        let gap ← drawGap demand direction
        onSpawner (Effect.modify (addToTimer direction gap))
        generateDue room
      else pure ()

/-- The clock of an approach runs on. -/
def runClock (timer dt : ℚ) : Effect Desk Unit := do
  let spawner ← onSpawner Effect.read
  if spawner.totalArrivals < demand.totalVehiclesLimit then do
    onSpawner (Effect.modify (setTimer direction (some (timer - dt))))
    generateDue demand direction (demand.totalVehiclesLimit - spawner.totalArrivals)
  else pure ()

/-- An approach's turn under the queue model. -/
def stepQueued (lanes : List EntryLane) (dt : ℚ) : Effect Desk (Option PlacedVehicle) := do
  let spawner ← onSpawner Effect.read
  match spawner.timers direction with
  | none => pure none
  | some timer => do
    runClock demand direction timer dt
    let placed ← onSpawner (demand.offerEntry direction lanes dt)
    note direction fun log => { log with entered := log.entered ++ placed.toList }
    pure placed

/-- The class of a pending arrival, where the approach has a population. -/
def classOf (pendingType : Option String) : Option String :=
  if (demand.populationOf direction).isSome then pendingType else none

section

variable (placed : Option PlacedVehicle)

/-- What an arrival drew in the step it fell due in, whether or not it was placed. -/
def drawnBy (spawner : Spawner) : Option QueuedArrival := match placed with
  | some vehicle => some ⟨spawner.elapsedTime, vehicle.turnIntent, vehicle.typeId⟩
  | none => (spawner.pendingTurn direction).map fun turn =>
    ⟨spawner.elapsedTime, turn, classOf demand direction (spawner.pendingType direction)⟩

/-- An arrival falls due. -/
def arrive (desk : Desk) : Desk :=
  { desk with
    spawner := countArrival direction desk.spawner
    dueTime := Function.update desk.dueTime direction (some desk.spawner.elapsedTime) }

/-- The history of what an arrival drew. -/
def noteDrawn (desk : Desk) : Desk :=
  { desk with
    spawner :=
      { desk.spawner with
        generated := Function.update desk.spawner.generated direction
          (desk.spawner.generated direction ++
            (drawnBy demand direction placed desk.spawner).toList) } }

end

/-- The held arrival has entered, with `_record_entry_wait`. -/
def admitHeld (wait : ℚ) (desk : Desk) : Desk :=
  { desk with
    spawner :=
      { desk.spawner with
        spawnedCount := desk.spawner.spawnedCount + 1
        admitted := Function.update desk.spawner.admitted direction
          (desk.spawner.admitted direction + 1)
        entryWaitSum := desk.spawner.entryWaitSum + wait
        entryWaitMax := max desk.spawner.entryWaitMax wait }
    held := Function.update desk.held direction false
    dueTime := Function.update desk.dueTime direction none }

/-- The arrival is held, and its approach's arrivals suspended. -/
def hold (dt : ℚ) (desk : Desk) : Desk :=
  { desk with
    spawner := countBlocked direction dt (setTimer direction (some 0) desk.spawner)
    held := Function.update desk.held direction true }

/-- The arrival in hand is tried; one that falls due now is counted first. -/
def tryEntry (lanes : List EntryLane) : Effect Desk (Option PlacedVehicle) := do
  let before ← Effect.read
  Effect.modify (if before.held direction then id else arrive direction)
  let placed ← onSpawner (demand.attemptSpawn direction lanes)
  Effect.modify (if before.held direction then id else noteDrawn demand direction placed)
  pure placed

/-- It is held when it is blocked, and the next one is drawn when it is not. -/
def settle (dt : ℚ) : Option PlacedVehicle → Effect Desk (Option PlacedVehicle)
  | none => do
    Effect.modify (hold direction dt)
    pure none
  | some vehicle => do
    let desk ← Effect.read
    match desk.dueTime direction with
    -- `_due_time.pop(d)` would raise
    | none => Effect.raise "KeyError"
    | some due => do
      let wait := desk.spawner.elapsedTime - due
      Effect.modify (admitHeld direction wait)
      let vehicle := { vehicle with entryWait := wait }
      note direction fun log => { log with entered := log.entered ++ [vehicle] }
      let gap ← drawGap demand direction
      onSpawner (Effect.modify (setTimer direction gap))
      pure (some vehicle)

/-- An approach's turn under the suspend model. -/
def stepHeld (lanes : List EntryLane) (dt : ℚ) : Effect Desk (Option PlacedVehicle) := do
  let spawner ← onSpawner Effect.read
  match spawner.timers direction with
  | none => pure none
  | some timer => do
    onSpawner (Effect.modify (setTimer direction (some (timer - dt))))
    if timer - dt ≤ 0 then do
      let placed ← tryEntry demand direction lanes
      settle demand direction dt placed
    else pure none

end

variable (model : EntryModel) (demand : Demand)

/-- The suspend model ends a step with the vehicle that reaches the limit. -/
def Stops (placed : Option PlacedVehicle) (spawner : Spawner) : Prop :=
  model = .suspend ∧ placed.isSome ∧ demand.totalVehiclesLimit ≤ spawner.spawnedCount

instance (placed : Option PlacedVehicle) (spawner : Spawner) :
    Decidable (Stops model demand placed spawner) :=
  inferInstanceAs (Decidable (_ ∧ _ ∧ _))

/-- The approaches' turns, in order, with the vehicles that are placed. -/
def stepApproaches (lanes : Direction → List EntryLane)
    (dt : ℚ) : List Direction → Effect Desk (List PlacedVehicle)
  | [] => pure []
  | direction :: others => do
    let placed ← match model with
      | .suspend => stepHeld demand direction (lanes direction) dt
      | .queue => stepQueued demand direction (lanes direction) dt
    let spawner ← onSpawner Effect.read
    if Stops model demand placed spawner then pure placed.toList
    else do
      let vehicles ← stepApproaches lanes dt others
      pure (placed.toList ++ vehicles)

/-- The clocks of the suspend model that are common to the approaches. -/
def startSuspended (dt : ℚ) (spawner : Spawner) : Spawner :=
  { spawner with
    elapsedTime := spawner.elapsedTime + dt
    generationTime :=
      if demand.totalVehiclesLimit ≤ spawner.spawnedCount then spawner.generationTime
      else spawner.generationTime + dt }

def step (lanes : Direction → List EntryLane) (dt : ℚ) : Effect Desk (List PlacedVehicle) :=
  match model with
  | .queue => do
    onSpawner (Effect.modify (demand.startTick dt))
    stepApproaches .queue demand lanes dt Direction.all
  | .suspend => do
    onSpawner (Effect.modify (startSuspended demand dt))
    let spawner ← onSpawner Effect.read
    if demand.totalVehiclesLimit ≤ spawner.spawnedCount then pure []
    else stepApproaches .suspend demand lanes dt Direction.all

/-- The first arrival time of each approach. -/
def startTimers : List Direction → Effect Desk Unit
  | [] => pure ()
  | direction :: others => do
    let timer ← drawGap demand direction
    onSpawner (Effect.modify (setTimer direction timer))
    startTimers others

/-- `reset`, on a spawner whose stream has just been seeded. -/
def reset : Effect Desk Unit := do
  let split ← onSpawner demand.resolveSplit
  let probabilities ← onSpawner demand.resolveTurnProbabilities
  onSpawner (Effect.modify fun spawner =>
    { spawner with
      directionalSplit := split
      turnProbabilities := probabilities })
  startTimers demand Direction.all

/-- What a step is given: how long it is, and the vehicles on each entry lane. -/
structure Beat where
  dt : ℚ
  dt_pos : 0 < dt
  vehicles : Direction → Nat → List LaneVehicle

/-- The entry lanes of a network at a step: the turns that each permits do not
change. -/
def Beat.lanes (entries : Direction → List (List TurnIntent)) (beat : Beat)
    (direction : Direction) : List EntryLane :=
  (entries direction).mapIdx fun index permitted => ⟨permitted, beat.vehicles direction index⟩

variable (entries : Direction → List (List TurnIntent))

def steps : List Beat → Effect Desk Unit
  | [] => pure ()
  | beat :: beats => do
    let _ ← step model demand (beat.lanes entries) beat.dt
    steps beats

/-- A run: a spawner that is reset, then stepped. -/
def run (beats : List Beat) : Effect Desk Unit := do
  reset demand
  steps model demand entries beats

section

variable (desk : Desk)

def waiting (direction : Direction) : Nat := match model with
  | .queue => (desk.spawner.backlog direction).length
  | .suspend => if desk.held direction then 1 else 0

/-- The exact counts of `demand_accounting`. -/
structure DemandAccounting where
  arrivals : Nat
  admitted : Nat
  waitingAtEntry : Nat
  rejected : Nat
  deriving DecidableEq, Repr

def demandAccounting : DemandAccounting where
  arrivals := desk.spawner.totalArrivals
  admitted := (Direction.all.map desk.spawner.admitted).sum
  waitingAtEntry := (Direction.all.map (waiting model desk)).sum
  rejected := (Direction.all.map desk.spawner.rejected).sum

end

def Follows (one : Effect Desk Value) (another : Effect Spawner Value) : Prop :=
  ∀ desk, another desk.spawner = ((one desk).1, (one desk).2.spawner)

namespace Follows

theorem onSpawner (effect : Effect Spawner Value) : Follows (onSpawner effect) effect :=
  fun _ => rfl

theorem give (value : Value) : Follows (pure value) (pure value) := fun _ => rfl

theorem bind {first : Effect Desk Value} {first' : Effect Spawner Value}
    {next : Value → Effect Desk Other} {next' : Value → Effect Spawner Other}
    (ofFirst : Follows first first') (ofNext : ∀ value, Follows (next value) (next' value)) :
    Follows (first >>= next) (first' >>= next') := by
  intro desk
  have ended := ofFirst desk
  cases isEnd : first desk with
  | mk result later =>
    rw [isEnd] at ended
    cases result with
    | ok value =>
      rw [Effect.bind_run isEnd, Effect.bind_run ended]
      exact ofNext value later
    | error => rw [Effect.bind_run_error isEnd, Effect.bind_run_error ended]

/-- A note in the history leaves no trace. -/
theorem note {direction : Direction} {change : ApproachLog → ApproachLog}
    {next : Unit → Effect Desk Value} {next' : Effect Spawner Value}
    (ofNext : Follows (next ()) next') : Follows (Desk.note direction change >>= next) next' := by
  intro desk
  exact ofNext (noted direction change desk)

/-- Reading the spawner once more changes nothing. -/
theorem seeing {next : Spawner → Effect Desk Value} {next' : Effect Spawner Value}
    (ofNext : ∀ seen, Follows (next seen) next') :
    Follows (Desk.onSpawner Effect.read >>= next) next' :=
  fun desk => ofNext desk.spawner desk

/-- Nor does noting what was returned. -/
theorem noting (direction : Direction) (change : Value → ApproachLog → ApproachLog)
    (effect : Effect Spawner Value) : Follows (do
        let value ← Desk.onSpawner effect
        Desk.note direction (change value)
        pure value) effect := by
  intro desk
  have ended := onSpawner effect desk
  cases isEnd : Desk.onSpawner effect desk with
  | mk result =>
    rw [isEnd] at ended
    cases result with
    | ok => rw [Effect.bind_run isEnd, ended]; rfl
    | error => rw [Effect.bind_run_error isEnd, ended]

end Follows

variable {demand} {direction : Direction}

theorem drawGap_follows :
    Follows (drawGap demand direction) (demand.generateNextArrivalTime direction) :=
  Follows.noting direction _ _

theorem generateDue_follows (room : Nat) :
    Follows (generateDue demand direction room) (demand.generateDue direction room) := by
  induction room with
  | zero => exact Follows.give ()
  | succ _ ih =>
    unfold generateDue Demand.generateDue
    apply Follows.bind (Follows.onSpawner _)
    intro spawner
    cases spawner.timers direction with
    | none => exact Follows.give ()
    | some =>
      dsimp only
      split
      · apply Follows.bind (Follows.onSpawner _)
        intro _
        apply Follows.note
        apply Follows.bind (Follows.onSpawner _)
        intro _
        apply Follows.bind drawGap_follows
        intro gap
        apply Follows.bind (Follows.onSpawner _)
        exact fun _ => ih
      · exact Follows.give ()

theorem stepQueued_follows (lanes : List EntryLane) (dt : ℚ) :
    Follows (stepQueued demand direction lanes dt) (demand.stepApproach direction lanes dt) := by
  unfold stepQueued stepApproach
  apply Follows.bind (Follows.onSpawner _)
  intro spawner
  cases spawner.timers direction with
  | none => exact Follows.give none
  | some =>
    dsimp only
    apply Follows.bind
    · unfold runClock Demand.runClock
      apply Follows.bind (Follows.onSpawner _)
      intro spawner
      split
      · exact Follows.bind (Follows.onSpawner _) fun _ => generateDue_follows _
      · exact Follows.give ()
    · exact fun _ => Follows.noting direction _ _

theorem stepApproaches_follows (lanes : Direction → List EntryLane) (dt : ℚ)
    (directions : List Direction) : Follows (stepApproaches .queue demand lanes dt directions)
      (demand.stepApproaches lanes dt directions) := by
  induction directions with
  | nil => exact Follows.give []
  | cons _ _ ih =>
    unfold stepApproaches Demand.stepApproaches
    apply Follows.bind (stepQueued_follows _ dt)
    intro placed
    apply Follows.seeing
    intro seen
    rw [if_neg (by simp [Stops])]
    exact Follows.bind ih fun vehicles => Follows.give _

theorem startTimers_follows (directions : List Direction) :
    Follows (startTimers demand directions) (demand.startTimers directions) := by
  induction directions with
  | nil => exact Follows.give ()
  | cons _ _ ih =>
    apply Follows.bind drawGap_follows
    intro timer
    exact Follows.bind (Follows.onSpawner _) fun _ => ih

theorem steps_follows (beats : List Beat) : Follows (steps .queue demand entries beats)
      (demand.steps (beats.map fun beat => ⟨beat.dt, beat.lanes entries⟩)) := by
  induction beats with
  | nil => exact Follows.give ()
  | cons _ _ ih =>
    apply Follows.bind
    · exact Follows.bind (Follows.onSpawner _) fun _ => stepApproaches_follows _ _ _
    · exact fun _ => ih

theorem run_follows (beats : List Beat) : Follows (run .queue demand entries beats)
      (demand.run (beats.map fun beat => ⟨beat.dt, beat.lanes entries⟩)) := by
  apply Follows.bind
  · apply Follows.bind (Follows.onSpawner _)
    intro _
    apply Follows.bind (Follows.onSpawner _)
    intro _
    exact Follows.bind (Follows.onSpawner _) fun _ => startTimers_follows _
  · exact fun _ => steps_follows entries beats

end Desk
end UrbanFlow.Spawning
