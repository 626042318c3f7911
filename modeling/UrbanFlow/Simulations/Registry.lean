import UrbanFlow.Live.Sessions

/-!
# The simulation registry

Simulations created over REST are kept in a dictionary of bounded size. A new one evicts
the oldest finished ones when the dictionary is full, and is refused when that frees no
slot. Each simulation carries a status callback that records a finished run to the
history once. The dictionary is a list of entries in insertion order.
-/

namespace UrbanFlow

/-- What changes the status of an engine: a call of one of its methods, the end of its
run, or an exception in one of its steps. -/
inductive StatusChange
  | start
  | pause
  | resume
  | stop
  | complete
  | fail
  | reset
  deriving DecidableEq, Repr

namespace SimulationStatus

/-- The status that is entered; none where the call raises or does nothing. -/
def transition : SimulationStatus → StatusChange → Option SimulationStatus
  | .initialized, .start => some .running
  | .running, .pause => some .paused
  | .paused, .resume => some .running
  | .running, .stop => some .completed
  | .paused, .stop => some .completed
  | .running, .complete => some .completed
  | .running, .fail => some .error
  | _, .reset => some .initialized
  | _, _ => none

/-- The run is over: the entry may be evicted, and the run is recorded. -/
def Finished (status : SimulationStatus) : Prop := status = .completed ∨ status = .error

instance : DecidablePred Finished :=
  fun status => inferInstanceAs (Decidable (status = .completed ∨ status = .error))

end SimulationStatus

/-- An entry: the status of its engine, when it was created, and `has_persisted` of its
status callback. -/
structure RegisteredSimulation where
  status : SimulationStatus := .initialized
  createdAt : ℚ
  hasPersisted : Bool := false
  deriving DecidableEq, Repr

abbrev SimulationsDb := List (String × RegisteredSimulation)

def maxConcurrentSimulations : Nat := 50

/-- The dictionary, how many identifiers have been drawn, and the runs that were
recorded to the history. -/
structure SimulationRegistry where
  simulationsDb : SimulationsDb := []
  drawn : Nat := 0
  persisted : List (String × SimulationStatus) := []
  deriving DecidableEq, Repr

/-- A call of `register_simulation` at a clock reading, whose configuration can be built
or not, or a status change of a registered simulation. -/
inductive RegistryEvent
  | register (builds : Bool) (now : ℚ)
  | change (simId : String) (change : StatusChange)
  deriving DecidableEq, Repr

/-- How `register_simulation` ends. -/
inductive Registration
  | invalid
  | limitReached
  | registered (simId : String)
  deriving DecidableEq, Repr

namespace SimulationsDb

/-- The identifiers of the registered simulations. -/
def keys (db : SimulationsDb) : List String := db.map Prod.fst

/-- An entry was created no later than another. -/
def CreatedBefore (first second : String × RegisteredSimulation) : Prop :=
  first.2.createdAt ≤ second.2.createdAt

instance : DecidableRel CreatedBefore :=
  fun first second => inferInstanceAs (Decidable (first.2.createdAt ≤ second.2.createdAt))

section

variable (db : SimulationsDb)

/-- `evictable`, sorted. -/
def evictable : List (String × RegisteredSimulation) :=
  (db.filter fun entry => entry.2.status.Finished).insertionSort CreatedBefore

/-- The identifiers of the entries to be evicted. -/
def evicted : List String :=
  (db.evictable.take (db.length - maxConcurrentSimulations + 1)).map Prod.fst

/-- `evict_completed_simulations`: the dictionary it leaves. -/
def evictCompletedSimulations : SimulationsDb := if db.length < maxConcurrentSimulations then db
  else Eviction.without Prod.fst db.evicted db

end

/-- The dictionary with one entry changed. -/
def change (simId : String) (update : RegisteredSimulation → RegisteredSimulation)
    (db : SimulationsDb) : SimulationsDb :=
  db.map fun entry => if entry.1 = simId then (entry.1, update entry.2) else entry

/-- `simulations_db[sim_id] = entry`. -/
def insert (simId : String) (entry : RegisteredSimulation) (db : SimulationsDb) : SimulationsDb :=
  if simId ∈ db.keys then db.change simId fun _ => entry else db ++ [(simId, entry)]

end SimulationsDb

namespace SimulationRegistry

section

variable (uuid4 : Nat → String)

/-- `register_simulation`, with the identifiers that `uuid4` draws. -/
def register (builds : Bool) (now : ℚ)
    (registry : SimulationRegistry) : Registration × SimulationRegistry :=
  let simId := uuid4 registry.drawn
  let drawn := registry.drawn + 1
  if builds then
    let db := registry.simulationsDb.evictCompletedSimulations
    if maxConcurrentSimulations ≤ db.length then
      (.limitReached, { registry with drawn := drawn, simulationsDb := db })
    else
      (.registered simId, { registry with
          drawn := drawn
          simulationsDb := db.insert simId { createdAt := now } })
  else (.invalid, { registry with drawn := drawn })

/-- `_on_status_change`: a run that finishes is recorded, unless the flag is set. -/
def onStatusChange (simId : String) (newStatus : SimulationStatus) (entry : RegisteredSimulation)
    (registry : SimulationRegistry) : SimulationRegistry :=
  if newStatus.Finished ∧ entry.hasPersisted = false then
    { registry with
      simulationsDb := registry.simulationsDb.change simId fun entry =>
        { entry with hasPersisted := true }
      persisted := registry.persisted ++ [(simId, newStatus)] }
  else registry

/-- A status change of a registered simulation: `_transition_to`. -/
def changeStatus (simId : String) (change : StatusChange)
    (registry : SimulationRegistry) : SimulationRegistry :=
  match registry.simulationsDb.lookup simId with
  | none => registry
  | some entry =>
    match entry.status.transition change with
    | none => registry
    | some newStatus =>
      onStatusChange simId newStatus entry { registry with
          simulationsDb := registry.simulationsDb.change simId fun entry =>
            { entry with status := newStatus } }

def step (registry : SimulationRegistry) : RegistryEvent → SimulationRegistry
  | .register builds now => (registry.register uuid4 builds now).2
  | .change simId change => registry.changeStatus simId change

def after (history : List RegistryEvent) : SimulationRegistry := history.foldl (step uuid4) {}

end

/-- The completion or error that an event is. -/
def finishes (registry : SimulationRegistry) : RegistryEvent → List (String × SimulationStatus)
  | .register _ _ => []
  | .change simId change =>
    match registry.simulationsDb.lookup simId with
    | none => []
    | some entry =>
      match entry.status.transition change with
      | none => []
      | some newStatus => if newStatus.Finished then [(simId, newStatus)] else []

end SimulationRegistry
end UrbanFlow
