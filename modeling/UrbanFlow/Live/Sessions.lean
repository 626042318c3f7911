import Mathlib.Algebra.Order.Ring.Rat
import Mathlib.Data.List.Sort
import Mathlib.Data.String.Basic
import UrbanFlow.Library.Tables

/-!
# The live session registry

Every client of the live dashboard owns a session, kept in a dictionary under
the client's key. A sweep drops the sessions that have been idle for too long
and then, while the registry is larger than its cap, the least recently used of
the sessions no simulation runs in; a request for a key the registry lacks
sweeps first and then adds the new session. The dictionary is a list of entries
in insertion order.
-/

namespace UrbanFlow

inductive SimulationStatus
  | initialized
  | running
  | paused
  | completed
  | error
  deriving DecidableEq, Repr

/-- `LiveSession`: when it was last seen, and the status of its live engine and
of its two orchestrators, where it has them. -/
structure LiveSession where
  lastSeen : ℚ
  engine : Option SimulationStatus := none
  dualSimOrchestrator : Option SimulationStatus := none
  comparisonOrchestrator : Option SimulationStatus := none
  deriving DecidableEq, Repr

abbrev LiveSessions := List (String × LiveSession)

def defaultSessionKey : String := "default"

def maxLiveSessions : Nat := 100

def liveSessionIdleTtlSeconds : ℚ := 30 * 60

/-- The three readings of the clock a request can make: in the sweep, when its
session is created and when it is touched. -/
structure RequestClock where
  swept : ℚ
  created : ℚ
  touched : ℚ
  deriving DecidableEq, Repr

/-- What can happen to the registry: a request for a session, a sweep, a touch
by an open stream, or a change of what a session's engines are doing. -/
inductive LiveEvent
  | request (key : String) (clock : RequestClock)
  | sweep (now : ℚ)
  | touch (key : String) (now : ℚ)
  | activity (key : String) (engine dualSimOrchestrator comparisonOrchestrator :
        Option SimulationStatus)
  deriving DecidableEq, Repr

namespace LiveSession

/-- A status in which an engine or orchestrator holds its session. -/
def Holds (status : SimulationStatus) : Prop := status = .running ∨ status = .paused

instance : DecidablePred Holds :=
  fun status => inferInstanceAs (Decidable (status = .running ∨ status = .paused))

def IsActive (session : LiveSession) : Prop := (∃ status ∈ session.engine, Holds status) ∨
    (∃ status ∈ session.dualSimOrchestrator, Holds status) ∨
    ∃ status ∈ session.comparisonOrchestrator, Holds status

instance : DecidablePred IsActive :=
  fun session => inferInstanceAs (Decidable ((∃ status ∈ session.engine, Holds status) ∨
      (∃ status ∈ session.dualSimOrchestrator, Holds status) ∨
      ∃ status ∈ session.comparisonOrchestrator, Holds status))

def touch (now : ℚ) (session : LiveSession) : LiveSession := { session with lastSeen := now }

end LiveSession

namespace LiveSessions

/-- A sweep passes over the entry: it is the default session or active. -/
def Protected (entry : String × LiveSession) : Prop :=
  entry.1 = defaultSessionKey ∨ entry.2.IsActive

instance : DecidablePred Protected :=
  fun entry => inferInstanceAs (Decidable (entry.1 = defaultSessionKey ∨ entry.2.IsActive))

/-- The entry has been idle for the whole time to live. -/
def Expired (now : ℚ) (entry : String × LiveSession) : Prop :=
  liveSessionIdleTtlSeconds ≤ now - entry.2.lastSeen

instance (now : ℚ) : DecidablePred (Expired now) :=
  fun entry => inferInstanceAs (Decidable (liveSessionIdleTtlSeconds ≤ now - entry.2.lastSeen))

/-- The order of the candidates: by the last time seen, then by key. -/
def SeenBefore (first second : ℚ × String) : Prop :=
  first.1 < second.1 ∨ first.1 = second.1 ∧ first.2 ≤ second.2

instance : DecidableRel SeenBefore :=
  fun first second => inferInstanceAs (Decidable (first.1 < second.1 ∨
      first.1 = second.1 ∧ first.2 ≤ second.2))

/-- The first pass: anything idle for longer than the time to live. -/
def dropExpired (now : ℚ) (sessions : LiveSessions) : LiveSessions :=
  sessions.filter fun entry => ¬ (¬ Protected entry ∧ Expired now entry)

section

variable (sessions : LiveSessions)

/-- `candidates`, sorted. -/
def candidates : List (ℚ × String) := ((sessions.filter fun entry => ¬ Protected entry).map
    fun entry => (entry.2.lastSeen, entry.1)).insertionSort SeenBefore

/-- The keys the second pass drops. -/
def overflowing : List String :=
  (sessions.candidates.take (sessions.length - maxLiveSessions)).map Prod.snd

/-- The second pass: still over the cap, so drop the least recently used
inactive sessions until it fits. -/
def dropOverflowing : LiveSessions := if maxLiveSessions < sessions.length then
    Eviction.without Prod.fst sessions.overflowing sessions
  else sessions

end

/-- `evict_stale_sessions`: the registry it leaves. -/
def evictStaleSessions (now : ℚ) (sessions : LiveSessions) : LiveSessions :=
  (sessions.dropExpired now).dropOverflowing

/-- The keys of the registry. -/
def keys (sessions : LiveSessions) : List String := sessions.map Prod.fst

def change (key : String) (update : LiveSession → LiveSession)
    (sessions : LiveSessions) : LiveSessions :=
  sessions.map fun entry => if entry.1 = key then (entry.1, update entry.2) else entry

/-- `get_or_create_session`: the registry it leaves. -/
def getOrCreateSession (key : String) (clock : RequestClock)
    (sessions : LiveSessions) : LiveSessions :=
  if key ∈ sessions.keys then sessions.change key (.touch clock.touched)
  else
    change key (.touch clock.touched) (sessions.evictStaleSessions clock.swept ++
        [(key, { lastSeen := clock.created })])

def step (sessions : LiveSessions) : LiveEvent → LiveSessions
  | .request key clock => sessions.getOrCreateSession key clock
  | .sweep now => sessions.evictStaleSessions now
  | .touch key now => sessions.change key (.touch now)
  | .activity key engine dualSimOrchestrator comparisonOrchestrator =>
    sessions.change key fun session =>
      { session with
        engine := engine
        dualSimOrchestrator := dualSimOrchestrator
        comparisonOrchestrator := comparisonOrchestrator }

/-- The registry when the module is loaded. -/
def initial (loaded : ℚ) : LiveSessions := [(defaultSessionKey, { lastSeen := loaded })]

def after (loaded : ℚ) (history : List LiveEvent) : LiveSessions :=
  history.foldl step (initial loaded)

def activeCount (sessions : LiveSessions) : Nat := sessions.countP fun entry => entry.2.IsActive

end LiveSessions
end UrbanFlow
