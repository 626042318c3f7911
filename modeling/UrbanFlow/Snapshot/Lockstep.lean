import UrbanFlow.Live.Sessions
import Mathlib.Algebra.Order.Field.Rat

/-!
# The lockstep group

`LockstepOrchestrator`: its lifecycle calls, the loop thread that advances every
run by one tick, the lock that both take and the event that ends a loop. A step
is one that a thread takes without another one in between; a thread that waits
for the lock or for another thread to end has no step. The lock is not
reentrant. Several loop threads can exist; they are numbered as they are started.
-/

namespace UrbanFlow.LockstepOrchestrator

/-- What the group reads and writes of a run: its clock and the status of its
engine. -/
structure Run where
  timeStep : ℚ
  duration : ℚ
  ticks : Nat
  status : SimulationStatus
  deriving DecidableEq

/-- `SimulationEngine.step`, and whether it raises: on a completed engine, or
because something it calls after the clock has ticked raises. -/
def Run.step (run : Run) (raises : Bool) : Run × Bool := if run.status = .completed then (run, true)
  else
    let ticked := { run with ticks := run.ticks + 1 }
    if raises then (ticked, true)
    else if run.duration ≤ ticked.ticks * run.timeStep then
      ({ ticked with status := .completed }, false)
    else (ticked, false)

def Run.reset (run : Run) : Run := { run with ticks := 0, status := .initialized }

/-- Who holds the lock. -/
inductive Owner
  | caller
  | loop (thread : Nat)
  deriving DecidableEq

/-- The lifecycle calls. -/
inductive Call
  | start
  | pause
  | resume
  | stop
  | reset
  deriving DecidableEq

/-- The blocks that the calls run under the lock; `resume` and `reset` have two. -/
inductive Block
  | start
  | pause
  | resume
  | resumeAgain
  | stop
  | reset
  | resetAgain
  deriving DecidableEq

/-- The first block of a call. -/
def Call.block : Call → Block
  | .start => .start
  | .pause => .pause
  | .resume => .resume
  | .stop => .stop
  | .reset => .reset

/-- Where the calling thread is: between calls, before a block, in it, or waiting
for a loop thread to end, after which it goes on to a block or returns. -/
inductive CallerPhase
  | idle
  | entering (block : Block)
  | inside (block : Block)
  | joining (thread : Nat) (next : Option Block)
  deriving DecidableEq

/-- Where a loop thread is in `_run_loop`. -/
inductive LoopPhase
  /-- Before the test of the stop event. -/
  | top
  /-- Before the lock of the tick. -/
  | enteringTick
  /-- Holding it, before the test of the statuses. -/
  | insideTick
  /-- Holding it, with the runs before this one stepped. -/
  | stepping (next : Nat)
  /-- After an exception, before the lock. -/
  | enteringError
  | insideError
  /-- After a tick, before the lock of the completion test. -/
  | enteringCheck
  | insideCheck
  | sleeping
  | finished
  deriving DecidableEq

/-- The group, its threads and its lock. -/
structure State where
  runs : List Run
  lock : Option Owner
  stopEvent : Bool
  thread : Option Nat
  loops : List LoopPhase
  caller : CallerPhase

namespace State

section

variable (state : State)

/-- `self._lead.engine.status`. -/
def leadStatus : Option SimulationStatus := state.runs.head?.map Run.status

def transitionAll (status : SimulationStatus) : State :=
  { state with runs := state.runs.map fun run => { run with status := status } }

/-- The call leaves its block and returns. -/
def returned : State := { state with lock := none, caller := .idle }

/-- The call leaves its block and goes on to another. -/
def goOn (block : Block) : State := { state with lock := none, caller := .entering block }

/-- The call leaves its block, joins the known thread if there is one, and goes
on. -/
def joinThread (next : Option Block) : State := match state.thread with
  | some thread => { state with lock := none, caller := .joining thread next }
  | none =>
    match next with
    | some block => state.goOn block
    | none => state.returned

/-- `RUNNING`, with a new loop thread. -/
def spawn : State :=
  { state.transitionAll .running with
    stopEvent := false
    thread := some state.loops.length
    loops := state.loops ++ [.top] }

/-- A block, up to where its lock is given back. `start` of a paused group calls
`resume` before that. -/
def runBlock : Block → State
  | .start =>
    if state.leadStatus = some .running then state.returned
    else if state.leadStatus = some .paused then { state with caller := .entering .resume }
    else state.spawn.returned
  | .pause =>
    if state.leadStatus = some .running then
      ({ state with stopEvent := true }.transitionAll .paused).returned
    else state.returned
  | .resume =>
    if state.leadStatus ≠ some .paused then state.returned
    else state.joinThread (some .resumeAgain)
  | .resumeAgain =>
    if state.leadStatus = some .paused then state.spawn.returned
    else state.returned
  | .stop => ({ state with stopEvent := true }.transitionAll .completed).joinThread none
  | .reset => { state with stopEvent := true }.joinThread (some .resetAgain)
  | .resetAgain => { state with runs := state.runs.map Run.reset }.returned

/-- The next step of the calling thread, if it has one. -/
def stepCaller : Option State := match state.caller with
  | .idle => none
  | .entering block =>
    if state.lock = none then some { state with lock := some .caller, caller := .inside block }
    else none
  | .inside block => some (state.runBlock block)
  | .joining thread next =>
    if state.loops[thread]? = some .finished then match next with
      | some block => some { state with caller := .entering block }
      | none => some { state with caller := .idle }
    else none

end

section

variable (state : State) (thread : Nat) (phase : LoopPhase)

/-- A loop thread moves on. -/
def setLoop : State := { state with loops := state.loops.set thread phase }

/-- A loop thread takes the lock and moves on, if the lock is free. -/
def acquire : Option State := if state.lock = none then
    some { state.setLoop thread phase with lock := some (.loop thread) }
  else none

/-- A loop thread gives the lock back and moves on. -/
def release : State := { state.setLoop thread phase with lock := none }

end

section

variable (state : State) (thread : Nat) (raises : Bool)

/-- The next step of a loop thread from a phase, if it has one. `raises` says
whether the step of the run it advances raises. -/
def stepFrom : LoopPhase → Option State
  | .top => some (state.setLoop thread (if state.stopEvent then .finished else .enteringTick))
  | .enteringTick => state.acquire thread .insideTick
  | .insideTick =>
    if ∃ run ∈ state.runs, run.status ≠ .running then some (state.release thread .finished)
    else some (state.setLoop thread (.stepping 0))
  | .stepping next =>
    match state.runs[next]? with
    | none => some (state.release thread .enteringCheck)
    | some run =>
      let stepped := { state with runs := state.runs.set next (run.step raises).1 }
      if (run.step raises).2 then some (stepped.release thread .enteringError)
      else some (stepped.setLoop thread (.stepping (next + 1)))
  | .enteringError => state.acquire thread .insideError
  | .insideError => some ((state.transitionAll .error).release thread .finished)
  | .enteringCheck => state.acquire thread .insideCheck
  | .insideCheck =>
    if ∀ run ∈ state.runs, run.status = .completed then some (state.release thread .finished)
    else some (state.release thread .sleeping)
  | .sleeping => some (state.setLoop thread .top)
  | .finished => none

/-- The next step of a loop thread, if it has one. -/
def stepLoop : Option State := state.loops[thread]?.bind (state.stepFrom thread raises)

end

end State

/-- A call is made, or a thread takes its next step. -/
inductive Event
  | call (call : Call)
  | caller
  | loop (thread : Nat) (raises : Bool)

/-- What an event leads to; `none` where the thread has no step. -/
def State.step (state : State) : Event → Option State
  | .call call =>
    if state.caller = .idle then some { state with caller := .entering call.block }
    else none
  | .caller => state.stepCaller
  | .loop thread raises => state.stepLoop thread raises

/-- A new group: its runs share time step and duration, as the callers build
them. -/
structure Initial (state : State) : Prop where
  runs_ne_nil : state.runs ≠ []
  alike : ∀ first ∈ state.runs, ∀ second ∈ state.runs,
    first.timeStep = second.timeStep ∧ first.duration = second.duration
  fresh : ∀ run ∈ state.runs, run.ticks = 0 ∧ run.status = .initialized
  lock : state.lock = none
  thread : state.thread = none
  loops : state.loops = []
  caller : state.caller = .idle

/-- What the group is to keep in every state: no call waits for the lock it holds
or joins a thread while it holds it, one loop thread at most is not finished, and
the runs agree whenever the lock is free. -/
structure Safe (state : State) : Prop where
  not_waiting : state.lock = some .caller → ∀ block, state.caller ≠ .entering block
  not_joining : state.lock = some .caller → ∀ thread next, state.caller ≠ .joining thread next
  one_loop : ∀ (first second : Nat) firstPhase secondPhase, state.loops[first]? = some firstPhase →
    state.loops[second]? = some secondPhase →
    firstPhase ≠ .finished → secondPhase ≠ .finished → first = second
  alike : state.lock = none → ∀ first ∈ state.runs, ∀ second ∈ state.runs,
    first.status = second.status ∧ first.ticks = second.ticks

/-- An event that stays clear of what goes wrong: no `start` of a paused group,
none of a completed group whose loop thread has not ended yet, and no tick that
raises. -/
def Clean (state : State) : Event → Prop
  | .call _ => True
  | .caller =>
    state.caller = .inside .start → state.leadStatus ≠ some .paused ∧
      (state.leadStatus = some .completed → ∀ phase ∈ state.loops, phase = .finished)
  | .loop _ raises => raises = false

/-- States that clean events lead to from a new group. -/
inductive CleanReachable : State → Prop
  | initial (state : State) (isInitial : Initial state) : CleanReachable state
  | step (before after : State) (event : Event) (isReachable : CleanReachable before)
      (isClean : Clean before event)
      (isStep : before.step event = some after) :
      CleanReachable after

end UrbanFlow.LockstepOrchestrator
