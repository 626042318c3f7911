import UrbanFlow.Live.Sessions

/-!
# The threads of an engine

`start` and `resume` create a background loop that steps the engine; `pause`, `stop` and
`reset` set the stop event that the loop tests between two ticks. Every block under the
lock of the engine is one action. `resume` and `reset` have two of them, with the join of
the loop in between, where any other thread may act. Status callbacks are taken to return.
-/

namespace UrbanFlow

/-- Where a thread is in `_run_loop`. -/
inductive LoopPosition
  /-- Before the test of the stop event. -/
  | top
  /-- Before the block of the status test and the tick. -/
  | entering
  /-- After an exception, before the block that reports it. -/
  | raised
  /-- After a tick, before the block of the completion test. -/
  | ticked
  | sleeping
  deriving DecidableEq, Repr

/-- How `step` ends on a running engine: it may be the last tick of the run, and it may
raise once the clock has advanced. -/
inductive StepOutcome
  | advanced
  | completed
  | raised
  deriving DecidableEq, Repr

/-- A call between its two blocks, with its `thread_to_join`. -/
inductive PendingCall
  | resume (threadToJoin : Option Nat)
  | reset (threadToJoin : Option Nat)
  deriving DecidableEq, Repr

/-- The status, the stop event and the thread of the engine; how many loop threads were
created; where the ones that have not ended are; and the calls between two blocks, by the
thread that makes them. -/
structure EngineThreads where
  status : SimulationStatus := .initialized
  stopEvent : Bool := false
  thread : Option Nat := none
  created : Nat := 0
  loops : Nat → Option LoopPosition := fun _ => none
  calls : Nat → Option PendingCall := fun _ => none

/-- A block of a call, or a move of a loop thread. -/
inductive EngineAction
  | start
  | pause
  | stop
  | resume (caller : Nat)
  | resumeAgain (caller : Nat)
  | reset (caller : Nat)
  | resetAgain (caller : Nat)
  | testEvent (loop : Nat)
  | iterate (loop : Nat) (outcome : StepOutcome)
  | report (loop : Nat)
  | testCompleted (loop : Nat)
  | wake (loop : Nat)
  /-- An exception in the computation of the sleeping time ends the thread. -/
  | die (loop : Nat)
  deriving DecidableEq, Repr

namespace EngineThreads

variable (engine : EngineThreads)

/-- Puts a loop at a position; at none, its thread has ended. -/
def put (loop : Nat) (position : Option LoopPosition) : EngineThreads :=
  { engine with loops := Function.update engine.loops loop position }

def leave (caller : Nat) (call : Option PendingCall) : EngineThreads :=
  { engine with calls := Function.update engine.calls caller call }

/-- `RUNNING`, with the event cleared and a new thread. -/
def launch : EngineThreads :=
  { engine with
    status := .running
    stopEvent := false
    thread := some engine.created
    created := engine.created + 1
    loops := Function.update engine.loops engine.created (some .top) }

/-- `join` returns: there is nothing to join, or the thread has ended. -/
def Joined (threadToJoin : Option Nat) : Prop := ∀ loop ∈ threadToJoin, engine.loops loop = none

instance (threadToJoin : Option Nat) : Decidable (engine.Joined threadToJoin) :=
  inferInstanceAs (Decidable (∀ loop ∈ threadToJoin, engine.loops loop = none))

/-- The block of an iteration that tests the status and takes the tick. -/
def iterated (loop : Nat) (outcome : StepOutcome) : EngineThreads :=
  if engine.status ≠ .running then engine.put loop none
  else match outcome with
    | .advanced => engine.put loop (some .ticked)
    | .completed => { engine.put loop (some .ticked) with status := .completed }
    | .raised => engine.put loop (some .raised)

/-- The state after an action; none where the thread is not there yet. -/
def act : EngineAction → Option EngineThreads
  | .start =>
    -- a `RuntimeError` leaves the engine as it is
    some (if engine.status ≠ .initialized then engine else engine.launch)
  | .pause =>
    some (if engine.status = .running then
      { engine with status := .paused, stopEvent := true } else engine)
  | .stop =>
    some (if engine.status = .running ∨ engine.status = .paused then
      { engine with status := .completed, stopEvent := true } else engine)
  | .resume caller =>
    if engine.calls caller = none then some (if engine.status ≠ .paused then engine
        else engine.leave caller (some (.resume engine.thread)))
    else none
  | .resumeAgain caller =>
    match engine.calls caller with
    | some (.resume threadToJoin) =>
      if engine.Joined threadToJoin then
        some ((if engine.status = .paused then engine.launch else engine).leave caller none)
      else none
    | _ => none
  | .reset caller =>
    if engine.calls caller = none then
      some ({ engine with stopEvent := true }.leave caller (some (.reset engine.thread)))
    else none
  | .resetAgain caller =>
    match engine.calls caller with
    | some (.reset threadToJoin) =>
      if engine.Joined threadToJoin then
        some ({ engine with status := .initialized }.leave caller none)
      else none
    | _ => none
  | .testEvent loop =>
    if engine.loops loop = some .top then
      some (engine.put loop (if engine.stopEvent then none else some .entering))
    else none
  | .iterate loop outcome =>
    if engine.loops loop = some .entering then some (engine.iterated loop outcome)
    else none
  | .report loop =>
    if engine.loops loop = some .raised then some ({ engine with status := .error }.put loop none)
    else none
  | .testCompleted loop =>
    if engine.loops loop = some .ticked then
      some (engine.put loop (if engine.status = .completed then none else some .sleeping))
    else none
  | .wake loop =>
    if engine.loops loop = some .sleeping then some (engine.put loop (some .top))
    else none
  | .die loop =>
    if engine.loops loop = some .sleeping then some (engine.put loop none)
    else none

/-- The state after the actions of an interleaving. -/
def run : EngineThreads → List EngineAction → Option EngineThreads
  | engine, [] => some engine
  | engine, action :: rest => (engine.act action).bind fun next => next.run rest

/-- The loop that takes a tick in an action. -/
def ticker : EngineAction → List Nat
  | .iterate loop _ => if engine.status = .running then [loop] else []
  | _ => []

/-- The loops that take the ticks of an interleaving, in order. -/
def ticks : EngineThreads → List EngineAction → List Nat
  | _, [] => []
  | engine, action :: rest =>
    match engine.act action with
    | none => []
    | some next => engine.ticker action ++ next.ticks rest

end EngineThreads

/-- The moves of the status: to initialized by `reset`, and else along the run. -/
def StatusMove (action : EngineAction) : SimulationStatus → SimulationStatus → Prop
  | .initialized, .running => True
  | .running, .paused => True
  | .running, .completed => True
  | .running, .error => True
  | .paused, .running => True
  | .paused, .completed => True
  | _, .initialized => ∃ caller, action = .resetAgain caller
  | _, _ => False

namespace EngineThreads

section

variable (engine : EngineThreads) (actions : List EngineAction)

/-- Of the loops that exist at any time, one at most goes on stepping the engine. -/
def StepsAlone : Prop :=
  ∀ before after state, before ++ after = actions → engine.run before = some state →
    ∀ first ∈ state.ticks after, ∀ second ∈ state.ticks after,
      first < state.created → second < state.created → first = second

/-- Every change of the status is one of the moves. -/
def MovesStatus : Prop := ∀ before action after state next, before ++ action :: after = actions →
    engine.run before = some state → state.act action = some next →
      next.status = state.status ∨ StatusMove action state.status next.status

/-- After a reset no tick is taken before the next start. -/
def QuietAfterReset : Prop := ∀ before caller between after state,
    before ++ .resetAgain caller :: (between ++ after) = actions →
      engine.run (before ++ [.resetAgain caller]) = some state →
        .start ∉ between → state.ticks between = []

end

def LoopEnded (engine : EngineThreads) : Prop := ∀ loop ∈ engine.thread, engine.loops loop = none

instance (engine : EngineThreads) : Decidable engine.LoopEnded :=
  inferInstanceAs (Decidable (∀ loop ∈ engine.thread, engine.loops loop = none))

/-- No other call came between: a `resume` that still finds the engine paused, or a
`reset`, re-enters the lock when the loop the engine holds has ended, and an exception is
reported on a running engine. -/
def Undisturbed (engine : EngineThreads) : EngineAction → Prop
  | .resumeAgain _ => engine.status = .paused → engine.LoopEnded
  | .resetAgain _ => engine.LoopEnded
  | .report _ => engine.status = .running
  | _ => True

instance (engine : EngineThreads) : DecidablePred engine.Undisturbed
  | .resumeAgain _ => inferInstanceAs (Decidable (engine.status = .paused → engine.LoopEnded))
  | .resetAgain _ => inferInstanceAs (Decidable engine.LoopEnded)
  | .report _ => inferInstanceAs (Decidable (engine.status = .running))
  | .start | .pause | .stop | .resume _ | .reset _ | .testEvent _ | .iterate _ _
  | .testCompleted _ | .wake _ | .die _ => .isTrue trivial

/-- No action of an interleaving is disturbed by another call. -/
def UndisturbedAlong (engine : EngineThreads) (actions : List EngineAction) : Prop :=
  ∀ before action after state, before ++ action :: after = actions →
    engine.run before = some state → state.Undisturbed action

end EngineThreads
end UrbanFlow
