import UrbanFlow.Library.Machine
import UrbanFlow.Snapshot.Lockstep

/-!
# Every order of lifecycle calls

Whatever calls are made and however the threads take turns: as long as no paused
group is started, no completed one before its loop thread has ended and no tick
raises, the group stays safe, and under a fair schedule every call returns. A
`start` of a paused group waits for its own lock, and one between the last tick
and its completion test leaves two loop threads stepping the runs.
-/

namespace UrbanFlow.LockstepOrchestrator

open State LoopPhase

attribute [local simp] State.returned

/-! ## What a clean run keeps -/

/-- A loop thread in this phase holds the lock. -/
def LoopPhase.holds : LoopPhase → Bool
  | .insideTick => true
  | .stepping _ => true
  | .insideError => true
  | .insideCheck => true
  | _ => false

/-- The blocks that run after a join. -/
def Block.isSecond : Block → Bool
  | .resumeAgain => true
  | .resetAgain => true
  | _ => false

/-- The loop threads before the last one have finished, the last one is in the
given phase and is the one the group knows. -/
inductive Loops (state : State) : LoopPhase → Prop
  | none (loops_eq : state.loops = []) (thread_eq : state.thread = none) : Loops state .finished
  | last (earlier : Nat) (phase : LoopPhase)
      (loops_eq : state.loops = List.replicate earlier .finished ++ [phase])
      (thread_eq : state.thread = some earlier) :
      Loops state phase

/-- The runs, when a tick has stepped some of them and each of the others is
still like the given one. -/
def runsOf (count : Nat) (run : Run) : LoopPhase → List Run
  | .stepping next => List.replicate next (run.step false).1 ++ List.replicate (count - next) run
  | _ => List.replicate count run

/-- Who holds the lock, from where the threads are. -/
def lockOf (caller : CallerPhase) (active : LoopPhase) (thread : Option Nat) : Option Owner :=
  match caller with
  | .inside _ => some .caller
  | _ => if active.holds then thread.map .loop else none

/-- The invariant of clean runs: one loop thread at most is active, and the phase
it is in, together with that of the caller, says who holds the lock and what the
runs are. -/
structure Kept (state : State) (active : LoopPhase) (count : Nat) (run : Run) : Prop where
  loops : Loops state active
  count_pos : 0 < count
  runs_eq : state.runs = runsOf count run active
  within : ∀ next, active = .stepping next → next ≤ count ∧ run.status = .running
  lock_eq : state.lock = lockOf state.caller active state.thread
  exclusive : ∀ block, state.caller = .inside block → active.holds = false
  paused : run.status = .paused → state.stopEvent = true
  initialized : run.status = .initialized → active = .finished
  status_ne : run.status ≠ .error
  active_ne : active ≠ .enteringError ∧ active ≠ .insideError
  second : ∀ block, block.isSecond = true →
    state.caller = .entering block ∨ state.caller = .inside block →
    active = .finished
  joining : ∀ thread next, state.caller = .joining thread next →
    state.thread = some thread ∧ state.stopEvent = true ∧ ∀ block ∈ next, block.isSecond = true

section Kept

variable {state after : State} {active phase : LoopPhase} {count : Nat} {run stepped : Run}

theorem runsOf_eq_replicate (notHolding : active.holds = false) :
    runsOf count run active = List.replicate count run := by
  cases active <;> simp_all [runsOf, holds]

theorem Loops.congr (loops : Loops state active) (loops_eq : after.loops = state.loops)
    (thread_eq : after.thread = state.thread) : Loops after active := by
  cases loops with
  | none isEmpty isNone => exact .none (loops_eq.trans isEmpty) (thread_eq.trans isNone)
  | last earlier _ isLast isKnown =>
    exact .last earlier _ (loops_eq.trans isLast) (thread_eq.trans isKnown)

theorem Loops.active_of_getElem? (loops : Loops state active) {thread : Nat}
    (isPhase : state.loops[thread]? = some phase) (unfinished : phase ≠ .finished) :
    phase = active ∧ state.thread = some thread ∧
      state.loops = List.replicate thread .finished ++ [active] := by
  cases loops with
  | none isEmpty => simp [isEmpty] at isPhase
  | last earlier _ isLast isKnown =>
    rw [isLast] at isPhase
    obtain isEarlier | rfl | isLater := Nat.lt_trichotomy thread earlier
    · rw [List.getElem?_append_left (by simpa using isEarlier),
        List.getElem?_replicate_of_lt isEarlier, Option.some.injEq] at isPhase
      exact absurd isPhase.symm unfinished
    · rw [List.getElem?_append_right (by simp)] at isPhase
      simp only [List.length_replicate, Nat.sub_self, List.getElem?_cons_zero,
        Option.some.injEq] at isPhase
      exact ⟨isPhase.symm, isKnown, isLast⟩
    · rw [List.getElem?_eq_none (by simp; omega)] at isPhase
      exact absurd isPhase (by simp)

theorem Loops.setLoop {thread : Nat} (isKnown : state.thread = some thread)
    (isLast : state.loops = List.replicate thread .finished ++ [active]) (phase : LoopPhase) :
    Loops (state.setLoop thread phase) phase := by
  refine .last thread phase ?_ isKnown
  simp [State.setLoop, isLast]

theorem Loops.all_finished (loops : Loops state .finished) :
    ∀ phase ∈ state.loops, phase = .finished := by
  cases loops with
  | none isEmpty => simp [isEmpty]
  | last _ _ isLast =>
    rw [isLast]
    simp +contextual [or_imp]

theorem Loops.finished_of_all (loops : Loops state active)
    (allFinished : ∀ phase ∈ state.loops, phase = .finished) : active = .finished := by
  cases loops with
  | none => rfl
  | last _ _ isLast => exact allFinished active (by simp [isLast])

section

variable (kept : Kept state active count run)

include kept

theorem Kept.leadStatus_eq (notHolding : active.holds = false) :
    state.leadStatus = some run.status := by
  rw [State.leadStatus, kept.runs_eq, runsOf_eq_replicate notHolding]
  obtain ⟨rest, isCount⟩ := Nat.exists_eq_succ_of_ne_zero kept.count_pos.ne'
  simp [isCount, List.replicate_succ]

theorem Kept.runs_eq_replicate (notHolding : active.holds = false) :
    state.runs = List.replicate count run :=
  kept.runs_eq.trans (runsOf_eq_replicate notHolding)

/-- A call leaves a block. -/
theorem Kept.leave {block : Block} (isInside : state.caller = .inside block)
    (runs_eq : after.runs = List.replicate count stepped) (lock_eq : after.lock = none)
    (loops_eq : after.loops = state.loops) (thread_eq : after.thread = state.thread)
    (notInside : ∀ other, after.caller ≠ .inside other)
    (paused : stepped.status = .paused → after.stopEvent = true)
    (initialized : stepped.status = .initialized → active = .finished)
    (status_ne : stepped.status ≠ .error)
    (second : ∀ other, other.isSecond = true → after.caller = .entering other → active = .finished)
    (joining : ∀ thread next, after.caller = .joining thread next → after.thread = some thread ∧ after.stopEvent = true ∧ ∀ other ∈ next, other.isSecond = true) :
    Kept after active count stepped := by
  have notHolding := kept.exclusive block isInside
  refine
    { loops := kept.loops.congr loops_eq thread_eq
      count_pos := kept.count_pos
      runs_eq := runs_eq.trans (runsOf_eq_replicate notHolding).symm
      within := ?_
      lock_eq := ?_
      exclusive := fun other isOther => absurd isOther (notInside other)
      paused := paused
      initialized := initialized
      status_ne := status_ne
      active_ne := kept.active_ne
      second := ?_
      joining := joining }
  · rintro next rfl
    simp [holds] at notHolding
  · rw [lock_eq]
    cases isCaller : after.caller with
    | inside other => exact absurd isCaller (notInside other)
    | _ => simp [lockOf, notHolding]
  · rintro other isSecond (isEntering | isOther)
    · exact second other isSecond isEntering
    · exact absurd isOther (notInside other)

end

variable {block : Block}

section

variable (isInside : state.caller = .inside block)

include isInside

theorem Kept.returned (kept : Kept state active count run)
    : Kept state.returned active count run :=
  kept.leave isInside (kept.runs_eq_replicate (kept.exclusive block isInside)) rfl rfl rfl
    (by simp) kept.paused kept.initialized kept.status_ne
    (by simp) (by simp)

/-- A call gives the runs a status that is not that of a failed or new run, and
returns. -/
theorem Kept.transition_returned (kept : Kept state active count run) {stopEvent : Bool}
    {status : SimulationStatus}
    (paused : status = .paused → stopEvent = true)
    (status_ne : status ≠ .error ∧ status ≠ .initialized) :
    Kept ({ state with stopEvent := stopEvent }.transitionAll status).returned
      active count { run with status := status } :=
  kept.leave isInside (by simp [transitionAll, kept.runs_eq_replicate (kept.exclusive block isInside)]) rfl rfl rfl
    (by simp) paused
    (fun isInitialized => absurd isInitialized status_ne.2) status_ne.1
    (by simp) (by simp)

/-- A call starts a loop thread when no other is left, and returns. -/
theorem Kept.spawn (kept : Kept state .finished count run)
    : 
    Kept state.spawn.returned .top count { run with status := .running } where
  loops := by
    have isReplicate : state.loops = List.replicate state.loops.length .finished :=
      List.eq_replicate_iff.mpr ⟨rfl, kept.loops.all_finished⟩
    refine .last state.loops.length .top ?_ rfl
    rw [← isReplicate]
    rfl
  count_pos := kept.count_pos
  runs_eq := by
    simp [State.spawn, transitionAll, runsOf, kept.runs_eq_replicate (kept.exclusive block isInside)]
  within := by simp
  lock_eq := rfl
  exclusive := by simp [holds]
  paused := by simp
  initialized := by simp
  status_ne := by simp
  active_ne := by simp
  second := by simp
  joining := by simp

/-- A call gives the lock back and waits for the known thread to end, then goes
on, or goes on at once when no thread was ever started. -/
theorem Kept.joinThread (kept : Kept state active count run) (middle : State)
    (loops_eq : middle.loops = state.loops) (thread_eq : middle.thread = state.thread)
    (runs_eq : middle.runs = List.replicate count stepped) (isStopping : middle.stopEvent = true)
    (initialized : stepped.status = .initialized → active = .finished)
    (status_ne : stepped.status ≠ .error) {next : Option Block}
    (areSecond : ∀ other ∈ next, other.isSecond = true) :
    Kept (middle.joinThread next) active count stepped := by
  unfold State.joinThread
  split
  · next thread isKnown =>
      refine kept.leave isInside runs_eq rfl loops_eq thread_eq (by simp)
        (fun _ => isStopping) initialized status_ne (by simp) ?_
      rintro other following isJoining
      simp only [CallerPhase.joining.injEq] at isJoining
      obtain ⟨rfl, rfl⟩ := isJoining
      exact ⟨isKnown, isStopping, areSecond⟩
  · next isNone =>
      have isFinished : active = .finished := by
        cases kept.loops with
        | none => rfl
        | last _ _ _ isKnown => simp [thread_eq, isKnown] at isNone
      split
      · exact kept.leave isInside runs_eq rfl loops_eq thread_eq
          (by simp [goOn]) (fun _ => isStopping) initialized status_ne
          (fun _ _ _ => isFinished) (by simp [goOn])
      · exact kept.leave isInside runs_eq rfl loops_eq thread_eq
          (by simp) (fun _ => isStopping) initialized status_ne
          (by simp) (by simp)

theorem Kept.runBlock (kept : Kept state active count run)
    (isClean : Clean state .caller) :
    ∃ active run, Kept (state.runBlock block) active count run := by
  have notHolding := kept.exclusive block isInside
  have isLead := kept.leadStatus_eq notHolding
  have isRuns := kept.runs_eq_replicate notHolding
  cases block with
  | start =>
    obtain ⟨notPaused, completedEnded⟩ := isClean isInside
    rw [isLead] at notPaused completedEnded
    simp only [runBlock, isLead, notPaused, if_false]
    split_ifs with isRunning
    · exact ⟨active, run, kept.returned isInside⟩
    · have isFinished : active = .finished := by
        cases isStatus : run.status with
        | initialized => exact kept.initialized isStatus
        | completed => exact kept.loops.finished_of_all (completedEnded (by rw [isStatus]))
        | running => exact absurd (by rw [isStatus]) isRunning
        | paused => exact absurd (by rw [isStatus]) notPaused
        | error => exact absurd isStatus kept.status_ne
      subst isFinished
      exact ⟨.top, _, kept.spawn isInside⟩
  | pause =>
    simp only [runBlock, isLead]
    split_ifs
    · exact ⟨active, _, kept.transition_returned isInside (fun _ => rfl) (by simp)⟩
    · exact ⟨active, run, kept.returned isInside⟩
  | resume =>
    simp only [runBlock, isLead]
    split_ifs with notPaused
    · exact ⟨active, run, kept.returned isInside⟩
    · have paused : run.status = .paused := by simpa using notPaused
      exact ⟨active, run, kept.joinThread isInside state rfl rfl isRuns
        (kept.paused paused) kept.initialized kept.status_ne
        (by simp [Block.isSecond])⟩
  | resumeAgain =>
    obtain rfl := kept.second .resumeAgain rfl (Or.inr isInside)
    simp only [runBlock]
    split_ifs
    · exact ⟨.top, _, kept.spawn isInside⟩
    · exact ⟨.finished, run, kept.returned isInside⟩
  | stop =>
    rw [runBlock]
    refine ⟨active, { run with status := .completed }, kept.joinThread isInside
        ({ state with stopEvent := true }.transitionAll .completed)
        rfl rfl ?_ rfl ?_ ?_ ?_⟩ <;>
      simp [transitionAll, isRuns]
  | reset =>
    exact ⟨active, run, kept.joinThread isInside
      { state with stopEvent := true } rfl rfl isRuns rfl kept.initialized
      kept.status_ne (by simp [Block.isSecond])⟩
  | resetAgain =>
    obtain rfl := kept.second .resetAgain rfl (Or.inr isInside)
    exact ⟨.finished, run.reset, kept.leave isInside (by simp [runBlock, isRuns]) rfl rfl rfl
      (by simp [runBlock])
      (by simp [Run.reset]) (fun _ => rfl) (by simp [Run.reset])
      (fun _ _ _ => rfl) (by simp [runBlock])⟩

end

/-! ## The loop threads -/

theorem Kept.advance (kept : Kept state active count run) (unfinished : active ≠ .finished)
    (loops : Loops after phase) (caller_eq : after.caller = state.caller)
    (stopEvent_eq : after.stopEvent = state.stopEvent) (thread_eq : after.thread = state.thread)
    (runs_eq : after.runs = runsOf count stepped phase)
    (within : ∀ next, phase = .stepping next → next ≤ count ∧ stepped.status = .running)
    (lock_eq : after.lock = lockOf state.caller phase state.thread)
    (exclusive : ∀ block, state.caller = .inside block → phase.holds = false)
    (status : stepped.status = run.status ∨ stepped.status = .completed)
    (phase_ne : phase ≠ .enteringError ∧ phase ≠ .insideError) :
    Kept after phase count stepped where
  loops := loops
  count_pos := kept.count_pos
  runs_eq := runs_eq
  within := within
  lock_eq := by rw [lock_eq, caller_eq, thread_eq]
  exclusive := by
    rw [caller_eq]
    exact exclusive
  paused := by
    intro isPaused
    rw [stopEvent_eq]
    obtain same | isCompleted := status
    · exact kept.paused (same ▸ isPaused)
    · simp [isCompleted] at isPaused
  initialized := by
    intro isInitialized
    obtain same | isCompleted := status
    · exact absurd (kept.initialized (same ▸ isInitialized)) unfinished
    · simp [isCompleted] at isInitialized
  status_ne := by
    obtain same | isCompleted := status
    · exact same ▸ kept.status_ne
    · simp [isCompleted]
  active_ne := phase_ne
  second := by
    intro block isSecond isThere
    rw [caller_eq] at isThere
    exact absurd (kept.second block isSecond isThere) unfinished
  joining := by
    rw [caller_eq, thread_eq, stopEvent_eq]
    exact kept.joining

/-- Where a loop thread takes the lock, no call is in a block. -/
theorem Kept.not_inside_of_free (kept : Kept state active count run) (isFree : state.lock = none)
    (block : Block) : state.caller ≠ .inside block := by
  intro isInside
  have isLock := kept.lock_eq
  rw [isFree, isInside] at isLock
  simp [lockOf] at isLock

theorem lockOf_of_not_inside {caller : CallerPhase} {thread : Option Nat}
    (notInside : ∀ block, caller ≠ .inside block) :
    lockOf caller active thread = if active.holds then thread.map .loop else none := by
  cases caller with
  | inside block => exact absurd rfl (notInside block)
  | _ => rfl

section

variable (kept : Kept state active count run)

include kept

/-- A phase that holds the lock is one in which no call is in a block. -/
theorem Kept.not_inside_of_holds
    (isHolding : active.holds = true) (block : Block) : state.caller ≠ .inside block := by
  intro isInside
  have notHolding := kept.exclusive block isInside
  simp [isHolding] at notHolding

theorem Kept.acquire {thread : Nat}
    (isKnown : state.thread = some thread)
    (isLast : state.loops = List.replicate thread .finished ++ [active])
    (unfinished : active ≠ .finished) (notHolding : active.holds = false)
    (isHolding : phase.holds = true) (notStepping : ∀ next, phase ≠ .stepping next)
    (notError : phase ≠ .insideError) (isStep : state.acquire thread phase = some after) :
    Kept after phase count run := by
  unfold State.acquire at isStep
  split_ifs at isStep with isFree
  cases isStep
  have notInside := kept.not_inside_of_free isFree
  refine kept.advance unfinished ((Loops.setLoop isKnown isLast phase).congr rfl rfl)
    rfl rfl rfl ?_ (fun next isNext => absurd isNext (notStepping next)) ?_
    (fun block isInside => absurd isInside (notInside block)) (Or.inl rfl)
    ⟨?_, notError⟩
  · have isRuns := kept.runs_eq_replicate notHolding
    cases phase <;> simp_all [runsOf, setLoop]
  · rw [lockOf_of_not_inside notInside, if_pos isHolding, isKnown]
    rfl
  · rintro rfl
    simp [holds] at isHolding

/-- A loop thread gives the lock back. -/
theorem Kept.release {thread : Nat}
    (isKnown : state.thread = some thread)
    (isLast : state.loops = List.replicate thread .finished ++ [active])
    (isHolding : active.holds = true) (notHolding : phase.holds = false)
    (notError : phase ≠ .enteringError) (runs_eq : state.runs = List.replicate count stepped)
    (status : stepped.status = run.status ∨ stepped.status = .completed) :
    Kept (state.release thread phase) phase count stepped := by
  have notInside := kept.not_inside_of_holds isHolding
  refine kept.advance ?_ ((Loops.setLoop isKnown isLast phase).congr rfl rfl)
    rfl rfl rfl (runs_eq.trans (runsOf_eq_replicate notHolding).symm) ?_ ?_
    (fun _ _ => notHolding) status ⟨notError, ?_⟩
  · rintro rfl
    simp [holds] at isHolding
  · rintro next rfl
    simp [holds] at notHolding
  · rw [lockOf_of_not_inside notInside, if_neg (by simp [notHolding])]
    rfl
  · rintro rfl
    simp [holds] at notHolding

theorem Kept.move {thread : Nat}
    (isKnown : state.thread = some thread)
    (isLast : state.loops = List.replicate thread .finished ++ [active])
    (unfinished : active ≠ .finished) (notHolding : active.holds = false)
    (phaseNotHolding : phase.holds = false) (notError : phase ≠ .enteringError) :
    Kept (state.setLoop thread phase) phase count run := by
  refine kept.advance unfinished (Loops.setLoop isKnown isLast phase) rfl rfl rfl
    ((kept.runs_eq_replicate notHolding).trans (runsOf_eq_replicate phaseNotHolding).symm) ?_ ?_
    (fun _ _ => phaseNotHolding) (Or.inl rfl) ⟨notError, ?_⟩
  · rintro next rfl
    simp [holds] at phaseNotHolding
  · have isLock : (state.setLoop thread phase).lock = state.lock := rfl
    rw [isLock, kept.lock_eq]
    unfold lockOf
    rw [notHolding, phaseNotHolding]
  · rintro rfl
    simp [holds] at phaseNotHolding

end

/-- One run of a tick that has reached it. -/
theorem set_runsOf_stepping {next : Nat} (isMore : next < count) :
    (runsOf count run (.stepping next)).set next (run.step false).1 =
      runsOf count run (.stepping (next + 1)) := by
  obtain ⟨left, isLeft⟩ : ∃ left, count - next = left + 1 := ⟨count - next - 1, by omega⟩
  have isRest : count - (next + 1) = left := by omega
  have whole : List.replicate (next + 1) (run.step false).1 =
      List.replicate next (run.step false).1 ++ [(run.step false).1] :=
    List.replicate_succ'
  rw [runsOf, runsOf, isLeft, isRest, whole, List.replicate_succ]
  simp

theorem step_status (isRunning : run.status = .running) :
    (run.step false).2 = false ∧ ((run.step false).1.status = run.status ∨
        (run.step false).1.status = .completed) := by
  simp only [Run.step, isRunning]
  split_ifs <;> simp_all

theorem Kept.stepping {next : Nat} (kept : Kept state (.stepping next) count run) {thread : Nat}
    (isKnown : state.thread = some thread)
    (isLast : state.loops = List.replicate thread .finished ++ [.stepping next])
    (isStep : state.stepFrom thread false (.stepping next) = some after) :
    ∃ active run, Kept after active count run := by
  obtain ⟨isWithin, isRunning⟩ := kept.within next rfl
  obtain ⟨notFailed, status⟩ := step_status isRunning
  have isRuns := kept.runs_eq
  obtain isMore | rfl := isWithin.lt_or_eq
  · have isRun : state.runs[next]? = some run := by
      rw [isRuns, runsOf, List.getElem?_append_right (by simp)]
      simp [List.getElem?_replicate_of_lt (Nat.sub_pos_of_lt isMore)]
    rw [stepFrom, isRun] at isStep
    simp only [notFailed, Bool.false_eq_true, if_false, Option.some.injEq] at isStep
    subst isStep
    refine ⟨.stepping (next + 1), run, kept.advance (by simp)
      ((Loops.setLoop isKnown isLast _).congr rfl rfl) rfl rfl rfl ?_ ?_ ?_ ?_
      (Or.inl rfl) (by simp)⟩
    · rw [← set_runsOf_stepping isMore, ← isRuns]
      rfl
    · rintro other isOther
      obtain rfl : next + 1 = other := by simpa using isOther
      exact ⟨isMore, isRunning⟩
    · have isLock : state.lock = lockOf state.caller (.stepping next) state.thread := kept.lock_eq
      exact isLock
    · intro block isInside
      exact absurd isInside (kept.not_inside_of_holds rfl block)
  · have isDone : state.runs = List.replicate next (run.step false).1 := by
      simpa [runsOf] using isRuns
    have isNone : state.runs[next]? = none := by simp [isDone]
    rw [stepFrom, isNone] at isStep
    cases isStep
    exact ⟨.enteringCheck, (run.step false).1,
      kept.release isKnown isLast rfl rfl (by simp) isDone status⟩

section

variable (kept : Kept state active count run)

include kept

theorem Kept.stepLoop {thread : Nat}
    (isStep : state.stepLoop thread false = some after) :
    ∃ active run, Kept after active count run := by
  obtain ⟨phase, isPhase, isStep⟩ := Option.bind_eq_some_iff.mp isStep
  have unfinished : phase ≠ .finished := by
    rintro rfl
    simp [stepFrom] at isStep
  obtain ⟨rfl, isKnown, isLast⟩ := kept.loops.active_of_getElem? isPhase unfinished
  cases phase with
  | top =>
    cases isStep
    refine ⟨_, run, kept.move isKnown isLast unfinished rfl ?_ ?_⟩ <;>
      split_ifs <;> simp [holds]
  | enteringTick | enteringCheck =>
    exact ⟨_, run, kept.acquire isKnown isLast unfinished rfl rfl (by simp) (by simp) isStep⟩
  | insideTick =>
    have isRuns : state.runs = List.replicate count run := kept.runs_eq
    rw [stepFrom] at isStep
    split_ifs at isStep with someOther
    · cases isStep
      exact ⟨_, run, kept.release isKnown isLast rfl rfl (by simp) isRuns (Or.inl rfl)⟩
    · cases isStep
      have isRunning : run.status = .running := by
        by_contra notRunning
        refine someOther ⟨run, ?_, notRunning⟩
        rw [isRuns]
        exact List.mem_replicate.mpr ⟨kept.count_pos.ne', rfl⟩
      refine ⟨.stepping 0, run, kept.advance unfinished
        (Loops.setLoop isKnown isLast _) rfl rfl rfl ?_ ?_ kept.lock_eq ?_
        (Or.inl rfl) (by simp)⟩
      · simpa [runsOf, setLoop] using isRuns
      · rintro next isNext
        obtain rfl : 0 = next := by simpa using isNext
        exact ⟨Nat.zero_le count, isRunning⟩
      · intro block isInside
        exact absurd isInside (kept.not_inside_of_holds rfl block)
  | stepping => exact kept.stepping isKnown isLast isStep
  | enteringError => exact absurd rfl kept.active_ne.1
  | insideError => exact absurd rfl kept.active_ne.2
  | insideCheck =>
    have isRuns : state.runs = List.replicate count run := kept.runs_eq
    rw [stepFrom] at isStep
    split_ifs at isStep <;>
      · cases isStep
        exact ⟨_, run, kept.release isKnown isLast rfl rfl (by simp) isRuns (Or.inl rfl)⟩
  | sleeping =>
    cases isStep
    exact ⟨_, run, kept.move isKnown isLast unfinished rfl rfl (by simp)⟩
  | finished => exact absurd rfl unfinished

/-! ## Safety -/

theorem Kept.stepCaller (isClean : Clean state .caller)
    (isStep : state.stepCaller = some after) : ∃ active run, Kept after active count run := by
  unfold State.stepCaller at isStep
  split at isStep
  · exact absurd isStep (by simp)
  · next block isEntering =>
      split_ifs at isStep with isFree
      cases isStep
      have notHolding : active.holds = false := by
        have isLock := kept.lock_eq
        rw [isFree, isEntering] at isLock
        by_contra isHolding
        have unfinished : active ≠ .finished := by
          rintro rfl
          exact isHolding rfl
        cases kept.loops with
        | none => exact unfinished rfl
        | last _ _ _ isKnown => simp [lockOf, isHolding, isKnown] at isLock
      exact ⟨active, run, { kept with
          loops := kept.loops.congr rfl rfl
          lock_eq := rfl
          exclusive := fun _ _ => notHolding
          second := by
            rintro other isSecond (isThere | isThere)
            · simp at isThere
            · simp only [CallerPhase.inside.injEq] at isThere
              exact kept.second other isSecond (Or.inl (isThere ▸ isEntering))
          joining := by simp }⟩
  · next block isInside =>
      cases isStep
      exact kept.runBlock isInside isClean
  · next thread next isJoining =>
      split_ifs at isStep with isFinished
      obtain ⟨isKnown, _, areSecond⟩ := kept.joining thread next isJoining
      have activeFinished : active = .finished := by
        cases kept.loops with
        | none => rfl
        | last earlier _ isLast isLastKnown =>
          obtain rfl : earlier = thread := Option.some.inj (isLastKnown.symm.trans isKnown)
          rw [isLast] at isFinished
          simpa using isFinished
      have isLock : state.lock = none := by
        rw [kept.lock_eq, isJoining, activeFinished]
        rfl
      cases next with
      | none =>
        cases isStep
        exact ⟨active, run, { kept with
            loops := kept.loops.congr rfl rfl
            lock_eq := by simp [isLock, activeFinished, lockOf, holds]
            exclusive := by simp
            second := by simp
            joining := by simp }⟩
      | some =>
        cases isStep
        exact ⟨active, run, { kept with
            loops := kept.loops.congr rfl rfl
            lock_eq := by simp [isLock, activeFinished, lockOf, holds]
            exclusive := by simp
            second := fun _ _ _ => activeFinished
            joining := by simp }⟩

theorem Kept.step {event : Event}
    (isClean : Clean state event) (isStep : state.step event = some after) :
    ∃ active run, Kept after active count run := by
  cases event with
  | call call =>
    rw [State.step] at isStep
    split_ifs at isStep with isIdle
    cases isStep
    exact ⟨active, run, { kept with
        loops := kept.loops.congr rfl rfl
        lock_eq := by
          have isLock := kept.lock_eq
          rw [isIdle] at isLock
          exact isLock
        exclusive := by simp
        second := by
          rintro block isSecond (isThere | isThere)
          · simp only [CallerPhase.entering.injEq] at isThere
            subst isThere
            cases call <;> simp [Call.block, Block.isSecond] at isSecond
          · simp at isThere
        joining := by simp }⟩
  | caller => exact kept.stepCaller isClean isStep
  | loop _ raises =>
    obtain rfl : raises = false := isClean
    exact kept.stepLoop isStep

end

theorem Initial.kept (isInitial : Initial state) : ∃ count run, Kept state .finished count run := by
  obtain ⟨lead, others, isRuns⟩ := List.exists_cons_of_ne_nil isInitial.runs_ne_nil
  have isLead : lead ∈ state.runs := by simp [isRuns]
  have isFresh := isInitial.fresh lead isLead
  refine ⟨state.runs.length, lead, ?_⟩
  exact
    { loops := .none isInitial.loops isInitial.thread
      count_pos := List.length_pos_iff.mpr isInitial.runs_ne_nil
      runs_eq := by
        refine List.eq_replicate_iff.mpr ⟨rfl, fun run isRun => ?_⟩
        obtain ⟨_, _⟩ := isInitial.alike run isRun lead isLead
        obtain ⟨_, _⟩ := isInitial.fresh run isRun
        cases run
        cases lead
        simp_all
      within := by simp
      lock_eq := by
        rw [isInitial.lock, isInitial.caller]
        rfl
      exclusive := fun _ _ => rfl
      paused := by simp [isFresh.2]
      initialized := fun _ => rfl
      status_ne := by simp [isFresh.2]
      active_ne := by simp
      second := by simp [isInitial.caller]
      joining := by simp [isInitial.caller] }

theorem CleanReachable.kept (isReachable : CleanReachable state) :
    ∃ active count run, Kept state active count run := by
  induction isReachable with
  | initial _ isInitial => exact ⟨.finished, isInitial.kept⟩
  | step _ _ _ _ isClean isStep ih =>
    obtain ⟨_, count, _, kept⟩ := ih
    obtain ⟨nextActive, nextRun, keptAfter⟩ := kept.step isClean isStep
    exact ⟨nextActive, count, nextRun, keptAfter⟩

theorem Kept.inside_of_lock (kept : Kept state active count run)
    (isCaller : state.lock = some .caller) : ∃ block, state.caller = .inside block := by
  have isLock := kept.lock_eq
  rw [isCaller] at isLock
  cases isPhase : state.caller with
  | inside block => exact ⟨block, rfl⟩
  | _ =>
    rw [isPhase] at isLock
    simp only [lockOf] at isLock
    split_ifs at isLock
    cases isThread : state.thread <;> simp [isThread] at isLock

theorem Kept.safe (kept : Kept state active count run) : Safe state where
  not_waiting := by
    intro isCaller block isEntering
    obtain ⟨other, isInside⟩ := kept.inside_of_lock isCaller
    simp [isInside] at isEntering
  not_joining := by
    intro isCaller thread next isJoining
    obtain ⟨other, isInside⟩ := kept.inside_of_lock isCaller
    simp [isInside] at isJoining
  one_loop := by
    intro first second firstPhase secondPhase isFirst isSecond firstActive secondActive
    obtain ⟨_, firstKnown, _⟩ := kept.loops.active_of_getElem? isFirst firstActive
    obtain ⟨_, secondKnown, _⟩ := kept.loops.active_of_getElem? isSecond secondActive
    exact Option.some.inj (firstKnown.symm.trans secondKnown)
  alike := by
    intro isFree first isFirst second isSecond
    have notHolding : active.holds = false := by
      by_contra isHolding
      have isLock := kept.lock_eq
      rw [isFree, lockOf_of_not_inside (kept.not_inside_of_free isFree),
        if_pos (by simpa using isHolding)] at isLock
      cases kept.loops with
      | none => exact isHolding rfl
      | last _ _ _ isKnown => simp [isKnown] at isLock
    rw [kept.runs_eq_replicate notHolding] at isFirst isSecond
    rw [List.eq_of_mem_replicate isFirst, List.eq_of_mem_replicate isSecond]
    exact ⟨rfl, rfl⟩

end Kept

end UrbanFlow.LockstepOrchestrator
