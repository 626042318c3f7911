import UrbanFlow.Snapshot.LockstepRuns

/-!
# Every call returns

A call goes through at most two blocks with a join in between. Under a fair
schedule it reaches each: the thread that holds the lock gives it back after at
most one tick, and the thread that is joined ends, because the stop event is set.
-/

namespace UrbanFlow.LockstepOrchestrator

open Fairness State

/-- The steps a loop thread has left when the stop event is set. -/
def LoopPhase.work (count : Nat) : LoopPhase → Nat
  | .finished => 0
  | .top => 1
  | .sleeping => 2
  | .insideError => 1
  | .enteringError => 2
  | .insideCheck => 3
  | .enteringCheck => 4
  | .stepping next => 5 + (count - next)
  | .insideTick => 6 + count
  | .enteringTick => 7 + count

/-- The steps the last loop thread has left. -/
def State.work (state : State) : Nat :=
  (state.loops.getLast?.map (LoopPhase.work state.runs.length)).getD 0

/-- The steps a call has left, at most. -/
def CallerPhase.work : CallerPhase → Nat
  | .idle => 0
  | .entering block => if block.isSecond then 2 else 5
  | .inside block => if block.isSecond then 1 else 4
  | .joining _ _ => 3

attribute [local simp] CallerPhase.work

section Work

variable {state after : State} {active phase : LoopPhase} {count : Nat} {run : Run}

theorem Kept.length_runs (kept : Kept state active count run) : state.runs.length = count := by
  rw [kept.runs_eq]
  cases active with
  | stepping next =>
    have isWithin := (kept.within next rfl).1
    simp only [runsOf, List.length_append, List.length_replicate]
    omega
  | _ => simp [runsOf]

theorem Kept.work_eq (kept : Kept state active count run) : state.work = active.work count := by
  rw [State.work, kept.length_runs]
  cases kept.loops with
  | none isEmpty => simp [isEmpty, LoopPhase.work]
  | last _ _ isLast => simp [isLast]

theorem stepLoop_frame {thread : Nat} {raises : Bool}
    (isStep : state.stepLoop thread raises = some after) :
    after.caller = state.caller ∧ after.thread = state.thread ∧ after.stopEvent = state.stopEvent ∧
      after.runs.length = state.runs.length := by
  obtain ⟨phase, _, isStep⟩ := Option.bind_eq_some_iff.mp isStep
  cases phase with
  | stepping =>
    rw [stepFrom] at isStep
    split at isStep
    · cases isStep
      exact ⟨rfl, rfl, rfl, rfl⟩
    · split_ifs at isStep <;>
        · cases isStep
          exact ⟨rfl, rfl, rfl, by simp [State.release, setLoop]⟩
  | enteringTick | enteringError | enteringCheck =>
    simp only [stepFrom, acquire] at isStep
    split_ifs at isStep
    cases isStep
    exact ⟨rfl, rfl, rfl, rfl⟩
  | insideTick | insideCheck =>
    rw [stepFrom] at isStep
    split_ifs at isStep <;>
      · cases isStep
        exact ⟨rfl, rfl, rfl, rfl⟩
  | insideError =>
    cases isStep
    exact ⟨rfl, rfl, rfl, by simp [State.release, setLoop, transitionAll]⟩
  | top | sleeping =>
    cases isStep
    exact ⟨rfl, rfl, rfl, rfl⟩
  | finished => simp [stepFrom] at isStep

section

variable (kept : Kept state active count run) {thread : Nat}

include kept

theorem Kept.stepFrom_loops (isStep : state.stepFrom thread false active = some after)
    (notAgain : active = .top → state.stopEvent = true) :
    ∃ phase, after.loops = state.loops.set thread phase ∧ phase.work count < active.work count := by
  cases active with
  | stepping next =>
    obtain ⟨isWithin, isRunning⟩ := kept.within next rfl
    have notFailed := (step_status isRunning).1
    have isRuns := kept.runs_eq
    rw [State.stepFrom] at isStep
    split at isStep
    · cases isStep
      exact ⟨.enteringCheck, rfl, by simp only [LoopPhase.work]; omega⟩
    · next other isOther =>
        have isMore : next < count := by
          rw [← kept.length_runs]
          exact (List.getElem?_eq_some_iff.mp isOther).1
        have isRun : other = run := by
          rw [isRuns, runsOf, List.getElem?_append_right (by simp)] at isOther
          simpa [List.getElem?_replicate_of_lt (Nat.sub_pos_of_lt isMore)] using isOther.symm
        subst isRun
        simp only [notFailed, Bool.false_eq_true, if_false, Option.some.injEq] at isStep
        subst isStep
        exact ⟨.stepping (next + 1), rfl, by simp only [LoopPhase.work]; omega⟩
  | enteringTick =>
    simp only [State.stepFrom, State.acquire] at isStep
    split_ifs at isStep
    cases isStep
    exact ⟨.insideTick, rfl, by simp only [LoopPhase.work]; omega⟩
  | enteringError => exact absurd rfl kept.active_ne.1
  | enteringCheck =>
    simp only [State.stepFrom, State.acquire] at isStep
    split_ifs at isStep
    cases isStep
    exact ⟨.insideCheck, rfl, by simp [LoopPhase.work]⟩
  | insideTick =>
    rw [State.stepFrom] at isStep
    split_ifs at isStep <;> obtain rfl := Option.some.inj isStep
    · exact ⟨.finished, rfl, by simp only [LoopPhase.work]; omega⟩
    · exact ⟨.stepping 0, rfl, by simp only [LoopPhase.work]; omega⟩
  | insideCheck =>
    rw [State.stepFrom] at isStep
    split_ifs at isStep <;> obtain rfl := Option.some.inj isStep
    · exact ⟨.finished, rfl, by simp [LoopPhase.work]⟩
    · exact ⟨.sleeping, rfl, by simp [LoopPhase.work]⟩
  | insideError => exact absurd rfl kept.active_ne.2
  | top =>
    rw [State.stepFrom, notAgain rfl] at isStep
    cases isStep
    exact ⟨.finished, rfl, by simp [LoopPhase.work]⟩
  | sleeping =>
    cases isStep
    exact ⟨.top, rfl, by simp [LoopPhase.work]⟩
  | finished => simp [State.stepFrom] at isStep

/-- A step of a loop thread lowers what is left to do, unless it starts another
tick. -/
theorem Kept.work_lt (isStep : state.stepLoop thread false = some after)
    (notAgain : active = .top → state.stopEvent = true) : after.work < state.work := by
  obtain ⟨phase, isPhase, isStepFrom⟩ := Option.bind_eq_some_iff.mp isStep
  have unfinished : phase ≠ .finished := by
    rintro rfl
    simp [stepFrom] at isStepFrom
  obtain ⟨rfl, _, isLast⟩ := kept.loops.active_of_getElem? isPhase unfinished
  obtain ⟨next, loops_eq, isLess⟩ := kept.stepFrom_loops isStepFrom notAgain
  have isWork : after.work = next.work count := by
    rw [State.work, loops_eq, isLast, (stepLoop_frame isStep).2.2.2, kept.length_runs]
    simp
  rwa [isWork, kept.work_eq]

end

@[simp] theorem returned_caller (state : State) : state.returned.caller = .idle := rfl

theorem joinThread_callerWork_le (state : State) {next : Option Block}
    (areSecond : ∀ block ∈ next, block.isSecond = true) :
    (state.joinThread next).caller.work ≤ 3 := by
  unfold joinThread
  split
  · exact le_rfl
  · split
    · simp [goOn, areSecond _ rfl]
    · simp

/-- A clean step of a call lowers what it has left to do. -/
theorem Kept.callerWork_lt (kept : Kept state active count run) (isClean : Clean state .caller)
    (isStep : state.stepCaller = some after) : after.caller.work < state.caller.work := by
  unfold State.stepCaller at isStep
  split at isStep
  · exact absurd isStep (by simp)
  · next block isEntering =>
      split_ifs at isStep
      cases isStep
      rw [isEntering]
      simp only [CallerPhase.work]
      split_ifs <;> decide
  · next block isInside =>
      cases isStep
      rw [isInside]
      cases block with
      | start =>
        obtain ⟨notPaused, _⟩ := isClean isInside
        simp only [State.runBlock, notPaused, if_false]
        split_ifs <;> simp [Block.isSecond]
      | pause | resumeAgain =>
        simp only [State.runBlock]
        split_ifs <;> simp [Block.isSecond]
      | resume =>
        simp only [State.runBlock]
        split_ifs
        · simp [Block.isSecond]
        · exact Nat.lt_succ_of_le (joinThread_callerWork_le state (by simp [Block.isSecond]))
      | stop => exact Nat.lt_succ_of_le (joinThread_callerWork_le _ (by simp))
      | reset => exact Nat.lt_succ_of_le (joinThread_callerWork_le _ (by simp [Block.isSecond]))
      | resetAgain => simp [State.runBlock, Block.isSecond]
  · next thread next isJoining =>
      split_ifs at isStep
      obtain ⟨_, _, areSecond⟩ := kept.joining thread next isJoining
      rw [isJoining]
      cases next with
      | none =>
        cases isStep
        simp
      | some block =>
        cases isStep
        simp [areSecond block rfl]

end Work

/-- A schedule from a new group in which every event is clean. An event without a
step leaves the state as it is, so a run may come to rest. -/
structure CleanRun (states : Nat → State) (events : Nat → Event) : Prop where
  initial : Initial (states 0)
  next : ∀ time, states (time + 1) = ((states time).step (events time)).getD (states time)
  clean : ∀ time, Clean (states time) (events time)

structure FairRun (states : Nat → State) (events : Nat → Event) : Prop
    extends CleanRun states events where
  caller_fair : StronglyFair (fun time => ((states time).step .caller).isSome)
    (fun time => events time = .caller ∧ ((states time).step .caller).isSome)
  loop_fair : ∀ thread, StronglyFair (fun time => ((states time).step (.loop thread false)).isSome)
    (fun time => events time = .loop thread false ∧
      ((states time).step (.loop thread false)).isSome)

section FairRun

variable {states : Nat → State} {events : Nat → Event}

theorem CleanRun.reachable (clean : CleanRun states events) (time : Nat) :
    CleanReachable (states time) := by
  induction time with
  | zero => exact .initial _ clean.initial
  | succ time ih =>
    rw [clean.next]
    cases isStep : (states time).step (events time) with
    | none => exact ih
    | some => exact .step _ _ _ ih (clean.clean time) isStep

section

variable (fair : FairRun states events)

include fair

theorem FairRun.next_of_some {time : Nat} {after : State}
    (isStep : (states time).step (events time) = some after) : states (time + 1) = after := by
  rw [fair.next, isStep, Option.getD_some]

/-- During a call every event leaves it where it is or lowers what it has left. -/
theorem FairRun.caller_cases {time : Nat} (notIdle : (states time).caller ≠ .idle) :
    (states (time + 1)).caller.work < (states time).caller.work ∨
      ((events time = .caller → ((states time).step .caller).isSome = false) ∧
        (states (time + 1)).caller = (states time).caller ∧
        (states (time + 1)).thread = (states time).thread ∧
        (states (time + 1)).stopEvent = (states time).stopEvent) := by
  obtain ⟨_, _, _, kept⟩ := (fair.reachable time).kept
  have isClean := fair.clean time
  cases isStep : (states time).step (events time) with
  | none =>
    rw [fair.next, isStep, Option.getD_none]
    refine Or.inr ⟨fun isCaller => ?_, rfl, rfl, rfl⟩
    rw [← isCaller, isStep]
    rfl
  | some =>
    rw [fair.next_of_some isStep]
    cases isEvent : events time with
    | call =>
      rw [isEvent, State.step, if_neg notIdle] at isStep
      exact absurd isStep (by simp)
    | caller =>
      rw [isEvent] at isStep isClean
      exact Or.inl (kept.callerWork_lt isClean isStep)
    | loop =>
      rw [isEvent] at isStep
      obtain ⟨caller_eq, thread_eq, stopEvent_eq, _⟩ := stepLoop_frame isStep
      exact Or.inr ⟨by simp, caller_eq, thread_eq, stopEvent_eq⟩

theorem FairRun.same_of_waiting {start : Nat}
    (notIdle : ∀ time, start ≤ time → (states time).caller ≠ .idle)
    (isWaiting : ∀ time, start ≤ time → ¬ (states (time + 1)).caller.work < (states time).caller.work)
    {time : Nat} (isLater : start ≤ time) : (states time).caller = (states start).caller ∧
      (states time).thread = (states start).thread ∧
      (states time).stopEvent = (states start).stopEvent := by
  induction time, isLater using Nat.le_induction with
  | base => exact ⟨rfl, rfl, rfl⟩
  | succ time isLater ih =>
    obtain isLower | ⟨_, caller_eq, thread_eq, stopEvent_eq⟩ :=
      fair.caller_cases (notIdle time isLater)
    · exact absurd isLower (isWaiting time isLater)
    · exact ⟨caller_eq.trans ih.1, thread_eq.trans ih.2.1, stopEvent_eq.trans ih.2.2⟩

theorem FairRun.loop_reaches (thread : Nat) (reached : State → Prop) {start : Nat}
    (notIdle : ∀ time, start ≤ time → (states time).caller ≠ .idle)
    (isWaiting : ∀ time, start ≤ time → ¬ (states (time + 1)).caller.work < (states time).caller.work)
    (isEnabled : ∀ time, start ≤ time → ¬ reached (states time) → ((states time).step (.loop thread false)).isSome)
    (notAgain : ∀ time active count run, start ≤ time → ¬ reached (states time) → Kept (states time) active count run → active = .top → (states time).stopEvent = true) :
    ∃ time, start ≤ time ∧ reached (states time) := by
  have moves : ∀ time, start ≤ time → ¬ reached (states time) →
      states (time + 1) = states time ∨ (states (time + 1)).work < (states time).work := by
    intro time isLater notReached
    obtain ⟨active, count, run, kept⟩ := (fair.reachable time).kept
    have isClean := fair.clean time
    cases isStep : (states time).step (events time) with
    | none => exact Or.inl (by rw [fair.next, isStep, Option.getD_none])
    | some =>
      rw [fair.next_of_some isStep]
      cases isEvent : events time with
      | call =>
        rw [isEvent, State.step, if_neg (notIdle time isLater)] at isStep
        exact absurd isStep (by simp)
      | caller =>
        rw [isEvent] at isStep isClean
        refine absurd (kept.callerWork_lt isClean isStep) ?_
        have notLower := isWaiting time isLater
        rwa [fair.next_of_some (isEvent ▸ isStep)] at notLower
      | loop _ raises =>
        rw [isEvent] at isStep isClean
        obtain rfl : raises = false := isClean
        exact Or.inr (kept.work_lt isStep (notAgain time active count run isLater notReached kept))
  refine @reached_of_rank (fun time => (states time).work) (fun time => reached (states time)) start
    (fun time isLater notReached => ?_) (fun time isLater notReached => ?_)
  · obtain same | isLess := moves time isLater notReached
    · exact le_of_eq (congrArg State.work same)
    · exact isLess.le
  · by_contra never
    push Not at never
    have acts := fair.loop_fair thread (recurs_of_forall fun later isLater' =>
      isEnabled later (isLater.trans isLater') (never later isLater').1)
    obtain ⟨later, isLater', isEvent, isSome⟩ := acts time
    obtain ⟨after, isStep⟩ := Option.isSome_iff_exists.mp isSome
    obtain ⟨active, count, run, kept⟩ := (fair.reachable later).kept
    have isLess := kept.work_lt isStep (notAgain later active count run (isLater.trans isLater')
        (never later isLater').1 kept)
    have isNext : states (later + 1) = after := fair.next_of_some (by rw [isEvent, isStep])
    rw [← isNext] at isLess
    exact absurd isLess (not_lt.mpr (never later isLater').2)

end

theorem Kept.loop_enabled {state : State} {active : LoopPhase} {count : Nat} {run : Run}
    (kept : Kept state active count run) {thread : Nat} (isKnown : state.thread = some thread)
    (unfinished : active ≠ .finished) (notInside : ∀ block, state.caller ≠ .inside block) :
    (state.step (.loop thread false)).isSome := by
  have isPhase : state.loops[thread]? = some active := by
    cases kept.loops with
    | none => exact absurd rfl unfinished
    | last earlier _ isLast isLastKnown =>
      obtain rfl : earlier = thread := Option.some.inj (isLastKnown.symm.trans isKnown)
      simp [isLast]
  have isLock := kept.lock_eq
  rw [lockOf_of_not_inside notInside] at isLock
  rw [State.step, State.stepLoop, isPhase, Option.bind_some]
  cases active with
  | stepping =>
    rw [stepFrom]
    split
    · rfl
    · split_ifs <;> rfl
  | enteringTick | enteringError | enteringCheck =>
    simp [State.stepFrom, State.acquire, isLock, LoopPhase.holds]
  | insideTick =>
    rw [stepFrom]
    split_ifs <;> rfl
  | insideCheck =>
    rw [stepFrom]
    split_ifs <;> rfl
  | finished => exact absurd rfl unfinished
  | _ => rfl

section

variable (fair : FairRun states events)

include fair

/-- A call that waits for the lock finds it free again and again. -/
theorem FairRun.lock_recurs {start : Nat} {block : Block}
    (isEntering : ∀ time, start ≤ time → (states time).caller = .entering block)
    (isWaiting : ∀ time, start ≤ time → ¬ (states (time + 1)).caller.work < (states time).caller.work) :
    ∃ time, start ≤ time ∧ (states time).lock = none := by
  by_contra never
  push Not at never
  have notIdle : ∀ time, start ≤ time → (states time).caller ≠ .idle := by
    intro time isLater
    simp [isEntering time isLater]
  have notInside : ∀ time, start ≤ time → ∀ block, (states time).caller ≠ .inside block := by
    intro time isLater block
    simp [isEntering time isLater]
  have isHolding : ∀ time active count run, start ≤ time →
      Kept (states time) active count run → active.holds = true := by
    intro time active count run isLater kept
    have isLock := kept.lock_eq
    rw [lockOf_of_not_inside (notInside time isLater)] at isLock
    by_contra notHolding
    exact never time isLater (isLock.trans (if_neg notHolding))
  have unfinished : ∀ {active : LoopPhase}, active.holds = true → active ≠ .finished := by
    rintro _ holds rfl
    simp [LoopPhase.holds] at holds
  obtain ⟨active, count, run, kept⟩ := (fair.reachable start).kept
  obtain ⟨thread, isKnown⟩ : ∃ thread, (states start).thread = some thread := by
    cases kept.loops with
    | none => exact absurd rfl (unfinished (isHolding _ _ _ _ le_rfl kept))
    | last earlier _ _ isKnown => exact ⟨earlier, isKnown⟩
  have freed : ∃ time, start ≤ time ∧ (states time).lock = none := by
    refine fair.loop_reaches thread (fun state => state.lock = none) notIdle isWaiting ?_ ?_
    · intro time isLater _
      obtain ⟨active, count, run, kept⟩ := (fair.reachable time).kept
      refine kept.loop_enabled ?_ (unfinished (isHolding _ _ _ _ isLater kept))
        (notInside time isLater)
      rw [(fair.same_of_waiting notIdle isWaiting isLater).2.1, isKnown]
    · rintro time _ count run isLater _ kept rfl
      exact absurd (isHolding _ _ _ _ isLater kept) (by simp [LoopPhase.holds])
  obtain ⟨time, isLater, isFree⟩ := freed
  exact never time isLater isFree

theorem FairRun.join_reached {start thread : Nat} {following : Option Block}
    (isJoining : ∀ time, start ≤ time → (states time).caller = .joining thread following)
    (isWaiting : ∀ time, start ≤ time → ¬ (states (time + 1)).caller.work < (states time).caller.work) :
    ∃ time, start ≤ time ∧ (states time).loops[thread]? = some LoopPhase.finished := by
  have notIdle : ∀ time, start ≤ time → (states time).caller ≠ .idle := by
    intro time isLater
    simp [isJoining time isLater]
  refine fair.loop_reaches thread
    (fun state => state.loops[thread]? = some LoopPhase.finished) notIdle isWaiting ?_ ?_
  · intro time isLater notFinished
    obtain ⟨active, count, run, kept⟩ := (fair.reachable time).kept
    obtain ⟨isKnown, _, _⟩ := kept.joining _ _ (isJoining time isLater)
    refine kept.loop_enabled isKnown ?_ (by simp [isJoining time isLater])
    rintro rfl
    refine notFinished ?_
    cases kept.loops with
    | none _ isNone => simp [isNone] at isKnown
    | last earlier _ isLast isLastKnown =>
      obtain rfl : earlier = thread := Option.some.inj (isLastKnown.symm.trans isKnown)
      simp [isLast]
  · rintro time _ count run isLater _ kept rfl
    exact (kept.joining _ _ (isJoining time isLater)).2.1

/-- Under a fair clean schedule every call returns. -/
theorem FairRun.returns (start : Nat) : ∃ time, start ≤ time ∧ (states time).caller = .idle := by
  refine @reached_of_rank (fun time => (states time).caller.work)
    (fun time => (states time).caller = .idle) start
    (fun time _ notIdle => ?_) (fun time _ _ => ?_)
  · obtain isLess | ⟨_, same, _, _⟩ := fair.caller_cases notIdle
    · exact isLess.le
    · exact le_of_eq (congrArg CallerPhase.work same)
  · by_contra never
    push Not at never
    have notIdle : ∀ later, time ≤ later → (states later).caller ≠ .idle :=
      fun later isLater => (never later isLater).1
    have isWaiting : ∀ later, time ≤ later →
        ¬ (states (later + 1)).caller.work < (states later).caller.work :=
      fun later isLater => not_lt.mpr (never later isLater).2
    have same : ∀ {later}, time ≤ later → (states later).caller = (states time).caller :=
      fun isLater => (fair.same_of_waiting notIdle isWaiting isLater).1
    have recurs : Recurs fun later =>
        ((states later).step .caller).isSome = true := by
      cases isPhase : (states time).caller with
      | idle => exact absurd isPhase (notIdle time le_rfl)
      | inside =>
        refine @recurs_of_forall _ time fun later isLater => ?_
        simp [State.step, stepCaller, same isLater, isPhase]
      | entering =>
        intro first
        have after : time ≤ max first time := le_max_right first time
        have free : ∃ later, max first time ≤ later ∧ (states later).lock = none :=
          fair.lock_recurs (fun later isLater => (same (after.trans isLater)).trans isPhase)
            (fun later isLater => isWaiting later (after.trans isLater))
        obtain ⟨later, isLater, isFree⟩ := free
        refine ⟨later, (le_max_left first time).trans isLater, ?_⟩
        simp [State.step, stepCaller, same (after.trans isLater), isPhase, isFree]
      | joining thread following =>
        intro first
        have after : time ≤ max first time := le_max_right first time
        have ended : ∃ later, max first time ≤ later ∧
            (states later).loops[thread]? = some LoopPhase.finished :=
          fair.join_reached (fun later isLater => (same (after.trans isLater)).trans isPhase)
            (fun later isLater => isWaiting later (after.trans isLater))
        obtain ⟨later, isLater, isFinished⟩ := ended
        refine ⟨later, (le_max_left first time).trans isLater, ?_⟩
        cases following <;> simp [State.step, stepCaller, same (after.trans isLater), isPhase, isFinished]
    obtain ⟨later, isLater, isEvent, isSome⟩ := fair.caller_fair recurs time
    obtain isLess | ⟨notEnabled, _⟩ := fair.caller_cases (notIdle later isLater)
    · exact isWaiting later isLater isLess
    · simp [notEnabled isEvent] at isSome

end

end FairRun

/-- Two new runs that one tick completes. -/
def newPair : State where
  runs := List.replicate 2
    { timeStep := 1 / 10, duration := 1 / 10, ticks := 0, status := .initialized }
  lock := none
  stopEvent := false
  thread := none
  loops := []
  caller := .idle

theorem newPair_initial : Initial newPair := by constructor <;> simp [newPair]

/-- What a list of events leads to, if every one of them has a step. -/
def State.after (state : State) (events : List Event) : Option State :=
  events.foldlM State.step state

/-- A `stop` of the new group, and the caller taking its turns. -/
def stopEvents : Nat → Event
  | 0 => .call .stop
  | _ + 1 => .caller

/-- The states of that schedule. -/
def stopStates : Nat → State
  | 0 => newPair
  | time + 1 => ((stopStates time).step (stopEvents time)).getD (stopStates time)

theorem stopStates_late (time : Nat) : stopStates (time + 3) = stopStates 3 := by
  induction time with
  | zero => rfl
  | succ time ih =>
    have same : stopStates (time + 1 + 3) =
        ((stopStates (time + 3)).step .caller).getD (stopStates (time + 3)) :=
      rfl
    rw [same, ih]
    rfl

theorem stop_fairRun : FairRun stopStates stopEvents where
  initial := newPair_initial
  next := fun _ => rfl
  clean
    | 0 => trivial
    | 1 => by simp [Clean, stopEvents, stopStates, State.step, newPair]
    | 2 => by
      simp [Clean, stopEvents, stopStates, State.step, stepCaller, newPair, Call.block]
    | time + 3 => by
      intro isInside
      rw [stopStates_late] at isInside
      exact absurd isInside (by decide)
  caller_fair := by
    intro recurs
    obtain ⟨time, isLate, isEnabled⟩ := recurs 3
    obtain ⟨later, rfl⟩ := Nat.exists_eq_add_of_le' isLate
    rw [stopStates_late] at isEnabled
    exact absurd isEnabled (by decide)
  loop_fair := by
    intro thread recurs
    obtain ⟨time, isLate, isEnabled⟩ := recurs 3
    obtain ⟨later, rfl⟩ := Nat.exists_eq_add_of_le' isLate
    rw [stopStates_late] at isEnabled
    have noLoops : (stopStates 3).loops = [] := by decide
    simp [State.step, stepLoop, noLoops] at isEnabled

/-- A call that takes and leaves one block. -/
def Call.through (call : Call) : List Event := [.call call, .caller, .caller]

/-- The group is started, paused and started again. -/
def startPaused : List Event := Call.start.through ++ Call.pause.through ++ Call.start.through

/-- The only tick is made, and the group is started before the loop thread tests
for completion. -/
def startCompleted : List Event :=
  Call.start.through ++ List.replicate 6 (.loop 0 false) ++ Call.start.through

end UrbanFlow.LockstepOrchestrator
