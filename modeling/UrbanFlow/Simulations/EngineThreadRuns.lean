import UrbanFlow.Simulations.EngineThreads

/-!
# Runs of the threads of an engine

As long as no other call comes between the two blocks of a `resume` or a `reset`, a loop
thread is created only when every earlier one has ended, so that one loop at most goes on
stepping the engine. Otherwise a sleeping loop is revived by the event that is cleared
for the new one.
-/

namespace UrbanFlow.EngineThreads

open SimulationStatus

variable {engine next : EngineThreads} {action : EngineAction}

/-- An action that creates no thread: a loop that has ended stays so. -/
structure Keeps (engine next : EngineThreads) : Prop where
  thread : next.thread = engine.thread
  created : next.created = engine.created
  ended : ∀ loop, engine.loops loop = none → next.loops loop = none

structure Launches (engine next : EngineThreads) : Prop where
  thread : next.thread = some engine.created
  created : next.created = engine.created + 1
  loops : next.loops = Function.update engine.loops engine.created (some .top)
  status : next.status = .running

theorem Keeps.refl : Keeps engine engine where
  thread := rfl
  created := rfl
  ended := fun _ isEnded => isEnded

theorem Keeps.put {loop : Nat} {position : LoopPosition}
    (isAt : engine.loops loop = some position) (target : Option LoopPosition) :
    Keeps engine (engine.put loop target) where
  thread := rfl
  created := rfl
  ended := by
    intro other isEnded
    have different : other ≠ loop := by
      rintro rfl
      rw [isAt] at isEnded
      cases isEnded
    simpa [EngineThreads.put, different] using isEnded

theorem Launches.launch : Launches engine engine.launch where
  thread := rfl
  created := rfl
  loops := rfl
  status := rfl

theorem Keeps.iterated {loop : Nat} (isAt : engine.loops loop = some .entering)
    (outcome : StepOutcome) : Keeps engine (engine.iterated loop outcome) := by
  unfold EngineThreads.iterated
  split
  · exact Keeps.put isAt none
  · cases outcome with
    | advanced | raised => exact Keeps.put isAt _
    | completed =>
      have kept := Keeps.put isAt (some .ticked)
      exact ⟨kept.thread, kept.created, kept.ended⟩

/-- The second block of a `resume`, taken apart. -/
theorem act_resumeAgain {caller : Nat} (isStep : engine.act (.resumeAgain caller) = some next) :
    (engine.status = .paused ∧ next = engine.launch.leave caller none) ∨
      (engine.status ≠ .paused ∧ next = engine.leave caller none) := by
  simp only [act] at isStep
  split at isStep
  · split at isStep
    · cases isStep
      by_cases isPaused : engine.status = .paused
      · exact Or.inl ⟨isPaused, by rw [if_pos isPaused]⟩
      · exact Or.inr ⟨isPaused, by rw [if_neg isPaused]⟩
    · cases isStep
  · cases isStep

/-- The second block of a `reset`, taken apart. -/
theorem act_resetAgain {caller : Nat} (isStep : engine.act (.resetAgain caller) = some next) :
    next = { engine with status := .initialized }.leave caller none := by
  simp only [act] at isStep
  split at isStep
  · split at isStep
    · exact (Option.some.inj isStep).symm
    · cases isStep
  · cases isStep

/-- An action of a loop: the loop is at the position that the action asks for. -/
theorem of_ite_some {asked : Prop} [Decidable asked] {state : EngineThreads}
    (isStep : (if asked then some state else none) = some next) : asked ∧ next = state := by
  by_cases isAsked : asked
  · rw [if_pos isAsked] at isStep
    exact ⟨isAsked, (Option.some.inj isStep).symm⟩
  · rw [if_neg isAsked] at isStep
    cases isStep

/-- A thread is created by `start` on an initialized engine and by the second block of a
`resume` on a paused one, and by nothing else. -/
theorem act_loops (isStep : engine.act action = some next) :
    Keeps engine next ∨ (Launches engine next ∧ ((action = .start ∧ engine.status = .initialized) ∨
          ∃ caller, action = .resumeAgain caller ∧ engine.status = .paused)) := by
  cases action with
  | start =>
    cases isStep
    by_cases isInitialized : engine.status = .initialized
    · rw [if_neg (not_not_intro isInitialized)]
      exact Or.inr ⟨.launch, Or.inl ⟨rfl, isInitialized⟩⟩
    · rw [if_pos isInitialized]
      exact Or.inl .refl
  | pause | stop =>
    cases isStep
    left
    split
    · exact ⟨rfl, rfl, fun _ isEnded => isEnded⟩
    · exact .refl
  | resume =>
    obtain ⟨_, rfl⟩ := of_ite_some isStep
    left
    split
    · exact .refl
    · exact ⟨rfl, rfl, fun _ isEnded => isEnded⟩
  | resumeAgain caller =>
    obtain ⟨isPaused, rfl⟩ | ⟨_, rfl⟩ := act_resumeAgain isStep
    · exact Or.inr ⟨⟨rfl, rfl, rfl, rfl⟩, Or.inr ⟨caller, rfl, isPaused⟩⟩
    · exact Or.inl ⟨rfl, rfl, fun _ isEnded => isEnded⟩
  | reset =>
    obtain ⟨_, rfl⟩ := of_ite_some isStep
    exact Or.inl ⟨rfl, rfl, fun _ isEnded => isEnded⟩
  | resetAgain =>
    obtain rfl := act_resetAgain isStep
    exact Or.inl ⟨rfl, rfl, fun _ isEnded => isEnded⟩
  | testEvent loop | testCompleted loop | wake loop | die loop =>
    obtain ⟨isAt, rfl⟩ := of_ite_some isStep
    exact Or.inl (.put isAt _)
  | iterate _ outcome =>
    obtain ⟨isAt, rfl⟩ := of_ite_some isStep
    exact Or.inl (.iterated isAt outcome)
  | report =>
    obtain ⟨isAt, rfl⟩ := of_ite_some isStep
    have kept := Keeps.put isAt none
    exact Or.inl ⟨kept.thread, kept.created, kept.ended⟩

theorem status_iterated (engine : EngineThreads) (loop : Nat) (outcome : StepOutcome) :
    (engine.iterated loop outcome).status = engine.status ∨ (engine.status = .running ∧
        (engine.iterated loop outcome).status = .completed) := by
  unfold EngineThreads.iterated
  split
  · exact Or.inl rfl
  · rename_i isRunning
    cases outcome with
    | advanced | raised => exact Or.inl rfl
    | completed => exact Or.inr ⟨not_not.mp isRunning, rfl⟩

/-- The status moves as it should, unless an exception is reported late. -/
theorem act_status (undisturbed : engine.Undisturbed action)
    (isStep : engine.act action = some next) :
    next.status = engine.status ∨ StatusMove action engine.status next.status := by
  cases action with
  | start =>
    cases isStep
    by_cases isInitialized : engine.status = .initialized
    · rw [if_neg (not_not_intro isInitialized), isInitialized]
      exact Or.inr trivial
    · rw [if_pos isInitialized]
      exact Or.inl rfl
  | pause =>
    cases isStep
    split
    · rename_i isRunning
      rw [isRunning]
      exact Or.inr trivial
    · exact Or.inl rfl
  | stop =>
    cases isStep
    split
    · rename_i isOpen
      right
      rcases isOpen with isRunning | isPaused
      · rw [isRunning]
        trivial
      · rw [isPaused]
        trivial
    · exact Or.inl rfl
  | resume =>
    obtain ⟨_, rfl⟩ := of_ite_some isStep
    left
    split <;> rfl
  | resumeAgain =>
    obtain ⟨isPaused, rfl⟩ | ⟨_, rfl⟩ := act_resumeAgain isStep
    · right
      rw [isPaused]
      trivial
    · exact Or.inl rfl
  | reset caller | testEvent loop | testCompleted loop | wake loop | die loop =>
    obtain ⟨_, rfl⟩ := of_ite_some isStep
    exact Or.inl rfl
  | resetAgain caller =>
    obtain rfl := act_resetAgain isStep
    right
    cases engine.status <;> exact ⟨caller, rfl⟩
  | iterate loop outcome =>
    obtain ⟨_, rfl⟩ := of_ite_some isStep
    obtain isSame | ⟨isRunning, isCompleted⟩ := status_iterated engine loop outcome
    · exact Or.inl isSame
    · right
      rw [isRunning, isCompleted]
      trivial
  | report =>
    obtain ⟨_, rfl⟩ := of_ite_some isStep
    right
    rw [show engine.status = .running from undisturbed]
    trivial

/-- Neither running nor paused, which only `start` changes: the state a reset leaves. -/
def Quiet (engine : EngineThreads) : Prop := engine.status ≠ .running ∧ engine.status ≠ .paused

/-- Only `start` leads from an engine at rest to a running one. -/
theorem Quiet.act (quiet : engine.Quiet) (isStep : engine.act action = some next)
    (notStart : action ≠ .start) : next.Quiet := by
  obtain ⟨notRunning, notPaused⟩ := quiet
  cases action with
  | start => exact absurd rfl notStart
  | pause =>
    cases isStep
    rw [if_neg notRunning]
    exact ⟨notRunning, notPaused⟩
  | stop =>
    cases isStep
    rw [if_neg (not_or.mpr ⟨notRunning, notPaused⟩)]
    exact ⟨notRunning, notPaused⟩
  | resume =>
    obtain ⟨_, rfl⟩ := of_ite_some isStep
    rw [if_pos notPaused]
    exact ⟨notRunning, notPaused⟩
  | resumeAgain =>
    obtain ⟨isPaused, _⟩ | ⟨_, rfl⟩ := act_resumeAgain isStep
    · exact absurd isPaused notPaused
    · exact ⟨notRunning, notPaused⟩
  | reset caller | testEvent loop | testCompleted loop | wake loop | die loop =>
    obtain ⟨_, rfl⟩ := of_ite_some isStep
    exact ⟨notRunning, notPaused⟩
  | resetAgain =>
    obtain rfl := act_resetAgain isStep
    exact ⟨noConfusion, noConfusion⟩
  | iterate loop outcome =>
    obtain ⟨_, rfl⟩ := of_ite_some isStep
    obtain isSame | ⟨isRunning, _⟩ := status_iterated engine loop outcome
    · exact ⟨isSame ▸ notRunning, isSame ▸ notPaused⟩
    · exact absurd isRunning notRunning
  | report =>
    obtain ⟨_, rfl⟩ := of_ite_some isStep
    exact ⟨noConfusion, noConfusion⟩

section

variable (isStep : engine.act action = some next) {loop : Nat}

include isStep

theorem ended_act (isCreated : loop < engine.created) (isEnded : engine.loops loop = none) :
    next.loops loop = none ∧ loop < next.created := by
  obtain kept | ⟨launched, _⟩ := act_loops isStep
  · exact ⟨kept.ended loop isEnded, kept.created ▸ isCreated⟩
  · rw [launched.loops, launched.created]
    exact ⟨by simpa [isCreated.ne] using isEnded, by omega⟩

theorem of_mem_ticker (isTicker : loop ∈ engine.ticker action) :
    engine.loops loop = some .entering ∧ engine.status = .running := by
  cases action with
  | iterate =>
    obtain ⟨isAt, _⟩ := of_ite_some isStep
    simp only [ticker, List.mem_ite_nil_right, List.mem_singleton] at isTicker
    exact ⟨isTicker.2 ▸ isAt, isTicker.1⟩
  | _ => cases isTicker

end

theorem mem_ticks_cons {rest : List EngineAction} {loop : Nat}
    (isTick : loop ∈ engine.ticks (action :: rest)) : ∃ next, engine.act action = some next ∧
      (loop ∈ engine.ticker action ∨ loop ∈ next.ticks rest) := by
  simp only [ticks] at isTick
  cases isStep : engine.act action with
  | none =>
    rw [isStep] at isTick
    cases isTick
  | some next =>
    rw [isStep] at isTick
    exact ⟨next, rfl, List.mem_append.mp isTick⟩

theorem not_mem_ticks_of_ended (actions : List EngineAction) {loop : Nat}
    (isCreated : loop < engine.created) (isEnded : engine.loops loop = none) :
    loop ∉ engine.ticks actions := by
  induction actions generalizing engine with
  | nil => exact List.not_mem_nil
  | cons _ _ ih =>
    intro isTick
    obtain ⟨next, isStep, isNow | isLater⟩ := mem_ticks_cons isTick
    · have isAt := (of_mem_ticker isStep isNow).1
      rw [isEnded] at isAt
      cases isAt
    · obtain ⟨staysEnded, staysCreated⟩ := ended_act isStep isCreated isEnded
      exact ih staysCreated staysEnded isLater

theorem Quiet.ticks_eq_nil (quiet : engine.Quiet) {actions : List EngineAction}
    (notStarted : .start ∉ actions) : engine.ticks actions = [] := by
  apply List.eq_nil_iff_forall_not_mem.mpr
  intro loop
  induction actions generalizing engine with
  | nil => exact List.not_mem_nil
  | cons _ _ ih =>
    rw [List.mem_cons, not_or] at notStarted
    intro isTick
    obtain ⟨next, isStep, isNow | isLater⟩ := mem_ticks_cons isTick
    · exact quiet.1 (of_mem_ticker isStep isNow).2
    · exact ih (quiet.act isStep (Ne.symm notStarted.1)) notStarted.2 isLater

structure Settled (engine : EngineThreads) : Prop where
  alone : ∀ loop, engine.loops loop ≠ none → engine.thread = some loop
  resting : engine.status = .initialized → ∀ loop, engine.loops loop = none

theorem settled_new : Settled {} where
  alone := fun _ goesOn => absurd rfl goesOn
  resting := fun _ _ => rfl

theorem Settled.all_ended (settled : engine.Settled) (loopEnded : engine.LoopEnded) (loop : Nat) :
    engine.loops loop = none := by
  by_contra goesOn
  exact goesOn (loopEnded loop (settled.alone loop goesOn))

section

variable (settled : engine.Settled) (undisturbed : engine.Undisturbed action)
  (isStep : engine.act action = some next)

include settled undisturbed isStep

theorem Settled.ended_of_initialized (isInitialized : next.status = .initialized) (loop : Nat) :
    engine.loops loop = none := by
  obtain isSame | isMove := act_status undisturbed isStep
  · exact settled.resting (isSame ▸ isInitialized) loop
  · rw [isInitialized] at isMove
    have isReset : ∃ caller, action = .resetAgain caller := by
      cases isStatus : engine.status <;> rw [isStatus] at isMove <;> exact isMove
    obtain ⟨caller, rfl⟩ := isReset
    exact settled.all_ended undisturbed loop

theorem Settled.act : next.Settled := by
  obtain kept | ⟨launched, whence⟩ := act_loops isStep
  · refine ⟨?_, ?_⟩
    · intro loop goesOn
      rw [kept.thread]
      exact settled.alone loop fun isEnded => goesOn (kept.ended loop isEnded)
    · intro isInitialized loop
      exact kept.ended loop (settled.ended_of_initialized undisturbed isStep isInitialized loop)
  · have allEnded : ∀ loop, engine.loops loop = none := by
      rcases whence with ⟨_, isInitialized⟩ | ⟨caller, rfl, isPaused⟩
      · exact settled.resting isInitialized
      · exact settled.all_ended (undisturbed isPaused)
    refine ⟨?_, ?_⟩
    · intro loop goesOn
      rw [launched.loops] at goesOn
      rw [launched.thread]
      by_contra different
      have isOther : loop ≠ engine.created := fun isSame => different (congrArg some isSame.symm)
      rw [Function.update_of_ne isOther] at goesOn
      exact goesOn (allEnded loop)
    · intro isInitialized
      rw [launched.status] at isInitialized
      cases isInitialized

end

theorem run_append (before after : List EngineAction) :
    engine.run (before ++ after) = (engine.run before).bind fun state => state.run after := by
  induction before generalizing engine with
  | nil => rfl
  | cons action _ ih =>
    simp only [List.cons_append, run]
    cases engine.act action with
    | none => rfl
    | some => exact ih

/-- The condition on an interleaving, one action after the other. -/
theorem undisturbedAlong_cons {rest : List EngineAction} :
    engine.UndisturbedAlong (action :: rest) ↔ engine.Undisturbed action ∧
        ∀ next ∈ engine.act action, next.UndisturbedAlong rest := by
  constructor
  · intro undisturbed
    refine ⟨undisturbed [] action rest engine rfl rfl, ?_⟩
    intro next isStep before later after state isSplit isRun
    apply undisturbed (action :: before) later after state
    · rw [List.cons_append, isSplit]
    · simpa [EngineThreads.run, Option.mem_def.mp isStep] using isRun
  · rintro ⟨first, others⟩ before later after state isSplit isRun
    cases before with
    | nil =>
      obtain ⟨rfl, _⟩ := List.cons.inj isSplit
      exact Option.some.inj isRun ▸ first
    | cons _ before =>
      obtain ⟨rfl, isRest⟩ := List.cons.inj isSplit
      obtain ⟨next, isStep, isLater⟩ := Option.bind_eq_some_iff.mp isRun
      exact others next isStep before later after state isRest isLater

instance decidableUndisturbedAlong : (engine : EngineThreads) → (actions : List EngineAction) →
      Decidable (engine.UndisturbedAlong actions)
  | _, [] => .isTrue fun before _ _ _ isSplit => absurd isSplit (by simp)
  | engine, action :: rest =>
    have : DecidablePred fun next : EngineThreads => next.UndisturbedAlong rest :=
      fun next => decidableUndisturbedAlong next rest
    decidable_of_iff (engine.Undisturbed action ∧
        ∀ next ∈ engine.act action, next.UndisturbedAlong rest)
      undisturbedAlong_cons.symm

theorem Settled.run (settled : engine.Settled) {before after : List EngineAction}
    (undisturbed : engine.UndisturbedAlong (before ++ after)) {state : EngineThreads}
    (isRun : engine.run before = some state) : state.Settled := by
  induction before generalizing engine with
  | nil => exact Option.some.inj isRun ▸ settled
  | cons _ _ ih =>
    obtain ⟨next, isStep, isRest⟩ := Option.bind_eq_some_iff.mp isRun
    obtain ⟨first, others⟩ := undisturbedAlong_cons.mp undisturbed
    exact ih (settled.act first isStep) (others next isStep) isRest

theorem Settled.stepper_unique (settled : engine.Settled) {actions : List EngineAction}
    {first second : Nat} (firstTicks : first ∈ engine.ticks actions)
    (secondTicks : second ∈ engine.ticks actions) (firstCreated : first < engine.created)
    (secondCreated : second < engine.created) : first = second := by
  have firstGoesOn : engine.loops first ≠ none := fun isEnded =>
    not_mem_ticks_of_ended actions firstCreated isEnded firstTicks
  have secondGoesOn : engine.loops second ≠ none := fun isEnded =>
    not_mem_ticks_of_ended actions secondCreated isEnded secondTicks
  have isFirst := settled.alone first firstGoesOn
  rw [settled.alone second secondGoesOn] at isFirst
  exact (Option.some.inj isFirst).symm

/-- After a reset no tick is taken before the next start, whatever comes between. -/
theorem quietAfterReset (engine : EngineThreads) (actions : List EngineAction) :
    engine.QuietAfterReset actions := by
  intro before caller between after state _ isRun notStarted
  rw [run_append] at isRun
  obtain ⟨previous, _, isReset⟩ := Option.bind_eq_some_iff.mp isRun
  obtain ⟨next, isStep, isNext⟩ := Option.bind_eq_some_iff.mp isReset
  cases isNext
  obtain rfl := act_resetAgain isStep
  have quiet : Quiet ({ previous with status := .initialized }.leave caller none) :=
    ⟨noConfusion, noConfusion⟩
  exact quiet.ticks_eq_nil notStarted

/--
In every interleaving in which no other call comes between the two blocks of a `resume`
or a `reset`, and none between an exception and its report, one loop at most of those that
exist at any time goes on stepping the engine, the status moves as it should, and a reset
engine takes no tick before the next start.
-/
theorem engine_threads_kept (actions : List EngineAction)
    (undisturbed : UndisturbedAlong {} actions) :
    StepsAlone {} actions ∧ MovesStatus {} actions ∧ QuietAfterReset {} actions := by
  refine ⟨?_, ?_, quietAfterReset {} actions⟩
  · intro before after state isSplit isRun first firstTicks second secondTicks
      firstCreated secondCreated
    subst isSplit
    have settled := settled_new.run undisturbed isRun
    exact settled.stepper_unique firstTicks secondTicks firstCreated secondCreated
  · intro before action after state next isSplit isRun isStep
    exact act_status (undisturbed before action after state isSplit isRun) isStep

/-- A run that is paused, resumed, reset and started again, with both loops joined. -/
def resumedAndReset : List EngineAction :=
  [.start, .testEvent 0, .iterate 0 .advanced, .pause, .resume 0, .testCompleted 0,
    .wake 0, .testEvent 0, .resumeAgain 0, .testEvent 1, .iterate 1 .advanced, .reset 1,
    .testCompleted 1, .wake 1, .testEvent 1, .resetAgain 1, .start]

theorem engine_threads_kept_resumed :
    StepsAlone {} resumedAndReset ∧ MovesStatus {} resumedAndReset ∧
      QuietAfterReset {} resumedAndReset :=
  engine_threads_kept resumedAndReset (by decide)

/--
Two calls of `resume` wait for one loop; the run is paused again between them, and the
second clears the event under the sleeping loop of the first: both loops tick. A `stop`
between an exception and its report lets a completed engine fail.
-/
theorem engine_threads_not_kept :
    (∃ actions final, run {} actions = some final ∧ ¬ StepsAlone {} actions) ∧
      ∃ actions final, run {} actions = some final ∧ ¬ MovesStatus {} actions := by
  constructor
  · let first : List EngineAction :=
      [.start, .pause, .resume 0, .resume 1, .testEvent 0, .resumeAgain 0, .testEvent 1,
        .iterate 1 .advanced, .testCompleted 1, .pause, .resumeAgain 1]
    let later : List EngineAction :=
      [.testEvent 2, .iterate 2 .advanced, .wake 1, .testEvent 1, .iterate 1 .advanced]
    obtain ⟨final, isRun⟩ : ∃ final, run {} (first ++ later) = some final :=
      Option.isSome_iff_exists.mp (by decide)
    refine ⟨first ++ later, final, isRun, ?_⟩
    intro alone
    obtain ⟨state, isState⟩ : ∃ state, run {} first = some state :=
      Option.isSome_iff_exists.mp (by decide)
    have ticked : ((run {} first).map fun state => (state.ticks later, state.created)) =
        some ([2, 1], 3) := by decide
    rw [isState, Option.map_some, Option.some.injEq, Prod.mk.injEq] at ticked
    have isSame := alone first later state rfl isState 2 (by simp [ticked.1]) 1
      (by simp [ticked.1]) (by simp [ticked.2]) (by simp [ticked.2])
    cases isSame
  · let first : List EngineAction := [.start, .testEvent 0, .iterate 0 .raised, .stop]
    obtain ⟨state, isState⟩ : ∃ state, run {} first = some state :=
      Option.isSome_iff_exists.mp (by decide)
    obtain ⟨final, isRun⟩ : ∃ final, run {} (first ++ [.report 0]) = some final :=
      Option.isSome_iff_exists.mp (by decide)
    refine ⟨first ++ [.report 0], final, isRun, ?_⟩
    intro moves
    have statuses : ((run {} first).map fun state => state.status) = some .completed := by decide
    rw [isState, Option.map_some, Option.some.injEq] at statuses
    rw [run_append, isState, Option.bind_some] at isRun
    obtain ⟨next, isStep, _⟩ := Option.bind_eq_some_iff.mp isRun
    have isMove := moves first (.report 0) [] state next rfl isState isStep
    obtain ⟨_, rfl⟩ := of_ite_some isStep
    rw [statuses] at isMove
    rcases isMove with isSame | isMove
    · cases isSame
    · exact isMove

end UrbanFlow.EngineThreads
