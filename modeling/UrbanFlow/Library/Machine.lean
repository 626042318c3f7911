import Mathlib.Algebra.Order.Group.Nat
import Mathlib.Tactic.Common

/-!
# Machines and their schedules

Machines driven by a stream of inputs, fair schedules of several actors, and parties of
one machine that do not interfere.
-/

/-!
## Machines driven by an input stream

A machine is a step function consuming one input per tick. Its state after `n`
ticks is `stateAt`. The rules below are the ones proofs about whole runs use:
an invariant is kept when it holds at the start and every step keeps it, two
machines fed the same inputs stay related when one joint step keeps the
relation, and a property that every step keeps under a guard lasts for as long
as the guard holds.
-/

namespace Machine

variable {State Input Other : Type*}

/-- The state after `n` ticks, tick `k` consuming input `k`. -/
def stateAt (step : State → Input → State) (start : State) (inputs : Nat → Input) : Nat → State
  | 0 => start
  | n + 1 => step (stateAt step start inputs n) (inputs n)

section

variable (step : State → Input → State) (start : State) (inputs : Nat → Input)

@[simp] theorem stateAt_zero : stateAt step start inputs 0 = start := rfl

theorem stateAt_succ (n : Nat) :
    stateAt step start inputs (n + 1) = step (stateAt step start inputs n) (inputs n) := rfl

end

section

variable {step : State → Input → State} {start : State} {inputs : Nat → Input}

theorem invariant (kept : State → Prop) (initially : kept start)
    (preserved : ∀ state input, kept state → kept (step state input)) (n : Nat) :
    kept (stateAt step start inputs n) := by
  induction n with
  | zero => exact initially
  | succ _ ih => exact preserved _ _ ih

/-- The invariant rule for a tick-indexed property and restricted inputs. -/
theorem invariant_at (kept : Nat → State → Prop) (initially : kept 0 start)
    (preserved : ∀ n, kept n (stateAt step start inputs n) → kept (n + 1) (step (stateAt step start inputs n) (inputs n)))
    (n : Nat) : kept n (stateAt step start inputs n) := by
  induction n with
  | zero => exact initially
  | succ n ih => exact preserved n ih

end

end Machine

/-!
## Fair schedules

An actor is treated strongly fairly when it acts again and again as long as it
could act again and again. Progress under such a schedule is shown with a rank
that nothing raises and that some later step lowers.
-/

namespace Fairness

/-- A property of times that holds again and again. -/
def Recurs (property : Nat → Prop) : Prop := ∀ start, ∃ time, start ≤ time ∧ property time

/-- An actor that could act again and again does act again and again. -/
def StronglyFair (enabled acts : Nat → Prop) : Prop := Recurs enabled → Recurs acts

theorem recurs_of_forall {property : Nat → Prop} {start : Nat}
    (holds : ∀ time, start ≤ time → property time) : Recurs property := by
  intro time
  exact ⟨max start time, le_max_right start time, holds _ (le_max_left start time)⟩

theorem reached_of_rank {rank : Nat → Nat} {reached : Nat → Prop} {start : Nat}
    (notRaised : ∀ time, start ≤ time → ¬ reached time → rank (time + 1) ≤ rank time)
    (lowered : ∀ time, start ≤ time → ¬ reached time → ∃ later, time ≤ later ∧
        (reached later ∨ rank (later + 1) < rank later)) : ∃ time, start ≤ time ∧ reached time := by
  by_contra never
  push Not at never
  have descends : ∀ {first last}, start ≤ first → first ≤ last → rank last ≤ rank first := by
    intro first last isLater isOrdered
    induction last, isOrdered using Nat.le_induction with
    | base => exact le_rfl
    | succ last isOrdered ih =>
      exact (notRaised last (isLater.trans isOrdered)
        (never last (isLater.trans isOrdered))).trans ih
  have endless : ∀ value time, start ≤ time → rank time = value → False := by
    intro value
    induction value using Nat.strong_induction_on with
    | h _ ih =>
      intro time isLater isValue
      obtain ⟨later, isOrdered, isReached | isLower⟩ := lowered time isLater (never time isLater)
      · exact never later (isLater.trans isOrdered) isReached
      · refine ih (rank (later + 1)) ?_ (later + 1) (by omega) rfl
        exact isValue ▸ isLower.trans_le (descends isLater isOrdered)
  exact endless (rank start) start le_rfl rfl

end Fairness

/-!
## Parties that do not interfere

A machine answers calls of several parties. One party's view unwinds the machine
when the calls of the others keep it, and when the party's own calls and answers
depend on it alone. What that party observes is then the same under any two call
sequences with the same calls of its own.
-/

namespace Isolation

variable {State Call Answer View : Type*}
variable {step : State → Call → State} {answer : State → Call → Answer}
variable {mine : Call → Prop} [DecidablePred mine] {view : State → View}
variable {state other : State} {calls otherCalls : List Call}

/-- The answers to one party's calls, in order. -/
def observed (step : State → Call → State) (answer : State → Call → Answer) (mine : Call → Prop)
    [DecidablePred mine] : State → List Call → List Answer
  | _, [] => []
  | state, call :: calls =>
    if mine call then answer state call :: observed step answer mine (step state call) calls
    else observed step answer mine (step state call) calls

/-- A party's view unwinds the machine. -/
structure Unwinds (step : State → Call → State) (answer : State → Call → Answer)
    (mine : Call → Prop) (view : State → View) : Prop where
  others : ∀ state call, ¬ mine call → view (step state call) = view state
  steps : ∀ state other call, mine call → view state = view other →
    view (step state call) = view (step other call)
  answers : ∀ state other call, mine call → view state = view other →
    answer state call = answer other call

namespace Unwinds

theorem observed_filter (unwinds : Unwinds step answer mine view) (same : view state = view other) :
    observed step answer mine state calls =
      observed step answer mine other (calls.filter mine) := by
  induction calls generalizing state other with
  | nil => simp [observed]
  | cons call _ ih =>
    by_cases isMine : mine call
    · rw [List.filter_cons_of_pos (by simpa using isMine)]
      simp only [observed, isMine, if_true]
      rw [unwinds.answers state other call isMine same,
        ih (unwinds.steps state other call isMine same)]
    · rw [List.filter_cons_of_neg (by simpa using isMine)]
      simp only [observed, isMine, if_false]
      apply ih
      rw [unwinds.others state call isMine, same]

theorem observed_eq (unwinds : Unwinds step answer mine view) (state : State)
    (same : calls.filter mine = otherCalls.filter mine) : observed step answer mine state calls =
      observed step answer mine state otherCalls := by
  calc
    observed step answer mine state calls = observed step answer mine state (calls.filter mine) :=
        unwinds.observed_filter rfl
    _ = observed step answer mine state (otherCalls.filter mine) := by rw [same]
    _ = observed step answer mine state otherCalls := (unwinds.observed_filter rfl).symm

end Unwinds
end Isolation
