import Mathlib.Tactic.Common

/-!
# Computations that change a state and may raise

An effect takes a state to a state and returns a value or raises. `Ensures` says
what holds after it, for each way it can end, where something holds before. Its
rules follow the ways effects are put together.
-/

/-- A computation that changes a state and returns a value or raises. -/
def Effect (State Value : Type) : Type := State → Except String Value × State

namespace Effect

variable {State Value Other : Type}

/-- Returning a value. -/
def give (value : Value) : Effect State Value := fun state => (.ok value, state)

/-- One effect after another; an exception of the first ends both. -/
def andThen (first : Effect State Value) (next : Value → Effect State Other) : Effect State Other :=
  fun state =>
    match first state with
    | (.ok value, later) => next value later
    | (.error exc, later) => (.error exc, later)

instance : Monad (Effect State) where
  pure := give
  bind := andThen

/-- Raising an exception. -/
def raise (exc : String) : Effect State Value := fun state => (.error exc, state)

def read : Effect State State := fun state => (.ok state, state)

def modify (change : State → State) : Effect State Unit := fun state => (.ok (), change state)

section

variable {first : Effect State Value} {next : Value → Effect State Other}

theorem bind_run {value : Value} {state later : State}
    (returns : first state = (.ok value, later)) : (first >>= next) state = next value later := by
  change andThen first next state = _
  unfold andThen
  rw [returns]

theorem bind_run_error {exc : String} {state later : State}
    (raises : first state = (.error exc, later)) :
    (first >>= next) state = (.error exc, later) := by
  change andThen first next state = _
  unfold andThen
  rw [raises]

end

theorem read_bind_run (next : State → Effect State Other) (state : State) :
    (read >>= next) state = next state state := rfl

theorem modify_bind_run (change : State → State) (next : Unit → Effect State Other)
    (state : State) : (modify change >>= next) state = next () (change state) := rfl

/-- What holds after an effect, where it returns and where it raises, when
`before` holds before it. -/
def Ensures (before : State → Prop) (effect : Effect State Value) (after : Value → State → Prop)
    (raised : State → Prop) : Prop :=
  ∀ state, before state → match effect state with
    | (.ok value, later) => after value later
    | (.error _, later) => raised later

namespace Ensures

variable {before middle : State → Prop} {raised : State → Prop}
variable {after : Other → State → Prop} {between : Value → State → Prop}
variable {first : Effect State Value} {next : Value → Effect State Other}

theorem give {value : Other} (holds : ∀ state, before state → after value state) :
    Ensures before (pure value) after raised :=
  fun state isBefore => holds state isBefore

/-- The rule for one effect after another. -/
theorem bind (ofFirst : Ensures before first between raised)
    (ofNext : ∀ value, Ensures (between value) (next value) after raised) :
    Ensures before (first >>= next) after raised := by
  intro state isBefore
  have isBetween := ofFirst state isBefore
  change match andThen first next state with
    | (.ok value, later) => after value later
    | (.error _, later) => raised later
  unfold andThen
  cases ended : first state with
  | mk result later =>
    rw [ended] at isBetween
    cases result with
    | ok value => exact ofNext value later isBetween
    | error => exact isBetween

theorem raise {exc : String} (holds : ∀ state, before state → raised state) :
    Ensures before (raise exc) after raised :=
  fun state isBefore => holds state isBefore

theorem read {next : State → Effect State Other}
    (ofNext : ∀ seen, before seen → Ensures before (next seen) after raised) :
    Ensures before (Effect.read >>= next) after raised :=
  fun state isBefore => ofNext state isBefore state isBefore

theorem modify {change : State → State} {after : Unit → State → Prop}
    (holds : ∀ state, before state → after () (change state)) :
    Ensures before (Effect.modify change) after raised :=
  fun state isBefore => holds state isBefore

/-- More may be known before, and less be claimed after. -/
theorem mono {effect : Effect State Other} {stronger : State → Prop}
    {weaker : Other → State → Prop} {weakerRaised : State → Prop}
    (ensures : Ensures before effect after raised)
    (isBefore : ∀ state, stronger state → before state)
    (isAfter : ∀ value state, after value state → weaker value state)
    (isRaised : ∀ state, raised state → weakerRaised state) :
    Ensures stronger effect weaker weakerRaised := by
  intro state isStronger
  have holds := ensures state (isBefore state isStronger)
  cases ended : effect state with
  | mk result later =>
    rw [ended] at holds
    cases result with
    | ok value => exact isAfter value later holds
    | error => exact isRaised later holds

theorem of_stronger {effect : Effect State Other} {stronger : State → Prop}
    (ensures : Ensures before effect after raised)
    (isBefore : ∀ state, stronger state → before state) : Ensures stronger effect after raised :=
  fun state isStronger => ensures state (isBefore state isStronger)

/-- It is enough to argue from each state on its own. -/
theorem of_each {effect : Effect State Other} (ensures : ∀ start, before start →
      Ensures (fun state => state = start) effect after raised) :
    Ensures before effect after raised :=
  fun state isBefore => ensures state isBefore state rfl

/-! Rules for a state that is known. -/

section Known

variable {start : State}

theorem returned {value : Other} (holds : after value start) :
    Ensures (fun state => state = start) (pure value) after raised := by
  rintro state rfl
  exact holds

theorem reading {next : State → Effect State Other}
    (ofNext : Ensures (fun state => state = start) (next start) after raised) :
    Ensures (fun state => state = start) (Effect.read >>= next) after raised := by
  rintro state rfl
  exact ofNext state rfl

theorem changing {change : State → State} {next : Effect State Other}
    (ofNext : Ensures (fun state => state = change start) next after raised) :
    Ensures (fun state => state = start) (Effect.modify change >>= fun _ => next) after raised := by
  rintro state rfl
  exact ofNext (change state) rfl

end Known

end Ensures

def Returns (effect : Effect State Value) (known : Value → Prop) : Prop :=
  ∀ state, ∃ value later, effect state = (.ok value, later) ∧ known value

namespace Returns

variable {known : Other → Prop} {between : Value → Prop}

theorem give {value : Other} (holds : known value) :
    Returns (pure value : Effect State Other) known :=
  fun state => ⟨value, state, rfl, holds⟩

theorem later {effect : Effect State Unit} {kept : Unit → Prop} (returns : Returns effect kept)
    (state : State) : ∃ later, effect state = (.ok (), later) := by
  obtain ⟨_, later, ended, -⟩ := returns state
  exact ⟨later, ended⟩

theorem bind {first : Effect State Value} {next : Value → Effect State Other}
    (ofFirst : Returns first between)
    (ofNext : ∀ value, between value → Returns (next value) known) :
    Returns (first >>= next) known := by
  intro state
  obtain ⟨value, later, returns, holds⟩ := ofFirst state
  rw [bind_run returns]
  exact ofNext value holds later

theorem read {next : State → Effect State Other} (ofNext : ∀ seen, Returns (next seen) known) :
    Returns (Effect.read >>= next) known :=
  fun state => ofNext state state

theorem modify {change : State → State} {next : Unit → Effect State Other}
    (ofNext : Returns (next ()) known) : Returns (Effect.modify change >>= next) known :=
  fun state => ofNext (change state)

end Returns
end Effect
