import UrbanFlow.Library.Effect

/-!
# Two computations side by side

`Couples` relates two effects: started in states that `before` relates, either
both return, in states and with values that `after` relates, or both raise, in
states that `raised` relates. Its rules follow the ways effects are put together,
the two sides being put together alike.
-/

namespace Effect

variable {State Other Value Result : Type}

/-- What `after` or `raised` says of two ends, of which neither or both raised. -/
def EndTogether (after : Value → Result → State → Other → Prop) (raised : State → Other → Prop) :
    Except String Value × State → Except String Result × Other → Prop
  | (.ok value, state), (.ok result, other) => after value result state other
  | (.error _, state), (.error _, other) => raised state other
  | _, _ => False

theorem EndTogether.bind {Value₁ Result₁ : Type} {between : Value₁ → Result₁ → State → Other → Prop}
    {after : Value → Result → State → Other → Prop} {raised : State → Other → Prop}
    {first : Effect State Value₁} {next : Value₁ → Effect State Value}
    {first' : Effect Other Result₁} {next' : Result₁ → Effect Other Result} {state : State}
    {other : Other} (together : EndTogether between raised (first state) (first' other))
    (ofNext : ∀ value result later later',
      first state = (.ok value, later) → first' other = (.ok result, later') →
      between value result later later' →
      EndTogether after raised (next value later) (next' result later')) :
    EndTogether after raised ((first >>= next) state) ((first' >>= next') other) := by
  change EndTogether after raised (andThen first next state) (andThen first' next' other)
  unfold andThen
  cases ended : first state with
  | mk value later =>
    cases ended' : first' other with
    | mk result later' =>
      rw [ended, ended'] at together
      cases value with
      | ok value =>
        cases result with
        | ok result => exact ofNext value result later later' ended ended' together
        | error => exact together.elim
      | error exc =>
        cases result with
        | ok => exact together.elim
        | error => exact together

/-- Two effects that end together from states that `before` relates. -/
def Couples (before : State → Other → Prop) (one : Effect State Value)
    (another : Effect Other Result) (after : Value → Result → State → Other → Prop)
    (raised : State → Other → Prop) : Prop :=
  ∀ state other, before state other → EndTogether after raised (one state) (another other)

namespace Couples

variable {Value₁ Result₁ : Type} {before : State → Other → Prop} {raised : State → Other → Prop}
variable {after : Value → Result → State → Other → Prop}
variable {one : Effect State Value} {another : Effect Other Result}

theorem give {value : Value} {result : Result}
    (holds : ∀ state other, before state other → after value result state other) :
    Couples before (pure value) (pure result) after raised :=
  fun state other isBefore => holds state other isBefore

theorem raise {exc exc' : String} (holds : ∀ state other, before state other → raised state other) :
    Couples before (raise exc) (Effect.raise exc') after raised :=
  fun state other isBefore => holds state other isBefore

theorem modify {change : State → State} {change' : Other → Other}
    {after : Unit → Unit → State → Other → Prop}
    (holds : ∀ state other, before state other → after () () (change state) (change' other)) :
    Couples before (Effect.modify change) (Effect.modify change') after raised :=
  fun state other isBefore => holds state other isBefore

/-- The rule for one effect after another, on both sides. -/
theorem bind {first : Effect State Value₁} {next : Value₁ → Effect State Value}
    {first' : Effect Other Result₁} {next' : Result₁ → Effect Other Result}
    (between : Value₁ → Result₁ → State → Other → Prop)
    (ofFirst : Couples before first first' between raised) (ofNext : ∀ value result,
      Couples (between value result) (next value) (next' result) after raised) :
    Couples before (first >>= next) (first' >>= next') after raised := by
  intro state other isBefore
  apply EndTogether.bind (ofFirst state other isBefore)
  intro value result later later' _ _ isBetween
  exact ofNext value result later later' isBetween

/-- Both sides go on from the states they read. -/
theorem reading {next : State → Effect State Value} {next' : Other → Effect Other Result}
    (ofNext : ∀ state other, before state other →
      Couples (fun seen seen' => seen = state ∧ seen' = other)
        (next state) (next' other) after raised) :
    Couples before (Effect.read >>= next) (Effect.read >>= next') after raised :=
  fun state other isBefore => ofNext state other isBefore state other ⟨rfl, rfl⟩

/-- What holds from all related states holds from two that are known. -/
theorem known {state : State} {other : Other} (couples : Couples before one another after raised)
    (isBefore : before state other) : Couples (fun seen seen' => seen = state ∧ seen' = other)
      one another after raised := by
  rintro seen seen' ⟨rfl, rfl⟩
  exact couples seen seen' isBefore

/-- Less may be claimed after. -/
theorem mono {weaker : Value → Result → State → Other → Prop}
    {weakerRaised : State → Other → Prop} (couples : Couples before one another after raised)
    (isAfter : ∀ value result state other,
      after value result state other → weaker value result state other)
    (isRaised : ∀ state other, raised state other → weakerRaised state other) :
    Couples before one another weaker weakerRaised := by
  intro state other isBefore
  have ends := couples state other isBefore
  revert ends
  unfold EndTogether
  split
  · apply isAfter
  · apply isRaised
  · exact id

end Couples
end Effect
