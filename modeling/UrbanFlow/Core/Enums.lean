import Mathlib.Data.Rat.Floor

/-!
# Shared enumerations and rounding

Compass directions, turn intents, vehicle states and signal colours, and
Python's `round` on exact numbers. Times, lengths and speeds are rationals
throughout: the arithmetic of the model is exact.
-/

namespace UrbanFlow

/-- An approach of the junction. -/
inductive Direction
  | north
  | south
  | east
  | west
  deriving DecidableEq, Repr

/-- The movement a vehicle makes through the junction. -/
inductive TurnIntent
  | left
  | straight
  | right
  | uturn
  deriving DecidableEq, Repr

/-- Life cycle of a vehicle. -/
inductive VehicleState
  | waiting
  | approaching
  | exited
  deriving DecidableEq, Repr

/-- Colour of a signal phase. -/
inductive Color
  | green
  | yellow
  | red
  deriving DecidableEq, Repr

namespace Direction

/-- Every direction, in the order of the enumeration. -/
def all : List Direction := [north, south, east, west]

@[simp] theorem mem_all (direction : Direction) : direction ∈ all := by
  cases direction <;> simp [all]

/-- The value of the enumeration member. -/
def value : Direction → String
  | north => "north"
  | south => "south"
  | east => "east"
  | west => "west"

end Direction

/-- Round half to even, as Python's `round` does. -/
def roundHalfEven (x : ℚ) : ℤ :=
  let below := ⌊x⌋
  let rest := x - below
  if rest < 1 / 2 then below
  else if 1 / 2 < rest then below + 1
  else if below % 2 = 0 then below else below + 1

/-- `round(x, digits)`. -/
def pyRound (x : ℚ) (digits : Nat) : ℚ := roundHalfEven (x * 10 ^ digits) / 10 ^ digits

end UrbanFlow
