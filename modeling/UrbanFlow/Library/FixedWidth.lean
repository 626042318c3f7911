import Mathlib.Data.List.Lex
import Mathlib.Tactic.IntervalCases
import Mathlib.Tactic.Ring

/-!
# Numbers written with a fixed number of digits

Texts of equal length compare position by position, so a text made of blocks of
fixed width compares like the list of its blocks, and a block of decimal digits
compares like the number it writes. A block is read back to its number.
-/

namespace FixedWidth

variable {Symbol : Type*} [LT Symbol]

variable {digit other width number : Nat}

/-- Two texts whose first parts are equally long compare by these, and by the
rest where these are equal. -/
theorem append_lt_append_iff {first second rest otherRest : List Symbol}
    (sameLength : first.length = second.length) :
    first ++ rest < second ++ otherRest ↔ first < second ∨ first = second ∧ rest < otherRest := by
  induction first generalizing second with
  | nil =>
    obtain rfl : second = [] := List.length_eq_zero_iff.mp sameLength.symm
    simp
  | cons _ _ ih =>
    cases second with
    | nil => simp at sameLength
    | cons =>
      simp only [List.length_cons, Nat.add_right_cancel_iff] at sameLength
      simp only [List.cons_append, List.cons_lt_cons_iff, ih sameLength, List.cons.injEq]
      tauto

/-- The last `width` decimal digits of a number, as `%0<width>d` writes a number
that has no more. -/
def block : Nat → Nat → List Char
  | 0, _ => []
  | width + 1, number => Nat.digitChar (number / 10 ^ width % 10) :: block width number

@[simp] theorem length_block (width number : Nat) : (block width number).length = width := by
  induction width with
  | zero => rfl
  | succ _ ih => simp [block, ih]

/-- The digit a character stands for. -/
def digitValue (symbol : Char) : Option Nat :=
  if '0' ≤ symbol ∧ symbol ≤ '9' then some (symbol.toNat - 48) else none

/-- The number a text of decimal digits writes. -/
def readNumber (text : List Char) : Option Nat := text.foldl (fun value symbol =>
      value.bind fun high => (digitValue symbol).map fun digit => 10 * high + digit)
    (some 0)

theorem digitChar_lt_digitChar (isDigit : digit < 10) (isOther : other < 10) :
    Nat.digitChar digit < Nat.digitChar other ↔ digit < other := by
  interval_cases digit <;> interval_cases other <;> decide

theorem digitValue_digitChar (isDigit : digit < 10) :
    digitValue (Nat.digitChar digit) = some digit := by
  interval_cases digit <;> decide

theorem digitChar_inj (isDigit : digit < 10) (isOther : other < 10) :
    Nat.digitChar digit = Nat.digitChar other ↔ digit = other := by
  refine ⟨fun same => ?_, fun same => by rw [same]⟩
  have read := digitValue_digitChar isDigit
  rw [same, digitValue_digitChar isOther] at read
  exact (Option.some.inj read).symm

theorem block_lt_block_iff_mod (width number other : Nat) :
    block width number < block width other ↔ number % 10 ^ width < other % 10 ^ width := by
  induction width with
  | zero => simp [block, Nat.mod_one]
  | succ width ih =>
    have isDigit : number / 10 ^ width % 10 < 10 := Nat.mod_lt _ (by decide)
    have isOther : other / 10 ^ width % 10 < 10 := Nat.mod_lt _ (by decide)
    have low : number % 10 ^ width < 10 ^ width := Nat.mod_lt _ (Nat.pow_pos (by decide))
    have otherLow : other % 10 ^ width < 10 ^ width := Nat.mod_lt _ (Nat.pow_pos (by decide))
    rw [block, block, List.cons_lt_cons_iff,
      digitChar_lt_digitChar isDigit isOther, digitChar_inj isDigit isOther,
      ih, Nat.mod_pow_succ, Nat.mod_pow_succ]
    generalize number / 10 ^ width % 10 = digit at *
    generalize other / 10 ^ width % 10 = otherDigit at *
    generalize number % 10 ^ width = rest at *
    generalize other % 10 ^ width = otherRest at *
    generalize 10 ^ width = power at *
    constructor
    · rintro (isLess | ⟨rfl, isLess⟩)
      · have step : power * (digit + 1) ≤ power * otherDigit := Nat.mul_le_mul_left _ isLess
        rw [Nat.mul_succ] at step
        omega
      · omega
    · intro isLess
      obtain isDigitLess | rfl | isMore := Nat.lt_trichotomy digit otherDigit
      · exact Or.inl isDigitLess
      · exact Or.inr ⟨rfl, by omega⟩
      · have step : power * (otherDigit + 1) ≤ power * digit := Nat.mul_le_mul_left _ isMore
        rw [Nat.mul_succ] at step
        omega

theorem block_lt_block_iff (fits : number < 10 ^ width) (otherFits : other < 10 ^ width) :
    block width number < block width other ↔ number < other := by
  rw [block_lt_block_iff_mod, Nat.mod_eq_of_lt fits, Nat.mod_eq_of_lt otherFits]

theorem foldl_block (width number high : Nat) : (block width number).foldl (fun value symbol =>
        value.bind fun high => (digitValue symbol).map fun digit => 10 * high + digit)
      (some high) = some (10 ^ width * high + number % 10 ^ width) := by
  induction width generalizing high with
  | zero => simp [block, Nat.mod_one]
  | succ _ ih =>
    rw [block, List.foldl_cons, Option.bind_some,
      digitValue_digitChar (Nat.mod_lt _ (by decide)), Option.map_some,
      ih, Nat.mod_pow_succ, Option.some_inj, Nat.pow_succ]
    ring

theorem readNumber_block (fits : number < 10 ^ width) :
    readNumber (block width number) = some number := by
  rw [readNumber, foldl_block, Nat.mod_eq_of_lt fits]
  simp

theorem block_inj (fits : number < 10 ^ width) (otherFits : other < 10 ^ width) :
    block width number = block width other ↔ number = other := by
  refine ⟨fun same => ?_, fun same => by rw [same]⟩
  have read := readNumber_block fits
  rw [same, readNumber_block otherFits] at read
  exact (Option.some.inj read).symm

end FixedWidth
