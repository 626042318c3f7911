import Mathlib.Data.Rat.Defs

/-!
# Text handling of the configuration readers

Python's `str.strip`, `str.lower` and `str.rpartition` on character lists, the
slice `text[:count]`, and messages kept as the parts an f-string is made of. Formatting a part (`repr`,
`:g`) is the standard library's; which value stands where is the program's.
-/

namespace UrbanFlow

/-- The characters `str.strip` removes. -/
def isPyWhitespace (c : Char) : Bool :=
  let code := c.toNat
  (9 ≤ code && code ≤ 13) || (28 ≤ code && code ≤ 32) || code = 0x85 ||
    code = 0xA0 || code = 0x1680 || (0x2000 ≤ code && code ≤ 0x200A) ||
    code = 0x2028 || code = 0x2029 || code = 0x202F || code = 0x205F ||
    code = 0x3000

/-- `str.strip()`. -/
def pyStrip (text : List Char) : List Char :=
  ((text.dropWhile isPyWhitespace).reverse.dropWhile isPyWhitespace).reverse

/-- `str.lower()` on the letters that can occur in a recognised name. No other
character lowers to one of those letters, so no further name is recognised. -/
def pyLower (text : List Char) : List Char := text.map Char.toLower

/-- `str.rpartition(separator)`: what stands before and after the last
separator, or `none` when there is none. -/
def pyRpartition (separator : Char) (text : List Char) : Option (List Char × List Char) :=
  let after := text.reverse.takeWhile (· ≠ separator)
  match text.reverse.dropWhile (· ≠ separator) with
  | [] => none
  | _ :: before => some (before.reverse, after.reverse)

/-- `text[:count]`. -/
def pyPrefix (count : Nat) (text : String) : String := String.ofList (text.toList.take count)

/-- One piece of an f-string over values of type `Value`. -/
inductive MessagePart (Value : Type)
  | text (words : String)
  | str (value : Value)
  | repr (value : Value)
  | typeName (value : Value)
  | general (number : ℚ)
  | count (number : Int)
  deriving DecidableEq, Repr

end UrbanFlow
