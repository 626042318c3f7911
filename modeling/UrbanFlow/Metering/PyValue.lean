import Mathlib.Data.List.Sort
import UrbanFlow.Core.Enums
import UrbanFlow.Core.Text
import UrbanFlow.Library.Fallible

/-!
# Configuration values

The values of an untyped configuration dictionary, and the readers of one field
that the metering validator and the plan builder share: a key that is absent, a
key whose value is null, an alias, a finite number, a compass direction.
-/

namespace UrbanFlow

/-- A Python value a configuration can hold. A dictionary is its items. -/
inductive PyValue
  | none
  | bool (value : Bool)
  | int (value : Int)
  | float (value : ℚ)
  | nan
  | infinity (negative : Bool)
  | str (value : String)
  | list (items : List PyValue)
  | tuple (items : List PyValue)
  | dict (items : List (String × PyValue))
  | direction (value : Direction)

/-- The items of a dictionary. -/
abbrev Fields : Type := List (String × PyValue)

/-- A message as the parts of its f-string. -/
abbrev PyMessage : Type := List (MessagePart PyValue)

namespace Fields

section

variable (fields : Fields)

/-- `fields.get(key)`: null when the key is absent. -/
def get (key : String) : PyValue := (fields.lookup key).getD .none

/-- `fields.get(key, fields.get(alias))`: the alias only when the key is
absent. -/
def getAlias (key other : String) : PyValue := (fields.lookup key).getD (fields.get other)

/-- `sorted(fields.keys())`. -/
def sortedKeys : List String := (fields.map Prod.fst).insertionSort (· ≤ ·)

end

end Fields

namespace PyValue

/-- The number a value is, when `_is_finite_number` holds of it. -/
def number : PyValue → Option ℚ
  | int value => some value
  | float value => some value
  | _ => Option.none

/-- Whether a value is `None`. -/
def isNone : PyValue → Bool
  | none => true
  | _ => false

def asList : PyValue → Option (List PyValue)
  | list items => some items
  | _ => Option.none

def asSequence : PyValue → Option (List PyValue)
  | list items => some items
  | tuple items => some items
  | _ => Option.none

/-- The items of a dictionary. -/
def asDict : PyValue → Option Fields
  | dict items => some items
  | _ => Option.none

@[simp] theorem number_none : PyValue.none.number = Option.none := rfl

@[simp] theorem isNone_none : PyValue.none.isNone = true := rfl

@[simp] theorem asDict_dict (items : Fields) : (PyValue.dict items).asDict = some items := rfl

theorem asDict_eq_some {value : PyValue} {items : Fields} :
    value.asDict = some items ↔ value = .dict items := by
  cases value <;> simp [asDict]

theorem isNone_iff {value : PyValue} : value.isNone = true ↔ value = .none := by
  cases value <;> simp [isNone]

end PyValue

/-- `Direction(text.strip().lower())`. -/
def directionNamed (text : String) : Option Direction := Direction.all.find? fun direction =>
    direction.value.toList = pyLower (pyStrip text.toList)

/-- The direction an entry names: a direction, or its name. -/
def PyValue.asDirection : PyValue → Option Direction
  | direction value => some value
  | str text => directionNamed text
  | _ => Option.none

end UrbanFlow
