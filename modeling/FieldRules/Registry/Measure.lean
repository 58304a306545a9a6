import FieldRules.Json.Basic
import FieldRules.Numeric.Literal
import FieldRules.Registry.Basic

/-!
# Registry/Measure — lengths, numbers and emptiness of values

What the built-in validators look at: the length of a value that has one, its number if it has one,
and whether it is empty.
-/

namespace FieldRules

open Numeric (Double)

namespace Json

/-- Characters of a string, elements of a list, members of an object. -/
def size? : Json → Option Nat
  | str s => some s.toList.length
  | arr items => some items.length
  | obj members => some members.length
  | _ => none

/-- The number of a value: numbers as they are, strings as they read after trimming. -/
def double? : Json → Option Double
  | num n => some n.toDouble
  | str s => (Numeric.double? (Text.trim s.toList)).toOption
  | _ => none

/-- Null, false, zero, and texts, lists and objects with nothing in them. -/
def isEmpty : Json → Bool
  | null => true
  | bool b => !b
  | num n => n.toDouble.isZero
  | str s => s.isEmpty
  | arr items => items.isEmpty
  | obj members => members.isEmpty

end Json

/-- Whether a value is the zero of its type; where the type is not known, whether it is empty. -/
def Hint.isZero (h : Hint) (v : Json) : Bool := h.zero?.getD v.isEmpty

end FieldRules
