import FieldRules.Json.Printer
import FieldRules.Text.Quoted

/-!
# Json/Mismatch — why a JSON value does not fit a type

Reading a JSON value as a value of some type can fail at the first place that does not fit. A
`Mismatch` names what was found there and what was expected, and `Mismatch.message` words it.
-/

namespace FieldRules

open Numeric (Double)

/-- What a JSON value looks like from outside. -/
inductive Found where
  | null
  | bool (b : Bool)
  | number (n : Number)
  | text (s : String)
  | sequence
  | map
deriving DecidableEq, Repr

namespace Found

def ofJson : Json → Found
  | .null => null
  | .bool b => bool b
  | .num n => number n
  | .str s => text s
  | .arr _ => sequence
  | .obj _ => map

def describe : Found → String
  | null => "null"
  | bool b => "boolean `" ++ (if b then "true" else "false") ++ "`"
  | number (.int n) => "integer `" ++ toString n ++ "`"
  | number (.float x) => "floating point `" ++ x.render .json ++ "`"
  | text s => "string " ++ Text.quoted s
  | sequence => "sequence"
  | map => "map"

end Found

/-- Why the text of an object member's name is no integer of 64 bits. -/
inductive KeyFault where
  | endOfText
  | malformed
  | outOfRange
  | notInteger (x : Double)
  | tooLarge (n : Nat)
deriving DecidableEq, Repr

def KeyFault.describe : KeyFault → String
  | endOfText => "EOF while parsing a value"
  | malformed => "invalid number"
  | outOfRange => "number out of range"
  | notInteger x => "invalid type: " ++ (Found.number (.float x)).describe ++ ", expected i64"
  | tooLarge n => "invalid value: " ++ (Found.number (.int n)).describe ++ ", expected i64"

inductive Mismatch where
  /-- A value of another kind. -/
  | type (found : Found) (expected : String)
  /-- A value of the kind, but not one of the type. -/
  | value (found : Found) (expected : String)
  /-- A sequence with too few or too many elements. -/
  | length (found : Nat) (expected : String)
  /-- An object without a member that has to be there. -/
  | missing (name : String)
  /-- A text that names no value of an enumeration. -/
  | variant (found : String) (names : List String)
  /-- A member name that has to be a number and is none. -/
  | key
  /-- A member name that begins like a number but fails after the given line and column. -/
  | keyAt (fault : KeyFault) (line column : Nat)
deriving DecidableEq, Repr

namespace Mismatch

/-- A name in the quotes used for names. -/
def named (name : String) : String := "`" ++ name ++ "`"

/-- The names that an enumeration offers. -/
def choices : List String → String
  | [] => "there are no variants"
  | [a] => "expected " ++ named a
  | [a, b] => "expected " ++ named a ++ " or " ++ named b
  | names => "expected one of " ++ String.intercalate ", " (names.map named)

def message : Mismatch → String
  | type found expected => "invalid type: " ++ found.describe ++ ", expected " ++ expected
  | value found expected => "invalid value: " ++ found.describe ++ ", expected " ++ expected
  | length found expected => "invalid length " ++ toString found ++ ", expected " ++ expected
  | missing name => "missing field " ++ named name
  | variant found names => "unknown variant " ++ named found ++ ", " ++ choices names
  | key => "invalid value: expected key to be a number in quotes"
  | keyAt fault line column =>
    fault.describe ++ " at line " ++ toString line ++ " column " ++ toString column

/-- A JSON value of another kind than expected. -/
def ofJson (v : Json) (expected : String) : Mismatch := type (.ofJson v) expected

/-- More elements than a fixed number. -/
def tooLong (found : Nat) : Mismatch := length found "fewer elements in array"

end Mismatch

end FieldRules
