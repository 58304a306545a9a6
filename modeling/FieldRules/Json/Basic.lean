import FieldRules.Dict
import FieldRules.Numeric.Double

/-!
# Json/Basic — JSON values

Numbers are integers of 64 bits, signed or not, or finite doubles; the two kinds are never the same
value. Objects list their members by increasing name. `Json.same` is the equality of values: it
compares doubles as numbers, so that the two zeros agree.
-/

namespace FieldRules

open Numeric (Double pow2)

/-- A number: exact when it fits 64 bits, and a double otherwise. -/
inductive Number where
  | int (n : Int)
  | float (x : Double)
deriving DecidableEq, Repr

namespace Number

/-- The integers that are kept exact: those of 64 bits, signed or unsigned. -/
def isExact (n : Int) : Bool := -(pow2 63 : Int) ≤ n && n < pow2 64

def same : Number → Number → Bool
  | int a, int b => a == b
  | float x, float y => x.equal y
  | _, _ => false

/-- The number as a double, integers rounded to the nearest. -/
def toDouble : Number → Double
  | int n => .ofInt n
  | float x => x

end Number

inductive Json where
  | null
  | bool (b : Bool)
  | num (n : Number)
  | str (s : String)
  | arr (items : List Json)
  | obj (members : List (String × Json))
deriving Repr, Inhabited

namespace Json

mutual

/-- Equality of values. -/
def same : Json → Json → Bool
  | null, null => true
  | bool a, bool b => a == b
  | num a, num b => a.same b
  | str a, str b => a == b
  | arr a, arr b => sameItems a b
  | obj a, obj b => sameMembers a b
  | _, _ => false

def sameItems : List Json → List Json → Bool
  | [], [] => true
  | a :: as, b :: bs => same a b && sameItems as bs
  | _, _ => false

def sameMembers : List (String × Json) → List (String × Json) → Bool
  | [], [] => true
  | (k, a) :: as, (l, b) :: bs => k == l && same a b && sameMembers as bs
  | _, _ => false

end

/-- An integer value. -/
def int (n : Int) : Json := num (.int n)

/-- A count as a value. -/
def nat (n : Nat) : Json := num (.int n)

/-- A finite double as a value; the others have no JSON form and become null. -/
def ofDouble (x : Double) : Json := if x.isFinite then num (.float x) else null

/-- The text of a string value. -/
def text? : Json → Option String
  | str s => some s
  | _ => none

def isNull : Json → Bool
  | null => true
  | _ => false

/-- The object of a list of members; of two with one name the later counts. -/
def ofMembers (members : List (String × Json)) : Json := obj (Dict.ofList members)

end Json

end FieldRules
