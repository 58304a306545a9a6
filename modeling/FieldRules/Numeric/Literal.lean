import FieldRules.Numeric.Double
import FieldRules.Text.Blank

/-!
# Numeric/Literal — reading numbers from text

`natural?` reads an unsigned integer of 64 bits: an optional plus sign and decimal digits. `double?`
reads a floating-point number: digits with a point and an exponent as one likes, or infinity and
not-a-number by name in any case. Both read the whole text, without surrounding blanks.
-/

namespace FieldRules.Numeric

/-- The value of a decimal digit. -/
def digit? (c : Char) : Option Nat :=
  if '0' ≤ c ∧ c ≤ '9' then some (c.toNat - '0'.toNat) else none

def isDigit (c : Char) : Bool := (digit? c).isSome

/-- The number written by decimal digits; other characters count as zero. -/
def ofDigits (cs : List Char) : Nat :=
  cs.foldl (fun n c => 10 * n + (digit? c).getD 0) 0

/-! ## Integers -/

/-- Why a text is no unsigned integer. -/
inductive NaturalError where
  | empty
  | invalidDigit
  | tooLarge
deriving DecidableEq, Repr

def NaturalError.message : NaturalError → String
  | .empty => "cannot parse integer from empty string"
  | .invalidDigit => "invalid digit found in string"
  | .tooLarge => "number too large to fit in target type"

/-- The largest unsigned integer of 64 bits. -/
def maxNatural : Nat := pow2 64 - 1

/-- Digits appended to the number `n`. Reading stops at the first character that is no digit or
makes the number too large. -/
def naturalFrom (n : Nat) : List Char → Except NaturalError Nat
  | [] => .ok n
  | c :: cs =>
    match digit? c with
    | none => .error .invalidDigit
    | some d =>
      if maxNatural < 10 * n + d then .error .tooLarge
      else naturalFrom (10 * n + d) cs

/-- The number written by a text of digits after an optional plus sign. -/
def natural? : List Char → Except NaturalError Nat
  | [] => .error .empty
  | ['+'] => .error .invalidDigit
  | '+' :: cs => naturalFrom 0 cs
  | cs => naturalFrom 0 cs

/-! ## Floating-point numbers -/

/-- Why a text is no floating-point number. -/
inductive DoubleError where
  | empty
  | invalid
deriving DecidableEq, Repr

def DoubleError.message : DoubleError → String
  | .empty => "cannot parse float from empty string"
  | .invalid => "invalid float literal"

/-- An optional sign before a text. -/
def signed : List Char → Bool × List Char
  | '-' :: cs => (true, cs)
  | '+' :: cs => (false, cs)
  | cs => (false, cs)

/-- The exponent after the digits: none, or a mark and a signed run of digits up to the end. -/
def exponent? : List Char → Option Int
  | [] => some 0
  | c :: cs =>
    if c = 'e' ∨ c = 'E' then
      let (negative, digits) := signed cs
      if digits.isEmpty || !digits.all isDigit then none
      else some (if negative then -(ofDigits digits : Int) else ofDigits digits)
    else none

/-- An unsigned decimal with a point and an exponent where one likes, and at least one digit. -/
def decimal? (cs : List Char) : Option (Nat × Int) :=
  let (whole, rest) := (cs.takeWhile isDigit, cs.dropWhile isDigit)
  let (fraction, tail) := match rest with
    | '.' :: more => (more.takeWhile isDigit, more.dropWhile isDigit)
    | _ => ([], rest)
  if whole.isEmpty && fraction.isEmpty then none
  else
    (exponent? tail).map fun e => (ofDigits (whole ++ fraction), e - fraction.length)

/-- The names of the values that have no digits. -/
def named? (cs : List Char) (negative : Bool) : Option Double :=
  let name := String.ofList (cs.map Char.toLower)
  if name = "inf" ∨ name = "infinity" then some (.infinite negative)
  else if name = "nan" then some .nan
  else none

/-- The floating-point number written by a text. -/
def double? (cs : List Char) : Except DoubleError Double :=
  if cs.isEmpty then .error .empty
  else
    let (negative, rest) := signed cs
    match decimal? rest with
    | some (coefficient, e) => .ok (.ofDecimal negative coefficient e)
    | none =>
      match named? rest negative with
      | some x => .ok x
      | none => .error .invalid

end FieldRules.Numeric
