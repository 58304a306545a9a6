import FieldRules.Numeric.Rounding

/-!
# Numeric/Double — floating-point numbers of 64 bits

A `Double` is not-a-number, or a sign and an exact count of units of `2 ^ (-1074)`; infinity is the
count `2 ^ 2098`. So every finite value is exact in the natural numbers, and comparisons are
comparisons of integers. The two zeros differ in sign and compare equal.
-/

namespace FieldRules.Numeric

inductive Double where
  | nan
  | signed (negative : Bool) (units : Nat)
deriving DecidableEq, Repr

namespace Double

/-- Zero, positive. -/
def zero : Double := signed false 0

/-- Infinity of a sign. -/
def infinite (negative : Bool) : Double := signed negative Format.double.infinity

/-- The number nearest to a fraction. -/
def ofRatio (negative : Bool) (num den : Nat) : Double :=
  signed negative (Format.double.round num den)

/-- The number nearest to an integer. -/
def ofInt (n : Int) : Double := ofRatio (n < 0) n.natAbs 1

/-- The number nearest to `coefficient * 10 ^ exponent`. Exponents far beyond the range are decided
by the count of digits, so that no huge power is formed. -/
def ofDecimal (negative : Bool) (coefficient : Nat) (exponent : Int) : Double :=
  let digits : Int := (Nat.toDigits 10 coefficient).length
  if coefficient = 0 then signed negative 0
  else if digits + exponent < -400 then signed negative 0
  else if 400 < digits + exponent then infinite negative
  else if exponent < 0 then ofRatio negative coefficient (pow10 exponent.natAbs)
  else ofRatio negative (coefficient * pow10 exponent.natAbs) 1

/-- The signed count of units; `none` for not-a-number. -/
def units? : Double → Option Int
  | nan => none
  | signed true u => some (-(u : Int))
  | signed false u => some u

def isFinite : Double → Bool
  | nan => false
  | signed _ u => u < Format.double.infinity

/-- Numeric order; not-a-number is on neither side of any number. -/
def less (x y : Double) : Bool :=
  match x.units?, y.units? with
  | some a, some b => a < b
  | _, _ => false

/-- Numeric equality; not-a-number equals nothing. -/
def equal (x y : Double) : Bool :=
  match x.units?, y.units? with
  | some a, some b => a == b
  | _, _ => false

def isZero (x : Double) : Bool := x.equal zero

/-- Units of the 64-bit format as the number of its 32-bit neighbour. -/
def toSingle : Double → Double
  | nan => nan
  | signed negative u =>
    let v := Format.single.round u (pow2 Format.double.finest)
    if v = Format.single.infinity then infinite negative
    else ofRatio negative v (pow2 Format.single.finest)

/-- The 32-bit number nearest to an integer, in one rounding. -/
def singleOfInt (n : Int) : Double :=
  let v := Format.single.round n.natAbs 1
  if v = Format.single.infinity then infinite (n < 0)
  else ofRatio (n < 0) v (pow2 Format.single.finest)

/-- The pattern of 64 bits; `none` for not-a-number, which has many. -/
def bits? : Double → Option Nat
  | nan => none
  | signed negative u =>
    let k := Format.double.excess u
    some ((if negative then pow2 63 else 0) + k * pow2 52 + u / pow2 k)

end Double

end FieldRules.Numeric
