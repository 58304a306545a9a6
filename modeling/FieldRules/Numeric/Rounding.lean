import FieldRules.Numeric.Power

/-!
# Numeric/Rounding — the nearest number of a binary format

A format counts in units of `2 ^ (-finest)`. `Format.round` gives the number of units nearest to a
fraction that has at most `bits` significant bits, with halves going to the even neighbour.
-/

namespace FieldRules.Numeric

/-- The quotient `a / b` rounded to the nearest integer, halves to the even one. -/
def halfEven (a b : Nat) : Nat :=
  let q := a / b
  let twice := 2 * (a % b)
  if twice < b then q
  else if twice = b then q + q % 2
  else q + 1

/-- Rounding an exact quotient changes nothing. -/
theorem halfEven_mul (q : Nat) {b : Nat} (hb : 0 < b) : halfEven (q * b) b = q := by
  simp [halfEven, Nat.mul_div_cancel _ hb, hb]

/-- The rounded quotient is one of the two integers around the exact one. -/
theorem halfEven_bounds (a b : Nat) : a / b ≤ halfEven a b ∧ halfEven a b ≤ a / b + 1 := by
  simp only [halfEven]
  split
  · omega
  · split <;> omega

/-- A binary floating-point format: the significant bits, the exponent of the finest unit, and the
exponent of the least power of two that is out of range. -/
structure Format where
  bits : Nat
  finest : Nat
  top : Nat
deriving DecidableEq, Repr

namespace Format

/-- 64 bits. -/
def double : Format := ⟨53, 1074, 1024⟩

/-- 32 bits. -/
def single : Format := ⟨24, 149, 128⟩

/-- How many binary places a number of units needs beyond the significant ones. -/
def excess (f : Format) (units : Nat) : Nat := Nat.log2 units - (f.bits - 1)

/-- The units of infinity: the first power of two out of range. -/
def infinity (f : Format) : Nat := pow2 (f.top + f.finest)

/-- The units nearest to `num / den`, infinity from the midpoint above the largest number on. -/
def round (f : Format) (num den : Nat) : Nat :=
  let scaled := num * pow2 f.finest
  let k := f.excess (scaled / den)
  min f.infinity (halfEven scaled (den * pow2 k) * pow2 k)

end Format

end FieldRules.Numeric
