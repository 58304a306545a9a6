import FieldRules.Numeric.Double

/-!
# Numeric/Decimal — the shortest decimal of a binary number, and its written form

`Decimal.shortest` has the fewest digits among the decimals that round to the given number, and is
the nearest of those. `Decimal.render` writes a decimal positionally for moderate exponents and with
an exponent mark otherwise, always so that it can be told from an integer.
-/

namespace FieldRules.Numeric

/-- The number `coefficient * 10 ^ exponent`. -/
structure Decimal where
  coefficient : Nat
  exponent : Int
deriving DecidableEq, Repr

namespace Decimal

/-! ## Fewest digits that read back

The candidate with a given last place is one of the two neighbours of the exact value on that
decimal grid. All comparisons are made after multiplying by a common denominator. -/

/-- The reals that round to one number, as multiples of `1 / scale`: from `value - below` to
`value + above`, the ends included if `closed`. -/
structure Interval where
  value : Nat
  below : Nat
  above : Nat
  scale : Nat
  closed : Bool

/-- The interval of a positive finite count of units, in quarters of a unit. The gap below a power
of two is half the gap above it. -/
def Interval.ofUnits (u : Nat) : Interval :=
  let k := Format.double.excess u
  let atPower := k != 0 && u == pow2 (k + 52)
  { value := 4 * u
    below := if atPower then pow2 k else 2 * pow2 k
    above := 2 * pow2 k
    scale := 4 * pow2 Format.double.finest
    closed := u / pow2 k % 2 == 0 }

/-- Whether `m / n` of the interval's multiples, a point at a distance from its value, lies
inside. -/
def Interval.holds (i : Interval) (m n : Nat) : Bool :=
  let v := i.value * n
  if m ≤ v then
    let d := v - m
    if i.closed then d ≤ i.below * n else d < i.below * n
  else
    let d := m - v
    if i.closed then d ≤ i.above * n else d < i.above * n

/-- The decimal with last place `10 ^ e` that is nearest to the interval's value and lies in it; a
tie goes to the even coefficient. -/
def onGrid? (i : Interval) (e : Int) : Option Decimal :=
  -- the value is `num / den` steps of the grid
  let num := if e < 0 then i.value * pow10 e.natAbs else i.value
  let den := if e < 0 then i.scale else i.scale * pow10 e.natAbs
  let place (c : Nat) : Nat := c * den
  let inside (c : Nat) : Bool :=
    if e < 0 then i.holds (place c) (pow10 e.natAbs) else i.holds (place c) 1
  let low := num / den
  let near := halfEven num den
  let far := if near = low then low + 1 else low
  if inside near then some ⟨near, e⟩
  else if inside far then some ⟨far, e⟩
  else none

/-- The first hit on grids that get finer by one place, `places` of them from `10 ^ e` on. -/
def search (i : Interval) : Nat → Int → Option Decimal
  | 0, _ => none
  | places + 1, e =>
    match onGrid? i e with
    | some d => some d
    | none => search i places (e - 1)

/-- Without zeros at the end of the coefficient; `digits` bounds their number. -/
def stripped : Nat → Decimal → Decimal
  | 0, d => d
  | digits + 1, d =>
    if d.coefficient % 10 = 0 && d.coefficient != 0 then
      stripped digits ⟨d.coefficient / 10, d.exponent + 1⟩
    else d

/-- The decimal exponent of the leading digit of a count of units, or one more. -/
def leading (u : Nat) : Int :=
  let whole := u / pow2 Format.double.finest
  if whole = 0 then
    -((pow2 Format.double.finest / u).log2 * 3 / 10 : Nat)
  else (whole.log2 / 3 + 1 : Nat)

/-- The shortest decimal that rounds to this positive count of units. -/
def shortest (u : Nat) : Decimal :=
  let i := Interval.ofUnits u
  match search i 800 (leading u) with
  | some d => stripped 20 d
  | none => ⟨0, 0⟩

/-! ## Written form -/

/-- Where a decimal is written positionally, and how its exponent is written otherwise. -/
structure Style where
  /-- Least exponent of the leading digit that is written positionally. -/
  lowest : Int
  /-- Least exponent of the leading digit that is too large for that. -/
  highest : Int
  mark : String
  plus : String

/-- Values from `10 ^ (-5)` up to below `10 ^ 16` are written positionally, others with an exponent
that shows its sign. -/
def Style.json : Style := ⟨-5, 16, "e", "+"⟩

def zeros (n : Nat) : String := String.ofList (List.replicate n '0')

/-- The digits with a point after the first `n` of them, padded with zeros where they do not reach;
there is always a digit on each side. -/
def positional (digits : List Char) (n : Int) : String :=
  if n ≤ 0 then "0." ++ zeros n.natAbs ++ String.ofList digits
  else
    let whole := digits.take n.toNat
    let rest := digits.drop n.toNat
    String.ofList whole ++ zeros (n.toNat - whole.length) ++ "." ++
      (if rest.isEmpty then "0" else String.ofList rest)

/-- One digit, the others after a point, and the exponent of the first. -/
def scientific (style : Style) (digits : List Char) (e : Int) : String :=
  let fraction := digits.drop 1
  String.ofList (digits.take 1) ++
    (if fraction.isEmpty then "" else "." ++ String.ofList fraction) ++
    style.mark ++ (if e < 0 then "-" else style.plus) ++ toString e.natAbs

def render (style : Style) (d : Decimal) : String :=
  let digits := Nat.toDigits 10 d.coefficient
  let e : Int := digits.length + d.exponent - 1
  if style.lowest ≤ e && e < style.highest then positional digits (e + 1)
  else scientific style digits e

end Decimal

/-- The text of a number in the given style; not-a-number and the infinities by name. -/
def Double.render (style : Decimal.Style) : Double → String
  | .nan => "NaN"
  | .signed negative u =>
    let sign := if negative then "-" else ""
    if u = Format.double.infinity then sign ++ "inf"
    else if u = 0 then sign ++ "0.0"
    else sign ++ (Decimal.shortest u).render style

end FieldRules.Numeric
