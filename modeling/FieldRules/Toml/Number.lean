import FieldRules.Numeric.Literal
import FieldRules.Text.Codepoints

/-!
# Toml/Number — numbers and moments of TOML

Integers have 64 bits with a sign; in bases other than ten they have none. Floating-point numbers
have a fraction or an exponent, and do not grow to positive infinity by themselves. A moment is a
date, a time, or both, and then perhaps with its distance from universal time.
-/

namespace FieldRules.Toml

open Numeric (Double isDigit ofDigits pow2)
open Text.Codepoints (hexDigit?)

/-! ## Digits -/

/-- The digits of a number that a text begins with, without the underscores between them. -/
def digits (p : Char → Bool) : List Char → List Char × List Char
  | '_' :: cs => ([], '_' :: cs)
  | c :: cs => if p c then more p [c] cs else ([], c :: cs)
  | [] => ([], [])
where
  /-- Digits behind a digit; what is read is kept backwards. -/
  more (p : Char → Bool) (read : List Char) : List Char → List Char × List Char
    | '_' :: c :: cs => if p c then more p (c :: read) cs else (read.reverse, '_' :: c :: cs)
    | c :: cs => if p c then more p (c :: read) cs else (read.reverse, c :: cs)
    | [] => (read.reverse, [])

/-- A digit of a base up to 16. -/
def isDigitOf (base : Nat) (c : Char) : Bool := (hexDigit? c).any (· < base)

/-- The number that digits write in a base. -/
def ofDigitsIn (base : Nat) (ds : List Char) : Nat :=
  ds.foldl (fun n d => base * n + (hexDigit? d).getD 0) 0

/-- An optional sign: whether it is a minus, and the text behind it. -/
def sign : List Char → Bool × List Char
  | '-' :: cs => (true, cs)
  | '+' :: cs => (false, cs)
  | cs => (false, cs)

/-- Digits that do not begin with a zero, or a single zero. -/
def whole? (cs : List Char) : Option (List Char × List Char) :=
  match cs with
  | '0' :: rest => some (['0'], rest)
  | cs =>
    let (ds, rest) := digits isDigit cs
    if ds.isEmpty then none else some (ds, rest)

/-! ## Integers and floating-point numbers -/

/-- A decimal integer. -/
def decimal? (cs : List Char) : Option (Int × List Char) := do
  let (negative, cs) := sign cs
  let (ds, rest) ← whole? cs
  let n : Int := if negative then -(ofDigits ds : Int) else ofDigits ds
  if -(pow2 63 : Int) ≤ n ∧ n < pow2 63 then some (n, rest) else none

/-- An integer behind the mark of its base. -/
def based? (base : Nat) (cs : List Char) : Option (Int × List Char) :=
  let (ds, rest) := digits (isDigitOf base) cs
  if ds.isEmpty || pow2 63 ≤ ofDigitsIn base ds then none
  else some ((ofDigitsIn base ds : Int), rest)

def integer? : List Char → Option (Int × List Char)
  | '0' :: 'x' :: cs => based? 16 cs
  | '0' :: 'o' :: cs => based? 8 cs
  | '0' :: 'b' :: cs => based? 2 cs
  | cs => decimal? cs

/-- The fraction of a number, with its point; empty if there is none. -/
def fraction? : List Char → Option (List Char × List Char)
  | '.' :: cs =>
    let (ds, rest) := digits isDigit cs
    if ds.isEmpty then none else some (ds, rest)
  | cs => some ([], cs)

/-- The exponent of a number, with its mark. -/
def exponent? : List Char → Option (Option Int × List Char)
  | c :: cs =>
    if c == 'e' || c == 'E' then
      let (negative, cs) := sign cs
      let (ds, rest) := digits isDigit cs
      if ds.isEmpty then none
      else some (some (if negative then -(ofDigits ds : Int) else ofDigits ds), rest)
    else some (none, c :: cs)
  | [] => some (none, [])

/-- Infinity or not-a-number, by name. -/
def named? (negative : Bool) : List Char → Option (Double × List Char)
  | 'i' :: 'n' :: 'f' :: cs => some (.infinite negative, cs)
  | 'n' :: 'a' :: 'n' :: cs => some (.nan, cs)
  | _ => none

/-- A number with a fraction or an exponent; `none` for an integer, and for a number too large. -/
def fractional? (cs : List Char) : Option (Double × List Char) := do
  let (negative, cs) := sign cs
  let (ds, rest) ← whole? cs
  let (fraction, rest) ← fraction? rest
  let (e, rest) ← exponent? rest
  if fraction.isEmpty && e.isNone then none
  let x := Double.ofDecimal negative (ofDigits (ds ++ fraction)) (e.getD 0 - fraction.length)
  if x == .infinite false then none else some (x, rest)

/-- A floating-point number. -/
def float? (cs : List Char) : Option (Double × List Char) :=
  let (negative, rest) := sign cs
  (named? negative rest).or (fractional? cs)

/-! ## Moments -/

structure Date where
  year : Nat
  month : Nat
  day : Nat
deriving DecidableEq, Repr

structure Time where
  hour : Nat
  minute : Nat
  second : Nat
  /-- The digits of the fraction of a second. -/
  fraction : List Char
deriving DecidableEq, Repr

/-- A date, a time, or both, and with both perhaps the minutes by which the clock is ahead of
universal time. -/
structure Moment where
  date : Option Date
  time : Option Time
  offset : Option Int
deriving DecidableEq, Repr

/-- A number of exactly `n` digits, from `low` to `high`. -/
def field? (n low high : Nat) (cs : List Char) : Option (Nat × List Char) :=
  let ds := cs.take n
  let v := ofDigits ds
  if ds.length == n && ds.all isDigit && low ≤ v && v ≤ high then some (v, cs.drop n) else none

/-- The text behind a character that it begins with. -/
def behind? (p : Char → Bool) : List Char → Option (List Char)
  | c :: cs => if p c then some cs else none
  | [] => none

/-- How many days a month has. -/
def daysIn (year month : Nat) : Nat :=
  let leap := year % 4 == 0 && (year % 100 != 0 || year % 400 == 0)
  if month == 2 then (if leap then 29 else 28)
  else if [4, 6, 9, 11].contains month then 30 else 31

def date? (cs : List Char) : Option (Date × List Char) := do
  let (year, cs) ← field? 4 0 9999 cs
  let (month, cs) ← field? 2 1 12 (← behind? (· == '-') cs)
  let (day, cs) ← field? 2 1 (daysIn year month) (← behind? (· == '-') cs)
  return (⟨year, month, day⟩, cs)

/-- Hours and minutes. -/
def clock? (cs : List Char) : Option (Nat × Nat × List Char) := do
  let (hour, cs) ← field? 2 0 23 cs
  let (minute, cs) ← field? 2 0 59 (← behind? (· == ':') cs)
  return (hour, minute, cs)

/-- A time, with a leap second at most. -/
def time? (cs : List Char) : Option (Time × List Char) := do
  let (hour, minute, cs) ← clock? cs
  let (second, cs) ← field? 2 0 60 (← behind? (· == ':') cs)
  let fraction := match cs with
    | '.' :: cs => cs.takeWhile isDigit
    | _ => []
  let cs := if fraction.isEmpty then cs else cs.drop (fraction.length + 1)
  return (⟨hour, minute, second, fraction⟩, cs)

/-- The distance from universal time. -/
def offset? : List Char → Option (Int × List Char)
  | 'Z' :: cs | 'z' :: cs => some (0, cs)
  | '+' :: cs => (clock? cs).map fun (hour, minute, cs) => ((60 * hour + minute : Nat), cs)
  | '-' :: cs => (clock? cs).map fun (hour, minute, cs) => (-(60 * hour + minute : Nat), cs)
  | _ => none

/-- The moment that a text begins with. A blank may stand between date and time. -/
def moment? (cs : List Char) : Option (Moment × List Char) :=
  match date? cs with
  | none => (time? cs).map fun (time, cs) => (⟨none, some time, none⟩, cs)
  | some (date, cs) =>
    match (behind? (fun c => c == 'T' || c == 't' || c == ' ') cs).bind time? with
    | none => some (⟨some date, none, none⟩, cs)
    | some (time, cs) =>
      match offset? cs with
      | none => some (⟨some date, some time, none⟩, cs)
      | some (offset, cs) => some (⟨some date, some time, some offset⟩, cs)

end FieldRules.Toml
