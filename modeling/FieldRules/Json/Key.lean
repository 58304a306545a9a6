import FieldRules.Json.Mismatch
import FieldRules.Numeric.Literal

/-!
# Json/Key — integers as member names

A map with integer keys is written as an object whose member names are the integers in decimal.
`integerKey` reads such a name back. It goes through the text as through a JSON number, so that a
fault tells how far it came.
-/

namespace FieldRules.Json

open Numeric (Double digit? isDigit ofDigits pow2)

/-- Characters read so far, last one first, and those to come. -/
structure Cursor where
  before : List Char
  after : List Char

namespace Cursor

/-- Line and column after some characters, the last of them first: lines from 1, and in a line the
number of its characters. -/
def place (before : List Char) : Nat × Nat :=
  (before.count '\n' + 1, (before.takeWhile (· != '\n')).length)

/-- A fault after the characters read. -/
def fault (c : Cursor) (f : KeyFault) : Mismatch :=
  let (line, column) := place c.before
  .keyAt f line column

/-- A fault that takes in the next character, if there is one. -/
def faultNext (c : Cursor) (f : KeyFault) : Mismatch :=
  match c.after with
  | [] => c.fault f
  | a :: _ => Cursor.fault ⟨a :: c.before, []⟩ f

/-- The digits that come next, and the cursor after them. -/
def digits (c : Cursor) : List Char × Cursor :=
  let ds := c.after.takeWhile isDigit
  (ds, ⟨ds.reverse ++ c.before, c.after.dropWhile isDigit⟩)

end Cursor

/-- The parts of a number that are no integer: digits after the point, and the exponent. -/
structure Tail where
  fraction : List Char
  exponent : Int

/-- The exponent after its mark. -/
def keyExponent (c : Cursor) : Except Mismatch (Int × Cursor) :=
  let (negative, c) := match c.after with
    | '+' :: rest => (false, Cursor.mk ('+' :: c.before) rest)
    | '-' :: rest => (true, Cursor.mk ('-' :: c.before) rest)
    | _ => (false, c)
  match c.digits with
  | ([], c) =>
    match c.after with
    | [] => .error (c.fault .endOfText)
    | _ => .error (c.faultNext .malformed)
  | (ds, c) => .ok (if negative then -(ofDigits ds : Int) else ofDigits ds, c)

/-- What follows the digits before the point; `none` if nothing of a number does. -/
def keyTail (c : Cursor) : Except Mismatch (Option Tail × Cursor) :=
  let marked (fraction : List Char) (c : Cursor) : Except Mismatch (Option Tail × Cursor) := do
    let (e, c) ← keyExponent c
    return (some ⟨fraction, e⟩, c)
  match c.after with
  | '.' :: rest =>
    match Cursor.digits ⟨'.' :: c.before, rest⟩ with
    | ([], c) =>
      match c.after with
      | [] => .error (c.fault .endOfText)
      | _ => .error (c.faultNext .malformed)
    | (ds, c) =>
      match c.after with
      | 'e' :: more => marked ds ⟨'e' :: c.before, more⟩
      | 'E' :: more => marked ds ⟨'E' :: c.before, more⟩
      | _ => .ok (some ⟨ds, 0⟩, c)
  | 'e' :: rest => marked [] ⟨'e' :: c.before, rest⟩
  | 'E' :: rest => marked [] ⟨'E' :: c.before, rest⟩
  | _ => .ok (none, c)

/-- The integer of a whole number as read: minus zero and numbers beyond 64 bits are doubles. -/
def keyInteger (negative : Bool) (whole : List Char) (c : Cursor) : Except Mismatch Int :=
  let n := ofDigits whole
  let asDouble : Except Mismatch Int :=
    let x := Double.ofDecimal negative n 0
    .error (c.fault (if x.isFinite then .notInteger x else .outOfRange))
  if negative then
    if n = 0 || pow2 63 < n then asDouble else .ok (-(n : Int))
  else if pow2 64 ≤ n then asDouble
  else if pow2 63 ≤ n then .error (c.fault (.tooLarge n))
  else .ok n

/-- The integer that a member name writes. -/
def integerKey (name : String) : Except Mismatch Int :=
  match name.toList with
  | [] => .error .key
  | first :: rest =>
    if first != '-' && !isDigit first then .error .key
    else
      let negative := first == '-'
      let start : Cursor := if negative then ⟨[first], rest⟩ else ⟨[], first :: rest⟩
      match start.after with
      | [] => .error (start.fault .endOfText)
      | d :: _ =>
        if !isDigit d then .error (start.faultNext .malformed)
        else
          let (whole, c) := start.digits
          match whole with
          | '0' :: _ :: _ =>
            .error (Cursor.faultNext ⟨'0' :: start.before, whole.drop 1⟩ .malformed)
          | _ => do
            let (tail, c) ← keyTail c
            let n ← match tail with
              | none => keyInteger negative whole c
              | some t =>
                let x := Double.ofDecimal negative (ofDigits (whole ++ t.fraction))
                  (t.exponent - t.fraction.length)
                .error (c.fault (if x.isFinite then .notInteger x else .outOfRange))
            if c.after.isEmpty then .ok n else .error .key

end FieldRules.Json
