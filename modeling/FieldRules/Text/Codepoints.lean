/-!
# Text/Codepoints — sets of code points written as ranges

Character properties are tables of ranges. A table is written as text, one entry per range, such as
`41..5a 61..7a aa`, with hexadecimal numbers; `Codepoints.ofText` reads it.
-/

namespace FieldRules.Text

/-- The code points from `first` to `last`, both included. -/
structure Span where
  first : Nat
  last : Nat
deriving DecidableEq, Repr

/-- A set of code points: increasing spans that do not touch. -/
abbrev Codepoints := List Span

namespace Codepoints

/-- The largest code point. -/
def top : Nat := 0x10FFFF

def contains (s : Codepoints) (n : Nat) : Bool := s.any fun r => r.first ≤ n && n ≤ r.last

/-- Spans in increasing order with overlapping and neighbouring ones merged. -/
def normalize (s : Codepoints) : Codepoints :=
  let sorted := s.mergeSort fun a b => a.first < b.first || (a.first == b.first && a.last ≤ b.last)
  let merged := sorted.foldl (fun acc r =>
    match acc with
    | [] => [r]
    | q :: rest =>
      if r.first ≤ q.last + 1 then ⟨q.first, max q.last r.last⟩ :: rest else r :: acc) []
  merged.reverse

def union (a b : Codepoints) : Codepoints := normalize (a ++ b)

/-- The code points in none of the spans of a normalized set, from `n` on. -/
def complementFrom (n : Nat) : Codepoints → Codepoints
  | [] => if n ≤ top then [⟨n, top⟩] else []
  | r :: rs =>
    if n < r.first then ⟨n, r.first - 1⟩ :: complementFrom (r.last + 1) rs
    else complementFrom (r.last + 1) rs

def complement (s : Codepoints) : Codepoints := complementFrom 0 (normalize s)

def inter (a b : Codepoints) : Codepoints :=
  complement (complement a ++ complement b)

def diff (a b : Codepoints) : Codepoints := inter a (complement b)

def symmDiff (a b : Codepoints) : Codepoints := diff (union a b) (inter a b)

/-! ## Tables written as text -/

/-- The value of a hexadecimal digit. -/
def hexDigit? (c : Char) : Option Nat :=
  if '0' ≤ c ∧ c ≤ '9' then some (c.toNat - '0'.toNat)
  else if 'a' ≤ c ∧ c ≤ 'f' then some (c.toNat - 'a'.toNat + 10)
  else if 'A' ≤ c ∧ c ≤ 'F' then some (c.toNat - 'A'.toNat + 10)
  else none

/-- Reading state of a table: the finished spans, the start of a span whose end is being read, and
the number being read. -/
structure Reading where
  spans : List Span
  start : Option Nat
  number : Option Nat

namespace Reading

/-- The open span, if any, ends here. -/
def close (r : Reading) : Reading :=
  match r.number with
  | none => r
  | some n => ⟨⟨r.start.getD n, n⟩ :: r.spans, none, none⟩

def step (r : Reading) (c : Char) : Reading :=
  match hexDigit? c with
  | some d => { r with number := some (r.number.getD 0 * 16 + d) }
  | none =>
    if c = '.' then
      match r.number with
      | some n => ⟨r.spans, some n, none⟩
      | none => r
    else r.close

end Reading

/-- The spans of a table such as `41..5a aa`. -/
def ofText (table : String) : Codepoints :=
  ((table.toList.foldl Reading.step ⟨[], none, none⟩).close.spans).reverse

end Codepoints

end FieldRules.Text
