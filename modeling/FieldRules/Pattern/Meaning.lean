import FieldRules.Pattern.Fold
import FieldRules.Pattern.Parser
import FieldRules.Pattern.Regex

/-!
# Pattern/Meaning — regular expressions of patterns

A pattern's tree means a regular expression under the flags at its place. Flags that a directive
sets hold for all that is read after it in the same group. Without the Unicode flag, a set may have
the first 128 characters only, for others have no single byte.
-/

namespace FieldRules.Pattern

open Text (Span Codepoints)

/-- The flags that hold at a place. -/
structure Flags where
  caseless : Bool
  multiLine : Bool
  dotAll : Bool
  unicode : Bool
  crlf : Bool

namespace Flags

/-- The flags at the beginning of a pattern. -/
def initial : Flags := ⟨false, false, false, true, false⟩

def set (f : Flags) (flag : Flag) (on : Bool) : Flags :=
  match flag with
  | .caseless => { f with caseless := on }
  | .multiLine => { f with multiLine := on }
  | .dotAll => { f with dotAll := on }
  | .unicode => { f with unicode := on }
  | .crlf => { f with crlf := on }
  | .swapGreed | .extended => f

def setAll (f : Flags) (fs : FlagSet) : Flags := fs.foldl (fun f p => f.set p.1 p.2) f

end Flags

/-! ## Sets -/

/-- Whether a set has the first 128 characters only. -/
def isAscii (s : Codepoints) : Bool := s.all fun r => r.last < 0x80

/-- A set in either case, if the flags say so. -/
def folded (f : Flags) (s : Codepoints) : Codepoints :=
  if !f.caseless then s
  else if f.unicode then closure s
  else asciiClosure s

/-- A set, or all characters that are not in it. Without the Unicode flag, the latter are no set. -/
def negatedIf (f : Flags) (negated : Bool) (s : Codepoints) : Option Codepoints :=
  let t := if negated then s.complement else s
  if f.unicode || isAscii t then some t else none

/-- The character that a literal stands for. A byte beyond the first 128 is a character only with
the Unicode flag. -/
def Literal.meaning (f : Flags) (l : Literal) : Option Char :=
  if f.unicode || !l.byte || l.char.toNat < 0x80 then some l.char else none

/-- A literal as a member of a set. -/
def Literal.point (f : Flags) (l : Literal) : Option Nat :=
  if f.unicode || l.char.toNat < 0x80 then some l.char.toNat else none

def LetterClass.meaning (f : Flags) (c : LetterClass) (negated : Bool) : Option Codepoints :=
  let s := match c, f.unicode with
    | .digit, true => digits
    | .space, true => blanks
    | .word, true => wordCharacters
    | .digit, false => (asciiClass? "digit").getD []
    | .space, false => (asciiClass? "space").getD []
    | .word, false => (asciiClass? "word").getD []
  negatedIf f negated s

def Query.meaning (f : Flags) (q : Query) (negated : Bool) : Option Codepoints :=
  if f.unicode then q.resolve?.bind fun s => negatedIf f negated (folded f s) else none

def SetOp.apply (op : SetOp) (a b : Codepoints) : Codepoints :=
  match op with
  | .intersection => a.inter b
  | .difference => a.diff b
  | .symmetricDifference => a.symmDiff b

mutual

def Item.meaning (f : Flags) : Item → Option Codepoints
  | .literal l => (l.point f).map fun n => [⟨n, n⟩]
  | .range a b => do
    let m ← a.point f
    let n ← b.point f
    return [⟨m, n⟩]
  | .ascii name negated => (asciiClass? name).bind fun s => negatedIf f negated (folded f s)
  | .property q negated => q.meaning f negated
  | .letter c negated => c.meaning f negated
  | .bracket negated s => do
    let t ← s.meaning f
    negatedIf f negated (folded f t)

def CharSet.meaning (f : Flags) : CharSet → Option Codepoints
  | .union items => (Item.meanings f items).map Codepoints.normalize
  | .op op a b => do
    let s ← a.meaning f
    let t ← b.meaning f
    return op.apply (folded f s) (folded f t)

def Item.meanings (f : Flags) : List Item → Option Codepoints
  | [] => some []
  | i :: is => do
    let s ← i.meaning f
    let t ← Item.meanings f is
    return s ++ t

end

/-! ## Trees -/

/-- The characters that a dot matches: all, or all that do not end a line. -/
def dotSet (f : Flags) : Codepoints :=
  if f.dotAll then anyCharacter
  else if f.crlf then Codepoints.complement [⟨10, 10⟩, ⟨13, 13⟩]
  else Codepoints.complement [⟨10, 10⟩]

def Assertion.meaning (f : Flags) : Assertion → Look
  | .lineStart =>
    if !f.multiLine then .textStart else if f.crlf then .lineStartCrlf else .lineStart
  | .lineEnd => if !f.multiLine then .textEnd else if f.crlf then .lineEndCrlf else .lineEnd
  | .textStart => .textStart
  | .textEnd => .textEnd
  | .wordBoundary => .wordBoundary f.unicode
  | .noWordBoundary => .noWordBoundary f.unicode
  | .wordStart => .wordStart f.unicode
  | .wordEnd => .wordEnd f.unicode
  | .wordStartHalf => .wordStartHalf f.unicode
  | .wordEndHalf => .wordEndHalf f.unicode

mutual

/-- The regular expression of a tree, and the flags after it. -/
def Tree.meaning (f : Flags) : Tree → Option (Regex × Flags)
  | .empty => some (.empty, f)
  | .flags fs => some (.empty, f.setAll fs)
  | .literal l => (l.meaning f).map fun c => (.chars (folded f [⟨c.toNat, c.toNat⟩]), f)
  | .dot => if f.unicode then some (.chars (dotSet f), f) else none
  | .assertion a => some (.look (a.meaning f), f)
  | .property q negated => (q.meaning f negated).map fun s => (.chars s, f)
  | .letter c negated => (c.meaning f negated).map fun s => (.chars s, f)
  | .bracket negated s => do
    let t ← s.meaning f
    let t ← negatedIf f negated (folded f t)
    return (.chars t, f)
  | .repeated min max t => do
    let (r, f) ← t.meaning f
    return (.repeated min max r, f)
  | .group fs t => do
    let (r, _) ← t.meaning (f.setAll fs)
    return (r, f)
  | .alternatives ts => Tree.anyOf f ts
  | .sequence ts => Tree.allOf f ts

/-- The regular expression of alternatives. -/
def Tree.anyOf (f : Flags) : List Tree → Option (Regex × Flags)
  | [] => some (.nothing, f)
  | t :: ts => do
    let (a, f) ← t.meaning f
    let (b, f) ← Tree.anyOf f ts
    return (.alt a b, f)

/-- The regular expression of a sequence. -/
def Tree.allOf (f : Flags) : List Tree → Option (Regex × Flags)
  | [] => some (.empty, f)
  | t :: ts => do
    let (a, f) ← t.meaning f
    let (b, f) ← Tree.allOf f ts
    return (a.andThen b, f)

end

/-! ## Size -/

/-- Memory for the states of an automaton that takes one character of a set, at 32 bytes a state:
one for each byte of a single character, one with a table for a set of the first 128 characters. For
other sets it is an estimate, two states for each range. -/
def setWeight : Codepoints → Nat
  | [] => 64
  | [r] =>
    if r.first = r.last then 32 * (Char.ofNat r.first).utf8Size
    else if r.last < 0x80 then 32 else 64
  | s => if isAscii s then 32 + 8 * s.length else 64 * s.length

/-- Memory for the states of an automaton that matches the expression. An expression is copied as
often as it may be repeated; an optional copy has a state before it with two ways to go on, and all
of them together have one state after them. -/
def Regex.weight : Regex → Nat
  | .empty | .look _ => 32
  | .chars s => setWeight s
  | .seq a b => a.weight + b.weight
  | .alt a b => a.weight + b.weight + 4
  | .repeated min (some max) r =>
    min * r.weight + (max - min) * (r.weight + 40) + if min < max then 32 else 0
  | .repeated min none r => Nat.max min 1 * r.weight + 40

/-- The greatest weight of an expression: 10 MiB. -/
def maxWeight : Nat := 10 * Numeric.pow2 20

end FieldRules.Pattern
