import FieldRules.Text.Codepoints

/-!
# Pattern/Regex — regular expressions and where they match

A regular expression is built from sets of characters and from conditions on a place between two
characters. `matchesIn` decides whether it matches somewhere in a text. It keeps the expressions
that the rest of the text may still match, and goes through the text character by character: `after`
gives what remains of an expression once a character is taken.
-/

namespace FieldRules.Pattern

open Text (Codepoints)

/-- A condition on a place. Those for words tell whether words have characters of all scripts. -/
inductive Look where
  | textStart
  | textEnd
  | lineStart
  | lineEnd
  | lineStartCrlf
  | lineEndCrlf
  | wordBoundary (unicode : Bool)
  | noWordBoundary (unicode : Bool)
  | wordStart (unicode : Bool)
  | wordEnd (unicode : Bool)
  | wordStartHalf (unicode : Bool)
  | wordEndHalf (unicode : Bool)
deriving DecidableEq, Repr

inductive Regex where
  /-- Matches the empty text. -/
  | empty
  /-- Matches one character of a set. -/
  | chars (set : Codepoints)
  /-- Matches the empty text where a condition holds. -/
  | look (l : Look)
  | seq (first second : Regex)
  | alt (left right : Regex)
  /-- Matches at least `min` and at most `max` texts of `inner` in a row. -/
  | repeated (min : Nat) (max : Option Nat) (inner : Regex)
deriving DecidableEq, Repr

/-- A place in a text: the characters before and after it. -/
structure Place where
  before : Option Char
  after : Option Char

/-- What counts as a character of a word. -/
structure Words where
  unicode : Codepoints
  ascii : Codepoints

/-- Whether there is a character of a word. -/
def Words.has (w : Words) (unicode : Bool) (c : Option Char) : Bool :=
  match c with
  | none => false
  | some c => (if unicode then w.unicode else w.ascii).contains c.toNat

/-- Whether a condition holds at a place. -/
def Look.holds (w : Words) (p : Place) : Look → Bool
  | textStart => p.before.isNone
  | textEnd => p.after.isNone
  | lineStart => p.before.isNone || p.before == some '\n'
  | lineEnd => p.after.isNone || p.after == some '\n'
  | lineStartCrlf =>
    p.before.isNone || p.before == some '\n' || (p.before == some '\r' && p.after != some '\n')
  | lineEndCrlf =>
    p.after.isNone || p.after == some '\r' || (p.after == some '\n' && p.before != some '\r')
  | wordBoundary u => w.has u p.before != w.has u p.after
  | noWordBoundary u => w.has u p.before == w.has u p.after
  | wordStart u => !w.has u p.before && w.has u p.after
  | wordEnd u => w.has u p.before && !w.has u p.after
  | wordStartHalf u => !w.has u p.before
  | wordEndHalf u => !w.has u p.after

namespace Regex

/-- Matches nothing. -/
def nothing : Regex := chars []

/-- One after the other; the empty expression is left out. -/
def andThen (a b : Regex) : Regex :=
  match a with
  | empty => b
  | _ => seq a b

/-- Whether the expression matches the empty text at a place. -/
def matchesEmpty (w : Words) (p : Place) : Regex → Bool
  | empty => true
  | chars _ => false
  | look l => l.holds w p
  | seq a b => a.matchesEmpty w p && b.matchesEmpty w p
  | alt a b => a.matchesEmpty w p || b.matchesEmpty w p
  | repeated min _ r => min == 0 || r.matchesEmpty w p

/-- What remains of an expression once the character `c` after `before` is taken; each possibility
is one element. An inner expression that matches the empty text here may count as often as is still
needed. -/
def after (w : Words) (before : Option Char) (c : Char) : Regex → List Regex
  | empty => []
  | chars s => if s.contains c.toNat then [empty] else []
  | look _ => []
  | seq a b =>
    let first := (a.after w before c).map (·.andThen b)
    if a.matchesEmpty w ⟨before, some c⟩ then first ++ b.after w before c else first
  | alt a b => a.after w before c ++ b.after w before c
  | repeated min max r =>
    if max == some 0 then []
    else
      let left := if r.matchesEmpty w ⟨before, some c⟩ then 0 else min - 1
      let rest := repeated left (max.map (· - 1)) r
      (r.after w before c).map (·.andThen rest)

/-- Whether one of the expressions `live`, or `r` from here on or later, matches. -/
def matchesFrom (w : Words) (r : Regex) (before : Option Char) : List Regex → List Char → Bool
  | live, [] => (r :: live).any (·.matchesEmpty w ⟨before, none⟩)
  | live, c :: cs =>
    let all := r :: live
    all.any (·.matchesEmpty w ⟨before, some c⟩) ||
      matchesFrom w r (some c) (all.flatMap (·.after w before c)).eraseDups cs

/-- Whether the expression matches somewhere in a text. -/
def matchesIn (w : Words) (r : Regex) (cs : List Char) : Bool := matchesFrom w r none [] cs

end Regex

end FieldRules.Pattern
