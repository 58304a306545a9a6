import FieldRules.Pattern.Meaning

/-!
# Pattern/Basic — patterns that strings are matched against

`Pattern.compile?` reads a regular expression, and `Pattern.isMatch` tells whether it matches
somewhere in a string. Nothing else rests on them: rules are made with any `Pattern.Reader`, and
`Pattern.read` is the one that the program uses.
-/

namespace FieldRules

/-- A regular expression, ready to be matched. -/
structure Pattern where
  regex : Pattern.Regex
deriving DecidableEq, Repr

namespace Pattern

/-- The pattern that a text writes; `none` if it writes none, or one that is too large. -/
def compile? (s : String) : Option Pattern := do
  let t ← tree? s.toList
  let (r, _) ← t.meaning .initial
  if r.weight ≤ maxWeight then some ⟨r⟩ else none

/-- The characters of words. -/
def words : Words := ⟨wordCharacters, (asciiClass? "word").getD []⟩

/-- Whether the pattern matches somewhere in a string. -/
def isMatch (p : Pattern) (s : String) : Bool := p.regex.matchesIn words s.toList

/-- Reads a pattern: whether it matches somewhere in a string, or what is wrong with its text. -/
abbrev Reader := String → Except String (String → Bool)

/-- The reader of the program. It has no words of its own for what is wrong. -/
def read : Reader := fun s =>
  match compile? s with
  | none => .error "..."
  | some p => .ok p.isMatch

end Pattern

end FieldRules
