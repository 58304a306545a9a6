import FieldRules.Text.CaseTable
import FieldRules.Text.Codepoints

/-!
# Text/Case — upper and lower case of whole texts

`upper` maps each character on its own and may lengthen the text. `lower` does too, except that a
capital sigma becomes the final sigma where it ends a word: it follows a cased letter and none
follows it, case-ignorable characters apart.
-/

namespace FieldRules.Text

namespace CaseRun

/-- Whether the run maps this code point. -/
def covers (r : CaseRun) (n : Nat) : Bool :=
  r.first ≤ n && n ≤ r.last && (n - r.first) % r.stride == 0

/-- The code point that a covered one is mapped to. -/
def image (r : CaseRun) (n : Nat) : Nat := (n + r.shift).toNat

end CaseRun

/-- A mapping of code points: runs for single images, and a list for longer ones. -/
structure CaseMap where
  runs : List CaseRun
  expansions : List (Nat × List Nat)

namespace CaseMap

/-- The image of one code point; unmapped ones stay. -/
def image (m : CaseMap) (n : Nat) : List Nat :=
  match m.expansions.lookup n with
  | some ns => ns
  | none =>
    match m.runs.find? (·.covers n) with
    | some r => [r.image n]
    | none => [n]

/-- The image of one character. -/
def onChar (m : CaseMap) (c : Char) : List Char := (m.image c.toNat).map Char.ofNat

end CaseMap

def upperMap : CaseMap := ⟨upperRuns, upperExpansions⟩

def lowerMap : CaseMap := ⟨lowerRuns, lowerExpansions⟩

/-- Every character in upper case. -/
def upper (cs : List Char) : List Char := cs.flatMap upperMap.onChar

/-! ## The final sigma -/

def cased : Codepoints := .ofText casedText

def caseIgnorable : Codepoints := .ofText caseIgnorableText

/-- Whether the first character that is not case-ignorable is cased. -/
def meetsCased (cs : List Char) : Bool :=
  match cs.dropWhile fun c => caseIgnorable.contains c.toNat with
  | [] => false
  | c :: _ => cased.contains c.toNat

/-- Lower case of a capital sigma between the characters before it, last one first, and those
after. -/
def lowerSigma (before after : List Char) : Char :=
  if meetsCased before && !meetsCased after then 'ς' else 'σ'

/-- Lower case of the rest of a text, after the characters `before`, last one first. -/
def lowerAfter (before : List Char) : List Char → List Char
  | [] => []
  | c :: cs =>
    if c = 'Σ' then lowerSigma before cs :: lowerAfter (c :: before) cs
    else lowerMap.onChar c ++ lowerAfter (c :: before) cs

/-- Every character in lower case. -/
def lower (cs : List Char) : List Char := lowerAfter [] cs

/-- `upper` on strings. -/
def uppercase (s : String) : String := String.ofList (upper s.toList)

/-- `lower` on strings. -/
def lowercase (s : String) : String := String.ofList (lower s.toList)

end FieldRules.Text
