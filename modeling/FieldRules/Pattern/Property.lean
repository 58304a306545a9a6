import FieldRules.Pattern.Binary
import FieldRules.Pattern.Category
import FieldRules.Pattern.Script
import FieldRules.Text.Codepoints

/-!
# Pattern/Property — sets of characters by name

Properties, general categories and scripts are found by name, without regard to case, blanks,
hyphens, underscores and a leading `is`. The classes for digits, white space and words are unions of
them.
-/

namespace FieldRules.Pattern

open Text (Span Codepoints)

/-- A name as names are compared. -/
def looseName (name : String) : String :=
  let cs := name.toList.map Char.toLower
  let startsWithIs := cs.take 2 == ['i', 's']
  let rest := if startsWithIs then cs.drop 2 else cs
  let letters := rest.filter fun c => c.toNat < 0x80 && c != ' ' && c != '_' && c != '-'
  if startsWithIs && letters == ['c'] then "isc" else String.ofList letters

/-- The set that a table has under a loose name. -/
def find? (table : List (List String × String)) (name : String) : Option Codepoints :=
  (table.find? fun row => row.1.contains name).map fun row => .ofText row.2

/-- The general categories that are unions of others. -/
def categoryUnions : List (List String × List String) := [
  (["l", "letter"], ["lu", "ll", "lt", "lm", "lo"]),
  (["lc", "casedletter"], ["lu", "ll", "lt"]),
  (["m", "mark", "combiningmark"], ["mn", "mc", "me"]),
  (["n", "number"], ["nd", "nl", "no"]),
  (["p", "punct", "punctuation"], ["pc", "pd", "ps", "pe", "pi", "pf", "po"]),
  (["s", "symbol"], ["sm", "sc", "sk", "so"]),
  (["z", "separator"], ["zs", "zl", "zp"]),
  (["c", "other"], ["cc", "cf", "cn", "co"])]

/-- All code points. -/
def anyCharacter : Codepoints := [⟨0, Codepoints.top⟩]

/-- A general category by loose name. -/
def category? (name : String) : Option Codepoints :=
  if name = "any" then some anyCharacter
  else if name = "assigned" then (find? categories "cn").map Codepoints.complement
  else if name = "ascii" then some [⟨0, 0x7F⟩]
  else match categoryUnions.find? fun row => row.1.contains name with
    | some row => some (Codepoints.normalize (row.2.flatMap fun n => (find? categories n).getD []))
    | none => find? categories name

def script? (name : String) : Option Codepoints := find? scripts name

/-- The characters used with a script. -/
def scriptExtension? (name : String) : Option Codepoints :=
  match find? scriptExtensions name with
  | some s => some s
  | none => find? scripts name

/-- What is asked for: one name, or a value of a property. -/
inductive Query where
  | named (name : String)
  | valued (property value : String)
deriving DecidableEq, Repr

/-- The names that mean a category although they abbreviate a property as well. -/
def categoryFirst : List String := ["cf", "sc", "lc"]

/-- The set that is asked for. One name is a property, a category or a script, in this order. -/
def Query.resolve? : Query → Option Codepoints
  | named name =>
    let n := looseName name
    let binary := if categoryFirst.contains n then none else find? binaryProperties n
    binary <|> category? n <|> script? n
  | valued property value =>
    let p := looseName property
    let v := looseName value
    if p = "gc" ∨ p = "generalcategory" then category? v
    else if p = "sc" ∨ p = "script" then script? v
    else if p = "scx" ∨ p = "scriptextensions" then scriptExtension? v
    else none

/-! ## Classes by letter and by name -/

/-- The decimal digits of all scripts. -/
def digits : Codepoints := (find? categories "nd").getD []

/-- White space. -/
def blanks : Codepoints := (find? binaryProperties "whitespace").getD []

/-- Letters, marks, decimal digits, connecting punctuation and joiners. -/
def wordCharacters : Codepoints :=
  Codepoints.normalize
    (((find? binaryProperties "alphabetic").getD []) ++ ((category? "m").getD []) ++ digits ++
      ((find? categories "pc").getD []) ++ ((find? binaryProperties "joinc").getD []))

/-- Letters, also those that are numbers. -/
def alphabetic : Codepoints := (find? binaryProperties "alphabetic").getD []

/-- Numbers of all kinds. -/
def numeric : Codepoints := (category? "n").getD []

/-- The classes of the first 128 characters by name. -/
def asciiClass? (name : String) : Option Codepoints :=
  match name with
  | "alnum" => some [⟨0x30, 0x39⟩, ⟨0x41, 0x5A⟩, ⟨0x61, 0x7A⟩]
  | "alpha" => some [⟨0x41, 0x5A⟩, ⟨0x61, 0x7A⟩]
  | "ascii" => some [⟨0, 0x7F⟩]
  | "blank" => some [⟨9, 9⟩, ⟨0x20, 0x20⟩]
  | "cntrl" => some [⟨0, 0x1F⟩, ⟨0x7F, 0x7F⟩]
  | "digit" => some [⟨0x30, 0x39⟩]
  | "graph" => some [⟨0x21, 0x7E⟩]
  | "lower" => some [⟨0x61, 0x7A⟩]
  | "print" => some [⟨0x20, 0x7E⟩]
  | "punct" => some [⟨0x21, 0x2F⟩, ⟨0x3A, 0x40⟩, ⟨0x5B, 0x60⟩, ⟨0x7B, 0x7E⟩]
  | "space" => some [⟨9, 13⟩, ⟨0x20, 0x20⟩]
  | "upper" => some [⟨0x41, 0x5A⟩]
  | "word" => some [⟨0x30, 0x39⟩, ⟨0x41, 0x5A⟩, ⟨0x5F, 0x5F⟩, ⟨0x61, 0x7A⟩]
  | "xdigit" => some [⟨0x30, 0x39⟩, ⟨0x41, 0x46⟩, ⟨0x61, 0x66⟩]
  | _ => none

end FieldRules.Pattern
