import FieldRules.Toml.Value

/-!
# Toml/Document — TOML text as a table

Line by line: a line is empty, gives a key its value, or is the header of a table, to which the
values behind it belong. A header in double brackets begins one more of the tables with its name.
-/

namespace FieldRules.Toml

/-- A text read so far: the members of the whole table, and the path of the table whose header came
last. -/
structure Progress where
  members : Members
  here : List String

namespace Progress

/-- The header behind its opening bracket, with the text behind its closing one. -/
def header? (p : Progress) : List Char → Option (Progress × List Char)
  | '[' :: cs => do
    let (key, rest) ← key? cs
    let rest ← behind? (· == ']') (← behind? (· == ']') rest)
    let members ← p.members.openRow? key.path key.name
    return (⟨members, key.path ++ [key.name]⟩, rest)
  | cs => do
    let (key, rest) ← key? cs
    let rest ← behind? (· == ']') rest
    let members ← p.members.openTable? key.path key.name
    return (⟨members, key.path ++ [key.name]⟩, rest)

/-- A key and its value. -/
def assign? (p : Progress) (cs : List Char) : Option (Progress × List Char) := do
  let (key, rest) ← key? cs
  let rest ← behind? (· == '=') rest
  let (v, rest) ← Value.read? (cs.length + 1) maxNesting (dropSpaces rest)
  let members ← p.members.change? false (Members.insertAt? key.path key.name v) p.here .header
  return ({ p with members }, rest)

/-- The lines of a text. Each is at least one character, so `fuel` is the length of the text. -/
def lines? : (fuel : Nat) → Progress → List Char → Option Progress
  | 0, _, _ => none
  | fuel + 1, p, cs =>
    if cs.isEmpty then some p
    else match endOfLine? cs with
      | some rest => lines? fuel p rest
      | none => do
        let (p, rest) ← match dropSpaces cs with
          | '[' :: cs => p.header? cs
          | cs => p.assign? cs
        lines? fuel p (← endOfLine? rest)

end Progress

/-- The table that a text writes. A byte order mark before it is passed over. -/
def ofText? (text : String) : Option Members :=
  let cs := match text.toList with
    | '\uFEFF' :: cs => cs
    | cs => cs
  (Progress.lines? (cs.length + 1) ⟨[], []⟩ cs).map Progress.members

end FieldRules.Toml
