import FieldRules.Json.Mismatch

/-!
# Issue — one failed check

An issue says what is wrong, in which field, and with which value. `Issue.ofJson` reads an issue
from its JSON form, which is an object with these three members or a list of them in order.
-/

namespace FieldRules

/-- One failed check: the message, the path of the field, and the value as it was checked. -/
structure Issue where
  message : String
  field : String
  value : Json
deriving Repr

namespace Issue

def render (i : Issue) : String :=
  i.field ++ ": " ++ i.message ++ " (value: " ++ i.value.render ++ ")"

def toJson (i : Issue) : Json :=
  .ofMembers [("message", .str i.message), ("field", .str i.field), ("value", i.value)]

def asText : Json → Except Mismatch String
  | .str s => .ok s
  | v => .error (.ofJson v "a string")

/-- The members met so far. -/
structure Draft where
  message : Option String
  field : Option String
  value : Option Json

/-- One member of an issue object; unknown ones are passed over. -/
def Draft.add (d : Draft) (member : String × Json) : Except Mismatch Draft :=
  match member with
  | ("message", v) => (asText v).map fun s => { d with message := some s }
  | ("field", v) => (asText v).map fun s => { d with field := some s }
  | ("value", v) => .ok { d with value := some v }
  | _ => .ok d

/-- The issue of a complete draft, or its first missing member. -/
def Draft.finish (d : Draft) : Except Mismatch Issue :=
  match d.message, d.field, d.value with
  | none, _, _ => .error (.missing "message")
  | _, none, _ => .error (.missing "field")
  | _, _, none => .error (.missing "value")
  | some m, some f, some v => .ok ⟨m, f, v⟩

def tooShort (found : Nat) : Mismatch := .length found "struct Issue with 3 elements"

/-- An issue from its JSON form. -/
def ofJson : Json → Except Mismatch Issue
  | .obj members => do
    let d ← members.foldlM Draft.add ⟨none, none, none⟩
    d.finish
  | .arr [] => .error (tooShort 0)
  | .arr [m] => do
    let _ ← asText m
    .error (tooShort 1)
  | .arr [m, f] => do
    let _ ← asText m
    let _ ← asText f
    .error (tooShort 2)
  | .arr (m :: f :: v :: rest) => do
    let message ← asText m
    let field ← asText f
    if rest.isEmpty then .ok ⟨message, field, v⟩ else .error (.tooLong (rest.length + 3))
  | v => .error (.ofJson v "struct Issue")

end Issue

end FieldRules
