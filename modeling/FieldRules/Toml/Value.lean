import FieldRules.Toml.Table
import FieldRules.Toml.Text

/-!
# Toml/Value — reading values

`Value.read?` reads the value that a text begins with. Arrays may have line ends and comments
between their items and a comma behind the last one. Tables written as values may not.
-/

namespace FieldRules.Toml

/-- How many arrays and tables may lie within one another in a value. -/
def maxNesting : Nat := 79

namespace Value

/-- A value that is neither a string nor holds other values; which one is told by its first
character. What could be the beginning of a moment is tried as one first. -/
def simple? (cs : List Char) : Option (Value × List Char) :=
  match cs with
  | 't' :: 'r' :: 'u' :: 'e' :: rest => some (.boolean true, rest)
  | 'f' :: 'a' :: 'l' :: 's' :: 'e' :: rest => some (.boolean false, rest)
  | _ =>
    ((moment? cs).map fun (m, rest) => (.moment m, rest)).or
      (((float? cs).map fun (x, rest) => (.float x, rest)).or
        ((integer? cs).map fun (n, rest) => (.integer n, rest)))

mutual

/-- The value that a text begins with, nested at most `room` deep. -/
def read? : (fuel : Nat) → (room : Nat) → List Char → Option (Value × List Char)
  | 0, _, _ => none
  | fuel + 1, room, cs =>
    match cs with
    | '[' :: cs => do
      if room == 0 then none
      let (items, rest) ← items? fuel (room - 1) cs
      return (.array items, rest)
    | '{' :: cs => do
      if room == 0 then none
      let (members, rest) ← members? fuel (room - 1) true [] cs
      return (.table .inline members, rest)
    | '"' :: _ | '\'' :: _ => (string? cs).map fun (s, rest) => (.string s, rest)
    | _ => simple? cs

/-- The items of an array, up to its closing bracket. -/
def items? : (fuel : Nat) → (room : Nat) → List Char → Option (List Value × List Char)
  | 0, _, _ => none
  | fuel + 1, room, cs =>
    match dropGap cs with
    | ']' :: rest => some ([], rest)
    | cs => do
      let (item, rest) ← read? fuel room cs
      match dropGap rest with
      | ',' :: rest => do
        let (items, rest) ← items? fuel room rest
        return (item :: items, rest)
      | ']' :: rest => return ([item], rest)
      | _ => none

/-- The members of a table up to its closing brace; `first` if there are none so far. -/
def members? : (fuel : Nat) → (room : Nat) → (first : Bool) → Members → List Char →
    Option (Members × List Char)
  | 0, _, _, _, _ => none
  | fuel + 1, room, first, ms, cs =>
    match first, dropSpaces cs with
    | true, '}' :: rest => some (ms, rest)
    | _, cs => do
      let (key, rest) ← key? cs
      let rest ← behind? (· == '=') rest
      let (v, rest) ← read? fuel room (dropSpaces rest)
      let ms ← ms.insertAt? key.path key.name v .header
      match dropSpaces rest with
      | ',' :: rest => members? fuel room false ms rest
      | '}' :: rest => return (ms, rest)
      | _ => none

end

end Value

end FieldRules.Toml
