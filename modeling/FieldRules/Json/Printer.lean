import FieldRules.Json.Basic
import FieldRules.Numeric.Decimal

/-!
# Json/Printer — compact JSON text

`Json.render` writes a value without blanks. In strings only the quote, the backslash and the
control characters are escaped. `Json.display` is the form used in messages: a string stands for
itself.
-/

namespace FieldRules

namespace Number

def render : Number → String
  | int n => toString n
  | float x => x.render .json

end Number

namespace Json

/-- Four hexadecimal digits. -/
def hex4 (n : Nat) : String :=
  String.ofList ([4096, 256, 16, 1].map fun place => Nat.digitChar (n / place % 16))

/-- One character inside a JSON string. -/
def escapedChar (c : Char) : String :=
  if c = '"' then "\\\""
  else if c = '\\' then "\\\\"
  else if c = '\x08' then "\\b"
  else if c = '\t' then "\\t"
  else if c = '\n' then "\\n"
  else if c = '\x0c' then "\\f"
  else if c = '\r' then "\\r"
  else if c.toNat < 0x20 then "\\u" ++ hex4 c.toNat
  else c.toString

/-- A text as a JSON string. -/
def renderText (s : String) : String := "\"" ++ String.join (s.toList.map escapedChar) ++ "\""

mutual

/-- Compact JSON text. -/
def render : Json → String
  | null => "null"
  | bool b => if b then "true" else "false"
  | num n => n.render
  | str s => renderText s
  | arr items => "[" ++ renderItems items ++ "]"
  | obj members => "\x7b" ++ renderMembers members ++ "\x7d"

def renderItems : List Json → String
  | [] => ""
  | [a] => render a
  | a :: as => render a ++ "," ++ renderItems as

def renderMembers : List (String × Json) → String
  | [] => ""
  | [(k, a)] => renderText k ++ ":" ++ render a
  | (k, a) :: as => renderText k ++ ":" ++ render a ++ "," ++ renderMembers as

end

/-- The form of a value in messages: a string without quotes, any other value as JSON. -/
def display : Json → String
  | str s => s
  | v => v.render

end Json

end FieldRules
