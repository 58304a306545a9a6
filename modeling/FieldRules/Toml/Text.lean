import FieldRules.Text.Codepoints

/-!
# Toml/Text — blanks, comments, strings and keys of TOML

Each reader gives what it reads and the text behind it. A line ends with a line feed, which a
carriage return may stand before. Strings and comments hold tabulators and no other control
characters of the first 128.
-/

namespace FieldRules.Toml

open Text.Codepoints (hexDigit?)

/-! ## Gaps -/

/-- A blank or a tabulator. -/
def isSpace (c : Char) : Bool := c == ' ' || c == '\t'

/-- A character of comments and strings. -/
def isText (c : Char) : Bool := c == '\t' || (0x20 ≤ c.toNat && c.toNat ≠ 0x7F)

/-- The text without the blanks it begins with. -/
def dropSpaces (cs : List Char) : List Char := cs.dropWhile isSpace

/-- The text without the comment it begins with. -/
def dropComment : List Char → List Char
  | '#' :: cs => cs.dropWhile isText
  | cs => cs

/-- The text behind the line end it begins with. -/
def newline? : List Char → Option (List Char)
  | '\n' :: cs => some cs
  | '\r' :: '\n' :: cs => some cs
  | _ => none

/-- The text behind the rest of a line that holds blanks and a comment only. -/
def endOfLine? (cs : List Char) : Option (List Char) :=
  let rest := dropComment (dropSpaces cs)
  if rest.isEmpty then some [] else newline? rest

/-- The text without blanks, line ends and, if `comments`, comments at its beginning. -/
def dropLines (comments : Bool) : (fuel : Nat) → List Char → List Char
  | 0, cs => cs
  | fuel + 1, cs =>
    let cs := dropSpaces cs
    match newline? (if comments then dropComment cs else cs) with
    | some rest => dropLines comments fuel rest
    | none => cs

/-- The text without the gap that may stand between the items of an array. -/
def dropGap (cs : List Char) : List Char := dropLines true (cs.length + 1) cs

/-! ## Strings -/

/-- The kinds of string: which quote they stand in, and whether they may have several lines. Only
strings in double quotes have escapes. -/
structure StringForm where
  double : Bool
  lines : Bool
deriving DecidableEq, Repr

def StringForm.quote (f : StringForm) : Char := if f.double then '"' else '\''

/-- The character of `n` hexadecimal digits. -/
def codePoint? (n : Nat) (cs : List Char) : Option (Char × List Char) := do
  let ds ← (cs.take n).mapM hexDigit?
  let code := ds.foldl (fun v d => 16 * v + d) 0
  if ds.length == n && code.isValidChar then some (Char.ofNat code, cs.drop n) else none

/-- The character that is written behind a backslash. -/
def escaped? : List Char → Option (Char × List Char)
  | 'b' :: cs => some ('\x08', cs)
  | 't' :: cs => some ('\t', cs)
  | 'n' :: cs => some ('\n', cs)
  | 'f' :: cs => some ('\x0c', cs)
  | 'r' :: cs => some ('\r', cs)
  | '"' :: cs => some ('"', cs)
  | '\\' :: cs => some ('\\', cs)
  | 'u' :: cs => codePoint? 4 cs
  | 'U' :: cs => codePoint? 8 cs
  | _ => none

/-- The rest of a string behind `read`. In a string of several lines, up to two quotes are text,
three close it, and up to two more before the closing ones are text as well; a backslash at the end
of a line hides what follows up to the next word. -/
def stringFrom? (f : StringForm) :
    (fuel : Nat) → (read : List Char) → List Char → Option (List Char × List Char)
  | 0, _, _ => none
  | _ + 1, _, [] => none
  | fuel + 1, read, c :: cs =>
    if c == f.quote then
      if !f.lines then some (read, cs)
      else
        let quotes := (c :: cs).takeWhile (· == f.quote)
        let n := min quotes.length 5
        if n < 3 then stringFrom? f fuel (read ++ quotes) ((c :: cs).drop n)
        else some (read ++ quotes.take (n - 3), (c :: cs).drop n)
    else if f.double && c == '\\' then
      match if f.lines then newline? (dropSpaces cs) else none with
      | some rest => stringFrom? f fuel read (dropLines false (rest.length + 1) rest)
      | none => do
        let (x, rest) ← escaped? cs
        stringFrom? f fuel (read ++ [x]) rest
    else match if f.lines then newline? (c :: cs) else none with
      | some rest => stringFrom? f fuel (read ++ ['\n']) rest
      | none => if isText c then stringFrom? f fuel (read ++ [c]) cs else none

/-- The string behind its opening quotes. -/
def stringIn? (f : StringForm) (cs : List Char) : Option (String × List Char) :=
  (stringFrom? f (cs.length + 1) [] cs).map fun (text, rest) => (String.ofList text, rest)

/-- A string of one line. -/
def lineString? : List Char → Option (String × List Char)
  | '"' :: cs => stringIn? ⟨true, false⟩ cs
  | '\'' :: cs => stringIn? ⟨false, false⟩ cs
  | _ => none

/-- A string of one line or of several; a line end behind the opening quotes is left out. -/
def string? : List Char → Option (String × List Char)
  | '"' :: '"' :: '"' :: cs => stringIn? ⟨true, true⟩ ((newline? cs).getD cs)
  | '\'' :: '\'' :: '\'' :: cs => stringIn? ⟨false, true⟩ ((newline? cs).getD cs)
  | cs => lineString? cs

/-! ## Keys -/

/-- A character of keys without quotes. -/
def isKeyChar (c : Char) : Bool := c.isAlphanum || c == '-' || c == '_'

/-- One part of a key: a word, or a string of one line. -/
def part? (cs : List Char) : Option (String × List Char) :=
  let word := cs.takeWhile isKeyChar
  if word.isEmpty then lineString? cs else some (String.ofList word, cs.drop word.length)

/-- A key has fewer parts than this. -/
def keyLimit : Nat := 80

/-- At most `room` parts with points between them; blanks stand around parts as one likes. -/
def parts? : (room : Nat) → List Char → Option (List String × List Char)
  | 0, _ => none
  | room + 1, cs => do
    let (part, rest) ← part? (dropSpaces cs)
    match dropSpaces rest with
    | '.' :: rest => do
      let (parts, rest) ← parts? room rest
      return (part :: parts, rest)
    | rest => return ([part], rest)

/-- A key: the tables it leads through, and its last part. -/
structure Key where
  path : List String
  name : String
deriving DecidableEq, Repr

/-- The key that a text begins with. -/
def key? (cs : List Char) : Option (Key × List Char) := do
  let (parts, rest) ← parts? (keyLimit - 1) cs
  let name ← parts.getLast?
  return (⟨parts.dropLast, name⟩, rest)

end FieldRules.Toml
