/-!
# Yaml/Cursor — a place in YAML text

The characters still to be read, with the line and the column of the first of them. A line ends with
a line feed, a carriage return, both, or one of the three separators beyond the first 128
characters.
-/

namespace FieldRules.Yaml

/-- A place in a text: what follows, how many characters were read, and line and column from
zero. -/
structure Cursor where
  rest : List Char
  index : Nat
  line : Nat
  column : Nat

/-- A character that ends a line. -/
def isBreak (c : Char) : Bool :=
  c == '\n' || c == '\r' || c == '\u0085' || c == '\u2028' || c == '\u2029'

/-- A blank or a tabulator. -/
def isSpace (c : Char) : Bool := c == ' ' || c == '\t'

/-- A blank, the end of a line, or the end of the text. -/
def endsWord : List Char → Bool
  | [] => true
  | c :: _ => isSpace c || isBreak c

/-- A character of names: a letter, a digit, a hyphen or an underscore. -/
def isNameChar (c : Char) : Bool := c.isAlphanum || c == '-' || c == '_'

/-- A character that may stand in YAML text. -/
def isPrintable (c : Char) : Bool :=
  let n := c.toNat
  n == 9 || n == 10 || n == 13 || (0x20 ≤ n && n ≤ 0x7E) || n == 0x85 ||
    (0xA0 ≤ n && n ≤ 0xD7FF) || (0xE000 ≤ n && n ≤ 0xFFFD) || (0x10000 ≤ n && n ≤ 0x10FFFF)

namespace Cursor

/-- The beginning of a text; a byte order mark is passed over. -/
def start (cs : List Char) : Cursor :=
  match cs with
  | '\uFEFF' :: rest => ⟨rest, 0, 0, 0⟩
  | _ => ⟨cs, 0, 0, 0⟩

def peek? (c : Cursor) : Option Char := c.rest.head?

/-- Whether the text continues with a character. -/
def at? (c : Cursor) (x : Char) : Bool := c.rest.head? == some x

/-- Behind `n` characters of the line. -/
def skip (c : Cursor) (n : Nat) : Cursor :=
  ⟨c.rest.drop n, c.index + n, c.line, c.column + n⟩

/-- Behind the end of the line, which comes next. -/
def skipLine (c : Cursor) : Cursor :=
  match c.rest with
  | '\r' :: '\n' :: rest => ⟨rest, c.index + 2, c.line + 1, 0⟩
  | _ :: rest => ⟨rest, c.index + 1, c.line + 1, 0⟩
  | [] => c

/-- What the end of the line, which comes next, is in a text: a line feed, or one of the separators
that stay as they are. -/
def breakText (c : Cursor) : List Char :=
  match c.rest with
  | '\u2028' :: _ => ['\u2028']
  | '\u2029' :: _ => ['\u2029']
  | _ => ['\n']

/-- The next characters with a property, and the place behind them; they are all of one line. -/
def span (c : Cursor) (p : Char → Bool) : List Char × Cursor :=
  let taken := c.rest.takeWhile p
  (taken, c.skip taken.length)

/-- Behind the next characters with a property. -/
def dropWhile (c : Cursor) (p : Char → Bool) : Cursor := (c.span p).2

def atBreak (c : Cursor) : Bool := c.rest.head?.any isBreak

def atSpace (c : Cursor) : Bool := c.rest.head?.any isSpace

/-- Whether the text continues with a mark between documents: three hyphens or points at the start
of a line, with nothing joined to them. -/
def atDocumentMark (c : Cursor) : Bool :=
  c.column == 0 && match c.rest with
    | '-' :: '-' :: '-' :: rest => endsWord rest
    | '.' :: '.' :: '.' :: rest => endsWord rest
    | _ => false

/-- Behind blanks and a comment, at the end of the line; `none` if something else stands before
it. -/
def restOfLine? (c : Cursor) : Option Cursor :=
  let c := c.dropWhile isSpace
  let c := if c.at? '#' then c.dropWhile (!isBreak ·) else c
  if c.rest.isEmpty then some c else if c.atBreak then some c.skipLine else none

end Cursor

end FieldRules.Yaml
