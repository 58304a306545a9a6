import FieldRules.Numeric.Literal
import FieldRules.Pattern.Tree
import FieldRules.Text.Blank

/-!
# Pattern/Cursor — reading characters, numbers and escapes of a pattern

The characters that are still to be read, and the pieces of a pattern that do not contain patterns:
decimal numbers, escapes, names. In the extended form, blanks and comments after a character are
passed over. A piece that cannot be read makes the whole pattern one that cannot be read.
-/

namespace FieldRules.Pattern

open Text (isBlank)
open Text.Codepoints (hexDigit?)

/-- Blanks, and comments up to the end of their line, passed over; `inComment` says where one
stands. -/
def skipGaps (inComment : Bool) : List Char → List Char
  | [] => []
  | c :: cs =>
    if inComment then skipGaps (c != '\n') cs
    else if c == '#' then skipGaps true cs
    else if isBlank c then skipGaps false cs
    else c :: cs

/-- The characters from the next one that counts. -/
def skip (extended : Bool) (cs : List Char) : List Char :=
  if extended then skipGaps false cs else cs

/-- The character that comes after the first one, gaps passed over. In a comment the search ends at
the first character that is no blank. -/
def peekFrom (extended inComment : Bool) : List Char → Option Char
  | [] => none
  | c :: cs =>
    if !extended then some c
    else if isBlank c then peekFrom extended inComment cs
    else if !inComment && c == '#' then peekFrom extended true cs
    else some c

/-- The decimal digits of a number, gaps between them passed over. -/
def decimalDigits (extended : Bool) : (fuel : Nat) → List Char → List Char × List Char
  | 0, cs => ([], cs)
  | fuel + 1, cs =>
    match cs with
    | c :: rest =>
      if Numeric.isDigit c then
        let (ds, rest) := decimalDigits extended fuel (skip extended rest)
        (c :: ds, rest)
      else ([], cs)
    | [] => ([], [])

/-- The bound of a repetition: a number below `2 ^ 32` with blanks around it; `some none` if there
is none. -/
def bound? (extended : Bool) (cs : List Char) : Option (Option Nat × List Char) :=
  let cs := cs.dropWhile isBlank
  let (ds, rest) := decimalDigits extended cs.length cs
  let rest := skip extended (rest.dropWhile isBlank)
  if ds.isEmpty then some (none, rest)
  else
    let n := Numeric.ofDigits ds
    if n < Numeric.pow2 32 then some (some n, rest) else none

/-! ## Escapes -/

/-- The number of some hexadecimal digits. -/
def hexValue (cs : List Char) : Nat := cs.foldl (fun n c => 16 * n + (hexDigit? c).getD 0) 0

/-- The character with a code point. -/
def charOf? (n : Nat) : Option Char := if n.isValidChar then some (Char.ofNat n) else none

/-- Exactly `n` hexadecimal digits. -/
def hexDigits? (extended : Bool) : (n : Nat) → List Char → Option (List Char × List Char)
  | 0, cs => some ([], cs)
  | n + 1, c :: cs =>
    if (hexDigit? c).isSome then
      (hexDigits? extended n (skip extended cs)).map fun (ds, rest) => (c :: ds, rest)
    else none
  | _ + 1, [] => none

/-- The text up to a closing brace, which is passed over; gaps do not count. -/
def braced? (extended : Bool) : (fuel : Nat) → List Char → Option (List Char × List Char)
  | 0, _ => none
  | fuel + 1, cs =>
    match skip extended cs with
    | [] => none
    | c :: rest =>
      if c == '}' then some ([], rest)
      else (braced? extended fuel rest).map fun (ds, rest) => (c :: ds, rest)

/-- A character written as hexadecimal digits after `x`, `u` or `U`: a fixed number of them, or any
number in braces. -/
def hexLiteral? (extended : Bool) (kind : Char) (cs : List Char) : Option (Literal × List Char) :=
  let count := if kind == 'x' then 2 else if kind == 'u' then 4 else 8
  match skip extended cs with
  | '{' :: rest => do
    let (ds, rest) ← braced? extended (rest.length + 1) rest
    if ds.isEmpty || !ds.all (fun c => (hexDigit? c).isSome) then none
    else
      let c ← charOf? (hexValue ds)
      return (⟨c, false⟩, skip extended rest)
  | rest => do
    let (ds, rest) ← hexDigits? extended count rest
    let c ← charOf? (hexValue ds)
    return (⟨c, kind == 'x'⟩, rest)

/-- The text before and after the first place at which another text stands. -/
def splitAt? (mark : List Char) : List Char → Option (List Char × List Char)
  | [] => none
  | c :: cs =>
    if mark.isPrefixOf (c :: cs) then some ([], (c :: cs).drop mark.length)
    else (splitAt? mark cs).map fun (before, after) => (c :: before, after)

/-- A property by its text: a name, or a name and a value. -/
def queryOf (text : List Char) : Query :=
  let valued (p : List Char × List Char) : Query :=
    .valued (String.ofList p.1) (String.ofList p.2)
  match splitAt? ['!', '='] text <|> splitAt? [':'] text <|> splitAt? ['='] text with
  | some p => valued p
  | none => .named (String.ofList text)

/-- A property after `p`: one letter, or a text in braces. -/
def query? (extended : Bool) (cs : List Char) : Option (Query × List Char) :=
  match skip extended cs with
  | [] => none
  | '{' :: rest => do
    let (text, rest) ← braced? extended (rest.length + 1) rest
    return (queryOf text, rest)
  | '\\' :: _ => none
  | c :: rest => some (.named c.toString, skip extended rest)

/-- The characters with a meaning of their own, which an escape takes from them. -/
def isMeta (c : Char) : Bool := "\\.+*?()|[]\x7b\x7d^$#&-~".toList.contains c

/-- The characters that may be escaped without need. -/
def isEscapable (c : Char) : Bool :=
  isMeta c || (c.toNat < 0x80 && !c.isAlphanum && c != '<' && c != '>')

/-- The control characters that have a letter. -/
def control? (c : Char) : Option Char :=
  match c with
  | 'a' => some '\x07'
  | 'f' => some '\x0c'
  | 't' => some '\t'
  | 'n' => some '\n'
  | 'r' => some '\r'
  | 'v' => some '\x0b'
  | _ => none

/-- The assertions that have a letter. -/
def assertion? (c : Char) : Option Assertion :=
  match c with
  | 'A' => some .textStart
  | 'z' => some .textEnd
  | 'B' => some .noWordBoundary
  | '<' => some .wordStart
  | '>' => some .wordEnd
  | _ => none

/-- The special boundaries by name. -/
def boundary? (name : String) : Option Assertion :=
  match name with
  | "start" => some .wordStart
  | "end" => some .wordEnd
  | "start-half" => some .wordStartHalf
  | "end-half" => some .wordEndHalf
  | _ => none

/-- The letters of a boundary's name, gaps passed over. -/
def boundaryName (extended : Bool) : (fuel : Nat) → List Char → List Char × List Char
  | 0, cs => ([], cs)
  | fuel + 1, cs =>
    match cs with
    | c :: rest =>
      if c.isAlpha || c == '-' then
        let (name, rest) := boundaryName extended fuel (skip extended rest)
        (c :: name, rest)
      else ([], cs)
    | [] => ([], [])

/-- What follows `b`: a boundary's name in braces, or nothing that belongs to it. -/
def wordBoundary? (extended : Bool) (cs : List Char) : Option (Assertion × List Char) :=
  match cs with
  | '{' :: rest =>
    match skip extended rest with
    | [] => none
    | c :: more =>
      if c.isAlpha || c == '-' then
        let (name, rest) := boundaryName extended (more.length + 1) (c :: more)
        match rest with
        | '}' :: rest => (boundary? (String.ofList name)).map fun a => (a, rest)
        | _ => none
      else some (.wordBoundary, cs)
  | _ => some (.wordBoundary, cs)

/-- What stands after a backslash. -/
inductive Escape where
  | literal (l : Literal)
  | assertion (a : Assertion)
  | property (query : Query) (negated : Bool)
  | letter (c : LetterClass) (negated : Bool)

/-- The escape after a backslash. -/
def escape? (extended : Bool) : List Char → Option (Escape × List Char)
  | [] => none
  | c :: cs =>
    match c with
    | 'x' | 'u' | 'U' => (hexLiteral? extended c cs).map fun (l, rest) => (.literal l, rest)
    | 'p' => (query? extended cs).map fun (q, rest) => (.property q false, rest)
    | 'P' => (query? extended cs).map fun (q, rest) => (.property q true, rest)
    | 'd' => some (.letter .digit false, cs)
    | 'D' => some (.letter .digit true, cs)
    | 's' => some (.letter .space false, cs)
    | 'S' => some (.letter .space true, cs)
    | 'w' => some (.letter .word false, cs)
    | 'W' => some (.letter .word true, cs)
    | 'b' => (wordBoundary? extended cs).map fun (a, rest) => (.assertion a, rest)
    | _ =>
      if isEscapable c then some (.literal ⟨c, false⟩, cs)
      else match control? c with
        | some d => some (.literal ⟨d, false⟩, cs)
        | none => (assertion? c).map fun a => (.assertion a, cs)

end FieldRules.Pattern
