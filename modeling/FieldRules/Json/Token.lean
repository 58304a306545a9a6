import FieldRules.Numeric.Literal
import FieldRules.Text.Codepoints

/-!
# Json/Token — the words of JSON text

`Token.scan` cuts a text into marks, strings, numbers and the three names, one character at a time.
A number keeps its written form. A string is a list of code points in which a `\u` escape may have
left half of a surrogate pair; `decoded?` is its text if none is alone.
-/

namespace FieldRules.Json

open Text (Codepoints)
open Numeric (isDigit ofDigits)

/-- A number as written: sign, digits before the point, digits after it, and the exponent. -/
structure Literal where
  negative : Bool
  whole : List Char
  fraction : Option (List Char)
  exponent : Option Int
deriving DecidableEq, Repr

/-- Punctuation of JSON. -/
inductive Mark where
  | openObject | closeObject | openArray | closeArray | colon | comma
deriving DecidableEq, Repr

inductive Token where
  | mark (m : Mark)
  | null
  | bool (b : Bool)
  | num (n : Literal)
  | str (codes : List Nat)
deriving DecidableEq, Repr

/-! ## Strings -/

def isHigh (n : Nat) : Bool := 0xD800 ≤ n && n < 0xDC00

def isLow (n : Nat) : Bool := 0xDC00 ≤ n && n < 0xE000

/-- The characters of a list of codes, pairs of surrogates joined; `none` if one is alone. -/
def decoded? : List Nat → Option (List Char)
  | [] => some []
  | [n] => if isHigh n || isLow n then none else some [Char.ofNat n]
  | n :: m :: rest =>
    if isHigh n then
      if isLow m then
        (decoded? rest).map (Char.ofNat (0x10000 + (n - 0xD800) * 0x400 + (m - 0xDC00)) :: ·)
      else none
    else if isLow n then none
    else (decoded? (m :: rest)).map (Char.ofNat n :: ·)

/-- The code of a character after a backslash. -/
def escapedCode? (c : Char) : Option Nat :=
  match c with
  | '"' => some 0x22
  | '\\' => some 0x5C
  | '/' => some 0x2F
  | 'b' => some 8
  | 'f' => some 12
  | 'n' => some 10
  | 'r' => some 13
  | 't' => some 9
  | _ => none

/-! ## Numbers -/

/-- The exponent part of a number. -/
def exponentPart? : List Char → Option (Option Int)
  | [] => some none
  | cs => (Numeric.exponent? cs).map some

/-- The number written by a word: no leading zeros, and digits on both sides of a point. -/
def literal? (word : List Char) : Option Literal :=
  let (negative, cs) := match word with
    | '-' :: cs => (true, cs)
    | cs => (false, cs)
  let (whole, rest) := (cs.takeWhile isDigit, cs.dropWhile isDigit)
  let wellStarted := match whole with
    | [] => false
    | '0' :: _ :: _ => false
    | _ => true
  if !wellStarted then none
  else match rest with
    | '.' :: more =>
      let (fraction, tail) := (more.takeWhile isDigit, more.dropWhile isDigit)
      if fraction.isEmpty then none
      else (exponentPart? tail).map fun e => ⟨negative, whole, some fraction, e⟩
    | _ => (exponentPart? rest).map fun e => ⟨negative, whole, none, e⟩

/-! ## Scanning -/

/-- The token that a word without quotes and marks stands for. -/
def wordToken? (word : List Char) : Option Token :=
  if word = "null".toList then some .null
  else if word = "true".toList then some (.bool true)
  else if word = "false".toList then some (.bool false)
  else (literal? word).map .num

def mark? (c : Char) : Option Mark :=
  match c with
  | '{' => some .openObject
  | '}' => some .closeObject
  | '[' => some .openArray
  | ']' => some .closeArray
  | ':' => some .colon
  | ',' => some .comma
  | _ => none

/-- White space between tokens. -/
def isGap (c : Char) : Bool := c == ' ' || c == '\n' || c == '\t' || c == '\r'

/-- Where the scanner stands: between tokens, in a word, in a string, after a backslash in it, or in
the digits of a `\u` escape, of which `left` are to come. Words and strings are kept backwards. -/
inductive Scan where
  | gap
  | word (read : List Char)
  | str (read : List Nat)
  | escape (read : List Nat)
  | unicode (read : List Nat) (left : Nat) (code : Nat)

/-- The scanner's place and the tokens found, last one first; `none` after a fault. -/
abbrev Scanned := Option (Scan × List Token)

/-- One character outside strings and words. -/
def scanGap (c : Char) (found : List Token) : Scanned :=
  if isGap c then some (.gap, found)
  else if c = '"' then some (.str [], found)
  else match mark? c with
    | some m => some (.gap, .mark m :: found)
    | none => some (.word [c], found)

/-- Whether a character ends a word. -/
def endsWord (c : Char) : Bool := isGap c || c == '"' || (mark? c).isSome

/-- One character. -/
def scanStep (at? : Scanned) (c : Char) : Scanned :=
  match at? with
  | none => none
  | some (.gap, found) => scanGap c found
  | some (.word read, found) =>
    if endsWord c then
      (wordToken? read.reverse).bind fun t => scanGap c (t :: found)
    else some (.word (c :: read), found)
  | some (.str read, found) =>
    if c = '"' then some (.gap, .str read.reverse :: found)
    else if c = '\\' then some (.escape read, found)
    else if c.toNat < 0x20 then none
    else some (.str (c.toNat :: read), found)
  | some (.escape read, found) =>
    if c = 'u' then some (.unicode read 4 0, found)
    else (escapedCode? c).map fun n => (.str (n :: read), found)
  | some (.unicode read left code, found) =>
    (Codepoints.hexDigit? c).map fun d =>
      if left ≤ 1 then (.str ((code * 16 + d) :: read), found)
      else (.unicode read (left - 1) (code * 16 + d), found)

/-- The tokens of a text; `none` if it has a part that is no token. -/
def Token.scan (cs : List Char) : Option (List Token) :=
  match cs.foldl scanStep (some (.gap, [])) with
  | some (.gap, found) => some found.reverse
  | some (.word read, found) => (wordToken? read.reverse).map fun t => (t :: found).reverse
  | _ => none

end FieldRules.Json
