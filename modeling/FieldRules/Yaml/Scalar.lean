import FieldRules.Text.Codepoints
import FieldRules.Yaml.Cursor

/-!
# Yaml/Scalar — reading plain, quoted and block scalars

A line end inside a plain or quoted scalar is a blank, and of several line ends the first is left
out. Block scalars keep their lines or fold them in the same way, and end where the indentation
does.
-/

namespace FieldRules.Yaml

open Text.Codepoints (hexDigit?)

/-! ## Gaps -/

/-- What stands between two words: blanks of one line, or the ends of lines. -/
structure Gap where
  spaces : List Char
  breaks : List (List Char)

namespace Gap

def none : Gap := ⟨[], []⟩

/-- Whether a line ends in the gap. -/
def hasBreak (g : Gap) : Bool := !g.breaks.isEmpty

/-- What the gap is in a text. -/
def text (g : Gap) : List Char :=
  match g.breaks with
  | [] => g.spaces
  | [['\n']] => [' ']
  | ['\n'] :: more => more.flatten
  | breaks => breaks.flatten

/-- The gap that begins at a place. Behind a line end, a tabulator before the column `indent` is a
fault. -/
def read? (indent : Nat) : (fuel : Nat) → Cursor → Gap → Option (Gap × Cursor)
  | 0, c, g => some (g, c)
  | fuel + 1, c, g =>
    match c.peek? with
    | some x =>
      if isSpace x then
        if g.hasBreak then
          if x == '\t' && c.column < indent then .none else read? indent fuel (c.skip 1) g
        else read? indent fuel (c.skip 1) { g with spaces := g.spaces ++ [x] }
      else if isBreak x then
        read? indent fuel c.skipLine { g with breaks := g.breaks ++ [c.breakText] }
      else some (g, c)
    | .none => some (g, c)

end Gap

/-! ## Plain scalars -/

/-- A character that ends a plain scalar inside brackets. -/
def isFlowMark (x : Char) : Bool := x == ',' || x == '[' || x == ']' || x == '{' || x == '}'

/-- How many of the next characters are a word of a plain scalar; `none` if a colon makes it one
that cannot be read. -/
def wordLength? (flow : Bool) : List Char → Option Nat
  | [] => some 0
  | x :: xs =>
    if isSpace x || isBreak x then some 0
    else if flow && x == ':' && xs.head?.any (fun y => isFlowMark y || y == '?') then none
    else if x == ':' && endsWord xs then some 0
    else if flow && (isFlowMark x || x == '?') then some 0
    else (wordLength? flow xs).map (· + 1)

/-- A plain scalar and whether a line ended behind its last word. -/
structure Plain where
  text : List Char
  endsLine : Bool

/-- The rest of a plain scalar after `text`, with a gap between them. -/
def plainFrom? (flow : Bool) (indent : Nat) :
    (fuel : Nat) → Cursor → (text : List Char) → Gap → Option (Plain × Cursor)
  | 0, _, _, _ => none
  | fuel + 1, c, text, gap =>
    if c.atDocumentMark || c.at? '#' then some (⟨text, gap.hasBreak⟩, c)
    else do
      let n ← wordLength? flow c.rest
      if n == 0 then return (⟨text, gap.hasBreak⟩, c)
      let text := text ++ gap.text ++ c.rest.take n
      let c := c.skip n
      if c.rest.isEmpty || !endsWord c.rest then return (⟨text, false⟩, c)
      let (gap, c) ← Gap.read? indent (c.rest.length + 1) c .none
      if !flow && c.column < indent then return (⟨text, gap.hasBreak⟩, c)
      plainFrom? flow indent fuel c text gap

/-- The plain scalar at a place. -/
def plain? (flow : Bool) (indent : Nat) (c : Cursor) : Option (Plain × Cursor) :=
  plainFrom? flow indent (c.rest.length + 1) c [] .none

/-! ## Quoted scalars -/

/-- The number of some hexadecimal digits, if they are `n` digits. -/
def hexNumber? (n : Nat) (cs : List Char) : Option Nat :=
  let ds := cs.take n
  if ds.length == n && ds.all (fun d => (hexDigit? d).isSome) then
    some (ds.foldl (fun v d => 16 * v + (hexDigit? d).getD 0) 0)
  else none

/-- The character that a backslash and what follows it stand for, and how many characters follow. -/
def escaped? : List Char → Option (Char × Nat)
  | [] => none
  | x :: xs =>
    let code (n : Nat) : Option (Char × Nat) := do
      let v ← hexNumber? n xs
      if v.isValidChar then some (Char.ofNat v, n + 1) else none
    match x with
    | '0' => some ('\x00', 1)
    | 'a' => some ('\x07', 1)
    | 'b' => some ('\x08', 1)
    | 't' | '\t' => some ('\t', 1)
    | 'n' => some ('\n', 1)
    | 'v' => some ('\x0b', 1)
    | 'f' => some ('\x0c', 1)
    | 'r' => some ('\r', 1)
    | 'e' => some ('\x1b', 1)
    | ' ' => some (' ', 1)
    | '"' => some ('"', 1)
    | '/' => some ('/', 1)
    | '\\' => some ('\\', 1)
    | 'N' => some ('\u0085', 1)
    | '_' => some ('\u00a0', 1)
    | 'L' => some ('\u2028', 1)
    | 'P' => some ('\u2029', 1)
    | 'x' => code 2
    | 'u' => code 4
    | 'U' => code 8
    | _ => none

/-- The rest of a quoted scalar up to its closing quote, `text` being read already. -/
def quotedFrom? (double : Bool) : (fuel : Nat) → Cursor → (text : List Char) →
    Option (List Char × Cursor)
  | 0, _, _ => none
  | fuel + 1, c, text =>
    if c.atDocumentMark then none
    else match c.rest with
      | [] => none
      | x :: xs =>
        if isSpace x || isBreak x then do
          let (gap, c) ← Gap.read? 0 (c.rest.length + 1) c .none
          quotedFrom? double fuel c (text ++ gap.text)
        else if !double && x == '\'' then
          match xs with
          | '\'' :: _ => quotedFrom? double fuel (c.skip 2) (text ++ ['\''])
          | _ => some (text, c.skip 1)
        else if double && x == '"' then some (text, c.skip 1)
        else if double && x == '\\' then
          match xs with
          | y :: _ =>
            if isBreak y then do
              -- the line goes on behind the blanks of the next one; further line ends count
              let c := (c.skip 1).skipLine
              let (gap, c) ← Gap.read? 0 (c.rest.length + 1) c ⟨[], [[]]⟩
              quotedFrom? double fuel c (text ++ gap.text)
            else do
              let (e, n) ← escaped? xs
              quotedFrom? double fuel (c.skip (n + 1)) (text ++ [e])
          | [] => none
        else quotedFrom? double fuel (c.skip 1) (text ++ [x])

/-- The quoted scalar behind its opening quote. -/
def quoted? (double : Bool) (c : Cursor) : Option (List Char × Cursor) :=
  quotedFrom? double (c.rest.length + 1) c []

/-! ## Block scalars -/

/-- What becomes of the line ends at the end of a block scalar. -/
inductive Chomp where
  | strip
  | clip
  | keep
deriving DecidableEq

def chomp? (c : Cursor) : Option Chomp :=
  if c.at? '+' then some .keep else if c.at? '-' then some .strip else none

/-- The digit of an indentation; zero is a fault. -/
def increment? (c : Cursor) : Option (Option Nat × Cursor) :=
  match c.peek? with
  | some d =>
    if d.isDigit then
      if d == '0' then none else some (some (d.toNat - '0'.toNat), c.skip 1)
    else some (none, c)
  | none => some (none, c)

/-- The chomping and the indentation behind the mark of a block scalar, in either order. -/
def blockHeader? (c : Cursor) : Option (Chomp × Option Nat × Cursor) :=
  match chomp? c with
  | some chomp => do
    let (inc, c) ← increment? (c.skip 1)
    return (chomp, inc, c)
  | none => do
    let (inc, c) ← increment? c
    match inc, chomp? c with
    | some _, some chomp => return (chomp, inc, c.skip 1)
    | _, _ => return (.clip, inc, c)

/-- Empty lines before a line of a block scalar. Without a known indentation the deepest of them
counts. Gives the line ends, the deepest column and the place. -/
def blockBreaks? (indent : Option Nat) :
    (fuel : Nat) → Cursor → (deepest : Nat) → List Char → Option (List Char × Nat × Cursor)
  | 0, c, deepest, breaks => some (breaks, deepest, c)
  | fuel + 1, c, deepest, breaks =>
    let blanks := (c.rest.takeWhile (· == ' ')).length
    let n := match indent with
      | none => blanks
      | some i => min blanks (i - c.column)
    let c := c.skip n
    let deepest := max deepest c.column
    let shallow := match indent with
      | none => true
      | some i => c.column < i
    if shallow && c.at? '\t' then none
    else if c.atBreak then
      blockBreaks? indent fuel c.skipLine deepest (breaks ++ c.breakText)
    else some (breaks, deepest, c)

/-- The lines of a block scalar: the text so far, the end of its last line, the empty lines after
it, and whether that line began with a blank. -/
structure BlockLines where
  text : List Char
  lineEnd : List Char
  empties : List Char
  indented : Bool

/-- The text with the next line, which begins with a blank or not. -/
def BlockLines.join (folds : Bool) (b : BlockLines) (indented : Bool) (line : List Char) :
    List Char :=
  let folded := folds && b.lineEnd == ['\n'] && !b.indented && !indented
  let between := if folded then (if b.empties.isEmpty then [' '] else b.empties)
    else b.lineEnd ++ b.empties
  b.text ++ between ++ line

/-- The lines at an indentation. -/
def blockLines? (folds : Bool) (indent : Nat) :
    (fuel : Nat) → Cursor → BlockLines → Option (BlockLines × Cursor)
  | 0, c, b => some (b, c)
  | fuel + 1, c, b =>
    if c.column == indent && !c.rest.isEmpty then do
      let indented := c.atSpace
      let (line, c) := c.span (!isBreak ·)
      let text := b.join folds indented line
      let lineEnd := if c.rest.isEmpty then [] else c.breakText
      let (empties, _, c) ← blockBreaks? (some indent) (c.rest.length + 1) c.skipLine 0 []
      blockLines? folds indent fuel c ⟨text, lineEnd, empties, indented⟩
    else some (b, c)

/-- The block scalar behind its mark, in a block that is indented by `parent` columns, if it is. -/
def block? (folds : Bool) (parent : Option Nat) (c : Cursor) : Option (List Char × Cursor) := do
  let (chomp, inc, c) ← blockHeader? c
  let c ← c.restOfLine?
  let known := inc.map (· + parent.getD 0)
  let (empties, deepest, c) ← blockBreaks? known (c.rest.length + 1) c 0 []
  let least := match parent with
    | some p => p + 1
    | none => 1
  let indent := known.getD (max deepest least)
  let (b, c) ← blockLines? folds indent (c.rest.length + 1) c ⟨[], [], empties, false⟩
  let ending := match chomp with
    | .strip => []
    | .clip => b.lineEnd
    | .keep => b.lineEnd ++ b.empties
  return (b.text ++ ending, c)

end FieldRules.Yaml
