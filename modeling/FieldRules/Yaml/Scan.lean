import FieldRules.Numeric.Literal
import FieldRules.Yaml.Scalar
import FieldRules.Yaml.Token

/-!
# Yaml/Scan — tokens of a YAML text

Outside brackets, indentation opens and closes blocks. What may be a key is told by the colon behind
it only, so the scanner remembers where a key may have begun, and puts the key's token there once
the colon is met. Such a key lies on one line and within 1024 characters.
-/

namespace FieldRules.Yaml

/-- A place where a key may have begun: how many tokens stand before it, and whether there has to be
one. -/
structure KeyStart where
  tokens : Nat
  index : Nat
  line : Nat
  column : Nat
  required : Bool

/-- The state of the scanner. Tokens are kept backwards. The current indentation is the head of
`indents`, and there is none outside all blocks. `keys` has a possible key for the text outside
brackets and for each bracket that is open, innermost first. -/
structure Scanner where
  cursor : Cursor
  tokens : List Token
  indents : List Nat
  keys : List (Option KeyStart)
  keyAllowed : Bool

namespace Scanner

def start (cs : List Char) : Scanner := ⟨.start cs, [], [], [none], true⟩

/-- Whether a bracket is open. -/
def inFlow (s : Scanner) : Bool := 1 < s.keys.length

def push (s : Scanner) (t : Token) : Scanner := { s with tokens := t :: s.tokens }

/-- The scanner behind `n` characters of the line. -/
def skip (s : Scanner) (n : Nat) : Scanner := { s with cursor := s.cursor.skip n }

/-- A token put behind the first `n` tokens. -/
def insert (s : Scanner) (n : Nat) (t : Token) : Scanner :=
  let later := s.tokens.length - n
  { s with tokens := s.tokens.take later ++ t :: s.tokens.drop later }

/-! ## Possible keys -/

/-- The possible keys that are still possible; `none` if a required one is not. -/
def dropStale? (c : Cursor) : List (Option KeyStart) → Option (List (Option KeyStart))
  | [] => some []
  | none :: ks => (dropStale? c ks).map (none :: ·)
  | some k :: ks =>
    if k.line < c.line || k.index + 1024 < c.index then
      if k.required then none else (dropStale? c ks).map (none :: ·)
    else (dropStale? c ks).map (some k :: ·)

/-- The innermost possible key is none; a fault if it was required. -/
def forgetKey? (s : Scanner) : Option Scanner :=
  match s.keys with
  | some k :: ks => if k.required then none else some { s with keys := none :: ks }
  | _ => some s

/-- A key may begin here, if keys are allowed. -/
def noteKey? (s : Scanner) : Option Scanner := do
  if !s.keyAllowed then return s
  let required := !s.inFlow && s.indents.head? == some s.cursor.column
  let s ← s.forgetKey?
  let k : KeyStart :=
    ⟨s.tokens.length, s.cursor.index, s.cursor.line, s.cursor.column, required⟩
  return { s with keys := some k :: s.keys.drop 1 }

/-! ## Indentation -/

/-- Blocks that are indented deeper than a column end. -/
def unroll (column : Nat) : (indents : List Nat) → List Token → List Nat × List Token
  | [], tokens => ([], tokens)
  | i :: is, tokens =>
    if column < i then unroll column is (.blockEnd :: tokens) else (i :: is, tokens)

/-- Blocks end that are indented deeper than the cursor. -/
def unrollHere (s : Scanner) : Scanner :=
  if s.inFlow then s
  else
    let (indents, tokens) := unroll s.cursor.column s.indents s.tokens
    { s with indents, tokens }

/-- All blocks end. -/
def unrollAll (s : Scanner) : Scanner :=
  if s.inFlow then s
  else { s with indents := [], tokens := s.indents.map (fun _ => Token.blockEnd) ++ s.tokens }

/-- Whether a column lies deeper than the current block. -/
def deeper (s : Scanner) (column : Nat) : Bool :=
  match s.indents with
  | [] => true
  | i :: _ => i < column

/-- A block begins if the column lies deeper than the current one; its token is put behind the first
`n`. -/
def roll (s : Scanner) (column n : Nat) (t : Token) : Scanner :=
  if !s.inFlow && s.deeper column then { s.insert n t with indents := column :: s.indents } else s

/-! ## Names, tags and directives -/

/-- A name behind its mark, with something that ends names behind it. -/
def name? (c : Cursor) : Option (String × Cursor) :=
  let (name, c) := c.span isNameChar
  let ends := endsWord c.rest ||
    c.rest.head?.any fun x => ['?', ':', ',', ']', '}', '%', '@', '\x60'].contains x
  if name.isEmpty || !ends then none else some (String.ofList name, c)

/-- A character of a tag, beside letters and digits. -/
def isTagChar (verbatim : Bool) (x : Char) : Bool :=
  isNameChar x || [';', '/', '?', ':', '@', '&', '=', '+', '$', '.', '!', '~', '*', '\'', '(', ')',
    '%'].contains x || (verbatim && [',', '[', ']'].contains x)

/-- Every per cent sign has two hexadecimal digits behind it. -/
def wellEscaped : List Char → Bool
  | [] => true
  | '%' :: cs => (hexNumber? 2 cs).isSome && wellEscaped cs
  | _ :: cs => wellEscaped cs

/-- A tag: in angle brackets, or a handle and what follows it. -/
def tag? (flow : Bool) (c : Cursor) : Option (TagText × Cursor) := do
  let (t, c) ← match c.rest with
    | '!' :: '<' :: _ => do
      let (uri, c) := (c.skip 2).span (isTagChar true)
      if uri.isEmpty || !wellEscaped uri || !c.at? '>' then none
      else some (TagText.mk "" (String.ofList uri), c.skip 1)
    | _ => do
      let (word, c') := (c.skip 1).span isNameChar
      if c'.at? '!' then
        let (rest, c) := (c'.skip 1).span (isTagChar false)
        if rest.isEmpty || !wellEscaped rest then none
        else some (TagText.mk (String.ofList ('!' :: word ++ ['!'])) (String.ofList rest), c)
      else
        let (rest, c) := (c.skip 1).span (isTagChar false)
        if !wellEscaped rest then none
        else if rest.isEmpty then some (TagText.mk "" "!", c)
        else some (TagText.mk "!" (String.ofList rest), c)
  if endsWord c.rest || (flow && c.at? ',') then some (t, c) else none

/-- A number of at most nine digits. -/
def version? (c : Cursor) : Option (Nat × Cursor) :=
  let (ds, c) := c.span Char.isDigit
  if ds.isEmpty || 9 < ds.length then none else some (Numeric.ofDigits ds, c)

/-- A directive behind its per cent sign, up to the end of its line. -/
def directive? (c : Cursor) : Option (Directive × Cursor) := do
  let (name, c) := c.span isNameChar
  if name.isEmpty || !endsWord c.rest then none
  let (d, c) ← match String.ofList name with
    | "YAML" => do
      let (major, c) ← version? (c.dropWhile isSpace)
      if !c.at? '.' then none
      let (minor, c) ← version? (c.skip 1)
      pure (Directive.version major minor, c)
    | "TAG" => do
      let c := c.dropWhile isSpace
      if !c.at? '!' then none
      let (word, c) := (c.skip 1).span isNameChar
      let (handle, c) ← if c.at? '!' then pure ('!' :: word ++ ['!'], c.skip 1)
        else if word.isEmpty then pure (['!'], c)
        else none
      if !c.atSpace then none
      let (start, c) := (c.dropWhile isSpace).span (isTagChar true)
      if start.isEmpty || !wellEscaped start || !endsWord c.rest then none
      pure (Directive.tag (String.ofList handle) (String.ofList start), c)
    | _ => none
  let c ← c.restOfLine?
  return (d, c)

/-! ## Tokens -/

/-- Behind blanks, comments and line ends. A line end outside brackets allows a key again.
Tabulators count as blanks where no key may begin, and a byte order mark does where the text
begins. -/
def toNext : (fuel : Nat) → Scanner → Scanner
  | 0, s => s
  | fuel + 1, s =>
    let tabs := s.inFlow || !s.keyAllowed
    let c := if s.cursor.index == 0 && s.cursor.at? '\uFEFF' then s.cursor.skip 1 else s.cursor
    let c := c.dropWhile fun x => x == ' ' || (tabs && x == '\t')
    let c := if c.at? '#' then c.dropWhile (!isBreak ·) else c
    if c.atBreak then
      toNext fuel { s with cursor := c.skipLine, keyAllowed := s.keyAllowed || !s.inFlow }
    else { s with cursor := c }

/-- A bracket opens. -/
def openBracket? (s : Scanner) (t : Token) : Option Scanner := do
  let s ← s.noteKey?
  return { (s.skip 1).push t with keys := none :: s.keys, keyAllowed := true }

/-- A bracket closes. -/
def closeBracket? (s : Scanner) (t : Token) : Option Scanner := do
  let s ← s.forgetKey?
  let keys := if s.inFlow then s.keys.drop 1 else s.keys
  return { (s.skip 1).push t with keys, keyAllowed := false }

/-- An entry of a sequence in a block. -/
def blockEntry? (s : Scanner) : Option Scanner := do
  if !s.inFlow && !s.keyAllowed then none
  let s ← (s.roll s.cursor.column s.tokens.length .blockSequence).forgetKey?
  return { (s.skip 1).push .blockEntry with keyAllowed := true }

/-- A key with a mark of its own. -/
def key? (s : Scanner) : Option Scanner := do
  if !s.inFlow && !s.keyAllowed then none
  let s ← (s.roll s.cursor.column s.tokens.length .blockMapping).forgetKey?
  return { (s.skip 1).push .key with keyAllowed := !s.inFlow }

/-- A colon: what may have been a key is one. -/
def value? (s : Scanner) : Option Scanner :=
  match s.keys with
  | some k :: ks =>
    let s := (s.insert k.tokens .key).roll k.column k.tokens .blockMapping
    some { (s.skip 1).push .value with keys := none :: ks, keyAllowed := false }
  | _ =>
    if !s.inFlow && !s.keyAllowed then none
    else
      let s := s.roll s.cursor.column s.tokens.length .blockMapping
      some { (s.skip 1).push .value with keyAllowed := !s.inFlow }

/-- A directive or a mark between documents, before which all blocks end. -/
def betweenDocuments? (s : Scanner) : Option Scanner := do
  let s ← s.unrollAll.forgetKey?
  return { s with keyAllowed := false }

/-- A token that may begin a key. -/
def keyLike? (s : Scanner) (read : Cursor → Option (Token × Cursor)) : Option Scanner := do
  let s ← s.noteKey?
  let (t, cursor) ← read s.cursor
  return { s.push t with cursor, keyAllowed := false }

/-- A block scalar. -/
def blockScalar? (s : Scanner) (folds : Bool) : Option Scanner := do
  let s ← s.forgetKey?
  let (text, cursor) ← block? folds s.indents.head? (s.cursor.skip 1)
  let style := if folds then Style.folded else .literal
  return { s.push (.scalar style (String.ofList text)) with cursor, keyAllowed := true }

/-- A plain scalar. -/
def plainScalar? (s : Scanner) : Option Scanner := do
  let s ← s.noteKey?
  let indent := match s.indents with
    | [] => 0
    | i :: _ => i + 1
  let (p, cursor) ← plain? s.inFlow indent s.cursor
  return { s.push (.scalar .plain (String.ofList p.text)) with cursor, keyAllowed := p.endsLine }

/-- The characters that no plain scalar begins with. -/
def isIndicator (x : Char) : Bool := "-?:,[]\x7b\x7d#&*!|>'\"%@\x60".toList.contains x

/-- Whether a plain scalar begins here: a hyphen, and outside brackets a question mark or a colon,
may begin one if something follows at once. -/
def startsPlain (s : Scanner) (x : Char) (xs : List Char) : Bool :=
  !isIndicator x || (x == '-' && !xs.head?.any isSpace) ||
    (!s.inFlow && (x == '?' || x == ':') && !endsWord xs)

/-- The token at the cursor. -/
def token? (s : Scanner) (x : Char) (xs : List Char) : Option Scanner :=
  if s.cursor.column == 0 && x == '%' then do
    let s ← s.betweenDocuments?
    let (d, cursor) ← directive? (s.cursor.skip 1)
    return { s.push (.directive d) with cursor }
  else if s.cursor.atDocumentMark then do
    let s ← s.betweenDocuments?
    return (s.skip 3).push (if x == '-' then .documentStart else .documentEnd)
  else match x with
    | '[' => s.openBracket? .openSequence
    | '{' => s.openBracket? .openMapping
    | ']' => s.closeBracket? .closeSequence
    | '}' => s.closeBracket? .closeMapping
    | ',' => do
      let s ← s.forgetKey?
      return { (s.skip 1).push .flowEntry with keyAllowed := true }
    | '*' => s.keyLike? fun c => (name? (c.skip 1)).map fun (n, c) => (.reference n, c)
    | '&' => s.keyLike? fun c => (name? (c.skip 1)).map fun (n, c) => (.anchor n, c)
    | '!' => s.keyLike? fun c => (tag? s.inFlow c).map fun (t, c) => (.tag t, c)
    | '\'' => s.keyLike? fun c =>
        (quoted? false (c.skip 1)).map fun (t, c) => (.scalar .quoted (String.ofList t), c)
    | '"' => s.keyLike? fun c =>
        (quoted? true (c.skip 1)).map fun (t, c) => (.scalar .quoted (String.ofList t), c)
    | _ =>
      if x == '-' && endsWord xs then s.blockEntry?
      else if x == '?' && (s.inFlow || endsWord xs) then s.key?
      else if x == ':' && (s.inFlow || endsWord xs) then s.value?
      else if x == '|' && !s.inFlow then s.blockScalar? false
      else if x == '>' && !s.inFlow then s.blockScalar? true
      else if s.startsPlain x xs then s.plainScalar?
      else none

/-- All tokens; each step reads at least one character, so `fuel` is the length of the text. -/
def run? : (fuel : Nat) → Scanner → Option Scanner
  | 0, _ => none
  | fuel + 1, s => do
    let s := toNext (s.cursor.rest.length + 1) s
    let keys ← dropStale? s.cursor s.keys
    let s := { s with keys }
    match s.cursor.rest with
    | [] => s.unrollAll.forgetKey?
    | x :: xs =>
      let s ← s.unrollHere.token? x xs
      run? fuel s

end Scanner

/-- The tokens of a text; `none` if a part of it is no token. -/
def tokens? (text : String) : Option (List Token) := do
  let cs := (Cursor.start text.toList).rest
  if !cs.all isPrintable then none
  let s ← Scanner.run? (cs.length + 1) (.start cs)
  return s.tokens.reverse

end FieldRules.Yaml
