import FieldRules.Json.Basic
import FieldRules.Json.Token

/-!
# Json/Document — JSON text as a tree

A `Document` is what a JSON text says, member for member in the order written: repeated names, the
written form of numbers and strings without a text are all kept. `Document.parse?` reads a text, and
`Document.value` gives the JSON value of a document that has one.
-/

namespace FieldRules.Json

/-- The tree of a JSON text. A string or a name is `none` if it has no text. -/
inductive Document where
  | null
  | bool (b : Bool)
  | num (n : Literal)
  | str (s : Option String)
  | arr (items : List Document)
  | obj (members : List (Option String × Document))
deriving Repr, Inhabited

namespace Document

/-! ## Reading -/

/-- A container that is not closed yet; what it holds is kept backwards. In an object, the name
whose value is awaited. -/
inductive Frame where
  | arr (items : List Document)
  | obj (members : List (Option String × Document)) (name : Option String)

/-- What may come next. -/
inductive Next where
  | value
  | valueOrClose
  | name
  | nameOrClose
  | colon
  | commaOrClose
deriving DecidableEq

/-- A text read so far: the open containers, innermost first, and what may come next; or the
finished document. -/
inductive Progress where
  | reading (frames : List Frame) (next : Next)
  | done (d : Document)

/-- A finished value goes into the innermost container, or is the document. -/
def Progress.put (d : Document) : List Frame → Progress
  | [] => .done d
  | .arr items :: frames => .reading (.arr (d :: items) :: frames) .commaOrClose
  | .obj members name :: frames =>
    .reading (.obj ((name, d) :: members) none :: frames) .commaOrClose

def textOf (codes : List Nat) : Option String := (decoded? codes).map String.ofList

/-- One token where a value is awaited. -/
def Progress.startValue (frames : List Frame) : Token → Option Progress
  | .null => some (.put .null frames)
  | .bool b => some (.put (.bool b) frames)
  | .num n => some (.put (.num n) frames)
  | .str codes => some (.put (.str (textOf codes)) frames)
  | .mark .openArray => some (.reading (.arr [] :: frames) .valueOrClose)
  | .mark .openObject => some (.reading (.obj [] none :: frames) .nameOrClose)
  | .mark _ => none

/-- The innermost container ends. -/
def Progress.close : List Frame → Mark → Option Progress
  | .arr items :: frames, .closeArray => some (.put (.arr items.reverse) frames)
  | .obj members _ :: frames, .closeObject => some (.put (.obj members.reverse) frames)
  | _, _ => none

/-- One token where a name is awaited. -/
def Progress.startName : List Frame → Token → Option Progress
  | .obj members _ :: frames, .str codes =>
    some (.reading (.obj members (textOf codes) :: frames) .colon)
  | _, _ => none

/-- One token. -/
def Progress.step (p : Option Progress) (t : Token) : Option Progress :=
  match p with
  | none => none
  | some (.done _) => none
  | some (.reading frames next) =>
    match next, t with
    | .value, t => startValue frames t
    | .valueOrClose, .mark .closeArray => close frames .closeArray
    | .valueOrClose, t => startValue frames t
    | .name, t => startName frames t
    | .nameOrClose, .mark .closeObject => close frames .closeObject
    | .nameOrClose, t => startName frames t
    | .colon, .mark .colon => some (.reading frames .value)
    | .colon, _ => none
    | .commaOrClose, .mark .comma =>
      match frames with
      | .arr _ :: _ => some (.reading frames .value)
      | .obj _ _ :: _ => some (.reading frames .name)
      | [] => none
    | .commaOrClose, .mark m => close frames m
    | .commaOrClose, _ => none

/-- The document of a text; `none` if the text is not JSON. -/
def parse? (s : String) : Option Document := do
  let tokens ← Token.scan s.toList
  match tokens.foldl Progress.step (some (.reading [] .value)) with
  | some (.done d) => some d
  | _ => none

/-! ## Values -/

/-- The number that a literal writes: an integer if it has neither point nor exponent, fits 64 bits
and is not minus zero, and otherwise the nearest double, which has to be finite. -/
def number? (l : Literal) : Option Number :=
  let n : Nat := Numeric.ofDigits l.whole
  let i : Int := if l.negative then -n else n
  if l.fraction.isNone && l.exponent.isNone && Number.isExact i && !(l.negative && n == 0) then
    some (.int i)
  else
    let fraction := l.fraction.getD []
    let x := Numeric.Double.ofDecimal l.negative (Numeric.ofDigits (l.whole ++ fraction))
      (l.exponent.getD 0 - fraction.length)
    if x.isFinite then some (.float x) else none

mutual

/-- The value of a document nested at most `depth` deep: all numbers in range, all strings with a
text, and of two members with one name the later. -/
def value? : (depth : Nat) → Document → Option Json
  | _, null => some .null
  | _, bool b => some (.bool b)
  | _, num n => (number? n).map .num
  | _, str s => s.map .str
  | 0, arr _ => none
  | 0, obj _ => none
  | depth + 1, arr items => (values? depth items).map .arr
  | depth + 1, obj members => (membersOf? depth members).map .ofMembers

def values? : (depth : Nat) → List Document → Option (List Json)
  | _, [] => some []
  | depth, d :: ds => do
    let v ← value? depth d
    let vs ← values? depth ds
    return v :: vs

def membersOf? : (depth : Nat) → List (Option String × Document) → Option (List (String × Json))
  | _, [] => some []
  | depth, (name, d) :: ds => do
    let k ← name
    let v ← value? depth d
    let vs ← membersOf? depth ds
    return (k, v) :: vs

end

end Document

/-- How many containers may lie within one another in a text that is read as a value. -/
def maxNesting : Nat := 127

/-- The value that a text writes. -/
def ofText? (s : String) : Option Json := (Document.parse? s).bind (Document.value? maxNesting)

end FieldRules.Json
