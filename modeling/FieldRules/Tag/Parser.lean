import FieldRules.Error
import FieldRules.Tag.Basic

/-!
# Tag/Parser — reading annotations

A tag splits at its first comma into mappers and validators; without a comma it holds validators
only. Each part splits at semicolons into pieces, which are trimmed, and blank pieces are passed
over. A piece is a name, and arguments after an equals sign with ampersands between them. A piece
without a name, or with white space in its name, is a fault at the byte where that shows.
-/

namespace FieldRules

open Text (width pieces cut? trim isBlank)

/-- A trimmed piece of a tag, and the byte offset of its first character. -/
structure Piece where
  position : Nat
  text : List Char
deriving DecidableEq, Repr

namespace Piece

/-- The pieces of a part, which begins at `offset`, trimmed; blank ones are left out. -/
def locate (offset : Nat) : List (List Char) → List Piece
  | [] => []
  | raw :: rest =>
    let start := offset + width (raw.takeWhile isBlank)
    let later := locate (offset + width raw + 1) rest
    match trim raw with
    | [] => later
    | text => ⟨start, text⟩ :: later

/-- The name and the arguments as written. -/
def split (p : Piece) : List Char × List (List Char) :=
  match cut? '=' p.text with
  | none => (p.text, [])
  | some (name, args) => (trim name, pieces '&' args)

/-- What is wrong with a piece, and the byte where it shows. -/
def fault? (p : Piece) : Option (Nat × TagFault) :=
  let (name, _) := p.split
  if name.isEmpty then some (p.position, .missingName (String.ofList p.text))
  else if name.any isBlank then
    some (p.position + width (name.takeWhile (!isBlank ·)), .blankInName (String.ofList name))
  else none

/-- The token of a piece without faults. -/
def token (p : Piece) : Token :=
  let (name, args) := p.split
  ⟨String.ofList name, args.map String.ofList, p.position⟩

end Piece

namespace Tag

/-- The mapper part, the validator part, and the byte offset of the latter. -/
def parts (tag : List Char) : List Char × List Char × Nat :=
  match cut? ',' tag with
  | none => ([], tag, 0)
  | some (mappers, validators) => (mappers, validators, width mappers + 1)

/-- The tokens of some pieces, or the fault of the first faulty one. -/
def tokens (tag : String) : List Piece → Except RuleError (List Token)
  | [] => .ok []
  | p :: ps =>
    match p.fault? with
    | some (position, fault) => .error (.malformed tag position fault)
    | none => do
      let ts ← tokens tag ps
      return p.token :: ts

/-- The annotation that a text writes. -/
def parse (tag : String) : Except RuleError Tag := do
  let (mapperPart, validatorPart, offset) := parts tag.toList
  let mappers ← tokens tag (Piece.locate 0 (pieces ';' mapperPart))
  let validators ← tokens tag (Piece.locate offset (pieces ';' validatorPart))
  return ⟨mappers, validators⟩

end Tag

end FieldRules
