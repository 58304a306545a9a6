import FieldRules.Text.Blank
import FieldRules.Text.Pieces

/-!
# Tag/Basic — annotations as lists of tokens

A tag annotates one field. It names mappers, which change the value one after the other, and
validators, which check the result. `Tag.render` writes a tag as text: the mappers, a comma, the
validators, with semicolons between tokens.
-/

namespace FieldRules

open Text (width pieces joined)

/-- A generator name with its arguments, and the byte offset in the tag at which it stands. -/
structure Token where
  name : String
  args : List String
  position : Nat
deriving DecidableEq, Repr

/-- The mapper tokens and the validator tokens of an annotation. -/
structure Tag where
  mappers : List Token
  validators : List Token
deriving DecidableEq, Repr

namespace Token

/-- The token as text: the name, and the arguments after an equals sign. -/
def render (t : Token) : String :=
  if t.args.isEmpty then t.name else t.name ++ "=" ++ joined "&" t.args

/-- Tokens as text, with semicolons between them. -/
def renderAll (ts : List Token) : String := joined ";" (ts.map render)

/-- The same tokens, each with the position it has when they are written from `offset` on. -/
def placed (offset : Nat) : List Token → List Token
  | [] => []
  | t :: ts => { t with position := offset } :: placed (offset + t.render.utf8ByteSize + 1) ts

end Token

namespace Tag

/-- Whether the annotation names no generator. -/
def isEmpty (t : Tag) : Bool := t.mappers.isEmpty && t.validators.isEmpty

/-- The annotation as text. -/
def render (t : Tag) : String := Token.renderAll t.mappers ++ "," ++ Token.renderAll t.validators

/-- The annotation with the positions its tokens have in `render`. -/
def placed (t : Tag) : Tag :=
  ⟨Token.placed 0 t.mappers,
    Token.placed ((Token.renderAll t.mappers).utf8ByteSize + 1) t.validators⟩

end Tag

end FieldRules
