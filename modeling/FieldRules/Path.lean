/-!
# Path — where in a value an issue lies

A path is a text built step by step from the root: a field name or map key is joined by a point, an
element number is written in brackets, and the empty text is the root. `Path.spell` is the text of
a whole list of steps.
-/

namespace FieldRules

/-- One step down: into a field or map entry, or into an element of a sequence. -/
inductive Step where
  | segment (name : String)
  | index (i : Nat)
deriving DecidableEq, Repr

namespace Path

/-- A field name or map key after a path; no point at the root. -/
def join (parent segment : String) : String :=
  if parent.isEmpty then segment else parent ++ "." ++ segment

/-- An element number after a path. -/
def index (parent : String) (i : Nat) : String := parent ++ "[" ++ toString i ++ "]"

/-- One step after a path. -/
def step (parent : String) : Step → String
  | .segment name => join parent name
  | .index i => index parent i

/-- The path of a list of steps below another path. -/
def spellFrom (parent : String) (steps : List Step) : String := steps.foldl step parent

/-- The path of a list of steps from the root. -/
def spell (steps : List Step) : String := spellFrom "" steps

theorem spellFrom_append (parent : String) (a b : List Step) :
    spellFrom parent (a ++ b) = spellFrom (spellFrom parent a) b :=
  List.foldl_append

end Path

end FieldRules
