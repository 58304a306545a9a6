/-!
# Yaml/Token — the tokens of YAML text

Marks, names and scalars. Blocks that are told by indentation have tokens for their beginning and
end.
-/

namespace FieldRules.Yaml

/-- How a scalar is written. -/
inductive Style where
  | plain
  | quoted
  | literal
  | folded
deriving DecidableEq, Repr

/-- A tag as written: a handle and what follows it. -/
structure TagText where
  handle : String
  rest : String
deriving DecidableEq, Repr

/-- A line for the reader of a document. -/
inductive Directive where
  | version (major minor : Nat)
  | tag (handle : String) (start : String)
deriving DecidableEq, Repr

inductive Token where
  | directive (d : Directive)
  | documentStart
  | documentEnd
  | blockSequence
  | blockMapping
  | blockEnd
  | openSequence
  | closeSequence
  | openMapping
  | closeMapping
  | blockEntry
  | flowEntry
  | key
  | value
  | reference (name : String)
  | anchor (name : String)
  | tag (t : TagText)
  | scalar (style : Style) (text : String)
deriving DecidableEq, Repr

end FieldRules.Yaml
