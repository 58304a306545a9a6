import FieldRules.Numeric.Literal
import FieldRules.Yaml.Document

/-!
# Yaml/Value — scalars as numbers and truth values

A plain scalar is told by its text. A scalar in a literal block is a number or a truth value if its
tag says so, and quoted and folded scalars never are.
-/

namespace FieldRules.Yaml

open Text.Codepoints (hexDigit?)

namespace Scalar

/-- Whether the text may be read as a value of the type that a tag names. -/
def admits (s : Scalar) (type : String) : Bool :=
  match s.style with
  | .plain => true
  | .literal => s.tag == some ("tag:yaml.org,2002:" ++ type)
  | .quoted | .folded => false

/-- The number that digits of a base write, if it has 64 bits. -/
def ofDigitsIn? (base : Nat) (ds : List Char) : Option Nat := do
  let values ← ds.mapM hexDigit?
  let n := values.foldl (fun n d => base * n + d) 0
  if values.isEmpty || values.any (base ≤ ·) || Numeric.maxNatural < n then none else some n

/-- The unsigned integer that a text writes: an optional plus sign, and digits behind the mark of
their base, or decimal digits without a zero before them. -/
def naturalText? (cs : List Char) : Option Nat :=
  match (match cs with | '+' :: cs => cs | cs => cs) with
  | '0' :: 'x' :: ds => ofDigitsIn? 16 ds
  | '0' :: 'o' :: ds => ofDigitsIn? 8 ds
  | '0' :: 'b' :: ds => ofDigitsIn? 2 ds
  | ['0'] => some 0
  | '0' :: _ => none
  | ds => ofDigitsIn? 10 ds

/-- The scalar as an unsigned integer. -/
def natural? (s : Scalar) : Option Nat :=
  if s.admits "int" then naturalText? s.text.toList else none

/-- The scalar as a truth value. -/
def bool? (s : Scalar) : Option Bool :=
  if !s.admits "bool" then none
  else if ["true", "True", "TRUE"].contains s.text then some true
  else if ["false", "False", "FALSE"].contains s.text then some false
  else none

end Scalar

end FieldRules.Yaml
