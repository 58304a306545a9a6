import FieldRules.Json.Basic

/-!
# Value/Basic — values of records

A value is a leaf or one of the shapes that a run walks through. Shared content lies in cells, which
values refer to by number; several values may refer to one cell. A map lists its entries by
increasing text of the key, each key once.
-/

namespace FieldRules

open Numeric (Double)

/-- A value without inner structure. -/
inductive Leaf where
  | bool (b : Bool)
  | char (c : Char)
  | text (s : String)
  | int (n : Int)
  | double (x : Double)
  | unit
  | json (v : Json)
deriving Repr

/-- The number of a shared cell. -/
abbrev CellId := Nat

inductive Value where
  | leaf (l : Leaf)
  | absent
  | present (v : Value)
  | boxed (v : Value)
  | shared (cell : CellId)
  | sequence (items : List Value)
  | map (entries : List (String × Value))
  | record (name : String) (slots : List Value)
deriving Repr, Inhabited

namespace Value

/-- A map of some entries, by increasing key; of two with one key the later counts. -/
def ofEntries (entries : List (String × Value)) : Value := map (Dict.ofList entries)

/-- The name of a value's shape. -/
def kind : Value → String
  | leaf _ => "scalar"
  | absent | present _ => "optional"
  | boxed _ => "boxed"
  | shared _ => "shared"
  | sequence _ => "sequence"
  | map _ => "map"
  | record _ _ => "record"

end Value

end FieldRules
