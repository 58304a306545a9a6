/-!
# Dict — association lists sorted by key

A dictionary lists its entries by increasing key, each key once. `insert` keeps that order and
replaces the entry of an equal key.
-/

namespace FieldRules

/-- Entries by increasing key. -/
abbrev Dict (α : Type) := List (String × α)

namespace Dict

variable {α : Type}

def get? (d : Dict α) (key : String) : Option α := d.lookup key

def contains (d : Dict α) (key : String) : Bool := (get? d key).isSome

def keys (d : Dict α) : List String := d.map Prod.fst

/-- The dictionary with `key` bound to `value`. -/
def insert (key : String) (value : α) : Dict α → Dict α
  | [] => [(key, value)]
  | entry :: rest =>
    if key < entry.1 then (key, value) :: entry :: rest
    else if key = entry.1 then (key, value) :: rest
    else entry :: insert key value rest

/-- The dictionary of a list of entries; of two with one key the later counts. -/
def ofList (entries : List (String × α)) : Dict α :=
  entries.foldl (fun d e => insert e.1 e.2 d) []

/-- The order that dictionaries keep. -/
def Sorted (d : Dict α) : Prop := d.Pairwise fun a b => a.1 < b.1

end Dict

end FieldRules
