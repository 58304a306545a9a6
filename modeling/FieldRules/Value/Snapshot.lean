import FieldRules.Schema.Record
import FieldRules.Value.Store

/-!
# Value/Snapshot — the JSON form of a value

Options, boxes and cells show their content, records are objects by member name, and maps are
objects. A snapshot fails on an integer beyond 64 bits and on a cell that is held.
-/

namespace FieldRules

/-- Why a value has no JSON form. -/
inductive Unreadable where
  /-- An integer beyond 64 bits. -/
  | outOfRange
  /-- A cell that is held. -/
  | held
  /-- Cells within one another without end. -/
  | endless
deriving DecidableEq, Repr

def Unreadable.message : Unreadable → String
  | outOfRange => "number out of range"
  | held => "already mutably borrowed"
  | endless => "recursion without end"

/-- The JSON form of a leaf. -/
def Leaf.snapshot : Leaf → Except Unreadable Json
  | bool b => .ok (.bool b)
  | char c => .ok (.str c.toString)
  | text s => .ok (.str s)
  | int n => if Number.isExact n then .ok (.int n) else .error .outOfRange
  | double x => .ok (.ofDouble x)
  | unit => .ok .null
  | json v => .ok v

namespace Value

mutual

/-- The JSON form of a value, given that of the cells it refers to. -/
def snapshotWith (schema : Schema) (deref : CellId → Except Unreadable Json) :
    Value → Except Unreadable Json
  | leaf l => l.snapshot
  | absent => .ok .null
  | present v => snapshotWith schema deref v
  | boxed v => snapshotWith schema deref v
  | shared c => deref c
  | sequence items => do
    let vs ← snapshotItems schema deref items
    return .arr vs
  | map entries => do
    let members ← snapshotEntries schema deref entries
    return .ofMembers members
  | record name slots => do
    let members ← snapshotSlots schema deref (schema.record name).fields slots
    return .ofMembers members

def snapshotItems (schema : Schema) (deref : CellId → Except Unreadable Json) :
    List Value → Except Unreadable (List Json)
  | [] => .ok []
  | v :: vs => do
    let a ← snapshotWith schema deref v
    let rest ← snapshotItems schema deref vs
    return a :: rest

def snapshotEntries (schema : Schema) (deref : CellId → Except Unreadable Json) :
    List (String × Value) → Except Unreadable (List (String × Json))
  | [] => .ok []
  | (k, v) :: es => do
    let a ← snapshotWith schema deref v
    let rest ← snapshotEntries schema deref es
    return (k, a) :: rest

def snapshotSlots (schema : Schema) (deref : CellId → Except Unreadable Json) :
    List RecordField → List Value → Except Unreadable (List (String × Json))
  | f :: fs, v :: vs => do
    let a ← snapshotWith schema deref v
    let rest ← snapshotSlots schema deref fs vs
    return (f.key, a) :: rest
  | _, _ => .ok []

end

/-- The JSON form of a value through at most `hops` cells within one another. -/
def snapshotWithin (schema : Schema) (store : Store) : (hops : Nat) → Value → Except Unreadable Json
  | 0, v => snapshotWith schema (fun _ => .error .endless) v
  | hops + 1, v =>
    snapshotWith schema (fun c =>
      if store.isHeld c then .error .held
      else snapshotWithin schema store hops (store.cell c).content) v

/-- The JSON form of a value. Cells that lie within one another without a cycle are no more than
there are in the store. -/
def snapshot (schema : Schema) (store : Store) (v : Value) : Except Unreadable Json :=
  snapshotWithin schema store (store.cells.length + 1) v

end Value

/-! ## Display names -/

/-- The display names of a record's fields that are no member names of its JSON form. -/
def displayNameMismatches (schema : Schema) (store : Store) (name : String) (v : Value) :
    Except Unreadable (List String) := do
  let form ← v.snapshot schema store
  let isMember (a : String) : Bool := match form with
    | .obj members => Dict.contains members a
    | _ => false
  return ((schema.decls name).filterMap FieldDecl.displayName).filter (!isMember ·)

end FieldRules
