import FieldRules.Registry.Measure
import FieldRules.Value.Snapshot
import FieldRules.Walk.Context

/-!
# Walk/Inspect — looking at a field before its rule is run

`guard` walks everything below a field and changes nothing: it fails on a cell that is met while it
is held, and on a value below the depth limit. `zeroHint` tells whether a record is the zero of its
type. `inspect` does both and takes the snapshot that the rule is run on.
-/

namespace FieldRules

/-! ## Guarding -/

/-- Nothing below a value is a cycle or too deep. Cells are held while what is in them is walked. -/
def guard (ctx : Context) : (room : Nat) → Store → Value → (path : String) → Except Error Unit
  | 0, _, _, path => .error (ctx.tooDeep path)
  | room + 1, store, v, path =>
    match v with
    | .leaf _ => .ok ()
    | .absent => .ok ()
    | .present w => guard ctx room store w path
    | .boxed w => guard ctx room store w path
    | .shared c => do
      let (w, held) ← ctx.enter store c path
      guard ctx room held w path
    | .sequence items =>
      items.zipIdx.forM fun (w, i) => guard ctx room store w (Path.index path i)
    | .map entries =>
      entries.forM fun (k, w) => guard ctx room store w (Path.join path k)
    | .record name slots =>
      let r := ctx.schema.record name
      (r.fields.zip (slots.take r.exposed)).forM fun (f, w) =>
        guard ctx room store w (ctx.fieldPath path f.decl)

/-! ## Zero values

Of a record's fields, records are zero when all their fields are, options when absent, sequences and
maps when they have nothing in them, and leaves when their JSON form is empty. Boxes and cells are
looked through. -/

/-- The error for a field that has no JSON form, met while looking for zeros. -/
def unreadableField (ctx : Context) (f : RecordField) (path : String) (u : Unreadable) : Error :=
  .rule path (.unreadable path (f.typ.typeName ctx.schema) u.message)

/-- What decides whether a value is zero: how cells are looked into, and the JSON form of a slot. -/
structure ZeroView where
  deref : CellId → Except Error (Option Bool)
  snapshot : Value → Except Unreadable Json

mutual

/-- Whether a value is zero by its shape; `none` for a leaf. -/
def shapeZero (ctx : Context) (view : ZeroView) (path : String) : Value → Except Error (Option Bool)
  | .leaf _ => .ok none
  | .absent => .ok (some true)
  | .present _ => .ok (some false)
  | .boxed v => shapeZero ctx view path v
  | .shared c => view.deref c
  | .sequence items => .ok (some items.isEmpty)
  | .map entries => .ok (some entries.isEmpty)
  | .record name slots =>
    let r := ctx.schema.record name
    (slotsZero ctx view path r.exposed r.fields slots).map some

/-- Whether the first `exposed` slots are zero; a slot that is not decides. -/
def slotsZero (ctx : Context) (view : ZeroView) (path : String) :
    (exposed : Nat) → List RecordField → List Value → Except Error Bool
  | exposed + 1, f :: fs, v :: vs => do
    let zero ← match ← shapeZero ctx view path v with
      | some b => pure b
      | none =>
        match view.snapshot v with
        | .ok form => pure form.isEmpty
        | .error u => throw (unreadableField ctx f path u)
    if zero then slotsZero ctx view path exposed fs vs else return false
  | _, _, _ => .ok true

end

/-- Whether a value is zero by its shape, through at most `hops` cells within one another. -/
def shapeZeroWithin (ctx : Context) (path : String) :
    (hops : Nat) → Store → Value → Except Error (Option Bool)
  | 0, store, v =>
    shapeZero ctx ⟨fun c => .error (ctx.cycle store c path), Value.snapshot ctx.schema store⟩ path v
  | hops + 1, store, v =>
    shapeZero ctx
      ⟨fun c => do
          let (w, held) ← ctx.enter store c path
          shapeZeroWithin ctx path hops held w,
        Value.snapshot ctx.schema store⟩
      path v

/-- What is known of a value's type: whether it is zero, if it is a record. Options and boxes around
it are looked through, and cells as `deref` says. -/
def hintWith (record : Value → Except Error Hint) (deref : CellId → Except Error Hint) :
    Value → Except Error Hint
  | .present v => hintWith record deref v
  | .boxed v => hintWith record deref v
  | .shared c => deref c
  | .record name slots => record (.record name slots)
  | .leaf _ | .absent | .sequence _ | .map _ => .ok .unknown

/-- What is known of a record's type. -/
def recordHint (ctx : Context) (path : String) (hops : Nat) (store : Store) (v : Value) :
    Except Error Hint :=
  (shapeZeroWithin ctx path hops store v).map Hint.mk

/-- What is known of a value's type, through at most `hops` cells within one another. -/
def zeroHintWithin (ctx : Context) (path : String) :
    (hops : Nat) → Store → Value → Except Error Hint
  | 0, store, v =>
    hintWith (recordHint ctx path 0 store) (fun c => .error (ctx.cycle store c path)) v
  | hops + 1, store, v =>
    hintWith (recordHint ctx path (hops + 1) store) (fun c => do
      let (w, held) ← ctx.enter store c path
      zeroHintWithin ctx path hops held w) v

/-- What is known of a value's type. Each cell can be held once, so there are no more hops than
cells. -/
def zeroHint (ctx : Context) (store : Store) (v : Value) (path : String) : Except Error Hint :=
  zeroHintWithin ctx path (store.cells.length + 1) store v

/-! ## Inspecting a field -/

/-- A field that is looked at: the type and field it is declared by, its own type, and its path. -/
structure Place where
  owner : String
  name : String
  typ : Typ
  path : String

/-- What is known of a field's type, and its JSON form. -/
def inspect (ctx : Context) (room : Nat) (store : Store) (v : Value) (p : Place) :
    Except Error (Hint × Json) := do
  guard ctx room store v p.path
  let hint ← zeroHint ctx store v p.path
  match v.snapshot ctx.schema store with
  | .ok form => return (hint, form)
  | .error u =>
    throw (.rule (p.owner ++ "." ++ p.name)
      (.unreadable p.path (p.typ.typeName ctx.schema) u.message))

end FieldRules
