import FieldRules.Walk.Context
import Mathlib.Data.List.Basic
import Mathlib.Data.List.Lex

/-!
# Proofs/Route — the parts of a value, and the routes down from it

A walk sees a value as a list of **parts**, each at a **site**.  A **route** goes from part to part
and through cells; it knows the sites it passed and the cells it entered.  One step of a route is
one level, so the depth of a node is the number of its sites.
-/

namespace FieldRules

/-! ## Sites and parts -/

/-- Where a part lies: inside an option, a box or a cell, at an index, at a key, or in a field. -/
inductive Site where
  | inner
  | item (i : Nat)
  | entry (key : String)
  | field (owner : String) (i : Nat) (decl : FieldDecl)

/-- How a walk goes down to a part, as far as paths tell: to a field with its name and the one that
it is shown by. -/
inductive Turn where
  | inner
  | item (i : Nat)
  | entry (key : String)
  | field (name : String) (displayName : Option String)

/-- What a turn adds to a path: nothing for options, boxes and cells, and for a field the name that
is asked for. -/
def Turn.steps (displayNames : Bool) : Turn → List Step
  | inner => []
  | item i => [.index i]
  | entry key => [.segment key]
  | field name displayName => [.segment (FieldDecl.segment ⟨name, none, displayName⟩ displayNames)]

/-- The turn to a site. -/
def Site.turn : Site → Turn
  | inner => .inner
  | item i => .item i
  | entry key => .entry key
  | field _ _ d => .field d.name d.displayName

/-- What a site adds to a path. -/
def Site.steps (displayNames : Bool) (site : Site) : List Step := site.turn.steps displayNames

theorem Site.steps_field (displayNames : Bool) (owner : String) (i : Nat) (d : FieldDecl) :
    (field owner i d).steps displayNames = [.segment (d.segment displayNames)] := rfl

/-- A part of a value and the site where it lies. -/
structure Part where
  site : Site
  value : Value

namespace Value

/-- The parts of a value in the order of a walk: those of a record are the fields it exposes. -/
def parts (schema : Schema) (store : Store) : Value → List Part
  | leaf _ => []
  | absent => []
  | present w => [⟨.inner, w⟩]
  | boxed w => [⟨.inner, w⟩]
  | shared c => [⟨.inner, (store.cell c).content⟩]
  | sequence items => items.zipIdx.map fun (w, i) => ⟨.item i, w⟩
  | map entries => entries.map fun (k, w) => ⟨.entry k, w⟩
  | record name slots =>
    let r := schema.record name
    (r.fields.zip (slots.take r.exposed)).zipIdx.map fun ((f, w), i) => ⟨.field name i f.decl, w⟩

theorem values_parts_sequence (schema : Schema) (store : Store) (items : List Value) :
    ((sequence items).parts schema store).map Part.value = items := by
  rw [parts, List.map_map]
  exact List.zipIdx_map_fst 0 items

theorem values_parts_map (schema : Schema) (store : Store) (entries : List (String × Value)) :
    ((map entries).parts schema store).map Part.value = entries.map Prod.snd := by
  rw [parts, List.map_map]
  rfl

theorem values_parts_record (schema : Schema) (store : Store) (name : String)
    (slots : List Value) :
    ((record name slots).parts schema store).map Part.value
      = ((schema.record name).fields.zip (slots.take (schema.record name).exposed)).map
          Prod.snd := by
  rw [parts, List.map_map]
  conv_rhs => rw [← List.zipIdx_map_fst 0 ((schema.record name).fields.zip _), List.map_map]
  rfl

/-- The cell that is entered on the way to the parts of a value, if there is one. -/
def entered : Value → List CellId
  | shared c => [c]
  | _ => []

variable {schema : Schema} {store : Store}

/-- A cell that is held already. -/
def Barred (store : Store) (v : Value) : Prop := ∃ c, v = shared c ∧ store.isHeld c = true

/-- The store while the parts of a value are walked. -/
def heldIn (v : Value) (store : Store) : Store :=
  match v with
  | shared c => store.hold c
  | _ => store

@[simp] theorem cells_heldIn (v : Value) (store : Store) :
    (v.heldIn store).cells = store.cells := by
  cases v <;> rfl

@[simp] theorem heldIn_shared (c : CellId) (store : Store) :
    (shared c).heldIn store = store.hold c := rfl

theorem held_heldIn (v : Value) (store : Store) :
    (v.heldIn store).held = v.entered ++ store.held := by
  cases v <;> rfl

theorem heldIn_of_entered {v : Value} (hv : v.entered = []) (store : Store) :
    v.heldIn store = store := by
  cases v with
  | shared c => cases hv
  | _ => rfl

theorem not_barred_iff {v : Value} :
    ¬ v.Barred store ↔ ∀ c, v = shared c → store.isHeld c = false := by
  simp only [Barred, not_exists, not_and, Bool.not_eq_true]

/-- A cell is held below a value if it was held before or is the value itself. -/
theorem isHeld_heldIn (v : Value) (store : Store) (c : CellId) :
    (v.heldIn store).isHeld c = (store.isHeld c || v.entered.contains c) := by
  cases v with
  | shared d => simp [heldIn, Store.isHeld, Store.hold, entered, Bool.or_comm]
  | _ => simp [heldIn, entered]

/-- The parts of a value depend on the contents of cells only, not on who holds them. -/
theorem parts_of_cells {s s' : Store} (h : s.cells = s'.cells) (v : Value) :
    v.parts schema s = v.parts schema s' := by
  cases v with
  | shared c => simp [parts, Store.cell, h]
  | _ => rfl

/-- The parts of anything but a cell do not depend on the store. -/
theorem parts_of_entered {v : Value} (h : v.entered = []) (s s' : Store) :
    v.parts schema s = v.parts schema s' := by
  cases v with
  | shared c => cases h
  | _ => rfl

end Value

/-! ## Routes -/

/-- A route down from a value: the sites it passes, the cells it enters, and where it ends. -/
inductive Route (schema : Schema) (store : Store) :
    Value → List Site → List CellId → Value → Prop
  | here (v : Value) : Route schema store v [] [] v
  | down {v w : Value} {p : Part} {sites : List Site} {cells : List CellId}
      (hp : p ∈ v.parts schema store) (h : Route schema store p.value sites cells w) :
      Route schema store v (p.site :: sites) (v.entered ++ cells) w

/-- A node that some route leads to. -/
def Below (schema : Schema) (store : Store) (v w : Value) : Prop :=
  ∃ sites cells, Route schema store v sites cells w

/-- A cell that can be reached from its own content. -/
def Loops (schema : Schema) (store : Store) (c : CellId) : Prop :=
  Below schema store (store.cell c).content (.shared c)

namespace Route

variable {schema : Schema} {store : Store}

theorem append {u v w : Value} {sites sites' : List Site} {cells cells' : List CellId}
    (h : Route schema store u sites cells v) (h' : Route schema store v sites' cells' w) :
    Route schema store u (sites ++ sites') (cells ++ cells') w := by
  induction h with
  | here v => exact h'
  | down hp _ ih =>
    rw [List.cons_append, List.append_assoc]
    exact .down hp (ih h')

theorem part {v : Value} {p : Part} (hp : p ∈ v.parts schema store) :
    Route schema store v [p.site] (v.entered ++ []) p.value := .down hp (.here p.value)

/-- **A route stays a route in a store that has the same contents in the cells it enters.** -/
theorem congr {store' : Store} {v w : Value} {sites : List Site} {cells : List CellId}
    (h : Route schema store v sites cells w)
    (hc : ∀ c ∈ cells, (store.cell c).content = (store'.cell c).content) :
    Route schema store' v sites cells w := by
  induction h with
  | here v => exact .here v
  | @down v w p sites cells hp _ ih =>
    refine .down ?_ (ih fun c hmem => hc c (List.mem_append_right _ hmem))
    cases v with
    | shared c =>
      have hcell := hc c (List.mem_append_left _ (List.mem_singleton_self c))
      simpa only [Value.parts, hcell] using hp
    | _ => exact hp

theorem of_cells {store' : Store} (hs : store.cells = store'.cells) {v w : Value}
    {sites : List Site} {cells : List CellId} (h : Route schema store v sites cells w) :
    Route schema store' v sites cells w :=
  h.congr fun c _ => by simp only [Store.cell, hs]

/-- Where a route ends can be reached from the content of every cell that it enters. -/
theorem below_content {v w : Value} {sites : List Site} {cells : List CellId}
    (h : Route schema store v sites cells w) {c : CellId} (hc : c ∈ cells) :
    Below schema store (store.cell c).content w := by
  induction h with
  | here v => cases hc
  | @down v w p sites cells hp h ih =>
    obtain hc | hc := List.mem_append.mp hc
    · cases v with
      | shared d =>
        obtain rfl := List.mem_singleton.mp hc
        obtain rfl := List.mem_singleton.mp hp
        exact ⟨sites, cells, h⟩
      | _ => cases hc
    · exact ih hc

/-- A route to a cell that cannot be reached from itself has not entered the cell. -/
theorem not_mem_of_not_loops {v : Value} {sites : List Site} {cells : List CellId} {c : CellId}
    (h : Route schema store v sites cells (.shared c)) (hc : ¬ Loops schema store c) : c ∉ cells :=
  fun hmem => hc (h.below_content hmem)

end Route

namespace Below

variable {schema : Schema} {store : Store}

theorem refl (v : Value) : Below schema store v v := ⟨[], [], .here v⟩

theorem trans {u v w : Value} (h : Below schema store u v) (h' : Below schema store v w) :
    Below schema store u w := by
  obtain ⟨_, _, h⟩ := h
  obtain ⟨_, _, h'⟩ := h'
  exact ⟨_, _, h.append h'⟩

theorem part {v w : Value} {p : Part} (hp : p ∈ v.parts schema store)
    (h : Below schema store p.value w) : Below schema store v w :=
  trans ⟨_, _, .part hp⟩ h

/-- What is below a cell's content is below the cell. -/
theorem content {c : CellId} {w : Value} (h : Below schema store (store.cell c).content w) :
    Below schema store (.shared c) w :=
  part (p := ⟨.inner, (store.cell c).content⟩) (List.mem_singleton_self _) h

/-- What holds of a value and passes on to all parts holds of every node below. -/
theorem of_closed {P : Value → Prop} (hP : ∀ u, P u → ∀ p ∈ u.parts schema store, P p.value)
    {v w : Value} (hv : P v) (h : Below schema store v w) : P w := by
  obtain ⟨_, _, h⟩ := h
  induction h with
  | here v => exact hv
  | down hp _ ih => exact ih (hP _ hv _ hp)

/-- Nothing is below a leaf but the leaf. -/
theorem eq_of_leaf {l : Leaf} {w : Value} (h : Below schema store (.leaf l) w) : w = .leaf l := by
  obtain ⟨_, _, h⟩ := h
  cases h with
  | here => rfl
  | down hp => cases hp

theorem of_cells {store' : Store} (hs : store.cells = store'.cells) {v w : Value}
    (h : Below schema store v w) : Below schema store' v w := by
  obtain ⟨_, _, h⟩ := h
  exact ⟨_, _, h.of_cells hs⟩

end Below

end FieldRules
