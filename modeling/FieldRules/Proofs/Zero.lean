import FieldRules.Proofs.Depth
import FieldRules.Proofs.Rounding
import FieldRules.Proofs.Settling
import FieldRules.Registry.Builtin

/-!
# Proofs/Zero — which records are the zero of their type

A look for zeros goes through records, boxes and cells to the **ends** of a value.  A record is
zero iff all its ends are blank (`exists_recordZero`), and a hint tells so of the record that is
left when options, boxes and cells are taken off a value (`zero_hint_exact`).  A value without
cycles is let through by a guard that has room enough (`guard_of_meetsFresh`); the proofs go down
level by level with it.
-/

namespace FieldRules

/-! ## Empty JSON forms -/

namespace Numeric

theorem Double.isZero_signed (negative : Bool) (u : Nat) :
    (Double.signed negative u).isZero = true ↔ u = 0 := by
  cases negative <;> simp [Double.isZero, Double.equal, Double.units?, Double.zero]

end Numeric

/-- The integer zero, or one of the two floating-point zeros. -/
def Number.IsZero : Number → Prop
  | .int n => n = 0
  | .float x => ∃ negative, x = .signed negative 0

theorem Number.isZero_toDouble_iff (n : Number) : n.toDouble.isZero = true ↔ n.IsZero := by
  rcases n with n | _ | ⟨negative, u⟩
  · simp [Number.toDouble, Number.IsZero, Numeric.Double.ofInt, Numeric.Double.ofRatio,
      Numeric.Double.isZero_signed, Numeric.Format.round_eq_zero_iff]
  · simp [Number.toDouble, Number.IsZero, Numeric.Double.isZero, Numeric.Double.equal,
      Numeric.Double.units?]
  · simp [Number.toDouble, Number.IsZero, Numeric.Double.isZero_signed]

/-- Null, false, a number that is zero, and texts, lists and objects with nothing in them. -/
def Json.IsNothing : Json → Prop
  | null => True
  | bool b => b = false
  | num n => n.IsZero
  | str s => s = ""
  | arr items => items = []
  | obj members => members = []

theorem Json.isEmpty_iff (j : Json) : j.isEmpty = true ↔ j.IsNothing := by
  rcases j with _ | _ | _ | _ | _ | _ <;>
    simp [Json.isEmpty, Json.IsNothing, Number.isZero_toDouble_iff]

/-! ## Ends -/

/-- Where one comes to from a value by going on inside values of some sort. -/
inductive LeadsTo (schema : Schema) (store : Store) (Through : Value → Prop) : Value → Value → Prop
  | here {v : Value} (hv : ¬ Through v) : LeadsTo schema store Through v v
  | down {v e : Value} {p : Part} (hv : Through v) (hp : p ∈ v.parts schema store)
      (h : LeadsTo schema store Through p.value e) : LeadsTo schema store Through v e

namespace Value

/-- Present options, boxes and cells: what may lie around a record. -/
def IsWrapper : Value → Prop
  | present _ | boxed _ | shared _ => True
  | _ => False

/-- Records, boxes and cells: what a look for zeros goes through. -/
def IsOpen : Value → Prop
  | boxed _ | shared _ | record _ _ => True
  | _ => False

/-- Ends that are zero: absent options, sequences and maps with nothing in them, and leaves with a
JSON form that is nothing. -/
def Blank : Value → Prop
  | absent => True
  | sequence items => items = []
  | map entries => entries = []
  | leaf l => ∃ j, l.snapshot = .ok j ∧ j.IsNothing
  | _ => False

end Value

section

variable {schema : Schema} {store : Store} {Through : Value → Prop} {v e : Value}

theorem leadsTo_of_not (h : ¬ Through v) : LeadsTo schema store Through v e ↔ e = v := by
  constructor
  · rintro (_ | ⟨hv, _⟩)
    · rfl
    · exact absurd hv h
  · rintro rfl
    exact .here h

theorem leadsTo_iff (h : Through v) : LeadsTo schema store Through v e ↔
    ∃ p ∈ v.parts schema store, LeadsTo schema store Through p.value e := by
  constructor
  · rintro (hv | ⟨_, hp, he⟩)
    · exact absurd h hv
    · exact ⟨_, hp, he⟩
  · rintro ⟨p, hp, he⟩
    exact .down h hp he

theorem LeadsTo.of_cells {store' : Store} (hs : store.cells = store'.cells)
    (h : LeadsTo schema store Through v e) : LeadsTo schema store' Through v e := by
  induction h with
  | here hv => exact .here hv
  | @down v _ _ hv hp _ ih => exact .down hv (Value.parts_of_cells hs v ▸ hp) ih

end

/-! ## Values without cycles -/

variable {ctx : Context} {st : Store} {v : Value}

theorem Store.sizeOf_content_lt {c : CellId} (hc : c < st.cells.length) :
    sizeOf (st.cell c).content < sizeOf st.cells := by
  have hcell : st.cell c = st.cells[c] := by
    rw [Store.cell, List.getD_eq_getElem?_getD, List.getElem?_eq_getElem hc]
    rfl
  have hmem := List.sizeOf_lt_of_mem (List.getElem_mem hc)
  rw [hcell]
  generalize st.cells[c] = cell at hmem ⊢
  rcases cell with ⟨typ, content⟩
  simp only [Cell.mk.sizeOf_spec] at hmem ⊢
  omega

/-- The content of a free cell costs less than the cell, once it is held. -/
theorem Store.cost_hold_lt {c : CellId} (hc : c < st.cells.length) (hfree : st.isHeld c = false) :
    (st.hold c).free * sizeOf st.cells + sizeOf (st.cell c).content <
      st.free * sizeOf st.cells + sizeOf (Value.shared c) := by
  have hfewer := Nat.mul_le_mul_right (sizeOf st.cells) (Store.free_hold_lt hc hfree)
  have hsize := Store.sizeOf_content_lt hc
  rw [Nat.succ_mul] at hfewer
  omega

/-- **A value without cycles is let through if there is room enough**: a cell costs as much as all
the cells together may take, and everything else what it takes itself. -/
theorem guard_of_meetsFresh {room : Nat} (hv : v.MeetsFresh ctx.schema st)
    (hroom : st.free * sizeOf st.cells + sizeOf v < room) (path : String) :
    guard ctx room st v path = .ok () := by
  induction room generalizing st v path with
  | zero => omega
  | succ room ih =>
    rw [guard_succ hv.not_barred, forM_eq_ok]
    intro p hp
    cases v with
    | shared c =>
      obtain rfl := List.mem_singleton.mp hp
      obtain hc | hc := Nat.lt_or_ge c st.cells.length
      · have hcost := Store.cost_hold_lt hc (hv [] [] c (.here _)).1
        exact ih (hv.part hp) (hcost.trans_le (Nat.le_of_lt_succ hroom)) _
      · -- A cell that was never made has a leaf in it, for which any room will do.
        rw [Store.cell_of_le hc]
        obtain ⟨room, rfl⟩ : ∃ n, room = n + 1 := Nat.exists_eq_succ_of_ne_zero (by grind)
        rfl
    | _ =>
      have hsize := Value.sizeOf_part_lt rfl hp
      exact ih (hv.part hp) (show st.free * sizeOf st.cells + sizeOf p.value < room by omega) _

/-! ## Looking for zeros -/

/-- All ends that a look for zeros comes to from a value are blank. -/
def Value.AllBlank (schema : Schema) (store : Store) (v : Value) : Prop :=
  ∀ e, LeadsTo schema store Value.IsOpen v e → e.Blank

section

variable {schema : Schema} {store : Store}

theorem allBlank_of_not_isOpen (h : ¬ v.IsOpen) : v.AllBlank schema store ↔ v.Blank := by
  simp [Value.AllBlank, leadsTo_of_not h]

theorem allBlank_iff (h : v.IsOpen) :
    v.AllBlank schema store ↔ ∀ p ∈ v.parts schema store, p.value.AllBlank schema store := by
  simp only [Value.AllBlank, leadsTo_iff h]
  exact ⟨fun hall p hp e he => hall e ⟨p, hp, he⟩, fun hall e ⟨p, hp, he⟩ => hall p hp e he⟩

theorem allBlank_of_cells {store' : Store} (hs : store.cells = store'.cells) :
    v.AllBlank schema store ↔ v.AllBlank schema store' :=
  ⟨fun h e he => h e (he.of_cells hs.symm), fun h e he => h e (he.of_cells hs)⟩

end

/-- What a look for zeros from a store makes of a value.  It knows whether all ends are blank, or
else the JSON form tells. -/
structure Judged (ctx : Context) (st : Store) (v : Value) (s : Store) (hops : Nat)
    (shape : Option Bool) (form : Json) : Prop where
  shows : ∀ path, shapeZeroWithin ctx path hops s v = .ok shape
  reads : shape = none → v.snapshotWithin ctx.schema s hops = .ok form
  decides : shape.getD form.isEmpty = true ↔ v.AllBlank ctx.schema st

theorem Judged.of_cells {st' s : Store} {hops : Nat} {shape : Option Bool} {form : Json}
    (hs : st.cells = st'.cells) (h : Judged ctx st v s hops shape form) :
    Judged ctx st' v s hops shape form :=
  ⟨h.shows, h.reads, h.decides.trans (allBlank_of_cells hs)⟩

/-- From every store that is seen the same is made of a value. -/
def Value.Judgeable (ctx : Context) (st : Store) (v : Value) : Prop :=
  ∃ shape form, ∀ s hops, st.Sees s hops → Judged ctx st v s hops shape form

/-- A value that shows whether all ends are blank can be judged. -/
theorem judgeable_of_shape {b : Bool} (hb : b = true ↔ v.AllBlank ctx.schema st)
    (h : ∀ s hops path, st.Sees s hops → shapeZeroWithin ctx path hops s v = .ok (some b)) :
    v.Judgeable ctx st :=
  ⟨some b, .null, fun s hops hsees => ⟨fun path => h s hops path hsees, nofun, hb⟩⟩

/-- An end is judged as it is. -/
theorem judgeable_of_end (b : Bool) (hopen : ¬ v.IsOpen) (hb : b = true ↔ v.Blank)
    (h : ∀ s hops path, shapeZeroWithin ctx path hops s v = .ok (some b)) : v.Judgeable ctx st :=
  judgeable_of_shape (hb.trans (allBlank_of_not_isOpen hopen).symm) fun s hops path _ =>
    h s hops path

theorem judged_leaf {l : Leaf} {j : Json} (h : l.snapshot = .ok j) (s : Store) (hops : Nat) :
    Judged ctx st (.leaf l) s hops none j where
  shows path := by rw [shapeZeroWithin_eq, shapeZero]
  reads _ := by rw [Value.snapshotWithin_eq, Value.snapshotWith, h]
  decides := by
    rw [allBlank_of_not_isOpen (v := .leaf l) id, Option.getD_none, j.isEmpty_iff]
    simp [Value.Blank, h]

/-- A slot is zero as its shape says, or else its JSON form. -/
theorem slotZero_eq {shape : Option Bool} {form : Json}
    (view : ZeroView) (hview : shape = none → view.snapshot v = .ok form) (path : String)
    (f : RecordField) :
    slotZero ctx view path f v shape = .ok (shape.getD form.isEmpty) := by
  rcases shape with _ | b
  · simp [slotZero, hview, pure, Except.pure]
  · rfl

/-- **Slots that can be judged are zero iff all ends of all of them are blank.** -/
theorem exists_slotsZero_eq (exposed : Nat) (fields : List RecordField) (slots : List Value)
    (h : ∀ w ∈ (fields.zip (slots.take exposed)).map Prod.snd, w.Judgeable ctx st) :
    ∃ b, (b = true ↔ ∀ w ∈ (fields.zip (slots.take exposed)).map Prod.snd,
        w.AllBlank ctx.schema st) ∧
      ∀ s hops path, st.Sees s hops →
        slotsZero ctx ⟨cellZero ctx path hops s, Value.snapshot ctx.schema s⟩ path exposed fields
          slots = .ok b := by
  induction exposed generalizing fields slots with
  | zero => exact ⟨true, by simp, fun _ _ _ _ => by rw [slotsZero]; simp⟩
  | succ exposed ih =>
    rcases fields with _ | ⟨f, fields⟩
    · exact ⟨true, by simp, fun _ _ _ _ => by rw [slotsZero]; simp⟩
    rcases slots with _ | ⟨w, slots⟩
    · exact ⟨true, by simp, fun _ _ _ _ => by rw [slotsZero]; simp⟩
    simp only [List.take_succ_cons, List.zip_cons_cons, List.map_cons, List.forall_mem_cons] at h ⊢
    obtain ⟨⟨shape, form, hw⟩, hslots⟩ := h
    obtain ⟨rest, hrest, hzero⟩ := ih _ _ hslots
    have hdecides := (hw st _ (.refl st)).decides
    refine ⟨shape.getD form.isEmpty && rest, ?_, fun s hops path hsees => ?_⟩
    · rw [Bool.and_eq_true, hdecides, hrest]
    · rw [slotsZero_cons, ← shapeZeroWithin_eq, (hw s hops hsees).shows path]
      change (slotZero _ _ _ _ _ _ >>= _) = _
      rw [slotZero_eq _ (hw s _ hsees.snapshot).reads]
      cases shape.getD form.isEmpty
      · rfl
      · exact hzero s hops path hsees

/-- A box is judged like its content. -/
theorem Judged.boxed {s : Store} {hops : Nat} {shape : Option Bool} {form : Json}
    (h : Judged ctx st v s hops shape form) : Judged ctx st (.boxed v) s hops shape form where
  shows path := by
    rw [shapeZeroWithin_eq, shapeZero, ← shapeZeroWithin_eq]
    exact h.shows path
  reads hshape := by
    rw [Value.snapshotWithin_eq, Value.snapshotWith, ← Value.snapshotWithin_eq]
    exact h.reads hshape
  decides := by
    rw [h.decides, allBlank_iff (v := .boxed v) trivial]
    simp [Value.parts]

/-- A free cell is judged like its content, if that is judged alike with the cell held and not. -/
theorem Judged.shared {c : CellId} {s : Store} {hops : Nat} {shape : Option Bool} {form : Json}
    (hfree : s.isHeld c = false) (hcells : s.cells = st.cells)
    (h : Judged ctx st (st.cell c).content s hops shape form)
    (hheld : Judged ctx st (st.cell c).content (s.hold c) hops shape form) :
    Judged ctx st (.shared c) s (hops + 1) shape form where
  shows path := by
    rw [shapeZeroWithin_eq, shapeZero]
    change cellZero ctx path (hops + 1) s c = _
    rw [cellZero, Context.enter, hfree, Store.cell, hcells]
    exact hheld.shows path
  reads hshape := by
    rw [Value.snapshotWithin_eq, Value.snapshotWith, cellForm, hfree, Store.cell, hcells]
    exact h.reads hshape
  decides := by
    rw [h.decides, allBlank_iff (v := .shared c) trivial]
    simp [Value.parts]

theorem judgeable_shared {c : CellId} (hfree : st.isHeld c = false)
    (h : ∃ shape form, ∀ s hops, (st.hold c).Sees s hops →
      Judged ctx st (st.cell c).content s hops shape form) : (Value.shared c).Judgeable ctx st := by
  obtain ⟨shape, form, hin⟩ := h
  obtain ⟨⟨shape, form⟩, h⟩ := Store.exists_below hfree
    (P := fun w s hops (a : Option Bool × Json) => Judged ctx st w s hops a.1 a.2)
    ⟨(shape, form), hin⟩ ⟨(none, .null), fun s hops => judged_leaf rfl s hops⟩
  refine ⟨shape, form, fun s hops hsees => ?_⟩
  obtain ⟨hops, rfl⟩ := hsees.exists_succ
  exact .shared (hsees.free hfree) hsees.cells (h s hops hsees).1 (h s hops hsees).2

/-- **A record is zero iff all its ends are blank**, if its slots can be judged. -/
theorem exists_recordZero {name : String} {slots : List Value}
    (h : ∀ p ∈ (Value.record name slots).parts ctx.schema st, p.value.Judgeable ctx st) :
    ∃ b, (b = true ↔ (Value.record name slots).AllBlank ctx.schema st) ∧
      ∀ s hops path, st.Sees s hops →
        shapeZeroWithin ctx path hops s (.record name slots) = .ok (some b) := by
  have hvalues := Value.values_parts_record ctx.schema st name slots
  have hslots : ∀ w ∈ ((ctx.schema.record name).fields.zip
      (slots.take (ctx.schema.record name).exposed)).map Prod.snd, w.Judgeable ctx st := by
    rw [← hvalues]
    simpa using h
  obtain ⟨b, hb, hzero⟩ := exists_slotsZero_eq _ _ _ hslots
  refine ⟨b, ?_, fun s hops path hsees => ?_⟩
  · rw [hb, ← hvalues, allBlank_iff (v := .record name slots) trivial]
    simp
  · rw [shapeZeroWithin_eq, shapeZero, hzero s hops path hsees]
    rfl

/-- **A value without cycles can be judged**, if its leaves have JSON forms. -/
theorem judgeable_of_guard {room : Nat} {path : String} (hg : guard ctx room st v path = .ok ())
    (hleaf : ∀ l, Below ctx.schema st v (.leaf l) → ∃ j, l.snapshot = .ok j) :
    v.Judgeable ctx st := by
  induction room generalizing st v path with
  | zero => cases hg
  | succ room ih =>
    have hpart (p : Part) (hp : p ∈ v.parts ctx.schema st) :
        ∃ shape form, ∀ s hops, (v.heldIn st).Sees s hops →
          Judged ctx st p.value s hops shape form := by
      have hcells := v.cells_heldIn st
      obtain ⟨shape, form, h⟩ :=
        ih (guard_part hg hp) fun l hl => hleaf l (.part hp (hl.of_cells hcells))
      exact ⟨shape, form, fun s hops hsees => (h s hops hsees).of_cells hcells⟩
    cases v with
    | leaf l =>
      obtain ⟨j, hj⟩ := hleaf l (.refl _)
      exact ⟨none, j, fun s hops _ => judged_leaf hj s hops⟩
    | absent =>
      exact judgeable_of_end true id (by simp [Value.Blank]) fun s hops path => by
        rw [shapeZeroWithin_eq, shapeZero]
    | present w =>
      exact judgeable_of_end false id (by simp [Value.Blank]) fun s hops path => by
        rw [shapeZeroWithin_eq, shapeZero]
    | sequence items =>
      exact judgeable_of_end items.isEmpty id (by simp [Value.Blank]) fun s hops path => by
        rw [shapeZeroWithin_eq, shapeZero]
    | map entries =>
      exact judgeable_of_end entries.isEmpty id (by simp [Value.Blank]) fun s hops path => by
        rw [shapeZeroWithin_eq, shapeZero]
    | boxed w =>
      obtain ⟨shape, form, h⟩ := hpart ⟨.inner, w⟩ (List.mem_singleton_self _)
      exact ⟨shape, form, fun s hops hsees => (h s hops hsees).boxed⟩
    | shared c =>
      exact judgeable_shared (Value.not_barred_iff.mp (not_barred_of_guard hg) c rfl)
        (hpart ⟨.inner, (st.cell c).content⟩ (List.mem_singleton_self _))
    | record name slots =>
      obtain ⟨b, hb, h⟩ := exists_recordZero hpart
      exact judgeable_of_shape hb h

/-- Nothing is in what is blank. -/
theorem Value.Blank.parts_eq_nil {schema : Schema} {store : Store} (h : v.Blank) :
    v.parts schema store = [] := by
  cases v <;> simp_all [Value.Blank, Value.parts]

/-- An option that is present is an end, or lies beyond one that is not blank. -/
theorem not_allBlank_of_present {schema : Schema} {store : Store} {w : Value}
    (h : Below schema store v (.present w)) : ¬ v.AllBlank schema store := by
  obtain ⟨sites, cells, h⟩ := h
  generalize hw : Value.present w = u at h
  induction h with
  | here v =>
    subst hw
    simp [allBlank_of_not_isOpen (v := .present w) id, Value.Blank]
  | @down v _ p _ _ hp _ ih =>
    by_cases hopen : v.IsOpen
    · rw [allBlank_iff hopen]
      exact fun hall => ih hw (hall p hp)
    · rw [allBlank_of_not_isOpen hopen]
      intro hblank
      rw [hblank.parts_eq_nil] at hp
      cases hp

/-! ## Hints -/

/-- What a hint says of a value that nothing is around. -/
inductive Hint.Tells (schema : Schema) (store : Store) : Value → Hint → Prop
  | unknown {u : Value} (h : ∀ name slots, u ≠ .record name slots) : Tells schema store u .unknown
  | zero {name : String} {slots : List Value} {b : Bool}
      (h : b = true ↔ (Value.record name slots).AllBlank schema store) :
      Tells schema store (.record name slots) (.zero b)

/-- The hint that is given from a store; it tells of what is left without wrappers. -/
structure Hinted (ctx : Context) (st : Store) (v : Value) (s : Store) (hops : Nat) (hint : Hint) :
    Prop where
  shows : ∀ path, zeroHintWithin ctx path hops s v = .ok hint
  tells : ∃ u, (∀ w, LeadsTo ctx.schema st Value.IsWrapper v w ↔ w = u) ∧
    hint.Tells ctx.schema st u

/-- What is left of a wrapper is left of its content. -/
theorem leadsTo_isWrapper_iff {schema : Schema} {store : Store} {v w u : Value}
    (hv : v.IsWrapper) (hparts : v.parts schema store = [⟨.inner, w⟩]) :
    LeadsTo schema store Value.IsWrapper v u ↔ LeadsTo schema store Value.IsWrapper w u := by
  simp [leadsTo_iff hv, hparts]

/-- A value that nothing is around is left as it is. -/
theorem hinted_of_plain {s : Store} {hops : Nat} {hint : Hint} (hv : ¬ v.IsWrapper)
    (htells : hint.Tells ctx.schema st v)
    (h : ∀ path, zeroHintWithin ctx path hops s v = .ok hint) : Hinted ctx st v s hops hint :=
  ⟨h, v, fun _ => leadsTo_of_not hv, htells⟩

/-- A hint on the content is one on the wrapper. -/
theorem Hinted.wrapped {w : Value} {s s' : Store} {hops hops' : Nat} {hint : Hint}
    (h : Hinted ctx st w s hops hint) (hv : v.IsWrapper)
    (hparts : v.parts ctx.schema st = [⟨.inner, w⟩])
    (hshows : ∀ path, zeroHintWithin ctx path hops' s' v = zeroHintWithin ctx path hops s w) :
    Hinted ctx st v s' hops' hint := by
  obtain ⟨u, hu, htells⟩ := h.tells
  exact ⟨fun path => (hshows path).trans (h.shows path), u,
    fun _ => (leadsTo_isWrapper_iff hv hparts).trans (hu _), htells⟩

theorem Hint.Tells.of_cells {st' : Store} {u : Value} {hint : Hint} (hs : st.cells = st'.cells)
    (h : hint.Tells ctx.schema st u) : hint.Tells ctx.schema st' u := by
  rcases h with h | h
  · exact .unknown h
  · exact .zero (h.trans (allBlank_of_cells hs))

theorem Hinted.of_cells {st' s : Store} {hops : Nat} {hint : Hint} (hs : st.cells = st'.cells)
    (h : Hinted ctx st v s hops hint) : Hinted ctx st' v s hops hint := by
  obtain ⟨u, hu, htells⟩ := h.tells
  have hleads (w : Value) : LeadsTo ctx.schema st' Value.IsWrapper v w ↔
      LeadsTo ctx.schema st Value.IsWrapper v w := ⟨.of_cells hs.symm, .of_cells hs⟩
  exact ⟨h.shows, u, fun w => (hleads w).trans (hu w), htells.of_cells hs⟩

theorem exists_hinted_shared {c : CellId} (hfree : st.isHeld c = false)
    (h : ∃ hint, ∀ s hops, (st.hold c).Sees s hops →
      Hinted ctx st (st.cell c).content s hops hint) :
    ∃ hint, ∀ s hops, st.Sees s hops → Hinted ctx st (.shared c) s hops hint := by
  obtain ⟨hint, h⟩ := Store.exists_below hfree
    (P := fun w s hops hint => Hinted ctx st w s hops hint) h
    ⟨.unknown, fun s hops => hinted_of_plain id (.unknown (by simp)) fun path => by
      rw [zeroHintWithin_eq, hintWith]⟩
  refine ⟨hint, fun s hops hsees => ?_⟩
  obtain ⟨hops, rfl⟩ := hsees.exists_succ
  refine (h s hops hsees).2.wrapped trivial rfl fun path => ?_
  rw [zeroHintWithin_eq, hintWith, cellHint, Context.enter, hsees.free hfree, hsees.cell]
  rfl

/-- **A value without cycles has a hint**, which tells of what is left of it. -/
theorem exists_hinted_of_guard {room : Nat} {path : String}
    (hg : guard ctx room st v path = .ok ())
    (hleaf : ∀ l, Below ctx.schema st v (.leaf l) → ∃ j, l.snapshot = .ok j) :
    ∃ hint, ∀ s hops, st.Sees s hops → Hinted ctx st v s hops hint := by
  induction room generalizing st v path with
  | zero => cases hg
  | succ room ih =>
    have hpart (p : Part) (hp : p ∈ v.parts ctx.schema st) :
        ∃ hint, ∀ s hops, (v.heldIn st).Sees s hops → Hinted ctx st p.value s hops hint := by
      have hcells := v.cells_heldIn st
      obtain ⟨hint, h⟩ := ih (guard_part hg hp) fun l hl => hleaf l (.part hp (hl.of_cells hcells))
      exact ⟨hint, fun s hops hsees => (h s hops hsees).of_cells hcells⟩
    cases v with
    | present w =>
      obtain ⟨hint, h⟩ := hpart ⟨.inner, w⟩ (List.mem_singleton_self _)
      refine ⟨hint, fun s hops hsees => (h s hops hsees).wrapped trivial rfl fun path => ?_⟩
      rw [zeroHintWithin_eq, hintWith, ← zeroHintWithin_eq]
    | boxed w =>
      obtain ⟨hint, h⟩ := hpart ⟨.inner, w⟩ (List.mem_singleton_self _)
      refine ⟨hint, fun s hops hsees => (h s hops hsees).wrapped trivial rfl fun path => ?_⟩
      rw [zeroHintWithin_eq, hintWith, ← zeroHintWithin_eq]
    | shared c =>
      exact exists_hinted_shared (Value.not_barred_iff.mp (not_barred_of_guard hg) c rfl)
        (hpart ⟨.inner, (st.cell c).content⟩ (List.mem_singleton_self _))
    | record name slots =>
      obtain ⟨b, hb, h⟩ := exists_recordZero fun p hp =>
        judgeable_of_guard (guard_part hg hp) fun l hl => hleaf l (.part hp hl)
      refine ⟨.zero b, fun s hops hsees => hinted_of_plain id (.zero hb) fun path => ?_⟩
      rw [zeroHintWithin_eq, hintWith, recordHint, h s hops path hsees]
      rfl
    | _ =>
      exact ⟨.unknown, fun s hops _ => hinted_of_plain id (.unknown (by simp)) fun path => by
        rw [zeroHintWithin_eq, hintWith]⟩

/-! ## Checks of emptiness -/

/-- What the built-in checks of emptiness say of a field whose hint is that it is zero, or is not:
exactly one of the two complains, whatever the JSON form is. -/
structure SplitByZero (ctx : Context) (store : Store) (v : Value) (b : Bool) : Prop where
  empty : ∃ check, Registry.builtin.validator "empty" [] = .ok check ∧ ∀ form,
    check form (.zero b) =
      if b then none else some ("expected empty value but was " ++ form.display)
  required : ∃ check, Registry.builtin.validator "required" [] = .ok check ∧ ∀ form,
    check form (.zero b) = if b then some "expected not empty value" else none
  /-- Where there are no mappers, all validators of the field are asked with this hint. -/
  asked : ∀ (rule : Rule) room (p : Place) (run : Run) hint form, rule.mappers = [] →
    run.store = store → inspect ctx room store v p = .ok (hint, form) →
    (apply ctx room rule v p run).run.report.issues =
      run.report.issues ++ (rule.check form (.zero b)).map fun m => ⟨m, p.path, form⟩

theorem splitByZero_of_hint {store : Store} {b : Bool}
    (h : ∀ path, zeroHint ctx store v path = .ok (.zero b)) : SplitByZero ctx store v b where
  empty := ⟨_, rfl, fun form => by cases b <;> rfl⟩
  required := ⟨_, rfl, fun form => by cases b <;> rfl⟩
  asked rule room p run hint form hmappers hstore hinspect := by
    obtain ⟨_, _, hrest⟩ := bind_eq_ok.mp hinspect
    obtain ⟨_, hzero, hform⟩ := bind_eq_ok.mp hrest
    obtain rfl := Except.ok.inj (hzero.symm.trans (h p.path))
    obtain rfl : Hint.zero b = hint := by
      split at hform
      · exact congrArg Prod.fst (Except.ok.inj hform)
      · cases hform
    rw [apply_unmapped hmappers, hstore, hinspect]
    rfl

/-- **The hint of a value without cycles.**  Take present options, boxes and cells off: of anything
but a record nothing is known.  Of a record it is known whether it is zero: it is if whatever one
comes to through records, boxes and cells is blank; so it is not if an option is present anywhere in
it.  The hint decides which of the two checks of emptiness complains of a field without mappers. -/
theorem zero_hint_exact {store : Store}
    (hfree : ∀ c, Below ctx.schema store v (.shared c) → store.isHeld c = false)
    (hacyclic : ∀ c, Below ctx.schema store v (.shared c) → ¬ Loops ctx.schema store c)
    (hleaf : ∀ l, Below ctx.schema store v (.leaf l) → ∃ j, l.snapshot = .ok j) :
    ∃ hint u, (∀ path, zeroHint ctx store v path = .ok hint) ∧
      (∀ w, LeadsTo ctx.schema store Value.IsWrapper v w ↔ w = u) ∧
      (hint = .unknown ↔ ∀ name slots, u ≠ .record name slots) ∧
      ∀ name slots, u = .record name slots → ∃ b, hint = .zero b ∧
        (b = true ↔ ∀ e, LeadsTo ctx.schema store Value.IsOpen u e → e.Blank) ∧
        (∀ p ∈ u.parts ctx.schema store, ∀ w, Below ctx.schema store p.value (.present w) →
          b = false) ∧
        SplitByZero ctx store v b := by
  have hfresh : v.MeetsFresh ctx.schema store := fun sites cells c hroute =>
    have hc : Below ctx.schema store v (.shared c) := ⟨sites, cells, hroute⟩
    ⟨hfree c hc, hroute.not_mem_of_not_loops (hacyclic c hc)⟩
  have hguard := guard_of_meetsFresh hfresh (Nat.lt_succ_self _) ""
  obtain ⟨hint, hhint⟩ := exists_hinted_of_guard hguard hleaf
  have hshows (path : String) : zeroHint ctx store v path = .ok hint :=
    (hhint store _ (.refl store)).shows path
  obtain ⟨u, hu, htells⟩ := (hhint store _ (.refl store)).tells
  refine ⟨hint, u, hshows, hu, ?_, ?_⟩
  · rcases htells with h | _
    · exact iff_of_true rfl h
    · exact iff_of_false nofun fun h => h _ _ rfl
  · rintro name slots rfl
    rcases htells with h | h
    · exact absurd rfl (h name slots)
    · refine ⟨_, rfl, h, fun p hp w hw => ?_, splitByZero_of_hint hshows⟩
      rw [← Bool.not_eq_true, h]
      exact not_allBlank_of_present (.part hp hw)

/-! ### A note that says nothing -/

/-- The text of the note is empty. -/
def silentStore : Store := ⟨[⟨.scalar .text, .leaf (.text "")⟩], []⟩

/-- A note in a box, as an option. -/
def silent : Value := .present (.boxed note)

theorem leaf_of_below_silent {l : Leaf} (h : Below noteSchema silentStore silent (.leaf l)) :
    l = .text "" := by
  have hbelow := h.of_closed (P := fun w => w = silent ∨ w = .boxed note ∨ w = note ∨
    w = .shared 0 ∨ w = .leaf (.text "") ∨ w = .absent) ?_ (.inl rfl)
  · simpa [silent, note] using hbelow
  · rintro _ (rfl | rfl | rfl | rfl | rfl | rfl) p hp
    · obtain rfl := List.mem_singleton.mp hp
      exact .inr (.inl rfl)
    · obtain rfl := List.mem_singleton.mp hp
      exact .inr (.inr (.inl rfl))
    · obtain rfl | hp := List.mem_cons.mp hp
      · exact .inr (.inr (.inr (.inl rfl)))
      · obtain rfl := List.mem_singleton.mp hp
        exact .inr (.inr (.inr (.inr (.inr rfl))))
    · obtain rfl := List.mem_singleton.mp hp
      exact .inr (.inr (.inr (.inr (.inl rfl))))
    · cases hp
    · cases hp

/-- Nothing in the note is not blank. -/
theorem allBlank_note : note.AllBlank noteSchema silentStore := by
  refine (allBlank_iff (v := note) trivial).mpr fun p hp => ?_
  obtain rfl | hp := List.mem_cons.mp hp
  · refine (allBlank_iff (v := .shared 0) trivial).mpr fun p hp => ?_
    obtain rfl := List.mem_singleton.mp hp
    exact (allBlank_of_not_isOpen (v := .leaf (.text "")) id).mpr ⟨.str "", rfl, rfl⟩
  · obtain rfl := List.mem_singleton.mp hp
    exact (allBlank_of_not_isOpen (v := .absent) id).mpr trivial

/-- The text is empty and the reply is absent, so the note is zero; that it is an option in a box
does not matter. -/
theorem zero_hint_exact_silent :
    (∀ c, Below noteSchema silentStore silent (.shared c) → silentStore.isHeld c = false) ∧
    (∀ c, Below noteSchema silentStore silent (.shared c) → ¬ Loops noteSchema silentStore c) ∧
    (∀ l, Below noteSchema silentStore silent (.leaf l) → ∃ j, l.snapshot = .ok j) ∧
    ∀ path, zeroHint ((Engine.new noteRegistry .initial).context noteSchema) silentStore silent path
      = .ok (.zero true) := by
  have hfree (c : CellId) (_ : Below noteSchema silentStore silent (.shared c)) :
      silentStore.isHeld c = false := rfl
  have hacyclic (c : CellId) (_ : Below noteSchema silentStore silent (.shared c)) :
      ¬ Loops noteSchema silentStore c := not_loops_leaf
  have hleaf (l : Leaf) (h : Below noteSchema silentStore silent (.leaf l)) :
      ∃ j, l.snapshot = .ok j := ⟨.str "", by rw [leaf_of_below_silent h]; rfl⟩
  refine ⟨hfree, hacyclic, hleaf, ?_⟩
  obtain ⟨hint, u, hshows, hu, -, hzero⟩ :=
    @zero_hint_exact ((Engine.new noteRegistry .initial).context noteSchema) silent silentStore
      hfree hacyclic hleaf
  obtain rfl := (hu note).mp (.down trivial (List.mem_singleton_self _)
    (.down trivial (List.mem_singleton_self _) (.here id)))
  obtain ⟨b, rfl, hb, -⟩ := hzero _ _ rfl
  obtain rfl := hb.mpr allBlank_note
  exact hshows

end FieldRules
