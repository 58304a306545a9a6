import FieldRules.Proofs.Guard
import Mathlib.Data.Finset.Card
import Mathlib.Data.Finset.Filter
import Mathlib.Data.Finset.Range

/-!
# Proofs/Inspect — what may be said of a value that a guard lets through

A value that is let through has a snapshot and a zero hint (`exists_snapshot_of_guard`,
`exists_zeroHint_of_guard`), as long as its leaves are readable.  Both are the same for every store
with the same contents in which no more cells are held, and for every number of hops beyond the
number of free cells: a cell that is looked into is free before and held afterwards.
-/

namespace FieldRules

/-! ## Looking through the cells of a store -/

/-- How many cells are free. -/
def Store.free (s : Store) : Nat :=
  ((Finset.range s.cells.length).filter fun c => s.isHeld c = false).card

theorem Store.free_le (s : Store) : s.free ≤ s.cells.length :=
  (Finset.card_filter_le _ _).trans_eq (Finset.card_range _)

theorem Store.isHeld_hold (s : Store) (c d : CellId) :
    (s.hold c).isHeld d = (s.isHeld d || decide (d = c)) := by
  rw [← Value.heldIn_shared, Value.isHeld_heldIn]
  simp [Value.entered]

/-- **Holding a free cell leaves one cell less to be looked into.** -/
theorem Store.free_hold_lt {s : Store} {c : CellId} (hc : c < s.cells.length)
    (hfree : s.isHeld c = false) : (s.hold c).free < s.free := by
  refine Finset.card_lt_card (Finset.ssubset_iff_of_subset ?_ |>.mpr ⟨c, ?_, ?_⟩)
  · intro d hd
    rw [Finset.mem_filter, Store.isHeld_hold, Bool.or_eq_false_iff] at hd
    exact Finset.mem_filter.mpr ⟨hd.1, hd.2.1⟩
  · exact Finset.mem_filter.mpr ⟨Finset.mem_range.mpr hc, hfree⟩
  · rw [Finset.mem_filter, Store.isHeld_hold, decide_eq_true rfl, Bool.or_true]
    exact fun h => Bool.noConfusion h.2

/-- A store with the contents of another one and no more cells held, and enough hops for the cells
that are free in the other one. -/
structure Store.Sees (st s : Store) (hops : Nat) : Prop where
  cells : s.cells = st.cells
  held : ∀ c, s.isHeld c = true → st.isHeld c = true
  enough : st.free < hops

namespace Store.Sees

variable {st s : Store} {hops : Nat} {c : CellId}

theorem refl (s : Store) : s.Sees s (s.cells.length + 1) :=
  ⟨rfl, fun _ h => h, Nat.lt_succ_of_le s.free_le⟩

/-- Any store that is seen may be looked through with the hops that a snapshot has. -/
theorem snapshot (h : st.Sees s hops) : st.Sees s (s.cells.length + 1) :=
  ⟨h.cells, h.held, Nat.lt_succ_of_le (h.cells ▸ st.free_le)⟩

theorem free (h : st.Sees s hops) (hc : st.isHeld c = false) : s.isHeld c = false :=
  Bool.eq_false_iff.mpr fun hs => Bool.eq_false_iff.mp hc (h.held c hs)

theorem cell (h : st.Sees s hops) : s.cell c = st.cell c := by simp only [Store.cell, h.cells]

theorem exists_succ (h : st.Sees s hops) : ∃ n, hops = n + 1 :=
  Nat.exists_eq_succ_of_ne_zero (Nat.ne_of_gt (Nat.zero_lt_of_lt h.enough))

/-- Inside a free cell one hop less is enough. -/
theorem below (h : st.Sees s (hops + 1)) (hc : c < st.cells.length) (hfree : st.isHeld c = false) :
    (st.hold c).Sees s hops :=
  ⟨h.cells, fun d hd => by rw [Store.isHeld_hold, h.held d hd, Bool.true_or],
    (Store.free_hold_lt hc hfree).trans_le (Nat.le_of_lt_succ h.enough)⟩

/-- …also if the cell is held while it is looked into. -/
theorem below_hold (h : st.Sees s (hops + 1)) (hc : c < st.cells.length)
    (hfree : st.isHeld c = false) : (st.hold c).Sees (s.hold c) hops :=
  ⟨h.cells, fun d hd => by
      rw [Store.isHeld_hold, Bool.or_eq_true] at hd ⊢
      exact hd.imp_left (h.held d),
    (Store.free_hold_lt hc hfree).trans_le (Nat.le_of_lt_succ h.enough)⟩

end Store.Sees

/-- A cell that was never made holds a leaf. -/
theorem Store.cell_of_le {s : Store} {c : CellId} (h : s.cells.length ≤ c) :
    (s.cell c).content = .leaf .unit := by
  rw [Store.cell, List.getD_eq_getElem?_getD, List.getElem?_eq_none h]
  rfl

/-- **What is found in a free cell is found from every store that is seen**, whether the cell is
held meanwhile or not, if it is found inside the cell and in a cell that was never made. -/
theorem Store.exists_below {α : Type} {P : Value → Store → Nat → α → Prop} {st : Store} {c : CellId}
    (hfree : st.isHeld c = false)
    (hin : ∃ a, ∀ s hops, (st.hold c).Sees s hops → P (st.cell c).content s hops a)
    (hunit : ∃ a, ∀ s hops, P (.leaf .unit) s hops a) :
    ∃ a, ∀ s hops, st.Sees s (hops + 1) →
      P (st.cell c).content s hops a ∧ P (st.cell c).content (s.hold c) hops a := by
  obtain hc | hc := Nat.lt_or_ge c st.cells.length
  · obtain ⟨a, ha⟩ := hin
    exact ⟨a, fun s hops h => ⟨ha s hops (h.below hc hfree), ha _ hops (h.below_hold hc hfree)⟩⟩
  · obtain ⟨a, ha⟩ := hunit
    rw [Store.cell_of_le hc]
    exact ⟨a, fun s hops _ => ⟨ha s hops, ha _ hops⟩⟩

/-! ## Snapshots -/

/-- As many slots of a record are exposed as it declares fields. -/
def Schema.Exposes (schema : Schema) (name : String) (slots : List Value) : Prop :=
  (slots.take (schema.record name).exposed).length = (schema.record name).fields.length

theorem Schema.Exposes.zip_take {schema : Schema} {name : String} {slots : List Value}
    (h : schema.Exposes name slots) :
    (schema.record name).fields.zip (slots.take (schema.record name).exposed)
      = (schema.record name).fields.zip slots := by
  conv_rhs => rw [← List.take_append_drop (schema.record name).exposed slots]
  conv_rhs => rw [← List.append_nil (schema.record name).fields, List.zip_append h.symm]
  rw [List.zip_nil_left, List.append_nil]

/-- A value all of whose leaves have a JSON form and all of whose records expose all fields. -/
structure Readable (schema : Schema) (store : Store) (v : Value) : Prop where
  leaf : ∀ l, Below schema store v (.leaf l) → ∃ j, l.snapshot = .ok j
  exposes : ∀ name slots, Below schema store v (.record name slots) → schema.Exposes name slots

namespace Readable

variable {schema : Schema} {store : Store} {v : Value}

theorem below (h : Readable schema store v) {w : Value} (hw : Below schema store v w) :
    Readable schema store w :=
  ⟨fun l hl => h.leaf l (hw.trans hl), fun n s hs => h.exposes n s (hw.trans hs)⟩

theorem part (h : Readable schema store v) {p : Part} (hp : p ∈ v.parts schema store) :
    Readable schema store p.value := h.below (.part hp (.refl _))

theorem of_cells {store' : Store} (hs : store'.cells = store.cells)
    (h : Readable schema store v) : Readable schema store' v :=
  ⟨fun l hl => h.leaf l (hl.of_cells hs), fun n s hb => h.exposes n s (hb.of_cells hs)⟩

end Readable

/-- The JSON form of a cell through at most `hops` cells within one another. -/
def cellForm (schema : Schema) (store : Store) : (hops : Nat) → CellId → Except Unreadable Json
  | 0, _ => .error .endless
  | hops + 1, c =>
    if store.isHeld c then .error .held
    else Value.snapshotWithin schema store hops (store.cell c).content

namespace Value

variable (schema : Schema)

theorem snapshotWithin_eq (store : Store) (hops : Nat) (v : Value) :
    snapshotWithin schema store hops v = snapshotWith schema (cellForm schema store hops) v := by
  cases hops <;> rfl

theorem snapshotItems_eq (deref : CellId → Except Unreadable Json) :
    ∀ items, snapshotItems schema deref items
      = items.mapM fun v => (snapshotWith schema deref v).map id
  | [] => rfl
  | v :: vs => by
    rw [snapshotItems, snapshotItems_eq deref vs, List.mapM_cons]
    cases snapshotWith schema deref v <;> rfl

theorem snapshotEntries_eq (deref : CellId → Except Unreadable Json) :
    ∀ entries, snapshotEntries schema deref entries
      = entries.mapM fun e => (snapshotWith schema deref e.2).map (e.1, ·)
  | [] => rfl
  | (k, v) :: es => by
    rw [snapshotEntries, snapshotEntries_eq deref es, List.mapM_cons]
    cases snapshotWith schema deref v <;> rfl

theorem snapshotSlots_eq (deref : CellId → Except Unreadable Json) :
    ∀ fields slots, snapshotSlots schema deref fields slots
      = (fields.zip slots).mapM fun q => (snapshotWith schema deref q.2).map (q.1.key, ·)
  | [], [] => rfl
  | [], _ :: _ => rfl
  | _ :: _, [] => rfl
  | f :: fs, v :: vs => by
    rw [snapshotSlots, snapshotSlots_eq deref fs vs, List.zip_cons_cons, List.mapM_cons]
    cases snapshotWith schema deref v <;> rfl

/-- A slot that is exposed is a part of its record. -/
theorem exists_part_of_slot {schema : Schema} (store : Store) {name : String} {slots : List Value}
    {q : RecordField × Value}
    (hq : q ∈ (schema.record name).fields.zip (slots.take (schema.record name).exposed)) :
    ∃ p ∈ (record name slots).parts schema store, p.value = q.2 := by
  have hw : q.2 ∈ ((record name slots).parts schema store).map Part.value := by
    rw [values_parts_record]
    exact List.mem_map_of_mem hq
  exact List.mem_map.mp hw

/-- If every element has one form for all stores that are seen, so has the list of elements,
whatever is put around the forms. -/
theorem exists_mapM_snapshot {α β : Type} (st : Store) (get : α → Value) (put : α → Json → β)
    {l : List α} (h : ∀ a ∈ l, ∃ j, ∀ s hops, st.Sees s hops →
      snapshotWithin schema s hops (get a) = .ok j) :
    ∃ bs, ∀ s hops, st.Sees s hops →
      (l.mapM fun a => (snapshotWith schema (cellForm schema s hops) (get a)).map (put a))
        = .ok bs := by
  obtain ⟨bs, hbs⟩ := exists_mapM_eq_ok (l := l)
    (P := fun f => ∃ s hops, st.Sees s hops ∧ f = fun a =>
      (snapshotWith schema (cellForm schema s hops) (get a)).map (put a))
    fun a ha => by
      obtain ⟨j, hj⟩ := h a ha
      refine ⟨put a j, ?_⟩
      rintro _ ⟨s, hops, hsees, rfl⟩
      beta_reduce
      rw [← snapshotWithin_eq, hj s hops hsees]
      rfl
  exact ⟨bs, fun s hops hsees => hbs _ ⟨s, hops, hsees, rfl⟩⟩

end Value

/-- **A readable value that a guard lets through has a snapshot**, the same from every store that is
seen. -/
theorem exists_snapshot_of_guard {ctx : Context} {room : Nat} {st : Store} {v : Value}
    {path : String} (hg : guard ctx room st v path = .ok ())
    (hr : Readable ctx.schema st v) :
    ∃ j, ∀ s hops, st.Sees s hops → v.snapshotWithin ctx.schema s hops = .ok j := by
  induction room generalizing st v path with
  | zero => cases hg
  | succ room ih =>
    -- The parts of anything but a cell are seen from the same store.
    have hpart : ∀ p ∈ v.parts ctx.schema st, ∃ j, ∀ s hops, (v.heldIn st).Sees s hops →
        p.value.snapshotWithin ctx.schema s hops = .ok j := fun p hp =>
      ih (guard_part hg hp) ((hr.part hp).of_cells (v.cells_heldIn st))
    cases v with
    | leaf l =>
      obtain ⟨j, hj⟩ := hr.leaf l (.refl _)
      exact ⟨j, fun s hops _ => by rw [Value.snapshotWithin_eq]; exact hj⟩
    | absent => exact ⟨.null, fun s hops _ => by rw [Value.snapshotWithin_eq]; rfl⟩
    | present w =>
      obtain ⟨j, hj⟩ := hpart ⟨.inner, w⟩ (List.mem_singleton_self _)
      refine ⟨j, fun s hops hsees => ?_⟩
      rw [Value.snapshotWithin_eq, Value.snapshotWith, ← Value.snapshotWithin_eq]
      exact hj s hops hsees
    | boxed w =>
      obtain ⟨j, hj⟩ := hpart ⟨.inner, w⟩ (List.mem_singleton_self _)
      refine ⟨j, fun s hops hsees => ?_⟩
      rw [Value.snapshotWithin_eq, Value.snapshotWith, ← Value.snapshotWithin_eq]
      exact hj s hops hsees
    | shared c =>
      have hfree := Value.not_barred_iff.mp (not_barred_of_guard hg) c rfl
      obtain ⟨j, hj⟩ := Store.exists_below hfree
        (P := fun w s hops j => w.snapshotWithin ctx.schema s hops = .ok j)
        (hpart ⟨.inner, (st.cell c).content⟩ (List.mem_singleton_self _))
        ⟨.null, fun s hops => by rw [Value.snapshotWithin_eq]; rfl⟩
      refine ⟨j, fun s hops hsees => ?_⟩
      obtain ⟨n, rfl⟩ := hsees.exists_succ
      rw [Value.snapshotWithin_eq, Value.snapshotWith, cellForm, hsees.free hfree, hsees.cell]
      exact (hj s n hsees).1
    | sequence items =>
      obtain ⟨bs, hbs⟩ := Value.exists_mapM_snapshot ctx.schema st (l := items) id (fun _ => id)
        fun w hw => by
          rw [← Value.values_parts_sequence ctx.schema st items] at hw
          obtain ⟨p, hp, rfl⟩ := List.mem_map.mp hw
          exact hpart p hp
      refine ⟨.arr bs, fun s hops hsees => ?_⟩
      rw [Value.snapshotWithin_eq, Value.snapshotWith, Value.snapshotItems_eq]
      simp only [id] at hbs
      rw [hbs s hops hsees]
      rfl
    | map entries =>
      obtain ⟨bs, hbs⟩ := Value.exists_mapM_snapshot ctx.schema st (l := entries)
        Prod.snd (fun e j => (e.1, j)) fun e he => by
          exact hpart ⟨.entry e.1, e.2⟩ (List.mem_map.mpr ⟨e, he, rfl⟩)
      refine ⟨.ofMembers bs, fun s hops hsees => ?_⟩
      rw [Value.snapshotWithin_eq, Value.snapshotWith, Value.snapshotEntries_eq, hbs s hops hsees]
      rfl
    | record name slots =>
      have hzip := (hr.exposes name slots (.refl _)).zip_take
      obtain ⟨bs, hbs⟩ := Value.exists_mapM_snapshot ctx.schema st
        (l := (ctx.schema.record name).fields.zip slots) Prod.snd (fun q j => (q.1.key, j))
        fun q hq => by
          obtain ⟨p, hp, hpq⟩ := Value.exists_part_of_slot st (hzip ▸ hq)
          exact hpq ▸ hpart p hp
      refine ⟨.ofMembers bs, fun s hops hsees => ?_⟩
      rw [Value.snapshotWithin_eq, Value.snapshotWith, Value.snapshotSlots_eq, hbs s hops hsees]
      rfl

/-! ## Zero hints -/

/-- A result that is `a` under some condition, and is not a cycle in any case. -/
structure Settles {α : Type} (cond : Prop) (x : Except Error α) (a : α) : Prop where
  ok : cond → x = .ok a
  ne_cycle : ∀ path typeName, x ≠ .error (.cycle path typeName)

namespace Settles

variable {α β : Type} {cond : Prop}

theorem of_eq {x : Except Error α} {a : α} (h : x = .ok a) : Settles cond x a :=
  ⟨fun _ => h, fun _ _ hc => by rw [h] at hc; cases hc⟩

theorem bind {x : Except Error α} {f : α → Except Error β} {a : α} {b : β}
    (hx : Settles cond x a) (hok : cond → f a = .ok b)
    (hne : ∀ a' path typeName, f a' ≠ .error (.cycle path typeName)) :
    Settles cond (x >>= f) b := by
  refine ⟨fun hc => bind_eq_ok.mpr ⟨a, hx.ok hc, hok hc⟩, fun path typeName h => ?_⟩
  obtain h | ⟨a', _, h⟩ := bind_eq_error.mp h
  · exact hx.ne_cycle path typeName h
  · exact hne a' path typeName h

theorem map {x : Except Error α} {a : α} (f : α → β) (hx : Settles cond x a) :
    Settles cond (x.map f) (f a) :=
  ⟨fun hc => map_eq_ok.mpr ⟨a, hx.ok hc, rfl⟩,
    fun path typeName h => hx.ne_cycle path typeName (map_eq_error.mp h)⟩

end Settles

/-- How a look for zeros sees a cell, through at most `hops` cells within one another. -/
def cellZero (ctx : Context) (path : String) :
    (hops : Nat) → Store → CellId → Except Error (Option Bool)
  | 0, store, c => .error (ctx.cycle store c path)
  | hops + 1, store, c => do
    let (w, held) ← ctx.enter store c path
    shapeZeroWithin ctx path hops held w

theorem shapeZeroWithin_eq (ctx : Context) (path : String) (hops : Nat) (store : Store)
    (v : Value) :
    shapeZeroWithin ctx path hops store v =
      shapeZero ctx ⟨cellZero ctx path hops store, Value.snapshot ctx.schema store⟩ path v := by
  cases hops <;> rfl

/-- A slot is zero as its shape says, or else as its JSON form says. -/
def slotZero (ctx : Context) (view : ZeroView) (path : String) (f : RecordField) (v : Value) :
    Option Bool → Except Error Bool
  | some b => pure b
  | none =>
    match view.snapshot v with
    | .ok form => pure form.isEmpty
    | .error u => throw (unreadableField ctx f path u)

theorem slotZero_ne_cycle {ctx : Context} {view : ZeroView} {path : String} {f : RecordField}
    {v : Value} (shape : Option Bool) (p typeName : String) :
    slotZero ctx view path f v shape ≠ .error (.cycle p typeName) := by
  intro h
  cases shape with
  | some b => cases h
  | none =>
    rw [slotZero] at h
    cases hs : view.snapshot v <;> rw [hs] at h <;> cases h

theorem slotsZero_cons (ctx : Context) (view : ZeroView) (path : String) (exposed : Nat)
    (f : RecordField) (fs : List RecordField) (v : Value) (vs : List Value) :
    slotsZero ctx view path (exposed + 1) (f :: fs) (v :: vs) =
      (shapeZero ctx view path v >>= slotZero ctx view path f v) >>= fun zero =>
        if zero then slotsZero ctx view path exposed fs vs else pure false := by
  rw [slotsZero]
  cases shapeZero ctx view path v with
  | error e => rfl
  | ok shape =>
    cases shape with
    | some b => rfl
    | none =>
      simp only [bind, Except.bind, slotZero]
      cases view.snapshot v <;> rfl

/-- Slots settle if each of them settles by its shape and has a JSON form. -/
theorem exists_slotsZero {ctx : Context} {cond : Prop} {Looks : ZeroView → String → Prop}
    (exposed : Nat) (fields : List RecordField) (slots : List Value)
    (h : ∀ q ∈ fields.zip (slots.take exposed), ∃ b j, ∀ view path, Looks view path →
      Settles cond (shapeZero ctx view path q.2) b ∧ (cond → view.snapshot q.2 = .ok j)) :
    ∃ b, ∀ view path, Looks view path →
      Settles cond (slotsZero ctx view path exposed fields slots) b := by
  induction exposed generalizing fields slots with
  | zero => exact ⟨true, fun _ _ _ => .of_eq (by rw [slotsZero]; simp)⟩
  | succ n ih =>
    cases fields with
    | nil => exact ⟨true, fun _ _ _ => .of_eq (by rw [slotsZero]; simp)⟩
    | cons f fs =>
      cases slots with
      | nil => exact ⟨true, fun _ _ _ => .of_eq (by rw [slotsZero]; simp)⟩
      | cons v vs =>
        rw [List.take_succ_cons, List.zip_cons_cons, List.forall_mem_cons] at h
        obtain ⟨⟨shape, form, hv⟩, htail⟩ := h
        obtain ⟨rest, hrest⟩ := ih fs vs htail
        refine ⟨if shape.getD form.isEmpty then rest else false, fun view path hlooks => ?_⟩
        have hslot : Settles cond (shapeZero ctx view path v >>= slotZero ctx view path f v)
            (shape.getD form.isEmpty) := by
          refine (hv view path hlooks).1.bind (fun hc => ?_) slotZero_ne_cycle
          cases shape with
          | some b => rfl
          | none => simp only [slotZero, (hv view path hlooks).2 hc]; rfl
        rw [slotsZero_cons]
        refine hslot.bind (fun hc => ?_) fun zero p t => ?_
        · split
          · exact (hrest view path hlooks).ok hc
          · rfl
        · split
          · exact (hrest view path hlooks).ne_cycle p t
          · intro h
            cases h

/-- There is one snapshot under a condition if the value is readable then. -/
theorem exists_snapshot_if {ctx : Context} {cond : Prop} {room : Nat} {st : Store} {v : Value}
    {path : String} (hg : guard ctx room st v path = .ok ())
    (hr : cond → Readable ctx.schema st v) :
    ∃ j, cond → ∀ s hops, st.Sees s hops → v.snapshotWithin ctx.schema s hops = .ok j := by
  by_cases hc : cond
  · obtain ⟨j, hj⟩ := exists_snapshot_of_guard hg (hr hc)
    exact ⟨j, fun _ => hj⟩
  · exact ⟨.null, fun h => absurd h hc⟩

/-- A view of a record's slots from a store that is seen. -/
def LooksAt (ctx : Context) (st : Store) (view : ZeroView) (path : String) : Prop :=
  ∃ s hops, st.Sees s hops ∧ view = ⟨cellZero ctx path hops s, Value.snapshot ctx.schema s⟩

/-- **Looking for a zero below a guard settles**: it never meets a cycle, and if all leaves are
readable it says the same from every store that is seen. -/
theorem exists_shapeZero_of_guard {ctx : Context} (cond : Prop) {room : Nat} {st : Store}
    {v : Value} {path : String} (hg : guard ctx room st v path = .ok ())
    (hr : cond → Readable ctx.schema st v) :
    ∃ b, ∀ s hops path', st.Sees s hops →
      Settles cond (shapeZeroWithin ctx path' hops s v) b := by
  induction room generalizing st v path with
  | zero => cases hg
  | succ room ih =>
    have hpart : ∀ p ∈ v.parts ctx.schema st, ∃ b, ∀ s hops path', (v.heldIn st).Sees s hops →
        Settles cond (shapeZeroWithin ctx path' hops s p.value) b := fun p hp =>
      ih (guard_part hg hp) fun hc => ((hr hc).part hp).of_cells (v.cells_heldIn st)
    cases v with
    | leaf l =>
      exact ⟨none, fun s hops path' _ => .of_eq (by rw [shapeZeroWithin_eq, shapeZero])⟩
    | absent =>
      exact ⟨some true, fun s hops path' _ => .of_eq (by rw [shapeZeroWithin_eq, shapeZero])⟩
    | present w =>
      exact ⟨some false, fun s hops path' _ => .of_eq (by rw [shapeZeroWithin_eq, shapeZero])⟩
    | boxed w =>
      obtain ⟨b, hb⟩ := hpart ⟨.inner, w⟩ (List.mem_singleton_self _)
      refine ⟨b, fun s hops path' hsees => ?_⟩
      rw [shapeZeroWithin_eq, shapeZero, ← shapeZeroWithin_eq]
      exact hb s hops path' hsees
    | shared c =>
      have hfree := Value.not_barred_iff.mp (not_barred_of_guard hg) c rfl
      obtain ⟨b, hb⟩ := Store.exists_below hfree
        (P := fun w s hops b => ∀ path', Settles cond (shapeZeroWithin ctx path' hops s w) b)
        ((hpart ⟨.inner, (st.cell c).content⟩ (List.mem_singleton_self _)).imp
          fun b hb s hops h path' => hb s hops path' h)
        ⟨none, fun s hops path' => .of_eq (by rw [shapeZeroWithin_eq, shapeZero])⟩
      refine ⟨b, fun s hops path' hsees => ?_⟩
      obtain ⟨n, rfl⟩ := hsees.exists_succ
      rw [shapeZeroWithin_eq, shapeZero]
      change Settles cond (cellZero ctx path' (n + 1) s c) b
      rw [cellZero, Context.enter, hsees.free hfree, hsees.cell]
      exact (hb s n hsees).2 path'
    | sequence items =>
      exact ⟨some items.isEmpty, fun s hops path' _ =>
        .of_eq (by rw [shapeZeroWithin_eq, shapeZero])⟩
    | map entries =>
      exact ⟨some entries.isEmpty, fun s hops path' _ =>
        .of_eq (by rw [shapeZeroWithin_eq, shapeZero])⟩
    | record name slots =>
      have hslots : ∀ q ∈ (ctx.schema.record name).fields.zip
          (slots.take (ctx.schema.record name).exposed), ∃ b j, ∀ view path',
          LooksAt ctx st view path' →
          Settles cond (shapeZero ctx view path' q.2) b ∧ (cond → view.snapshot q.2 = .ok j) := by
        intro q hq
        obtain ⟨p, hp, hpq⟩ := Value.exists_part_of_slot st hq
        obtain ⟨b, hb⟩ := hpart p hp
        obtain ⟨j, hj⟩ := exists_snapshot_if (guard_part hg hp)
          fun hc : cond => (hr hc).part hp
        refine ⟨b, j, ?_⟩
        rintro _ path' ⟨s, hops, hsees, rfl⟩
        rw [← shapeZeroWithin_eq, ← hpq]
        exact ⟨hb s hops path' hsees, fun hc => hj hc s _ hsees.snapshot⟩
      obtain ⟨b, hb⟩ := exists_slotsZero _ _ _ hslots
      refine ⟨some b, fun s hops path' hsees => ?_⟩
      rw [shapeZeroWithin_eq, shapeZero]
      exact (hb _ path' ⟨s, hops, hsees, rfl⟩).map some

/-- How a hint sees a cell, through at most `hops` cells within one another. -/
def cellHint (ctx : Context) (path : String) :
    (hops : Nat) → Store → CellId → Except Error Hint
  | 0, store, c => .error (ctx.cycle store c path)
  | hops + 1, store, c => do
    let (w, held) ← ctx.enter store c path
    zeroHintWithin ctx path hops held w

theorem zeroHintWithin_eq (ctx : Context) (path : String) (hops : Nat) (store : Store) (v : Value) :
    zeroHintWithin ctx path hops store v =
      hintWith (recordHint ctx path hops store) (cellHint ctx path hops store) v := by
  cases hops <;> rfl

/-- **A hint on a value that a guard lets through is no cycle**, and if all leaves are readable
there is one hint for every store that is seen. -/
theorem exists_zeroHint_of_guard {ctx : Context} (cond : Prop) {room : Nat} {st : Store}
    {v : Value} {path : String} (hg : guard ctx room st v path = .ok ())
    (hr : cond → Readable ctx.schema st v) :
    ∃ hint, ∀ s hops path', st.Sees s hops →
      Settles cond (zeroHintWithin ctx path' hops s v) hint := by
  induction room generalizing st v path with
  | zero => cases hg
  | succ room ih =>
    have hpart : ∀ p ∈ v.parts ctx.schema st, ∃ hint, ∀ s hops path',
        (v.heldIn st).Sees s hops →
        Settles cond (zeroHintWithin ctx path' hops s p.value) hint := fun p hp =>
      ih (guard_part hg hp) fun hc => ((hr hc).part hp).of_cells (v.cells_heldIn st)
    have hplain : (∀ s hops path', zeroHintWithin ctx path' hops s v = .ok .unknown) →
        ∃ hint, ∀ s hops path', st.Sees s hops →
          Settles cond (zeroHintWithin ctx path' hops s v) hint := fun h =>
      ⟨.unknown, fun s hops path' _ => .of_eq (h s hops path')⟩
    cases v with
    | leaf l => exact hplain fun s hops path' => by rw [zeroHintWithin_eq, hintWith]
    | absent => exact hplain fun s hops path' => by rw [zeroHintWithin_eq, hintWith]
    | sequence items => exact hplain fun s hops path' => by rw [zeroHintWithin_eq, hintWith]
    | map entries => exact hplain fun s hops path' => by rw [zeroHintWithin_eq, hintWith]
    | present w =>
      obtain ⟨hint, hh⟩ := hpart ⟨.inner, w⟩ (List.mem_singleton_self _)
      refine ⟨hint, fun s hops path' hsees => ?_⟩
      rw [zeroHintWithin_eq, hintWith, ← zeroHintWithin_eq]
      exact hh s hops path' hsees
    | boxed w =>
      obtain ⟨hint, hh⟩ := hpart ⟨.inner, w⟩ (List.mem_singleton_self _)
      refine ⟨hint, fun s hops path' hsees => ?_⟩
      rw [zeroHintWithin_eq, hintWith, ← zeroHintWithin_eq]
      exact hh s hops path' hsees
    | shared c =>
      have hfree := Value.not_barred_iff.mp (not_barred_of_guard hg) c rfl
      obtain ⟨hint, hh⟩ := Store.exists_below hfree
        (P := fun w s hops hint => ∀ path', Settles cond (zeroHintWithin ctx path' hops s w) hint)
        ((hpart ⟨.inner, (st.cell c).content⟩ (List.mem_singleton_self _)).imp
          fun hint hh s hops h path' => hh s hops path' h)
        ⟨.unknown, fun s hops path' => .of_eq (by rw [zeroHintWithin_eq, hintWith])⟩
      refine ⟨hint, fun s hops path' hsees => ?_⟩
      obtain ⟨n, rfl⟩ := hsees.exists_succ
      rw [zeroHintWithin_eq, hintWith, cellHint, Context.enter, hsees.free hfree, hsees.cell]
      exact (hh s n hsees).2 path'
    | record name slots =>
      obtain ⟨b, hb⟩ := exists_shapeZero_of_guard cond hg hr
      refine ⟨⟨b⟩, fun s hops path' hsees => ?_⟩
      rw [zeroHintWithin_eq, hintWith]
      exact (hb s hops path' hsees).map Hint.mk

/-! ## Inspecting a field -/

/-- **A readable field is inspected iff its guard lets it through**, and what is seen is the hint
and the snapshot from every store with the same contents and no more cells held. -/
theorem exists_inspect_of_guard {ctx : Context} {room : Nat} {st : Store} {v : Value} {p : Place}
    (hg : guard ctx room st v p.path = .ok ()) (hr : Readable ctx.schema st v) :
    ∃ hint form, inspect ctx room st v p = .ok (hint, form) ∧
      ∀ s hops, st.Sees s hops → zeroHint ctx s v p.path = .ok hint ∧
        v.snapshot ctx.schema s = .ok form := by
  obtain ⟨hint, hh⟩ := exists_zeroHint_of_guard True hg fun _ => hr
  obtain ⟨form, hf⟩ := exists_snapshot_of_guard hg hr
  have hhint : ∀ s hops, st.Sees s hops → zeroHint ctx s v p.path = .ok hint := fun s hops h =>
    (hh s _ p.path h.snapshot).ok trivial
  have hform : ∀ s hops, st.Sees s hops → v.snapshot ctx.schema s = .ok form := fun s hops h =>
    hf s _ h.snapshot
  refine ⟨hint, form, ?_, fun s hops h => ⟨hhint s hops h, hform s hops h⟩⟩
  rw [inspect, hg, hhint st _ (.refl st), hform st _ (.refl st)]
  rfl

theorem inspect_of_guard_error {ctx : Context} {room : Nat} {st : Store} {v : Value} {p : Place}
    {e : Error} (hg : guard ctx room st v p.path = .error e) :
    inspect ctx room st v p = .error e := by
  rw [inspect, hg]
  rfl

/-- **An inspection meets a cycle only in its guard.** -/
theorem guard_of_inspect_cycle {ctx : Context} {room : Nat} {st : Store} {v : Value} {p : Place}
    {path typeName : String} (h : inspect ctx room st v p = .error (.cycle path typeName)) :
    guard ctx room st v p.path = .error (.cycle path typeName) := by
  cases hg : guard ctx room st v p.path with
  | error e =>
    rw [inspect_of_guard_error hg] at h
    rw [Except.error.inj h]
  | ok u =>
    obtain ⟨hint, hh⟩ := exists_zeroHint_of_guard False hg False.elim
    have hne := (hh st _ p.path (.refl st)).ne_cycle path typeName
    rw [inspect, hg, bind_eq_error] at h
    obtain h | ⟨_, _, h⟩ := h
    · cases h
    · rw [bind_eq_error] at h
      obtain h | ⟨_, _, h⟩ := h
      · exact absurd h hne
      · cases hs : v.snapshot ctx.schema st <;> rw [hs] at h <;> cases h

end FieldRules
