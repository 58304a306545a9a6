import FieldRules.Proofs.Fresh
import FieldRules.Proofs.Hops
import FieldRules.Proofs.Visit

/-!
# Proofs/Rename — values whose cells have other numbers

`Value.rename f` replaces every cell `c` of a value by `f c`.  Two stores are **alike** along `f` if
the cells of the one, renamed, are those of the other.  A walk uses cells as names only, so what it
says of a value in one store it says of the renamed value in the other (`guard_rename`).
-/

namespace FieldRules

variable {types : String → Prop} {live : CellId → Prop} {f : CellId → CellId} {schema : Schema}

/-! ## Values within some types and cells -/

/-- All records of a value are of certain types, and all cells that it refers to are certain cells;
slots that are not exposed count as well. -/
inductive Value.Within (types : String → Prop) (live : CellId → Prop) : Value → Prop
  | leaf (l : Leaf) : Within types live (.leaf l)
  | absent : Within types live .absent
  | present {v : Value} (h : Within types live v) : Within types live (.present v)
  | boxed {v : Value} (h : Within types live v) : Within types live (.boxed v)
  | shared {c : CellId} (h : live c) : Within types live (.shared c)
  | sequence {items : List Value} (h : ∀ v ∈ items, Within types live v) :
      Within types live (.sequence items)
  | map {entries : List (String × Value)} (h : ∀ e ∈ entries, Within types live e.2) :
      Within types live (.map entries)
  | record {name : String} {slots : List Value} (hname : types name)
      (h : ∀ v ∈ slots, Within types live v) : Within types live (.record name slots)

namespace Value.Within

/-- The parts of a value are within its types and cells, if the cells' contents are. -/
theorem part {s : Store} {v : Value} (h : v.Within types live)
    (hs : ∀ c, live c → (s.cell c).content.Within types live) {p : Part}
    (hp : p ∈ v.parts schema s) : p.value.Within types live := by
  have hmem : p.value ∈ (v.parts schema s).map Part.value := List.mem_map_of_mem hp
  cases h with
  | leaf l => cases hp
  | absent => cases hp
  | present h =>
    obtain rfl := List.mem_singleton.mp hp
    exact h
  | boxed h =>
    obtain rfl := List.mem_singleton.mp hp
    exact h
  | shared h =>
    obtain rfl := List.mem_singleton.mp hp
    exact hs _ h
  | sequence h =>
    rw [values_parts_sequence] at hmem
    exact h _ hmem
  | map h =>
    rw [values_parts_map] at hmem
    obtain ⟨e, he, heq⟩ := List.mem_map.mp hmem
    exact heq ▸ h e he
  | record _ h =>
    rw [values_parts_record] at hmem
    obtain ⟨q, hq, heq⟩ := List.mem_map.mp hmem
    exact heq ▸ h _ (List.mem_of_mem_take (List.of_mem_zip hq).2)

theorem mono {types' : String → Prop} {live' : CellId → Prop} {v : Value}
    (h : v.Within types live) (htypes : ∀ n, types n → types' n) (hlive : ∀ c, live c → live' c) :
    v.Within types' live' := by
  induction h with
  | leaf l => exact .leaf l
  | absent => exact .absent
  | present _ ih => exact .present ih
  | boxed _ ih => exact .boxed ih
  | shared h => exact .shared (hlive _ h)
  | sequence _ ih => exact .sequence ih
  | map _ ih => exact .map ih
  | record hname _ ih => exact .record (htypes _ hname) ih

end Value.Within

/-! ## Renamed values -/

namespace Value

mutual

/-- A value with every cell `c` replaced by `f c`. -/
def rename (f : CellId → CellId) : Value → Value
  | leaf l => leaf l
  | absent => absent
  | present v => present (v.rename f)
  | boxed v => boxed (v.rename f)
  | shared c => shared (f c)
  | sequence items => sequence (renameItems f items)
  | map entries => map (renameEntries f entries)
  | record name slots => record name (renameItems f slots)

def renameItems (f : CellId → CellId) : List Value → List Value
  | [] => []
  | v :: vs => v.rename f :: renameItems f vs

def renameEntries (f : CellId → CellId) : List (String × Value) → List (String × Value)
  | [] => []
  | (k, v) :: es => (k, v.rename f) :: renameEntries f es

end

theorem renameItems_eq (f : CellId → CellId) :
    ∀ items, renameItems f items = items.map (rename f) := by
  intro items
  induction items with
  | nil => rfl
  | cons v vs ih => rw [renameItems, ih, List.map_cons]

theorem renameEntries_eq (f : CellId → CellId) :
    ∀ entries, renameEntries f entries = entries.map fun e => (e.1, e.2.rename f) := by
  intro entries
  induction entries with
  | nil => rfl
  | cons e es ih => rw [renameEntries, ih, List.map_cons]

@[simp] theorem rename_leaf (l : Leaf) : (leaf l).rename f = leaf l := rfl

@[simp] theorem rename_absent : absent.rename f = absent := rfl

@[simp] theorem rename_present (v : Value) : (present v).rename f = present (v.rename f) := rfl

@[simp] theorem rename_boxed (v : Value) : (boxed v).rename f = boxed (v.rename f) := rfl

@[simp] theorem rename_shared (c : CellId) : (shared c).rename f = shared (f c) := rfl

@[simp] theorem rename_sequence (items : List Value) :
    (sequence items).rename f = sequence (items.map (rename f)) := by
  rw [rename, renameItems_eq]

@[simp] theorem rename_map (entries : List (String × Value)) :
    (map entries).rename f = map (entries.map fun e => (e.1, e.2.rename f)) := by
  rw [rename, renameEntries_eq]

@[simp] theorem rename_record (name : String) (slots : List Value) :
    (record name slots).rename f = record name (slots.map (rename f)) := by
  rw [rename, renameItems_eq]

mutual

theorem rename_id : ∀ v : Value, v.rename id = v
  | leaf _ => rfl
  | absent => rfl
  | present v => by rw [rename, rename_id v]
  | boxed v => by rw [rename, rename_id v]
  | shared _ => rfl
  | sequence items => by rw [rename, renameItems_id items]
  | map entries => by rw [rename, renameEntries_id entries]
  | record _ slots => by rw [rename, renameItems_id slots]

theorem renameItems_id : ∀ items : List Value, renameItems id items = items
  | [] => rfl
  | v :: vs => by rw [renameItems, rename_id v, renameItems_id vs]

theorem renameEntries_id : ∀ entries : List (String × Value), renameEntries id entries = entries
  | [] => rfl
  | (k, v) :: es => by rw [renameEntries, rename_id v, renameEntries_id es]

end

/-- Renamings that agree on the cells of a value rename it alike. -/
theorem rename_congr {g : CellId → CellId} {v : Value} (h : v.Within types live)
    (hfg : ∀ c, live c → f c = g c) : v.rename f = v.rename g := by
  induction h with
  | leaf l => rfl
  | absent => rfl
  | present _ ih => rw [rename_present, ih, rename_present]
  | boxed _ ih => rw [rename_boxed, ih, rename_boxed]
  | shared h => rw [rename_shared, hfg _ h, rename_shared]
  | sequence _ ih => rw [rename_sequence, rename_sequence, List.map_congr_left ih]
  | map _ ih =>
    rw [rename_map, rename_map]
    exact congrArg map (List.map_congr_left fun e he => by rw [ih e he])
  | record _ _ ih => rw [rename_record, rename_record, List.map_congr_left ih]

/-- A value whose cells keep their numbers stays as it is. -/
theorem rename_eq_self {v : Value} (h : v.Within types live) (hf : ∀ c, live c → f c = c) :
    v.rename f = v :=
  (rename_congr h hf).trans v.rename_id

/-- A value that is taken apart and put together again can be renamed before or after. -/
theorem rename_refill (v : Value) (ws : List Value) :
    (v.refill ws).rename f = (v.rename f).refill (ws.map (rename f)) := by
  cases v with
  | leaf l => rfl
  | absent => rfl
  | present w => cases ws <;> rfl
  | boxed w => cases ws <;> rfl
  | shared c => rfl
  | sequence items => simp [refill]
  | map entries => simp [refill, List.zipWith_map, List.map_zipWith]
  | record name slots => simp [refill, List.map_drop]

theorem Within.refill {v : Value} {ws : List Value} (h : v.Within types live)
    (hws : ∀ w ∈ ws, w.Within types live) : (v.refill ws).Within types live := by
  cases h with
  | leaf l => exact .leaf l
  | absent => exact .absent
  | present h =>
    cases ws with
    | nil => exact .present h
    | cons w ws => exact .present (hws w List.mem_cons_self)
  | boxed h =>
    cases ws with
    | nil => exact .boxed h
    | cons w ws => exact .boxed (hws w List.mem_cons_self)
  | shared h => exact .shared h
  | sequence h => exact .sequence hws
  | map h =>
    refine .map fun e he => ?_
    rw [← List.map_uncurry_zip_eq_zipWith] at he
    obtain ⟨q, hq, rfl⟩ := List.mem_map.mp he
    exact hws q.2 (List.of_mem_zip hq).2
  | record hname h =>
    refine .record hname fun w hw => ?_
    rcases List.mem_append.mp hw with hw | hw
    · exact hws w hw
    · exact h w (List.mem_of_mem_drop hw)

end Value

/-! ## Stores that are alike -/

/-- A cell with a renamed content. -/
def Cell.rename (f : CellId → CellId) (c : Cell) : Cell := ⟨c.typ, c.content.rename f⟩

/-- Two stores with the same live cells, up to their numbers: what is in a live cell of the one is,
renamed, in the cell of the other that `f` gives, which is held iff the first one is.  Live cells
refer to live cells only, and new cells are live; the next new cells get numbers that correspond. -/
structure Store.Alike (types : String → Prop) (live : CellId → Prop) (f : CellId → CellId)
    (s s' : Store) : Prop where
  fresh : ∀ c, s.cells.length ≤ c → live c
  within : ∀ c, live c → (s.cell c).content.Within types live
  inj : ∀ c d, live c → live d → f c = f d → c = d
  shift : ∀ k, f (s.cells.length + k) = s'.cells.length + k
  lt : ∀ c, live c → c < s.cells.length → f c < s'.cells.length
  cell : ∀ c, live c → s'.cell (f c) = (s.cell c).rename f
  held : ∀ c, live c → s'.isHeld (f c) = s.isHeld c

namespace Store.Alike

variable {s s' : Store}

theorem typ (h : s.Alike types live f s') {c : CellId} (hc : live c) :
    (s'.cell (f c)).typ = (s.cell c).typ := by rw [h.cell c hc, Cell.rename]

theorem content (h : s.Alike types live f s') {c : CellId} (hc : live c) :
    (s'.cell (f c)).content = (s.cell c).content.rename f := by rw [h.cell c hc, Cell.rename]

theorem hold (h : s.Alike types live f s') {c : CellId} (hc : live c) :
    (s.hold c).Alike types live f (s'.hold (f c)) := by
  refine ⟨h.fresh, h.within, h.inj, h.shift, h.lt, h.cell, fun d hd => ?_⟩
  have hiff : f d = f c ↔ d = c := ⟨h.inj d c hd hc, congrArg f⟩
  rw [Store.isHeld_hold, Store.isHeld_hold, h.held d hd, decide_eq_decide.mpr hiff]

theorem lt_iff (h : s.Alike types live f s') {c : CellId} (hc : live c) :
    f c < s'.cells.length ↔ c < s.cells.length := by
  refine ⟨fun hlt => ?_, h.lt c hc⟩
  by_contra hge
  have hshift := h.shift (c - s.cells.length)
  rw [Nat.add_sub_cancel' (Nat.le_of_not_lt hge)] at hshift
  rw [hshift] at hlt
  exact Nat.not_lt_of_le (Nat.le_add_right _ _) hlt

/-- What is written into corresponding cells keeps the stores alike. -/
theorem write (h : s.Alike types live f s') {c : CellId} (hc : live c) {w : Value}
    (hw : w.Within types live) :
    (s.write c w).Alike types live f (s'.write (f c) (w.rename f)) := by
  by_cases hlt : c < s.cells.length
  · have hlen : (s.write c w).cells.length = s.cells.length := s.length_write c w
    have hlen' : (s'.write (f c) (w.rename f)).cells.length = s'.cells.length :=
      s'.length_write _ _
    refine ⟨fun d hd => h.fresh d (hlen ▸ hd), fun d hd => ?_, h.inj, ?_, ?_, fun d hd => ?_,
      h.held⟩
    · by_cases hdc : d = c
      · rw [hdc, Store.content_write hlt]
        exact hw
      · rw [Store.cell_write_of_ne hdc]
        exact h.within d hd
    · rw [hlen, hlen']
      exact h.shift
    · rw [hlen, hlen']
      exact h.lt
    · by_cases hdc : d = c
      · rw [hdc, Store.cell_write hlt, Store.cell_write (h.lt c hc hlt), h.typ hc]
        rfl
      · have hne : f d ≠ f c := fun heq => hdc (h.inj d c hd hc heq)
        rw [Store.cell_write_of_ne hdc, Store.cell_write_of_ne hne, h.cell d hd]
  · have hge' : s'.cells.length ≤ f c := Nat.le_of_not_lt fun hlt' => hlt ((h.lt_iff hc).mp hlt')
    rwa [Store.write_of_le (Nat.le_of_not_lt hlt), Store.write_of_le hge']

/-- Corresponding cells that are held stay held, and the others free, if all that is held is. -/
theorem of_held {t t' : Store} (h : t.Alike types live f t') (hs : s.Alike types live f s') :
    Store.Alike types live f ⟨t.cells, s.held⟩ ⟨t'.cells, s'.held⟩ :=
  ⟨h.fresh, h.within, h.inj, h.shift, h.lt, h.cell, hs.held⟩

end Store.Alike

theorem Store.eq_of_cell {s s' : Store} (hheld : s'.held = s.held)
    (hlen : s'.cells.length = s.cells.length) (hcell : ∀ c, s'.cell c = s.cell c) : s' = s := by
  have hcells : s'.cells = s.cells := by
    refine List.ext_getElem hlen fun c h h' => ?_
    have hc := hcell c
    simpa [cell, h, h'] using hc
  rw [← show Store.mk s'.cells s'.held = s' from rfl, hcells, hheld]

/-- Without any renaming, live cells are the same. -/
theorem Store.Alike.cell_eq {s s' : Store} (h : s.Alike types live id s') {c : CellId}
    (hc : live c) : s'.cell c = s.cell c := by
  have hcell := h.cell c hc
  rw [Cell.rename, Value.rename_id] at hcell
  exact hcell

/-- Stores that are alike in all cells, without any renaming, are the same if the same is held. -/
theorem Store.Alike.eq {s s' : Store} (h : s.Alike types live id s') (hall : ∀ c, live c)
    (hheld : s'.held = s.held) : s' = s :=
  Store.eq_of_cell hheld (h.shift 0).symm fun c => h.cell_eq (hall c)

/-! ## Parts -/

/-- A part with a renamed value. -/
def Part.rename (f : CellId → CellId) (p : Part) : Part := ⟨p.site, p.value.rename f⟩

section

variable {s s' : Store} {v : Value}

/-- The parts of a renamed value are renamed parts. -/
theorem Value.parts_rename (h : s.Alike types live f s') (hv : v.Within types live) :
    (v.rename f).parts schema s' = (v.parts schema s).map (Part.rename f) := by
  cases hv with
  | leaf l => rfl
  | absent => rfl
  | present hv => rfl
  | boxed hv => rfl
  | shared hc =>
    rw [rename_shared, parts, parts, h.content hc]
    rfl
  | sequence hv =>
    rw [rename_sequence, parts, parts, List.zipIdx_map, List.map_map, List.map_map]
    rfl
  | map hv =>
    rw [rename_map, parts, parts, List.map_map, List.map_map]
    rfl
  | record hname hv =>
    rw [rename_record, parts, parts, ← List.map_take, List.zip_map_right, List.zipIdx_map,
      List.map_map, List.map_map]
    rfl

theorem Value.barred_rename (h : s.Alike types live f s') (hv : v.Within types live) :
    (v.rename f).Barred s' ↔ v.Barred s := by
  rcases v with _ | _ | _ | _ | c | _ | _ | _
  case shared =>
    cases hv with
    | shared hc =>
      simp only [Barred, rename_shared, Value.shared.injEq, exists_eq_left', h.held c hc]
  all_goals simp [Barred]

theorem Value.heldIn_rename (h : s.Alike types live f s') (hv : v.Within types live) :
    (v.heldIn s).Alike types live f ((v.rename f).heldIn s') := by
  rcases v with _ | _ | _ | _ | c | _ | _ | _
  case shared =>
    cases hv with
    | shared hc => exact h.hold hc
  all_goals exact h

end

/-! ## Guards -/

variable {ctx : Context}

theorem Context.cycle_rename {s s' : Store} (h : s.Alike types live f s') {c : CellId}
    (hc : live c) (path : String) : ctx.cycle s' (f c) path = ctx.cycle s c path := by
  rw [Context.cycle, Context.cycle, h.typ hc]

/-- **A guard of a renamed value says what the guard of the value says.** -/
theorem guard_rename {room : Nat} {s s' : Store} {v : Value} {path : String}
    (h : s.Alike types live f s') (hv : v.Within types live) :
    guard ctx room s' (v.rename f) path = guard ctx room s v path := by
  induction room generalizing s s' v path with
  | zero => rfl
  | succ room ih =>
    by_cases hbar : v.Barred s
    · obtain ⟨c, rfl, hc⟩ := hbar
      cases hv with
      | shared hlive =>
        have hc' : s'.isHeld (f c) = true := (h.held c hlive).trans hc
        rw [Value.rename_shared, guard_held hc', guard_held hc, Context.cycle_rename h hlive]
    · have hbar' : ¬ (v.rename f).Barred s' := fun hb => hbar ((Value.barred_rename h hv).mp hb)
      rw [guard_succ hbar, guard_succ hbar', Value.parts_rename h hv, List.forM_map]
      exact forM_congr fun p hp => ih (Value.heldIn_rename h hv) (hv.part h.within hp)

/-! ## Snapshots -/

/-- A renamed value has the form of the value, if renamed cells have the forms of the cells. -/
theorem Value.snapshotWith_rename {deref deref' : CellId → Except Unreadable Json} {v : Value}
    (hv : v.Within types live) (h : ∀ c, live c → deref' (f c) = deref c) :
    snapshotWith schema deref' (v.rename f) = snapshotWith schema deref v := by
  induction hv with
  | leaf l => rw [rename_leaf, snapshotWith, snapshotWith]
  | absent => rw [rename_absent, snapshotWith, snapshotWith]
  | present _ ih => rw [rename_present, snapshotWith, snapshotWith, ih]
  | boxed _ ih => rw [rename_boxed, snapshotWith, snapshotWith, ih]
  | shared hc => rw [rename_shared, snapshotWith, snapshotWith, h _ hc]
  | sequence _ ih =>
    rw [rename_sequence, snapshotWith, snapshotWith, snapshotItems_eq, snapshotItems_eq,
      List.mapM_map]
    exact congrArg (· >>= _) (mapM_congr fun v hv => congrArg (Except.map id) (ih v hv))
  | map _ ih =>
    rw [rename_map, snapshotWith, snapshotWith, snapshotEntries_eq, snapshotEntries_eq,
      List.mapM_map]
    exact congrArg (· >>= _) (mapM_congr fun e he => congrArg (Except.map (e.1, ·)) (ih e he))
  | record _ _ ih =>
    rw [rename_record, snapshotWith, snapshotWith, snapshotSlots_eq, snapshotSlots_eq,
      List.zip_map_right, List.mapM_map]
    exact congrArg (· >>= _) (mapM_congr fun q hq =>
      congrArg (Except.map (q.1.key, ·)) (ih q.2 (List.of_mem_zip hq).2))

variable {s s' : Store} {v : Value}

theorem cellForm_rename (h : s.Alike types live f s') (hops : Nat) {c : CellId} (hc : live c) :
    cellForm schema s' hops (f c) = cellForm schema s hops c := by
  induction hops generalizing c with
  | zero => rfl
  | succ hops ih =>
    rw [cellForm_succ, cellForm_succ, h.held c hc, h.content hc]
    split
    · rfl
    · exact Value.snapshotWith_rename (h.within c hc) fun d hd => ih hd

/-- **A renamed value has the snapshot of the value.** -/
theorem Value.snapshot_rename (h : s.Alike types live f s') (hv : v.Within types live) :
    (v.rename f).snapshot schema s' = v.snapshot schema s := by
  let hops := max s.cells.length s'.cells.length + 1
  have hs : cellForm schema s (s.cells.length + 1) = cellForm schema s hops :=
    (cellForm_of_lt (Nat.lt_succ_of_le (Nat.le_max_left _ _))).symm
  have hs' : cellForm schema s' (s'.cells.length + 1) = cellForm schema s' hops :=
    (cellForm_of_lt (Nat.lt_succ_of_le (Nat.le_max_right _ _))).symm
  rw [snapshot, snapshot, snapshotWithin_eq, snapshotWithin_eq, hs, hs']
  exact snapshotWith_rename hv fun c hc => cellForm_rename h hops hc

/-! ## Zero hints -/

/-- Two views that show the same of renamed cells and values. -/
structure ZeroView.Alike (types : String → Prop) (live : CellId → Prop) (f : CellId → CellId)
    (view view' : ZeroView) : Prop where
  deref : ∀ c, live c → view'.deref (f c) = view.deref c
  snapshot : ∀ v : Value, v.Within types live → view'.snapshot (v.rename f) = view.snapshot v

theorem slotsZero_rename {view view' : ZeroView} (h : view.Alike types live f view') {path : String}
    (exposed : Nat) (fields : List RecordField) {slots : List Value}
    (hslots : ∀ v ∈ slots, v.Within types live ∧
      shapeZero ctx view' path (v.rename f) = shapeZero ctx view path v) :
    slotsZero ctx view' path exposed fields (slots.map (Value.rename f))
      = slotsZero ctx view path exposed fields slots := by
  induction slots generalizing exposed fields with
  | nil => cases exposed <;> cases fields <;> simp [slotsZero]
  | cons v vs ih =>
    obtain ⟨⟨hv, hshape⟩, hvs⟩ := List.forall_mem_cons.mp hslots
    cases exposed with
    | zero => simp [slotsZero]
    | succ exposed =>
      cases fields with
      | nil => simp [slotsZero]
      | cons g fields =>
        have hzero : slotZero ctx view' path g (v.rename f) = slotZero ctx view path g v := by
          funext shape
          cases shape with
          | some b => rfl
          | none => simp only [slotZero, h.snapshot v hv]
        rw [List.map_cons, slotsZero_cons, slotsZero_cons, hshape, hzero, ih exposed fields hvs]

theorem shapeZero_rename {view view' : ZeroView} (h : view.Alike types live f view') {path : String}
    (hv : v.Within types live) :
    shapeZero ctx view' path (v.rename f) = shapeZero ctx view path v := by
  induction hv with
  | leaf l => rw [Value.rename_leaf, shapeZero, shapeZero]
  | absent => rw [Value.rename_absent, shapeZero, shapeZero]
  | present _ _ => rw [Value.rename_present, shapeZero, shapeZero]
  | boxed _ ih => rw [Value.rename_boxed, shapeZero, shapeZero, ih]
  | shared hc => rw [Value.rename_shared, shapeZero, shapeZero, h.deref _ hc]
  | sequence _ _ => rw [Value.rename_sequence, shapeZero, shapeZero, List.isEmpty_map]
  | map _ _ => rw [Value.rename_map, shapeZero, shapeZero, List.isEmpty_map]
  | record _ hslots ih =>
    rw [Value.rename_record, shapeZero, shapeZero,
      slotsZero_rename h _ _ fun v hv => ⟨hslots v hv, ih v hv⟩]

/-- A free cell holds a leaf, or holding it leaves one cell less to be looked into on both sides. -/
theorem Store.Alike.free_hold (h : s.Alike types live f s') {c : CellId} (hc : live c)
    (hfree : s.isHeld c = false) : (s.cell c).content = .leaf .unit ∨
      (s.hold c).free < s.free ∧ (s'.hold (f c)).free < s'.free := by
  rcases Nat.lt_or_ge c s.cells.length with hlt | hge
  · have hfree' : s'.isHeld (f c) = false := (h.held c hc).trans hfree
    exact .inr ⟨Store.free_hold_lt hlt hfree, Store.free_hold_lt (h.lt c hc hlt) hfree'⟩
  · exact .inl (Store.cell_of_le hge)

/-- What is found behind corresponding cells is the same if it is the same of their contents. -/
theorem Context.enter_rename {α : Type} {path : String} (h : s.Alike types live f s') {c : CellId}
    (hc : live c) {look look' : Value × Store → Except Error α}
    (hlook : s.isHeld c = false → look' ((s.cell c).content.rename f, s'.hold (f c))
      = look ((s.cell c).content, s.hold c)) :
    (ctx.enter s' (f c) path >>= look') = (ctx.enter s c path >>= look) := by
  rw [Context.enter, Context.enter, h.held c hc, Context.cycle_rename h hc, h.content hc]
  split
  · rfl
  · next hfree => exact hlook (Bool.eq_false_iff.mpr hfree)

/-- **Whether a value is zero does not depend on the numbers of cells**, with hops for all cells
that are free. -/
theorem shapeZeroWithin_rename {hops hops' : Nat} {path : String} (h : s.Alike types live f s')
    (hv : v.Within types live) (hhops : s.free < hops) (hhops' : s'.free < hops') :
    shapeZeroWithin ctx path hops' s' (v.rename f) = shapeZeroWithin ctx path hops s v := by
  induction hops generalizing hops' s s' v with
  | zero => cases hhops
  | succ hops ih =>
    obtain ⟨hops', rfl⟩ := Nat.exists_eq_succ_of_ne_zero (Nat.ne_of_gt (Nat.zero_lt_of_lt hhops'))
    rw [shapeZeroWithin_eq, shapeZeroWithin_eq]
    refine shapeZero_rename ⟨fun c hc => ?_, fun w hw => Value.snapshot_rename h hw⟩ hv
    refine Context.enter_rename h hc fun hfree => ?_
    rcases h.free_hold hc hfree with hleaf | ⟨hlt, hlt'⟩
    · simp only [hleaf, Value.rename_leaf, shapeZeroWithin_eq, shapeZero]
    · exact ih (h.hold hc) (h.within c hc) (hlt.trans_le (Nat.le_of_lt_succ hhops))
        (hlt'.trans_le (Nat.le_of_lt_succ hhops'))

theorem hintWith_rename {record record' : Value → Except Error Hint}
    {deref deref' : CellId → Except Error Hint} (hv : v.Within types live)
    (hrecord : ∀ w : Value, w.Within types live → record' (w.rename f) = record w)
    (hderef : ∀ c, live c → deref' (f c) = deref c) :
    hintWith record' deref' (v.rename f) = hintWith record deref v := by
  induction hv with
  | present _ ih => rw [Value.rename_present, hintWith, hintWith, ih]
  | boxed _ ih => rw [Value.rename_boxed, hintWith, hintWith, ih]
  | shared hc => rw [Value.rename_shared, hintWith, hintWith, hderef _ hc]
  | record hname hslots _ =>
    have h := hrecord _ (.record hname hslots)
    rw [Value.rename_record] at h ⊢
    rw [hintWith, hintWith, h]
  | leaf l => rw [Value.rename_leaf, hintWith, hintWith]
  | absent => rw [Value.rename_absent, hintWith, hintWith]
  | sequence _ _ => rw [Value.rename_sequence, hintWith, hintWith]
  | map _ _ => rw [Value.rename_map, hintWith, hintWith]

theorem zeroHintWithin_rename {hops hops' : Nat} {path : String} (h : s.Alike types live f s')
    (hv : v.Within types live) (hhops : s.free < hops) (hhops' : s'.free < hops') :
    zeroHintWithin ctx path hops' s' (v.rename f) = zeroHintWithin ctx path hops s v := by
  induction hops generalizing hops' s s' v with
  | zero => cases hhops
  | succ hops ih =>
    obtain ⟨hops', rfl⟩ := Nat.exists_eq_succ_of_ne_zero (Nat.ne_of_gt (Nat.zero_lt_of_lt hhops'))
    rw [zeroHintWithin_eq, zeroHintWithin_eq]
    refine hintWith_rename hv (fun w hw => ?_) fun c hc => ?_
    · rw [recordHint, recordHint, shapeZeroWithin_rename h hw hhops hhops']
    · refine Context.enter_rename h hc fun hfree => ?_
      rcases h.free_hold hc hfree with hleaf | ⟨hlt, hlt'⟩
      · simp only [hleaf, Value.rename_leaf, zeroHintWithin_eq, hintWith]
      · exact ih (h.hold hc) (h.within c hc) (hlt.trans_le (Nat.le_of_lt_succ hhops))
          (hlt'.trans_le (Nat.le_of_lt_succ hhops'))

/-! ## Inspecting a field -/

/-- **A field is seen the same whatever numbers cells have.** -/
theorem inspect_rename {room : Nat} (h : s.Alike types live f s') (hv : v.Within types live)
    (p : Place) : inspect ctx room s' (v.rename f) p = inspect ctx room s v p := by
  have hhint : zeroHint ctx s' (v.rename f) p.path = zeroHint ctx s v p.path :=
    zeroHintWithin_rename h hv (Nat.lt_succ_of_le s.free_le) (Nat.lt_succ_of_le s'.free_le)
  rw [inspect, inspect, guard_rename h hv, hhint, Value.snapshot_rename h hv]

end FieldRules
