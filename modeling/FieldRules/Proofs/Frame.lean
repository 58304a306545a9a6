import FieldRules.Proofs.Transparent

/-!
# Proofs/Frame — what a run leaves as it is

A run writes into fields that have mappers, and nowhere else.  A **spot** is a place that is reached
from the root, or from the content of a cell, without entering another cell; it is **spared** if no
route from the root to it passes a field with mappers.  However a run ends, a spared leaf is as it
was and a spared container keeps its shape (`spots_spared`).
-/

namespace FieldRules

variable {schema : Schema}

/-! ## Shapes -/

/-- How many slots of a record are walked at most. -/
def Schema.reach (schema : Schema) (name : String) : Nat :=
  min (schema.record name).fields.length (schema.record name).exposed

/-- Values of one shape: equal leaves, options that are both absent or both present, boxes, the same
cell, sequences of one length, maps of the same keys, and records of one type with as many slots, of
which those that no walk reaches are equal. -/
inductive Value.SameShape (schema : Schema) : Value → Value → Prop
  | leaf (l : Leaf) : SameShape schema (.leaf l) (.leaf l)
  | absent : SameShape schema .absent .absent
  | present (v w : Value) : SameShape schema (.present v) (.present w)
  | boxed (v w : Value) : SameShape schema (.boxed v) (.boxed w)
  | shared (c : CellId) : SameShape schema (.shared c) (.shared c)
  | sequence {items items' : List Value} (h : items'.length = items.length) :
      SameShape schema (.sequence items) (.sequence items')
  | map {entries entries' : List (String × Value)}
      (h : entries'.map Prod.fst = entries.map Prod.fst) :
      SameShape schema (.map entries) (.map entries')
  | record {name : String} {slots slots' : List Value} (hlen : slots'.length = slots.length)
      (h : slots'.drop (schema.reach name) = slots.drop (schema.reach name)) :
      SameShape schema (.record name slots) (.record name slots')

namespace Value.SameShape

theorem refl (v : Value) : v.SameShape schema v := by
  cases v with
  | leaf l => exact .leaf l
  | absent => exact .absent
  | present v => exact .present v v
  | boxed v => exact .boxed v v
  | shared c => exact .shared c
  | sequence items => exact .sequence rfl
  | map entries => exact .map rfl
  | record name slots => exact .record rfl rfl

theorem trans {u v w : Value} (h : u.SameShape schema v) (h' : v.SameShape schema w) :
    u.SameShape schema w := by
  cases h with
  | leaf l => exact h'
  | absent => exact h'
  | present => cases h' with | present => exact .present _ _
  | boxed => cases h' with | boxed => exact .boxed _ _
  | shared c => exact h'
  | sequence h => cases h' with | sequence h' => exact .sequence (h'.trans h)
  | map h => cases h' with | map h' => exact .map (h'.trans h)
  | record hlen h =>
    cases h' with | record hlen' h' => exact .record (hlen'.trans hlen) (h'.trans h)

theorem eq_of_leaf {l : Leaf} {w : Value} (h : (Value.leaf l).SameShape schema w) :
    w = .leaf l := by
  cases h
  rfl

/-- A value keeps its shape when other parts are put into it. -/
theorem refill {store : Store} {v : Value} {ws : List Value}
    (hlen : ws.length = (v.parts schema store).length) : v.SameShape schema (v.refill ws) := by
  cases v with
  | leaf l => exact .leaf l
  | absent => exact .absent
  | present v => exact .present v _
  | boxed v => exact .boxed v _
  | shared c => exact .shared c
  | sequence items => exact .sequence (by simpa [parts] using hlen)
  | map entries =>
    have hws : ws.length = entries.length := by simpa [parts] using hlen
    refine .map (List.ext_getElem (by simp [hws]) fun i h h' => ?_)
    simp
  | record name slots =>
    have hws : ws.length = min (schema.reach name) slots.length := by
      simpa [parts, Schema.reach, Nat.min_assoc] using hlen
    refine .record (by simp; omega) ?_
    rcases Nat.le_total (schema.reach name) slots.length with hle | hle
    · rw [Nat.min_eq_left hle] at hws
      rw [← hws, List.drop_left]
    · rw [Nat.min_eq_right hle] at hws
      rw [hws, List.drop_length, List.append_nil, List.drop_of_length_le hle,
        List.drop_of_length_le (hws ▸ hle)]

end Value.SameShape

/-! ## Routes that enter no cell -/

/-- A route that enters no cell ends at once, or goes on from a part of what is no cell. -/
theorem Route.inner_cases {store : Store} {v w : Value} {sites : List Site}
    (h : Route schema store v sites [] w) : (sites = [] ∧ w = v) ∨
      ∃ p ∈ v.parts schema store, ∃ rest, v.entered = [] ∧ sites = p.site :: rest ∧
        Route schema store p.value rest [] w := by
  suffices hcases : ∀ cells, Route schema store v sites cells w → cells = [] → _ from
    hcases [] h rfl
  intro cells h hcells
  cases h with
  | here => exact .inl ⟨rfl, rfl⟩
  | down hp h =>
    obtain ⟨hv, rfl⟩ := List.append_eq_nil_iff.mp hcells
    exact .inr ⟨_, hp, _, hv, rfl, h⟩

/-- Such a route is one in every store. -/
theorem Route.inner {s s' : Store} {v w : Value} {sites : List Site}
    (h : Route schema s v sites [] w) : Route schema s' v sites [] w := h.congr nofun

/-- A step into a part of what is no cell. -/
theorem Route.inner_down {store : Store} {v w : Value} {p : Part} {sites : List Site}
    (hv : v.entered = []) (hp : p ∈ v.parts schema store)
    (h : Route schema store p.value sites [] w) :
    Route schema store v (p.site :: sites) [] w := by
  have hdown := Route.down hp h
  rwa [hv] at hdown

theorem refers_of_inner {store : Store} {v : Value} {sites : List Site} {c : CellId}
    (h : Route schema store v sites [] (.shared c)) : Refers schema v c := by
  induction sites generalizing v with
  | nil =>
    obtain ⟨_, rfl⟩ | ⟨_, _, _, _, heq, _⟩ := h.inner_cases
    · exact .here c
    · cases heq
  | cons site sites ih =>
    obtain ⟨heq, _⟩ | ⟨p, hp, rest, hv, heq, hrest⟩ := h.inner_cases
    · cases heq
    · obtain ⟨rfl, rfl⟩ := List.cons.inj heq
      exact (refers_iff hv store).mpr ⟨p, hp, ih hrest⟩

/-- A cell is the end of a route that enters no cell only if the route ends at once. -/
theorem eq_nil_of_inner_shared {store : Store} {c d : CellId} {sites : List Site}
    (h : Route schema store (.shared c) sites [] (.shared d)) : sites = [] ∧ d = c := by
  obtain ⟨rfl, hd⟩ | ⟨_, _, _, hv, _⟩ := h.inner_cases
  · exact ⟨rfl, Value.shared.inj hd⟩
  · cases hv

/-! ## Fields with mappers -/

/-- A field whose annotation names mappers. -/
def Site.Mapped : Site → Prop
  | field _ _ d => ¬ d.Unmapped
  | _ => False

/-- Some field among the sites has mappers. -/
def AnyMapped (sites : List Site) : Prop := ∃ site ∈ sites, site.Mapped

theorem anyMapped_cons {site : Site} {sites : List Site} :
    AnyMapped (site :: sites) ↔ site.Mapped ∨ AnyMapped sites := by
  simp [AnyMapped]

theorem anyMapped_append {sites sites' : List Site} :
    AnyMapped (sites ++ sites') ↔ AnyMapped sites ∨ AnyMapped sites' := by
  simp [AnyMapped, or_and_right, exists_or]

theorem not_anyMapped_nil : ¬ AnyMapped [] := nofun

/-- What a value keeps through a run: whatever is reached without entering a cell or passing a field
with mappers keeps its shape. -/
def Value.Keeps (schema : Schema) (v w : Value) : Prop :=
  ∀ sites u, Route schema .empty v sites [] u → ¬ AnyMapped sites →
    ∃ u', Route schema .empty w sites [] u' ∧ u.SameShape schema u'

namespace Value.Keeps

theorem refl (v : Value) : v.Keeps schema v := fun _ u h _ => ⟨u, h, .refl u⟩

theorem trans {u v w : Value} (h : u.Keeps schema v) (h' : v.Keeps schema w) :
    u.Keeps schema w := by
  intro sites x hx hsites
  obtain ⟨y, hy, hxy⟩ := h sites x hx hsites
  obtain ⟨z, hz, hyz⟩ := h' sites y hy hsites
  exact ⟨z, hz, hxy.trans hyz⟩

/-- A value keeps what its parts keep. -/
theorem refill {store : Store} {v : Value} (hv : v.entered = []) {ws : List Value}
    (h : List.Forall₂ (fun p w => ¬ p.site.Mapped → p.value.Keeps schema w)
      (v.parts schema store) ws) : v.Keeps schema (v.refill ws) := by
  intro sites u hu hsites
  obtain ⟨rfl, rfl⟩ | ⟨p, hp, rest, _, rfl, hrest⟩ := hu.inner_cases
  · exact ⟨_, .here _, .refill h.length_eq.symm⟩
  · rw [anyMapped_cons, not_or] at hsites
    obtain ⟨q, hq, hsite, hkeeps⟩ :=
      exists_of_mem_forall₂ (forall₂_parts_refill hv h .empty).flip p hp
    obtain ⟨u', hu', hshape⟩ := hkeeps hsites.1 rest u hrest hsites.2
    exact ⟨u', hsite ▸ .inner_down ((v.entered_refill ws).trans hv) hq hu', hshape⟩

end Value.Keeps

/-! ## Cells that may be written -/

section

variable {live dirty : CellId → Prop}

/-- All cells that a value refers to are live; those that it refers to below a field with mappers,
or all of them if the value is `mapped` itself, are dirty. -/
def Value.Tame (schema : Schema) (live dirty : CellId → Prop) (mapped : Prop) (v : Value) : Prop :=
  ∀ sites d, Route schema .empty v sites [] (.shared d) →
    live d ∧ (mapped ∨ AnyMapped sites → dirty d)

namespace Value.Tame

variable {mapped : Prop} {v : Value}

theorem part (h : v.Tame schema live dirty mapped) (hv : v.entered = []) {store : Store} {p : Part}
    (hp : p ∈ v.parts schema store) :
    p.value.Tame schema live dirty (mapped ∨ p.site.Mapped) := by
  intro sites d hd
  rw [v.parts_of_entered hv store .empty] at hp
  have hdown := h _ d (.inner_down hv hp hd)
  rwa [anyMapped_cons, ← or_assoc] at hdown

theorem refill {store : Store} (hv : v.entered = []) {ws : List Value}
    (h : List.Forall₂ (fun p w => w.Tame schema live dirty (mapped ∨ p.site.Mapped))
      (v.parts schema store) ws) : (v.refill ws).Tame schema live dirty mapped := by
  have hv' : (v.refill ws).entered = [] := (v.entered_refill ws).trans hv
  intro sites d hd
  obtain ⟨_, heq⟩ | ⟨p, hp, rest, _, rfl, hrest⟩ := hd.inner_cases
  · rw [← heq] at hv'
    cases hv'
  · obtain ⟨q, _, hsite, hq⟩ := exists_of_mem_forall₂ (forall₂_parts_refill hv h .empty) p hp
    have hw := hq rest d hrest
    rwa [hsite, anyMapped_cons, ← or_assoc]

theorem shared_iff {c : CellId} : (Value.shared c).Tame schema live dirty mapped ↔
    live c ∧ (mapped → dirty c) := by
  refine ⟨fun h => ?_, fun h sites d hd => ?_⟩
  · obtain ⟨hlive, hdirty⟩ := h [] c (.here _)
    exact ⟨hlive, fun hm => hdirty (.inl hm)⟩
  · obtain ⟨rfl, rfl⟩ := eq_nil_of_inner_shared hd
    exact ⟨h.1, fun hm => h.2 (hm.resolve_right not_anyMapped_nil)⟩

end Value.Tame

/-- New cells are live and dirty, and what is in a live cell is tame. -/
structure Store.Tame (schema : Schema) (live dirty : CellId → Prop) (s : Store) : Prop where
  fresh : ∀ c, s.cells.length ≤ c → live c ∧ dirty c
  content : ∀ c, live c → (s.cell c).content.Tame schema live dirty (dirty c)

/-- Between two stores, cells that are not live are the same, and clean ones keep what no mapper
writes. -/
structure Store.Frames (schema : Schema) (live dirty : CellId → Prop) (s s' : Store) : Prop where
  outside : ∀ c, ¬ live c → s'.cell c = s.cell c
  clean : ∀ c, ¬ dirty c → (s.cell c).content.Keeps schema (s'.cell c).content

namespace Store.Frames

variable {s s' s'' : Store}

theorem refl (s : Store) : s.Frames schema live dirty s := ⟨fun _ _ => rfl, fun _ _ => .refl _⟩

theorem trans (h : s.Frames schema live dirty s') (h' : s'.Frames schema live dirty s'') :
    s.Frames schema live dirty s'' :=
  ⟨fun c hc => (h'.outside c hc).trans (h.outside c hc), fun c hc =>
    (h.clean c hc).trans (h'.clean c hc)⟩

end Store.Frames

/-- The store after a value was visited is tame, and framed by the store before. -/
structure Spares (schema : Schema) (live dirty : CellId → Prop) (s s' : Store) : Prop where
  tame : s'.Tame schema live dirty
  frames : s.Frames schema live dirty s'

theorem Spares.trans {s s' s'' : Store} (h : Spares schema live dirty s s')
    (h' : Spares schema live dirty s' s'') : Spares schema live dirty s s'' :=
  ⟨h'.tame, h.frames.trans h'.frames⟩

/-- Who holds which cells makes no difference. -/
theorem Spares.of_cells {s s' s'' : Store} (h : Spares schema live dirty s s')
    (hs : s''.cells = s'.cells) : Spares schema live dirty s s'' := by
  have hcell : ∀ c, s''.cell c = s'.cell c := fun c => by rw [Store.cell, Store.cell, hs]
  exact ⟨⟨hs ▸ h.tame.fresh, fun c hc => hcell c ▸ h.tame.content c hc⟩,
    fun c hc => (hcell c).trans (h.frames.outside c hc), fun c hc => hcell c ▸ h.frames.clean c hc⟩

/-- The value after a visit is tame, and keeps what no mapper writes unless it is mapped itself. -/
structure Value.Spared (schema : Schema) (live dirty : CellId → Prop) (mapped : Prop)
    (v w : Value) : Prop where
  tame : w.Tame schema live dirty mapped
  keeps : ¬ mapped → v.Keeps schema w

/-- **A value that is read is tame however it is mapped**, and its cells are new. -/
theorem Store.Tame.read {s s' : Store} (hs : s.Tame schema live dirty) {w : Value}
    (hw : Made schema s [w] s') (mapped : Prop) :
    w.Tame schema live dirty mapped ∧ Spares schema live dirty s s' := by
  have hnew : ∀ d, s.cells.length ≤ d → live d ∧ (∀ p : Prop, p → dirty d) := fun d hd =>
    ⟨(hs.fresh d hd).1, fun _ _ => (hs.fresh d hd).2⟩
  have hlen : s.cells.length ≤ s'.cells.length := hw.grown.length_le
  refine ⟨fun sites d hd => ?_, ⟨fun c hc => hs.fresh c (hlen.trans hc), fun c hc => ?_⟩,
    fun c hc => ?_, fun c hc => ?_⟩
  · obtain ⟨hlow, _⟩ := hw.refers w (List.mem_singleton_self w) d (refers_of_inner hd)
    exact ⟨(hnew d hlow).1, (hnew d hlow).2 _⟩
  · rcases Nat.lt_or_ge c s.cells.length with hlt | hge
    · rw [Store.cell_of_prefix hw.grown.cells hlt]
      exact hs.content c hc
    · intro sites d hd
      rcases Nat.lt_or_ge c s'.cells.length with hlt' | hge'
      · obtain ⟨hlow, _⟩ := hw.grown.fresh c hge hlt' d (refers_of_inner hd)
        exact ⟨(hnew d hlow).1, (hnew d hlow).2 _⟩
      · rw [Store.cell_of_le hge'] at hd
        exact absurd (refers_of_inner hd) not_refers_leaf
  · exact Store.cell_of_prefix hw.grown.cells
      (Nat.lt_of_not_le fun hge => hc (hs.fresh c hge).1)
  · rw [Store.cell_of_prefix hw.grown.cells
      (Nat.lt_of_not_le fun hge => hc (hs.fresh c hge).2)]
    exact .refl _

/-- A cell whose content was visited gets it back. -/
theorem Spares.write {s s' : Store} (h : Spares schema live dirty s s') {c : CellId}
    (hc : live c) {w : Value}
    (hw : (s.cell c).content.Spared schema live dirty (dirty c) w) :
    Spares schema live dirty s (s'.write c w) := by
  rcases Nat.lt_or_ge c s'.cells.length with hlt | hge
  · refine ⟨⟨fun d hd => h.tame.fresh d ?_, fun d hd => ?_⟩, fun d hd => ?_, fun d hd => ?_⟩
    · rwa [← s'.length_write c w]
    · by_cases hdc : d = c
      · rw [hdc, Store.content_write hlt]
        exact hw.tame
      · rw [Store.cell_write_of_ne hdc]
        exact h.tame.content d hd
    · have hdc : d ≠ c := fun hdc => hd (hdc ▸ hc)
      rw [Store.cell_write_of_ne hdc]
      exact h.frames.outside d hd
    · by_cases hdc : d = c
      · rw [hdc] at hd ⊢
        rw [Store.content_write hlt]
        exact hw.keeps hd
      · rw [Store.cell_write_of_ne hdc]
        exact h.frames.clean d hd
  · rwa [Store.write_of_le hge]

/-- A value keeps what its parts keep, and is tame as they are. -/
theorem Value.Spared.refill {mapped : Prop} {s : Store} {v : Value} (hv : v.entered = [])
    {ws : List Value}
    (h : List.Forall₂
      (fun p w => p.value.Spared schema live dirty (mapped ∨ p.site.Mapped) w)
      (v.parts schema s) ws) : v.Spared schema live dirty mapped (v.refill ws) :=
  ⟨.refill hv (h.imp fun _ _ hw => hw.tame), fun hm =>
    .refill hv (h.imp fun _ _ hw hsite => hw.keeps (not_or_intro hm hsite))⟩

/-! ## Rules and tasks -/

variable {ctx : Context} {types : String → Prop} {cells : CellId → Prop} {room : Nat}
  {path : String} {mapped : Prop} {run : Run}

theorem Store.Tame.refl {s : Store} (h : s.Tame schema live dirty) :
    Spares schema live dirty s s := ⟨h, .refl s⟩

theorem Value.Spared.refl {v : Value} (h : v.Tame schema live dirty mapped) :
    v.Spared schema live dirty mapped v := ⟨h, fun _ => .refl v⟩

theorem Value.Spared.trans {u v w : Value} (h : u.Spared schema live dirty mapped v)
    (h' : v.Spared schema live dirty mapped w) : u.Spared schema live dirty mapped w :=
  ⟨h'.tame, fun hm => (h.keeps hm).trans (h'.keeps hm)⟩

/-- **A rule spares a field unless it has mappers.** -/
theorem apply_spares (room : Nat) {rule : Rule} (hrule : ¬ mapped → rule.mappers = []) {v : Value}
    (hv : v.Tame ctx.schema live dirty mapped) (hs : run.store.Tame ctx.schema live dirty)
    (p : Place) :
    v.Spared ctx.schema live dirty mapped (apply ctx room rule v p run).value ∧
      Spares ctx.schema live dirty run.store (apply ctx room rule v p run).run.store := by
  by_cases hm : mapped
  · obtain ⟨e, _, h⟩ | ⟨report, h | ⟨form, w, s', hread, h⟩⟩ := apply_cases rule v p run
    · rw [h]
      exact ⟨.refl hv, hs.refl⟩
    · rw [h]
      exact ⟨.refl hv, hs.refl⟩
    · rw [h]
      obtain ⟨hw, hs'⟩ := hs.read (made_read hread) mapped
      exact ⟨⟨hw, fun hno => absurd hm hno⟩, hs'⟩
  · rw [apply_unmapped (hrule hm)]
    split
    · exact ⟨.refl hv, hs.refl⟩
    · exact ⟨.refl hv, hs.refl⟩

/-- Visits with some room spare what is tame. -/
def SparesAll (ctx : Context) (types : String → Prop) (cells live dirty : CellId → Prop)
    (room : Nat) : Prop :=
  ∀ (mapped : Prop) (v : Value) (path : String) (run : Run), v.Within types cells →
    run.Sound ctx types cells → v.Tame ctx.schema live dirty mapped →
    run.store.Tame ctx.schema live dirty →
    v.Spared ctx.schema live dirty mapped (visit ctx room v path run).value ∧
      Spares ctx.schema live dirty run.store (visit ctx room v path run).run.store

/-- A task for a part, with a rule that has mappers only if the site of the part has. -/
structure Task.Fits (schema : Schema) (live dirty : CellId → Prop) (mapped : Prop) (p : Part)
    (t : Task) : Prop where
  value : t.value = p.value
  tame : p.value.Tame schema live dirty (mapped ∨ p.site.Mapped)
  rule : ∀ rule place, t.rule? = some (rule, place) → ¬ p.site.Mapped → rule.mappers = []

theorem Task.spares (path : String) (hfam : ctx.schema.Family types)
    (hvisit : SparesAll ctx types cells live dirty room) {p : Part} {t : Task}
    (ht : t.Within ctx types cells path) (hfits : t.Fits ctx.schema live dirty mapped p)
    (hrun : run.Sound ctx types cells) (hs : run.store.Tame ctx.schema live dirty) :
    p.value.Spared ctx.schema live dirty (mapped ∨ p.site.Mapped)
        (t.visit ctx room path run).value ∧
      Spares ctx.schema live dirty run.store (t.visit ctx room path run).run.store := by
  obtain ⟨hvalue, htame, hmappers⟩ := hfits
  rw [← hvalue] at htame ⊢
  rw [Task.visit]
  cases hrule : t.rule? with
  | none => exact hvisit _ _ _ _ ht.value hrun htame hs
  | some rp =>
    obtain ⟨rule, place⟩ := rp
    obtain ⟨hv, hstore⟩ := apply_spares room
      (fun hm => hmappers rule place hrule fun hsite => hm (.inr hsite)) htame hs place
    simp only [Visit.andThen]
    split
    · exact ⟨hv, hstore⟩
    · obtain ⟨hwithin, hsound⟩ :=
        sound_apply room hfam rule ht.value (ht.typ rule place hrule) hrun
      obtain ⟨hv', hstore'⟩ :=
        hvisit _ _ (Path.spellFrom path (t.steps ctx)) _ hwithin hsound hv.tame hstore.tame
      exact ⟨hv.trans hv', hstore.trans hstore'⟩

theorem visitTasks_spares (path : String) (hfam : ctx.schema.Family types)
    (hvisit : SparesAll ctx types cells live dirty room) {ps : List Part} {ts : List Task}
    (hts : ∀ t ∈ ts, t.Within ctx types cells path)
    (hfits : List.Forall₂ (Task.Fits ctx.schema live dirty mapped) ps ts)
    (hrun : run.Sound ctx types cells) (hs : run.store.Tame ctx.schema live dirty) :
    List.Forall₂ (fun p w => p.value.Spared ctx.schema live dirty (mapped ∨ p.site.Mapped) w) ps
        (visitTasks ctx room path ts run).value ∧
      Spares ctx.schema live dirty run.store (visitTasks ctx room path ts run).run.store := by
  induction hfits generalizing run with
  | nil => exact ⟨.nil, hs.refl⟩
  | @cons p t ps ts hpt hrest ih =>
    rw [List.forall_mem_cons] at hts
    obtain ⟨hv, hstore⟩ := Task.spares path hfam hvisit hts.1 hpt hrun hs
    cases hstop : (t.visit ctx room path run).stop with
    | some e =>
      rw [visitTasks_cons_stop hstop]
      refine ⟨.cons hv ?_, hstore⟩
      rw [List.forall₂_map_right_iff]
      exact hrest.imp fun p t h => h.value ▸ .refl (h.value ▸ h.tame)
    | none =>
      obtain ⟨_, hsound⟩ := sound_task room path hfam hts.1 hrun
      obtain ⟨hvs, hstore'⟩ := ih hts.2 hsound hstore.tame
      rw [visitTasks_cons hstop]
      exact ⟨.cons hv hvs, hstore.trans hstore'⟩

/-! ## Visits -/

/-- Whether what is in a value counts as mapped: the content of a cell does if the cell is dirty. -/
def Value.MappedIn (dirty : CellId → Prop) (mapped : Prop) : Value → Prop
  | shared c => dirty c
  | _ => mapped

/-- The parts of a value are tame, those of a cell included. -/
theorem Value.Tame.inside {v : Value} (hv : v.Tame schema live dirty mapped) {s : Store}
    (hs : s.Tame schema live dirty) {p : Part} (hp : p ∈ v.parts schema s) :
    p.value.Tame schema live dirty (v.MappedIn dirty mapped ∨ p.site.Mapped) := by
  cases v with
  | shared c =>
    obtain rfl := List.mem_singleton.mp hp
    simpa only [Value.MappedIn, Site.Mapped, or_false] using hs.content c (shared_iff.mp hv).1
  | _ => exact hv.part rfl hp

/-- **A value is spared when it is left, if its parts are.** -/
theorem leave_spares {v : Value} (hv : v.Tame schema live dirty mapped) {s : Store}
    (hs : Spares schema live dirty s run.store) {ws : List Value}
    (hws : List.Forall₂
      (fun p w => p.value.Spared schema live dirty (v.MappedIn dirty mapped ∨ p.site.Mapped) w)
      (v.parts schema s) ws) :
    v.Spared schema live dirty mapped (v.refill ws) ∧
      Spares schema live dirty s (v.leave ws run).store := by
  cases v with
  | shared c =>
    cases hws with
    | @cons _ w _ _ hw hnil =>
      cases hnil
      have hsame : (dirty c ∨ Site.inner.Mapped) = dirty c := or_false (dirty c)
      exact ⟨.refl hv, (hs.write (Value.Tame.shared_iff.mp hv).1 (hsame ▸ hw)).of_cells rfl⟩
  | _ => exact ⟨.refill rfl hws, hs⟩

/-- The rule of a field whose annotation names no mappers has none. -/
theorem Task.Of.mappers_of_unmapped (hfam : ctx.schema.Family types) {cache : PlanCache}
    (hcache : cache.Comes ctx types) {p : Part} {t : Task} (h : Task.Of ctx path cache p t)
    (hp : ∀ name i d, p.site = .field name i d → types name) {rule : Rule} {place : Place}
    (hrule : t.rule? = some (rule, place)) (hsite : ¬ p.site.Mapped) : rule.mappers = [] := by
  cases h with
  | plain => cases hrule
  | @field name i d w plan f typ hplan hf hd =>
    rw [result_lookup hfam hcache (hp name i d rfl)] at hplan
    have hf' : f.rule.mappers = [] :=
      (not_not.mp hsite).mappers_eq (compileField_of_plan hplan hd hf)
    simp only [Slot.task] at hrule
    split at hrule
    · cases hrule
    · obtain ⟨rfl, _⟩ := Prod.mk.inj (Option.some.inj hrule)
      exact hf'

/-- The tasks of an opened value fit its parts. -/
theorem Task.Of.fits (hfam : ctx.schema.Family types) {cache : PlanCache}
    (hcache : cache.Comes ctx types) {v : Value} (hv : v.Within types cells) {s : Store}
    (htame : ∀ p ∈ v.parts ctx.schema s,
      p.value.Tame ctx.schema live dirty (mapped ∨ p.site.Mapped))
    {tasks : List Task}
    (h : List.Forall₂ (Task.Of ctx path cache) (v.parts ctx.schema s) tasks) :
    List.Forall₂ (Task.Fits ctx.schema live dirty mapped) (v.parts ctx.schema s) tasks := by
  refine ((List.forall₂_and_left _ tasks).mpr ⟨fun p hp => hp, h⟩).imp fun p t ⟨hp, hof⟩ => ?_
  refine ⟨hof.value_eq, htame p hp, fun rule place hrule =>
    hof.mappers_of_unmapped hfam hcache (fun name i d hsite => ?_) hrule⟩
  obtain ⟨slots, rfl⟩ := Value.owner_of_mem_parts hp hsite
  cases hv with | record hname => exact hname

/-- **A visit spares what is tame.** -/
theorem visit_spares (hfam : ctx.schema.Family types) (room : Nat) :
    SparesAll ctx types cells live dirty room := by
  induction room with
  | zero => exact fun mapped v path run _ _ htame hs => ⟨.refl htame, hs.refl⟩
  | succ room ih =>
    intro mapped v path run hv hrun htame hs
    cases hopen : v.opening ctx path run with | mk run' opened
    cases opened with
    | error e =>
      rw [visit_of_opening_error hopen, (of_opening_error hopen).1]
      exact ⟨.refl htame, hs.refl⟩
    | ok tasks =>
      obtain ⟨hsound, hwithin⟩ := sound_opening hfam hv hrun hopen
      obtain ⟨hrun', _, hparts⟩ := of_opening hopen
      have hcells : Spares ctx.schema live dirty run.store run'.store :=
        hs.refl.of_cells (by rw [hrun', Value.cells_heldIn])
      have hfits := Task.Of.fits hfam hrun.known hv (fun p hp => htame.inside hs hp) hparts
      obtain ⟨hvalues, hstore⟩ := visitTasks_spares path hfam ih hwithin hfits hsound hcells.tame
      rw [visit_of_opening hopen]
      exact leave_spares htame (hcells.trans hstore) hvalues

end

/-! ## Spots -/

/-- A place that is reached from the root, or from the content of a cell, without entering another
cell. -/
structure Spot where
  base : Option CellId
  sites : List Site

namespace Spot

/-- Where the sites of a spot start. -/
def start (v : Value) (store : Store) (spot : Spot) : Value :=
  match spot.base with
  | none => v
  | some c => (store.cell c).content

/-- The value at a spot. -/
def Holds (schema : Schema) (store : Store) (v : Value) (spot : Spot) (w : Value) : Prop :=
  Route schema store (spot.start v store) spot.sites [] w

/-- The sites of a route from the root to a spot. -/
inductive Via (schema : Schema) (store : Store) (v : Value) : Spot → List Site → Prop
  | root (sites : List Site) : Via schema store v ⟨none, sites⟩ sites
  | cell {c : CellId} {above : List Site} {cells : List CellId}
      (h : Route schema store v above cells (.shared c)) (sites : List Site) :
      Via schema store v ⟨some c, sites⟩ (above ++ .inner :: sites)

/-- No route to the spot passes a field with mappers. -/
def Spared (schema : Schema) (store : Store) (v : Value) (spot : Spot) : Prop :=
  ∀ sites, spot.Via schema store v sites → ¬ AnyMapped sites

/-- The cell that a spot lies in exists. -/
def Made (store : Store) (spot : Spot) : Prop := ∀ c, spot.base = some c → c < store.cells.length

end Spot

/-- What a cell refers to is one step below the cell. -/
theorem Route.enter {store : Store} {c : CellId} {w : Value} {sites : List Site}
    {cells : List CellId} (h : Route schema store (store.cell c).content sites cells w) :
    Route schema store (.shared c) (.inner :: sites) (c :: cells) w :=
  .down (p := ⟨.inner, (store.cell c).content⟩) (List.mem_singleton_self _) h

/-- **Every route from the root leads to a spot.** -/
theorem exists_spot_of_route {store : Store} {v w : Value} {sites : List Site}
    {cells : List CellId} (h : Route schema store v sites cells w) :
    ∃ spot : Spot, spot.Via schema store v sites ∧ spot.Holds schema store v w := by
  induction h with
  | here v => exact ⟨⟨none, []⟩, .root [], .here v⟩
  | @down v w p sites cells hp _ ih =>
    obtain ⟨spot, hvia, hholds⟩ := ih
    cases hvia with
    | @cell c above cells' habove below =>
      exact ⟨⟨some c, below⟩, .cell (.down hp habove) below, hholds⟩
    | root =>
      by_cases hv : v.entered = []
      · exact ⟨⟨none, p.site :: sites⟩, .root _, .inner_down hv hp hholds⟩
      · cases v with
        | shared c =>
          obtain rfl := List.mem_singleton.mp hp
          exact ⟨⟨some c, sites⟩, .cell (.here _) sites, hholds⟩
        | _ => exact absurd rfl hv

/-! ## Runs -/

/-- Some route to a cell passes a field with mappers. -/
def MappedAbove (schema : Schema) (store : Store) (v : Value) (c : CellId) : Prop :=
  ∃ sites cells, Route schema store v sites cells (.shared c) ∧ AnyMapped sites

/-- A cell that a run may enter: one below the root, or a new one. -/
def Store.MayEnter (schema : Schema) (s : Store) (v : Value) : CellId → Prop :=
  s.AndNew fun c => Below schema s v (.shared c)

/-- A cell that mapped values may be written into: one below a field with mappers, or a new one. -/
def Store.MayMap (schema : Schema) (s : Store) (v : Value) : CellId → Prop :=
  s.AndNew (MappedAbove schema s v)

section

variable {s : Store} {v : Value}

/-- The root of a run is tame. -/
theorem tame_root : v.Tame schema (s.MayEnter schema v) (s.MayMap schema v) False := by
  intro sites d hd
  exact ⟨.inl ⟨sites, [], hd.inner⟩, fun h => .inl ⟨sites, [], hd.inner, h.resolve_left id⟩⟩

/-- …and so is the store that it lies in. -/
theorem tame_store : s.Tame schema (s.MayEnter schema v) (s.MayMap schema v) := by
  refine ⟨fun c hc => ⟨.inr hc, .inr hc⟩, fun c hc sites d hd => ?_⟩
  have hlt : c < s.cells.length := by
    refine Nat.lt_of_not_le fun hge => ?_
    rw [Store.cell_of_le hge] at hd
    exact not_refers_leaf (refers_of_inner hd)
  have hroute {above cells} (h : Route schema s v above cells (.shared c)) :
      Route schema s v (above ++ .inner :: sites) (cells ++ [c]) (.shared d) :=
    h.append (.enter hd.inner)
  obtain ⟨above, cells, habove⟩ := hc.resolve_right (Nat.not_le_of_lt hlt)
  refine ⟨.inl ⟨_, _, hroute habove⟩, fun h => .inl ?_⟩
  rcases h with h | h
  · obtain ⟨above', cells', habove', hmapped⟩ := h.resolve_right (Nat.not_le_of_lt hlt)
    exact ⟨_, _, hroute habove', anyMapped_append.mpr (.inl hmapped)⟩
  · exact ⟨_, _, hroute habove, anyMapped_append.mpr (.inr (anyMapped_cons.mpr (.inr h)))⟩

/-- A spared cell is clean, and nothing on the way from it is mapped. -/
theorem Spot.clean_of_spared {c : CellId} {sites : List Site} (hlt : c < s.cells.length)
    (h : (⟨some c, sites⟩ : Spot).Spared schema s v) (hbelow : Below schema s v (.shared c)) :
    ¬ s.MayMap schema v c ∧ ¬ AnyMapped sites := by
  obtain ⟨above, entered, habove⟩ := hbelow
  refine ⟨?_, fun hm =>
    h _ (.cell habove sites) (anyMapped_append.mpr (.inr (anyMapped_cons.mpr (.inr hm))))⟩
  rintro (⟨above', entered', habove', hmapped⟩ | hge)
  · exact h _ (.cell habove' sites) (anyMapped_append.mpr (.inl hmapped))
  · exact Nat.not_le_of_lt hlt hge

/-- **What is spared keeps the shape of what it holds**, if the root and the cells were spared. -/
theorem Spot.exists_holds {s' : Store} {v' : Value}
    (hroot : v.Spared schema (s.MayEnter schema v) (s.MayMap schema v) False v')
    (hcells : Spares schema (s.MayEnter schema v) (s.MayMap schema v) s s') {spot : Spot}
    {w : Value} (hmade : spot.Made s) (hspared : spot.Spared schema s v)
    (h : spot.Holds schema s v w) :
    ∃ w', spot.Holds schema s' v' w' ∧ w.SameShape schema w' := by
  obtain ⟨base, sites⟩ := spot
  cases base with
  | none =>
    obtain ⟨w', hw', hshape⟩ := hroot.keeps id sites w h.inner (hspared sites (.root sites))
    exact ⟨w', hw'.inner, hshape⟩
  | some c =>
    have hlt : c < s.cells.length := hmade c rfl
    by_cases hbelow : Below schema s v (.shared c)
    · obtain ⟨hclean, hsites⟩ := clean_of_spared hlt hspared hbelow
      obtain ⟨w', hw', hshape⟩ := hcells.frames.clean c hclean sites w h.inner hsites
      exact ⟨w', hw'.inner, hshape⟩
    · have hcell : s'.cell c = s.cell c := hcells.frames.outside c fun hlive =>
        hbelow (hlive.resolve_right (Nat.not_le_of_lt hlt))
      have hstart : (⟨some c, sites⟩ : Spot).start v' s' = (s.cell c).content :=
        congrArg Cell.content hcell
      refine ⟨w, ?_, .refl w⟩
      rw [Holds, hstart]
      exact h.inner

variable (ctx : Context) {types : String → Prop} {cells : CellId → Prop} {e : Engine}

/-- **A run spares the root, and all cells but those below fields with mappers.** -/
theorem validate_spares (hfam : ctx.schema.Family types) (hctx : e.context ctx.schema = ctx)
    (hcache : e.cache.Comes ctx types) (hv : v.Spans types s cells) (rootType : Typ) :
    v.Spared ctx.schema (s.MayEnter ctx.schema v) (s.MayMap ctx.schema v) False
        (e.validate ctx.schema rootType v s).value ∧
      Spares ctx.schema (s.MayEnter ctx.schema v) (s.MayMap ctx.schema v) s
        (e.validate ctx.schema rootType v s).store := by
  by_cases hleaf : ∃ l, v = .leaf l
  · obtain ⟨l, rfl⟩ := hleaf
    exact ⟨.refl tame_root, tame_store.refl⟩
  · obtain ⟨hvalue, hstore⟩ := e.left_validate ctx.schema rootType s (not_exists.mp hleaf)
    rw [hvalue, hstore, Engine.visitRoot, hctx]
    exact visit_spares hfam _ False v "" ⟨s, e.cache, .empty⟩ hv.within
      ⟨hv.alike_id, hcache, hcache, rfl⟩ tame_root tame_store

/-- **Without mappers a run changes nothing.** -/
theorem validate_untouched (hctx : e.context ctx.schema = ctx) (hcache : e.cache.Comes ctx types)
    (hun : ∀ name, types name → ∀ d ∈ ctx.schema.decls name, d.Unmapped)
    (hv : v.Spans types s cells) (rootType : Typ) :
    (e.validate ctx.schema rootType v s).value = v ∧
      (e.validate ctx.schema rootType v s).store = s := by
  by_cases hleaf : ∃ l, v = .leaf l
  · obtain ⟨l, rfl⟩ := hleaf
    exact ⟨rfl, rfl⟩
  · obtain ⟨hvalue, hstore⟩ := e.left_validate ctx.schema rootType s (not_exists.mp hleaf)
    rw [hvalue, hstore, Engine.visitRoot, hctx]
    have hharmless : ∀ name slots, Below ctx.schema s v (.record name slots) →
        Harmless ctx (PlanCache.Comes ctx types) name := by
      intro name slots hbelow
      have hwithin : (Value.record name slots).Within types cells :=
        Below.of_closed (P := Value.Within types cells)
          (fun u hu p hp => hu.part hv.content hp) hv.value hbelow
      cases hwithin with | record hname => exact .of_comes hname hun
    have h : Untouched (PlanCache.Comes ctx types) v ⟨s, e.cache, .empty⟩
        (visit ctx ctx.room v "" ⟨s, e.cache, .empty⟩) := visit_untouched hharmless hcache
    exact ⟨h.value, h.store⟩

end

/-- **A run leaves alone what no mapper is above.**  Take record types with identities of their own,
and an engine after any calls about them.  Every route from the root of a run leads to a spot; and
whatever the run ends in, a spared spot holds a value of the same shape afterwards, so a leaf is as
it was.  If no field has mappers, the value and all cells are as they were. -/
theorem spots_spared (registry : Registry) (settings : Settings) (schema : Schema)
    (types : String → Prop) (hfam : schema.Family types) (calls : List Call)
    (hcalls : ∀ call ∈ calls, call.Over types) (rootType : Typ) (v : Value) (store : Store)
    (cells : CellId → Prop) (hv : v.Spans types store cells) :
    let e := (Engine.new registry settings).after schema calls
    let r := e.validate schema rootType v store
    (∀ sites entered w, Route schema store v sites entered w → ∃ spot : Spot,
      spot.Via schema store v sites ∧ spot.Holds schema store v w) ∧
    (∀ (spot : Spot) w, spot.Made store → spot.Spared schema store v →
      spot.Holds schema store v w →
      ∃ w', spot.Holds schema r.store r.value w' ∧ w.SameShape schema w' ∧
        ∀ l, w = .leaf l → w' = .leaf l) ∧
    ((∀ name, types name → ∀ d ∈ schema.decls name, d.Unmapped) →
      r.value = v ∧ r.store = store) := by
  intro e r
  obtain ⟨hctx, hcache⟩ := comes_after_over registry settings hfam hcalls
  obtain ⟨hroot, hstore⟩ := validate_spares ((Engine.new registry settings).context schema) hfam
    hctx hcache hv rootType
  refine ⟨fun sites entered w => exists_spot_of_route, fun spot w hmade hspared hholds => ?_,
    fun hun => validate_untouched ((Engine.new registry settings).context schema) hctx
      hcache hun hv rootType⟩
  obtain ⟨w', hholds', hshape⟩ := Spot.exists_holds hroot hstore hmade hspared hholds
  refine ⟨w', hholds', hshape, ?_⟩
  rintro l rfl
  exact hshape.eq_of_leaf

/-! ### Voices in a ring -/

/-- The field with a mapper. -/
def loudField : FieldDecl := ⟨"loud", some "shout,", none⟩

def calmField : FieldDecl := ⟨"calm", none, none⟩

def nextField : FieldDecl := ⟨"next", none, none⟩

/-- A voice has a loud text, a calm one, and a reference to another voice. -/
def voiceSchema : Schema :=
  ⟨[("Voice", ⟨"Voice", "Voice", "Voice",
    [⟨loudField, "loud", .scalar .text⟩, ⟨calmField, "calm", .scalar .text⟩,
      ⟨nextField, "next", .shared (.record "Voice")⟩], 3⟩)]⟩

def voice : Value := .record "Voice" [.leaf (.text "a"), .leaf (.text "b"), .shared 0]

def voiceStore : Store := ⟨[⟨.record "Voice", voice⟩], []⟩

/-- One mapper, which gives the same text whatever it sees. -/
def voiceRegistry : Registry := ⟨[("shout", fun _ => .ok fun _ => some (.str "A"))], []⟩

theorem family_voice : voiceSchema.Family (· = "Voice") := by
  refine ⟨fun m n hm hn _ => hm.trans hn.symm, fun name hname g hg => ?_⟩
  obtain rfl := hname
  obtain rfl | rfl | rfl : g = ⟨loudField, "loud", .scalar .text⟩ ∨
      g = ⟨calmField, "calm", .scalar .text⟩ ∨
      g = ⟨nextField, "next", .shared (.record "Voice")⟩ := by
    simpa [voiceSchema, Schema.record] using hg
  · trivial
  · trivial
  · exact rfl

theorem spans_voice : voice.Spans (· = "Voice") voiceStore (· = 0) := by
  have hvoice : voice.Within (· = "Voice") (· = 0) := by
    refine .record rfl fun w hw => ?_
    obtain rfl | rfl | rfl : w = .leaf (.text "a") ∨ w = .leaf (.text "b") ∨ w = .shared 0 := by
      simpa using hw
    · exact .leaf _
    · exact .leaf _
    · exact .shared rfl
  refine ⟨hvoice, fun c hc => ?_, fun c hc => ?_⟩
  · obtain rfl : c = 0 := hc
    exact Nat.one_pos
  · obtain rfl : c = 0 := hc
    exact hvoice

/-- The parts of a voice. -/
theorem mem_parts_voice {p : Part} (hp : p ∈ voice.parts voiceSchema voiceStore) :
    p = ⟨.field "Voice" 0 loudField, .leaf (.text "a")⟩ ∨
      p = ⟨.field "Voice" 1 calmField, .leaf (.text "b")⟩ ∨
      p = ⟨.field "Voice" 2 nextField, .shared 0⟩ := by
  simpa [Value.parts, voice, voiceSchema, Schema.record] using hp

theorem unmapped_of_no_tag {d : FieldDecl} (h : d.tag = none) : d.Unmapped := by
  intro text tag htext
  rw [h] at htext
  cases htext

/-- The way along the ring passes no loud text. -/
theorem not_anyMapped_ring {v : Value} {sites : List Site} {cells : List CellId}
    (hv : v = voice ∨ v = .shared 0)
    (h : Route voiceSchema voiceStore v sites cells (.shared 0)) : ¬ AnyMapped sites := by
  generalize hw : Value.shared 0 = w at h
  induction h with
  | here => exact not_anyMapped_nil
  | @down v w p sites cells hp hrest ih =>
    rw [anyMapped_cons, not_or]
    obtain rfl | rfl := hv
    · obtain rfl | rfl | rfl := mem_parts_voice hp
      · cases hw.trans (Below.eq_of_leaf ⟨_, _, hrest⟩)
      · cases hw.trans (Below.eq_of_leaf ⟨_, _, hrest⟩)
      · exact ⟨fun hm => hm (unmapped_of_no_tag rfl), ih (.inr rfl) hw⟩
    · obtain rfl := List.mem_singleton.mp hp
      exact ⟨id, ih (.inl rfl) hw⟩

/-- A run that is stopped by a cycle has changed the loud text, and the calm one in the cell is as
it was. -/
theorem spots_spared_voice :
    let r := (Engine.new voiceRegistry .initial).validate voiceSchema (.record "Voice") voice
      voiceStore
    r.result = .error (.cycle "next.next" "Voice") ∧
      r.value = .record "Voice" [.leaf (.text "A"), .leaf (.text "b"), .shared 0] ∧
      (⟨some 0, [.field "Voice" 1 calmField]⟩ : Spot).Holds voiceSchema r.store r.value
        (.leaf (.text "b")) := by
  intro r
  have hspared : (⟨some 0, [.field "Voice" 1 calmField]⟩ : Spot).Spared voiceSchema voiceStore
      voice := by
    intro sites hvia
    generalize hspot : (⟨some 0, [.field "Voice" 1 calmField]⟩ : Spot) = spot at hvia
    cases hvia with
    | root => cases hspot
    | cell h below =>
      cases hspot
      rw [anyMapped_append, anyMapped_cons, anyMapped_cons]
      rintro (hm | hm | hm | hm)
      · exact not_anyMapped_ring (.inl rfl) h hm
      · exact hm
      · exact hm (unmapped_of_no_tag rfl)
      · exact not_anyMapped_nil hm
  have hholds : (⟨some 0, [.field "Voice" 1 calmField]⟩ : Spot).Holds voiceSchema voiceStore voice
      (.leaf (.text "b")) := by
    refine Route.inner_down (v := voice) (p := ⟨.field "Voice" 1 calmField, .leaf (.text "b")⟩) rfl
      ?_ (.here _)
    simp [Value.parts, voice, voiceSchema, Schema.record]
  have hmade : (⟨some 0, [.field "Voice" 1 calmField]⟩ : Spot).Made voiceStore := by
    rintro c ⟨⟩
    exact Nat.one_pos
  obtain ⟨w, hw, _, hleaf⟩ := (spots_spared voiceRegistry .initial voiceSchema (· = "Voice")
    family_voice [] (List.forall_mem_nil _) (.record "Voice") voice voiceStore (· = 0)
    spans_voice).2.1 _ _ hmade hspared hholds
  obtain rfl := hleaf _ rfl
  exact ⟨rfl, rfl, hw⟩

end FieldRules
