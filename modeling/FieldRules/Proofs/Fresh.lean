import FieldRules.Proofs.Route
import FieldRules.Proofs.Sequence
import FieldRules.Value.Read

/-!
# Proofs/Fresh — reading makes new cells only

A value that is read refers to cells that were made for it, and each of them refers to cells that
were made before it (`made_read`): what is read shares nothing with what was there, and has no
cycle.
-/

namespace FieldRules

/-! ## The cells that a value refers to -/

/-- A value refers to a cell without going through another one. -/
inductive Refers (schema : Schema) : Value → CellId → Prop
  | here (c : CellId) : Refers schema (.shared c) c
  | part {v : Value} {p : Part} {c : CellId} (hv : v.entered = [])
      (hp : p ∈ v.parts schema .empty) (h : Refers schema p.value c) : Refers schema v c

variable {schema : Schema}

/-- A value that is no cell refers to the cells that its parts refer to. -/
theorem refers_iff {v : Value} (hv : v.entered = []) (store : Store) {c : CellId} :
    Refers schema v c ↔ ∃ p ∈ v.parts schema store, Refers schema p.value c := by
  rw [Value.parts_of_entered hv store .empty]
  refine ⟨fun h => ?_, fun ⟨p, hp, h⟩ => .part hv hp h⟩
  cases h with
  | here c => cases hv
  | part _ hp h => exact ⟨_, hp, h⟩

theorem refers_shared {c d : CellId} : Refers schema (.shared c) d ↔ d = c := by
  refine ⟨fun h => ?_, fun h => h ▸ .here d⟩
  cases h with
  | here => rfl
  | part hv => cases hv

theorem not_refers_leaf {l : Leaf} {c : CellId} : ¬ Refers schema (.leaf l) c := by
  rw [refers_iff rfl .empty]
  rintro ⟨p, hp, _⟩
  cases hp

theorem not_refers_absent {c : CellId} : ¬ Refers schema .absent c := by
  rw [refers_iff rfl .empty]
  rintro ⟨p, hp, _⟩
  cases hp

theorem refers_present {v : Value} {c : CellId} :
    Refers schema (.present v) c ↔ Refers schema v c := by
  rw [refers_iff rfl .empty]
  simp [Value.parts]

theorem refers_boxed {v : Value} {c : CellId} :
    Refers schema (.boxed v) c ↔ Refers schema v c := by
  rw [refers_iff rfl .empty]
  simp [Value.parts]

theorem exists_of_refers_sequence {items : List Value} {c : CellId}
    (h : Refers schema (.sequence items) c) : ∃ v ∈ items, Refers schema v c := by
  obtain ⟨p, hp, h⟩ := (refers_iff rfl .empty).mp h
  refine ⟨p.value, ?_, h⟩
  rw [← Value.values_parts_sequence schema .empty items]
  exact List.mem_map_of_mem hp

theorem exists_of_refers_map {entries : List (String × Value)} {c : CellId}
    (h : Refers schema (.map entries) c) : ∃ e ∈ entries, Refers schema e.2 c := by
  obtain ⟨p, hp, h⟩ := (refers_iff rfl .empty).mp h
  obtain ⟨e, he, rfl⟩ := List.mem_map.mp hp
  exact ⟨e, he, h⟩

theorem exists_of_refers_record {name : String} {slots : List Value} {c : CellId}
    (h : Refers schema (.record name slots) c) : ∃ v ∈ slots, Refers schema v c := by
  obtain ⟨p, hp, h⟩ := (refers_iff rfl .empty).mp h
  have hvalue : p.value ∈ ((Value.record name slots).parts schema .empty).map Part.value :=
    List.mem_map_of_mem hp
  rw [Value.values_parts_record] at hvalue
  obtain ⟨q, hq, hqp⟩ := List.mem_map.mp hvalue
  exact ⟨p.value, List.mem_of_mem_take (hqp ▸ (List.of_mem_zip hq).2), h⟩

/-! ## Cells that are written -/

namespace Store

theorem cell_write {s : Store} {c : CellId} (h : c < s.cells.length) (v : Value) :
    (s.write c v).cell c = ⟨(s.cell c).typ, v⟩ := by
  simp [Store.write, Store.cell, h]

theorem content_write {s : Store} {c : CellId} (h : c < s.cells.length) (v : Value) :
    ((s.write c v).cell c).content = v := by rw [cell_write h]

/-- Writing a cell that was never made changes nothing. -/
theorem write_of_le {s : Store} {c : CellId} (h : s.cells.length ≤ c) (v : Value) :
    s.write c v = s := by rw [Store.write, List.modify_eq_self h]

theorem cell_write_of_ne {c d : CellId} (h : d ≠ c) (s : Store) (v : Value) :
    (s.write c v).cell d = s.cell d := by
  simp only [Store.write, Store.cell, List.getD_eq_getElem?_getD,
    List.getElem?_modify_ne _ _ (Ne.symm h)]

/-- Writing a cell does not change the types of cells. -/
theorem typ_write (s : Store) (c d : CellId) (v : Value) :
    ((s.write c v).cell d).typ = (s.cell d).typ := by
  by_cases h : d = c
  · subst h
    simp only [Store.write, Store.cell, List.getD_eq_getElem?_getD, List.getElem?_modify_eq]
    cases s.cells[d]? <;> rfl
  · rw [cell_write_of_ne h]

theorem length_write (s : Store) (c : CellId) (v : Value) :
    (s.write c v).cells.length = s.cells.length := List.length_modify ..

end Store

/-! ## Stores that grow -/

/-- A store with new cells, each of which refers to new cells before it. -/
structure Store.Grown (schema : Schema) (s s' : Store) : Prop where
  held : s'.held = s.held
  cells : s.cells <+: s'.cells
  fresh : ∀ c, s.cells.length ≤ c → c < s'.cells.length →
    ∀ d, Refers schema (s'.cell c).content d → s.cells.length ≤ d ∧ d < c

/-- The cells that were there are as they were. -/
theorem Store.cell_of_prefix {s s' : Store} (h : s.cells <+: s'.cells) {c : CellId}
    (hc : c < s.cells.length) : s'.cell c = s.cell c := by
  obtain ⟨fresh, hfresh⟩ := h
  simp only [Store.cell, List.getD_eq_getElem?_getD, ← hfresh, List.getElem?_append_left hc]

namespace Store.Grown

variable {s s' s'' : Store}

theorem refl (s : Store) : s.Grown schema s :=
  ⟨rfl, List.prefix_refl _, fun _ hc hc' => absurd hc (Nat.not_le_of_lt hc')⟩

theorem length_le (h : s.Grown schema s') : s.cells.length ≤ s'.cells.length := h.cells.length_le

theorem trans (h : s.Grown schema s') (h' : s'.Grown schema s'') : s.Grown schema s'' := by
  refine ⟨h'.held.trans h.held, h.cells.trans h'.cells, fun c hc hc' d hd => ?_⟩
  obtain hlt | hge := Nat.lt_or_ge c s'.cells.length
  · rw [Store.cell_of_prefix h'.cells hlt] at hd
    exact h.fresh c hc hlt d hd
  · obtain ⟨hd, hdc⟩ := h'.fresh c hge hc' d hd
    exact ⟨h.length_le.trans hd, hdc⟩

end Store.Grown

/-- Values that were made between two stores: they refer to new cells only. -/
structure Made (schema : Schema) (s : Store) (vs : List Value) (s' : Store) : Prop where
  grown : s.Grown schema s'
  refers : ∀ v ∈ vs, ∀ d, Refers schema v d → s.cells.length ≤ d ∧ d < s'.cells.length

namespace Made

variable {s s' s'' : Store}

theorem nil (s : Store) : Made schema s [] s := ⟨.refl s, nofun⟩

theorem cons {v : Value} {vs : List Value} (h : Made schema s [v] s')
    (h' : Made schema s' vs s'') : Made schema s (v :: vs) s'' := by
  refine ⟨h.grown.trans h'.grown, fun w hw d hd => ?_⟩
  obtain rfl | hw := List.mem_cons.mp hw
  · obtain ⟨hlow, hhigh⟩ := h.refers w (List.mem_singleton_self w) d hd
    exact ⟨hlow, hhigh.trans_le h'.grown.length_le⟩
  · obtain ⟨hlow, hhigh⟩ := h'.refers w hw d hd
    exact ⟨h.grown.length_le.trans hlow, hhigh⟩

/-- A value that refers to what some made values refer to is made too. -/
theorem of_refers {vs : List Value} {w : Value} (h : Made schema s vs s')
    (hw : ∀ d, Refers schema w d → ∃ v ∈ vs, Refers schema v d) : Made schema s [w] s' := by
  refine ⟨h.grown, fun w' hw' d hd => ?_⟩
  obtain rfl := List.mem_singleton.mp hw'
  obtain ⟨v, hv, hd⟩ := hw d hd
  exact h.refers v hv d hd

/-- A new cell with a made value in it is made. -/
theorem alloc {v : Value} (t : Typ) (h : Made schema s [v] s') :
    Made schema s [.shared (s'.alloc t v).1] (s'.alloc t v).2 := by
  have hlen : (s'.alloc t v).2.cells.length = s'.cells.length + 1 := by simp [Store.alloc]
  have hcell : ((s'.alloc t v).2.cell s'.cells.length).content = v := by
    simp [Store.alloc, Store.cell]
  refine ⟨⟨h.grown.held, h.grown.cells.trans (List.prefix_append _ _), fun c hc hc' d hd => ?_⟩,
    fun w hw d hd => ?_⟩
  · obtain hlt | hge := Nat.lt_or_ge c s'.cells.length
    · rw [Store.cell_of_prefix (List.prefix_append _ _) hlt] at hd
      exact h.grown.fresh c hc hlt d hd
    · obtain rfl : c = s'.cells.length := by omega
      rw [hcell] at hd
      exact h.refers v (List.mem_singleton_self v) d hd
  · obtain rfl := List.mem_singleton.mp hw
    obtain rfl := refers_shared.mp hd
    exact ⟨h.grown.length_le, by rw [hlen]; exact Nat.lt_succ_self _⟩

end Made

/-! ## Readers -/

/-- A reader that makes what it reads. -/
def Reader.Makes (schema : Schema) (r : Reader) : Prop :=
  ∀ t s v s', r t s = .ok (v, s') → Made schema s [v] s'

theorem made_readItems {t : Typ} :
    ∀ {rs : List Reader}, (∀ r ∈ rs, r.Makes schema) → ∀ {s vs s'},
      readItems t rs s = .ok (vs, s') → Made schema s vs s'
  | [], _, s, vs, s', h => by
    cases h
    exact .nil s
  | r :: rs, hrs, s, vs, s', h => by
    rw [readItems, bind_eq_ok] at h
    obtain ⟨⟨v, s₁⟩, hv, h⟩ := h
    obtain ⟨⟨ws, s₂⟩, hws, h⟩ := bind_eq_ok.mp h
    cases h
    rw [List.forall_mem_cons] at hrs
    exact .cons (hrs.1 t s v s₁ hv) (made_readItems hrs.2 hws)

theorem made_readEntries {k : KeyKind} {t : Typ} :
    ∀ {rs : List (String × Reader)}, (∀ r ∈ rs, r.2.Makes schema) → ∀ {s es s'},
      readEntries k t rs s = .ok (es, s') → Made schema s (es.map Prod.snd) s'
  | [], _, s, es, s', h => by
    cases h
    exact .nil s
  | (name, r) :: rs, hrs, s, es, s', h => by
    rw [readEntries, bind_eq_ok] at h
    obtain ⟨key, _, h⟩ := h
    obtain ⟨⟨v, s₁⟩, hv, h⟩ := bind_eq_ok.mp h
    obtain ⟨⟨ws, s₂⟩, hws, h⟩ := bind_eq_ok.mp h
    cases h
    rw [List.forall_mem_cons] at hrs
    exact .cons (hrs.1 t s v s₁ hv) (made_readEntries hrs.2 hws)

theorem made_readMembers {fields : List RecordField} :
    ∀ {rs : List (String × Reader)}, (∀ r ∈ rs, r.2.Makes schema) → ∀ {s es s'},
      readMembers fields rs s = .ok (es, s') → Made schema s (es.map Prod.snd) s'
  | [], _, s, es, s', h => by
    cases h
    exact .nil s
  | (name, r) :: rs, hrs, s, es, s', h => by
    rw [List.forall_mem_cons] at hrs
    rw [readMembers] at h
    split at h
    · exact made_readMembers hrs.2 h
    · obtain ⟨⟨v, s₁⟩, hv, h⟩ := bind_eq_ok.mp h
      obtain ⟨⟨ws, s₂⟩, hws, h⟩ := bind_eq_ok.mp h
      cases h
      exact .cons (hrs.1 _ s v s₁ hv) (made_readMembers hrs.2 hws)

theorem made_readPositions {r : RecordType} :
    ∀ {read : Nat} {fs : List RecordField} {rs : List Reader}, (∀ r ∈ rs, r.Makes schema) →
      ∀ {s vs s'}, readPositions r read fs rs s = .ok (vs, s') → Made schema s vs s'
  | read, [], rs, _, s, vs, s', h => by
    rw [readPositions] at h
    split at h
    · cases h
      exact .nil s
    · cases h
  | read, f :: fs, [], _, s, vs, s', h => by cases h
  | read, f :: fs, reader :: rs, hrs, s, vs, s', h => by
    rw [readPositions, bind_eq_ok] at h
    obtain ⟨⟨v, s₁⟩, hv, h⟩ := h
    obtain ⟨⟨ws, s₂⟩, hws, h⟩ := bind_eq_ok.mp h
    cases h
    rw [List.forall_mem_cons] at hrs
    exact .cons (hrs.1 _ s v s₁ hv) (made_readPositions hrs.2 hws)

theorem made_readArray {size : Nat} {t : Typ} :
    ∀ {read left : Nat} {rs : List Reader}, (∀ r ∈ rs, r.Makes schema) →
      ∀ {s vs s'}, readArray size t read left rs s = .ok (vs, s') → Made schema s vs s'
  | read, 0, rs, _, s, vs, s', h => by
    rw [readArray] at h
    split at h
    · cases h
      exact .nil s
    · cases h
  | read, left + 1, [], _, s, vs, s', h => by cases h
  | read, left + 1, reader :: rs, hrs, s, vs, s', h => by
    rw [readArray, bind_eq_ok] at h
    obtain ⟨⟨v, s₁⟩, hv, h⟩ := h
    obtain ⟨⟨ws, s₂⟩, hws, h⟩ := bind_eq_ok.mp h
    cases h
    rw [List.forall_mem_cons] at hrs
    exact .cons (hrs.1 _ s v s₁ hv) (made_readArray hrs.2 hws)

/-- A member that is not there is an absent option, in boxes and new cells. -/
theorem made_missing :
    ∀ {t : Typ} {s v s'}, missing? t s = some (v, s') → Made schema s [v] s'
  | .option t, s, v, s', h => by
    cases h
    exact .cons ⟨.refl s, fun w hw d hd => by
      obtain rfl := List.mem_singleton.mp hw
      exact absurd hd not_refers_absent⟩ (.nil s)
  | .box t, s, v, s', h => by
    rw [missing?, Option.map_eq_some_iff] at h
    obtain ⟨⟨w, s₁⟩, hw, h⟩ := h
    cases h
    exact (made_missing hw).of_refers fun d hd =>
      ⟨w, List.mem_singleton_self w, refers_boxed.mp hd⟩
  | .shared t, s, v, s', h => by
    rw [missing?, Option.map_eq_some_iff] at h
    obtain ⟨⟨w, s₁⟩, hw, h⟩ := h
    cases h
    exact (made_missing hw).alloc t

/-- A slot that is collected is a member's value or was made. -/
theorem made_collect {values : List (String × Value)} :
    ∀ {fs : List RecordField} {s vs s'}, collect values fs s = .ok (vs, s') →
      s.Grown schema s' ∧ ∀ v ∈ vs, v ∈ values.map Prod.snd ∨
        ∀ d, Refers schema v d → s.cells.length ≤ d ∧ d < s'.cells.length
  | [], s, vs, s', h => by
    cases h
    exact ⟨.refl s, nofun⟩
  | f :: fs, s, vs, s', h => by
    rw [collect] at h
    split at h
    · next v hv =>
      obtain ⟨⟨ws, s₁⟩, hws, h⟩ := bind_eq_ok.mp h
      cases h
      obtain ⟨hgrown, hmade⟩ := made_collect hws
      obtain ⟨before, after, rfl, _⟩ := List.lookup_eq_some_iff.mp hv
      exact ⟨hgrown, List.forall_mem_cons.mpr ⟨.inl (by simp), hmade⟩⟩
    · split at h
      · next v s₁ hv =>
        obtain ⟨⟨ws, s₂⟩, hws, h⟩ := bind_eq_ok.mp h
        cases h
        have hv : Made schema s [v] s₁ := made_missing hv
        obtain ⟨hgrown, hmade⟩ := made_collect hws
        refine ⟨hv.grown.trans hgrown,
          List.forall_mem_cons.mpr ⟨.inr fun d hd => ?_, fun w hw => ?_⟩⟩
        · obtain ⟨hlow, hhigh⟩ := hv.refers v (List.mem_singleton_self v) d hd
          exact ⟨hlow, hhigh.trans_le hgrown.length_le⟩
        · obtain hw | hw := hmade w hw
          · exact .inl hw
          · exact .inr fun d hd => ⟨hv.grown.length_le.trans (hw d hd).1, (hw d hd).2⟩
      · cases h

/-- A record of members is made of their values and of what stands for those that are missing. -/
theorem made_record {fields : List RecordField} {rs : List (String × Reader)}
    (hrs : ∀ r ∈ rs, r.2.Makes schema) {name : String} {s s₁ s' : Store}
    {values : List (String × Value)} {slots : List Value}
    (hmembers : readMembers fields rs s = .ok (values, s₁))
    (hcollect : collect values fields s₁ = .ok (slots, s')) :
    Made schema s [.record name slots] s' := by
  have hvalues := made_readMembers hrs hmembers
  obtain ⟨hgrown, hslots⟩ : s₁.Grown schema s' ∧ _ := made_collect hcollect
  refine ⟨hvalues.grown.trans hgrown, fun w hw d hd => ?_⟩
  obtain rfl := List.mem_singleton.mp hw
  obtain ⟨v, hv, hd⟩ := exists_of_refers_record hd
  obtain hv | hv := hslots v hv
  · obtain ⟨hlow, hhigh⟩ := hvalues.refers v hv d hd
    exact ⟨hlow, hhigh.trans_le hgrown.length_le⟩
  · exact ⟨hvalues.grown.length_le.trans (hv d hd).1, (hv d hd).2⟩

theorem Dict.mem_insert {α : Type} {key : String} {a : α} {e : String × α} :
    ∀ {d : Dict α}, e ∈ Dict.insert key a d → e = (key, a) ∨ e ∈ d
  | [], h => .inl (List.mem_singleton.mp h)
  | entry :: rest, h => by
    rw [insert] at h
    split at h
    · exact List.mem_cons.mp h
    · split at h
      · exact (List.mem_cons.mp h).imp_right (List.mem_cons_of_mem entry)
      · obtain rfl | h := List.mem_cons.mp h
        · exact .inr List.mem_cons_self
        · exact (Dict.mem_insert h).imp_right (List.mem_cons_of_mem entry)

/-- An entry goes in where its key belongs. -/
theorem Dict.Sorted.insert {α : Type} {d : Dict α} (h : d.Sorted) (key : String) (a : α) :
    (Dict.insert key a d).Sorted := by
  induction d with
  | nil => exact List.pairwise_singleton _ _
  | cons entry rest ih =>
    obtain ⟨hentry, hrest⟩ := List.pairwise_cons.mp h
    rw [Dict.insert]
    split_ifs with hlt heq
    · refine List.pairwise_cons.mpr ⟨?_, h⟩
      rintro e (_ | ⟨_, he⟩)
      · exact hlt
      · exact String.lt_trans hlt (hentry e he)
    · exact List.pairwise_cons.mpr ⟨heq ▸ hentry, hrest⟩
    · refine List.pairwise_cons.mpr ⟨fun e he => ?_, ih hrest⟩
      obtain rfl | he := Dict.mem_insert he
      · exact Std.lt_of_le_of_ne (String.not_lt.mp hlt) (Ne.symm heq)
      · exact hentry e he

theorem Dict.mem_ofList {α : Type} {entries : List (String × α)} {e : String × α}
    (h : e ∈ Dict.ofList entries) : e ∈ entries := by
  have hfold : ∀ (es : List (String × α)) (d : Dict α),
      e ∈ es.foldl (fun d e => Dict.insert e.1 e.2 d) d → e ∈ d ∨ e ∈ es := by
    intro es
    induction es with
    | nil => exact fun d h => .inl h
    | cons x es ih =>
      intro d h
      obtain h | h := ih _ h
      · obtain rfl | h := Dict.mem_insert h
        · exact .inr List.mem_cons_self
        · exact .inl h
      · exact .inr (List.mem_cons_of_mem x h)
  obtain h | h := hfold entries [] h
  · cases h
  · exact h

/-- What is put around made values is made, if it refers to what they refer to. -/
theorem made_of_map {α : Type} {x : Except Mismatch (α × Store)} {s s' : Store} {w : Value}
    (around : α → Value) (inside : α → List Value)
    (h : x.map (fun q => (around q.1, q.2)) = .ok (w, s'))
    (hx : ∀ a s₁, x = .ok (a, s₁) → Made schema s (inside a) s₁)
    (hinside : ∀ a d, Refers schema (around a) d → ∃ v ∈ inside a, Refers schema v d) :
    Made schema s [w] s' := by
  obtain ⟨⟨a, s₁⟩, ha, h⟩ := map_eq_ok.mp h
  cases h
  exact (hx a s₁ ha).of_refers (hinside a)

/-- A node is read as a made value if its children are. -/
theorem made_readNode {v : Json} {kids : Children} (hitems : ∀ r ∈ kids.items, r.Makes schema)
    (hmembers : ∀ r ∈ kids.members, r.2.Makes schema) :
    Reader.Makes schema (readNode schema v kids) := by
  intro t
  induction t with
  | scalar k =>
    intro s w s' h
    rw [readNode, map_eq_ok] at h
    obtain ⟨l, _, h⟩ := h
    cases h
    exact (Made.nil s).of_refers fun d hd => absurd hd not_refers_leaf
  | record name =>
    intro s w s' h
    cases v with
    | obj members =>
      rw [readNode, bind_eq_ok] at h
      obtain ⟨⟨values, s₁⟩, hvalues, h⟩ := h
      obtain ⟨⟨slots, s₂⟩, hslots, h⟩ := bind_eq_ok.mp h
      cases h
      exact made_record hmembers hvalues hslots
    | arr items =>
      exact made_of_map (.record name) id h
        (fun slots s₁ hslots => made_readPositions hitems hslots)
        fun slots d hd => exists_of_refers_record hd
    | _ => cases h
  | option t ih =>
    intro s w s' h
    cases v with
    | null =>
      cases h
      exact .cons ((Made.nil s).of_refers fun d hd => absurd hd not_refers_absent) (.nil s)
    | _ =>
      exact made_of_map .present (fun u => [u]) h (ih s) fun u d hd =>
        ⟨u, List.mem_singleton_self u, refers_present.mp hd⟩
  | box t ih =>
    intro s w s' h
    exact made_of_map .boxed (fun u => [u]) h (ih s) fun u d hd =>
      ⟨u, List.mem_singleton_self u, refers_boxed.mp hd⟩
  | shared t ih =>
    intro s w s' h
    rw [readNode, map_eq_ok] at h
    obtain ⟨⟨u, s₁⟩, hu, h⟩ := h
    cases h
    exact (ih s u s₁ hu).alloc t
  | seq k t ih =>
    intro s w s' h
    cases v with
    | arr items =>
      cases k with
      | array n =>
        exact made_of_map .sequence id h (fun vs s₁ hvs => made_readArray hitems hvs)
          fun vs d hd => exists_of_refers_sequence hd
      | vector =>
        exact made_of_map .sequence id h (fun vs s₁ hvs => made_readItems hitems hvs)
          fun vs d hd => exists_of_refers_sequence hd
      | deque =>
        exact made_of_map .sequence id h (fun vs s₁ hvs => made_readItems hitems hvs)
          fun vs d hd => exists_of_refers_sequence hd
    | _ => cases k <;> cases h
  | map k key t ih =>
    intro s w s' h
    cases v with
    | obj members =>
      refine made_of_map .ofEntries (fun es => es.map Prod.snd) h
        (fun es s₁ hes => made_readEntries hmembers hes) fun es d hd => ?_
      obtain ⟨e, he, hd⟩ := exists_of_refers_map hd
      exact ⟨e.2, List.mem_map_of_mem (Dict.mem_ofList he), hd⟩
    | _ => cases h

mutual

theorem made_ofJson : ∀ v : Json, (Reader.ofJson schema v).Makes schema
  | .arr items => made_readNode (made_ofItems items) nofun
  | .obj members => made_readNode nofun (made_ofMembers members)
  | .null => made_readNode nofun nofun
  | .bool _ => made_readNode nofun nofun
  | .num _ => made_readNode nofun nofun
  | .str _ => made_readNode nofun nofun

theorem made_ofItems : ∀ items : List Json, ∀ r ∈ Reader.ofItems schema items, r.Makes schema
  | [] => nofun
  | v :: vs => List.forall_mem_cons.mpr ⟨made_ofJson v, made_ofItems vs⟩

theorem made_ofMembers :
    ∀ members : List (String × Json), ∀ r ∈ Reader.ofMembers schema members, r.2.Makes schema
  | [] => nofun
  | (_, v) :: vs => List.forall_mem_cons.mpr ⟨made_ofJson v, made_ofMembers vs⟩

end

/-- **A value that is read refers to cells that were made for it.** -/
theorem made_read {t : Typ} {form : Json} {s s' : Store} {v : Value}
    (h : Value.read schema t form s = .ok (v, s')) : Made schema s [v] s' :=
  made_ofJson form t s v s' h

end FieldRules
