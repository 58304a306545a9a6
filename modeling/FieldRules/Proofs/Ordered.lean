import FieldRules.Proofs.Reading

/-!
# Proofs/Ordered — maps that list their entries by key

A value is **ordered** if every map in it lists its entries by key, each key once.  What is read is
ordered (`ordered_read`), and a value stays so when its parts are put back ordered.
-/

namespace FieldRules

/-! ## Dictionaries -/

namespace Dict

variable {α : Type}

theorem sorted_ofList (entries : List (String × α)) : Sorted (ofList entries) := by
  have hfold : ∀ (es : List (String × α)) (d : Dict α), d.Sorted →
      Sorted (es.foldl (fun d e => insert e.1 e.2 d) d) := by
    intro es
    induction es with
    | nil => exact fun _ h => h
    | cons e es ih => exact fun d h => ih _ (h.insert e.1 e.2)
  exact hfold entries [] .nil

/-- Other values under the same keys are in the same order. -/
theorem Sorted.zipWith {β : Type} :
    ∀ {d : Dict α}, d.Sorted → ∀ bs : List β, Sorted (d.zipWith (fun e b => (e.1, b)) bs)
  | [], _, _ => .nil
  | _ :: _, _, [] => .nil
  | e :: rest, h, b :: bs => by
    obtain ⟨hfirst, hrest⟩ := List.pairwise_cons.mp h
    refine List.pairwise_cons.mpr ⟨fun x hx => ?_, Sorted.zipWith hrest bs⟩
    rw [← List.map_uncurry_zip_eq_zipWith] at hx
    obtain ⟨q, hq, rfl⟩ := List.mem_map.mp hx
    exact hfirst q.1 (List.of_mem_zip hq).1

end Dict

/-! ## Ordered values -/

/-- Every map in a value lists its entries by key, each key once; slots that are not exposed count
as well. -/
inductive Value.Ordered : Value → Prop
  | leaf (l : Leaf) : Ordered (.leaf l)
  | absent : Ordered .absent
  | present {v : Value} (h : Ordered v) : Ordered (.present v)
  | boxed {v : Value} (h : Ordered v) : Ordered (.boxed v)
  | shared (c : CellId) : Ordered (.shared c)
  | sequence {items : List Value} (h : ∀ v ∈ items, Ordered v) : Ordered (.sequence items)
  | map {entries : List (String × Value)} (hkeys : Dict.Sorted entries)
      (h : ∀ e ∈ entries, Ordered e.2) : Ordered (.map entries)
  | record {name : String} {slots : List Value} (h : ∀ v ∈ slots, Ordered v) :
      Ordered (.record name slots)

namespace Value.Ordered

variable {schema : Schema} {s : Store} {v : Value}

/-- The parts of an ordered value are ordered, if the cells in it are. -/
theorem part (h : v.Ordered) (hs : ∀ c, v = .shared c → (s.cell c).content.Ordered) {p : Part}
    (hp : p ∈ v.parts schema s) : p.value.Ordered := by
  have hmem : p.value ∈ (v.parts schema s).map Part.value := List.mem_map_of_mem hp
  cases h with
  | leaf l => cases hp
  | absent => cases hp
  | present h =>
    obtain rfl := List.mem_singleton.mp hp
    exact h
  | boxed h =>
    obtain rfl := List.mem_singleton.mp hp
    exact h
  | shared c =>
    obtain rfl := List.mem_singleton.mp hp
    exact hs c rfl
  | sequence h =>
    rw [values_parts_sequence] at hmem
    exact h _ hmem
  | map _ h =>
    rw [values_parts_map] at hmem
    obtain ⟨e, he, heq⟩ := List.mem_map.mp hmem
    exact heq ▸ h e he
  | record h =>
    rw [values_parts_record] at hmem
    obtain ⟨q, hq, heq⟩ := List.mem_map.mp hmem
    exact heq ▸ h _ (List.mem_of_mem_take (List.of_mem_zip hq).2)

theorem refill {ws : List Value} (h : v.Ordered) (hws : ∀ w ∈ ws, w.Ordered) :
    (v.refill ws).Ordered := by
  cases h with
  | leaf l => exact .leaf l
  | absent => exact .absent
  | present h =>
    cases ws with
    | nil => exact .present h
    | cons w ws => exact .present (hws w List.mem_cons_self)
  | boxed h =>
    cases ws with
    | nil => exact .boxed h
    | cons w ws => exact .boxed (hws w List.mem_cons_self)
  | shared c => exact .shared c
  | sequence h => exact .sequence hws
  | @map entries hkeys h =>
    refine .map (hkeys.zipWith ws) fun e he => ?_
    rw [← List.map_uncurry_zip_eq_zipWith] at he
    obtain ⟨q, hq, rfl⟩ := List.mem_map.mp he
    exact hws q.2 (List.of_mem_zip hq).2
  | record h =>
    refine .record fun w hw => ?_
    obtain hw | hw := List.mem_append.mp hw
    · exact hws w hw
    · exact h w (List.mem_of_mem_drop hw)

end Value.Ordered

/-! ## Stores -/

/-- The contents of all cells have a property. -/
def Store.All (P : Value → Prop) (s : Store) : Prop := ∀ c, P (s.cell c).content

namespace Store.All

variable {P : Value → Prop} {s s' : Store}

theorem of_cells (h : s.All P) (hcells : s'.cells = s.cells) : s'.All P := fun c => by
  rw [cell, hcells]
  exact h c

theorem alloc (h : s.All P) {w : Value} (hw : P w) (t : Typ) : (s.alloc t w).2.All P := by
  intro c
  by_cases hc : c = s.cells.length
  · rw [hc, cell_alloc_self]
    exact hw
  · rw [cell_alloc_of_ne hc]
    exact h c

theorem write (h : s.All P) {w : Value} (hw : P w) (c : CellId) : (s.write c w).All P := by
  intro d
  obtain hlt | hge := Nat.lt_or_ge c s.cells.length
  · by_cases hd : d = c
    · rw [hd, content_write hlt]
      exact hw
    · rw [cell_write_of_ne hd]
      exact h d
  · rw [write_of_le hge]
    exact h d

end Store.All

/-! ## Readers -/

/-- A reader of ordered values, in new cells too. -/
def Reader.Orders (r : Reader) : Prop :=
  ∀ t s v s', r t s = .ok (v, s') → s.All Value.Ordered → v.Ordered ∧ s'.All Value.Ordered

theorem ordered_readItems {t : Typ} :
    ∀ {rs : List Reader}, (∀ r ∈ rs, r.Orders) → ∀ {s vs s'}, readItems t rs s = .ok (vs, s') →
      s.All Value.Ordered → (∀ v ∈ vs, v.Ordered) ∧ s'.All Value.Ordered
  | [], _, s, vs, s', h, hs => by
    cases h
    exact ⟨nofun, hs⟩
  | r :: rs, hrs, s, vs, s', h, hs => by
    rw [List.forall_mem_cons] at hrs
    rw [readItems, bind_eq_ok] at h
    obtain ⟨⟨v, s₁⟩, hread, h⟩ := h
    obtain ⟨⟨ws, s₂⟩, hreads, h⟩ := bind_eq_ok.mp h
    cases h
    obtain ⟨hv, hs₁⟩ := hrs.1 _ s v s₁ hread hs
    obtain ⟨hws, hs₂⟩ := ordered_readItems hrs.2 hreads hs₁
    exact ⟨List.forall_mem_cons.mpr ⟨hv, hws⟩, hs₂⟩

theorem ordered_readEntries {k : KeyKind} {t : Typ} :
    ∀ {rs : List (String × Reader)}, (∀ r ∈ rs, r.2.Orders) → ∀ {s es s'},
      readEntries k t rs s = .ok (es, s') → s.All Value.Ordered →
        (∀ e ∈ es, e.2.Ordered) ∧ s'.All Value.Ordered
  | [], _, s, es, s', h, hs => by
    cases h
    exact ⟨nofun, hs⟩
  | (name, r) :: rs, hrs, s, es, s', h, hs => by
    rw [List.forall_mem_cons] at hrs
    rw [readEntries, bind_eq_ok] at h
    obtain ⟨key, _, h⟩ := h
    obtain ⟨⟨v, s₁⟩, hread, h⟩ := bind_eq_ok.mp h
    obtain ⟨⟨ws, s₂⟩, hreads, h⟩ := bind_eq_ok.mp h
    cases h
    obtain ⟨hv, hs₁⟩ := hrs.1 _ s v s₁ hread hs
    obtain ⟨hws, hs₂⟩ := ordered_readEntries hrs.2 hreads hs₁
    exact ⟨List.forall_mem_cons.mpr ⟨hv, hws⟩, hs₂⟩

theorem ordered_readMembers {fields : List RecordField} :
    ∀ {rs : List (String × Reader)}, (∀ r ∈ rs, r.2.Orders) → ∀ {s es s'},
      readMembers fields rs s = .ok (es, s') → s.All Value.Ordered →
        (∀ e ∈ es, e.2.Ordered) ∧ s'.All Value.Ordered
  | [], _, s, es, s', h, hs => by
    cases h
    exact ⟨nofun, hs⟩
  | (name, r) :: rs, hrs, s, es, s', h, hs => by
    rw [List.forall_mem_cons] at hrs
    rw [readMembers] at h
    split at h
    · exact ordered_readMembers hrs.2 h hs
    · obtain ⟨⟨v, s₁⟩, hread, h⟩ := bind_eq_ok.mp h
      obtain ⟨⟨ws, s₂⟩, hreads, h⟩ := bind_eq_ok.mp h
      cases h
      obtain ⟨hv, hs₁⟩ := hrs.1 _ s v s₁ hread hs
      obtain ⟨hws, hs₂⟩ := ordered_readMembers hrs.2 hreads hs₁
      exact ⟨List.forall_mem_cons.mpr ⟨hv, hws⟩, hs₂⟩

theorem ordered_readPositions {r : RecordType} :
    ∀ {read : Nat} {fs : List RecordField} {rs : List Reader}, (∀ r ∈ rs, r.Orders) →
      ∀ {s vs s'}, readPositions r read fs rs s = .ok (vs, s') → s.All Value.Ordered →
        (∀ v ∈ vs, v.Ordered) ∧ s'.All Value.Ordered
  | read, [], rs, _, s, vs, s', h, hs => by
    rw [readPositions] at h
    split at h
    · cases h
      exact ⟨List.forall_mem_nil _, hs⟩
    · cases h
  | read, f :: fs, [], _, s, vs, s', h, _ => by cases h
  | read, f :: fs, reader :: rs, hrs, s, vs, s', h, hs => by
    rw [List.forall_mem_cons] at hrs
    rw [readPositions, bind_eq_ok] at h
    obtain ⟨⟨v, s₁⟩, hread, h⟩ := h
    obtain ⟨⟨ws, s₂⟩, hreads, h⟩ := bind_eq_ok.mp h
    cases h
    obtain ⟨hv, hs₁⟩ := hrs.1 _ s v s₁ hread hs
    obtain ⟨hws, hs₂⟩ := ordered_readPositions hrs.2 hreads hs₁
    exact ⟨List.forall_mem_cons.mpr ⟨hv, hws⟩, hs₂⟩

theorem ordered_readArray {size : Nat} {t : Typ} :
    ∀ {read left : Nat} {rs : List Reader}, (∀ r ∈ rs, r.Orders) →
      ∀ {s vs s'}, readArray size t read left rs s = .ok (vs, s') → s.All Value.Ordered →
        (∀ v ∈ vs, v.Ordered) ∧ s'.All Value.Ordered
  | read, 0, rs, _, s, vs, s', h, hs => by
    rw [readArray] at h
    split at h
    · cases h
      exact ⟨List.forall_mem_nil _, hs⟩
    · cases h
  | read, left + 1, [], _, s, vs, s', h, _ => by cases h
  | read, left + 1, reader :: rs, hrs, s, vs, s', h, hs => by
    rw [List.forall_mem_cons] at hrs
    rw [readArray, bind_eq_ok] at h
    obtain ⟨⟨v, s₁⟩, hread, h⟩ := h
    obtain ⟨⟨ws, s₂⟩, hreads, h⟩ := bind_eq_ok.mp h
    cases h
    obtain ⟨hv, hs₁⟩ := hrs.1 _ s v s₁ hread hs
    obtain ⟨hws, hs₂⟩ := ordered_readArray hrs.2 hreads hs₁
    exact ⟨List.forall_mem_cons.mpr ⟨hv, hws⟩, hs₂⟩

/-- What stands for a member that is not there is ordered. -/
theorem ordered_missing :
    ∀ {t : Typ} {s v s'}, missing? t s = some (v, s') → s.All Value.Ordered →
      v.Ordered ∧ s'.All Value.Ordered
  | .option t, s, v, s', h, hs => by
    cases h
    exact ⟨.absent, hs⟩
  | .box t, s, v, s', h, hs => by
    rw [missing?, Option.map_eq_some_iff] at h
    obtain ⟨⟨w, s₁⟩, hw, h⟩ := h
    cases h
    obtain ⟨hw, hs₁⟩ := ordered_missing hw hs
    exact ⟨.boxed hw, hs₁⟩
  | .shared t, s, v, s', h, hs => by
    rw [missing?, Option.map_eq_some_iff] at h
    obtain ⟨⟨w, s₁⟩, hw, h⟩ := h
    cases h
    obtain ⟨hw, hs₁⟩ := ordered_missing hw hs
    exact ⟨.shared _, hs₁.alloc hw t⟩

theorem ordered_collect {values : List (String × Value)} (hvalues : ∀ e ∈ values, e.2.Ordered) :
    ∀ {fs : List RecordField} {s vs s'}, collect values fs s = .ok (vs, s') →
      s.All Value.Ordered → (∀ v ∈ vs, v.Ordered) ∧ s'.All Value.Ordered
  | [], s, vs, s', h, hs => by
    cases h
    exact ⟨nofun, hs⟩
  | f :: fs, s, vs, s', h, hs => by
    rw [collect] at h
    split at h
    · next v hlook =>
      obtain ⟨⟨ws, s₁⟩, hreads, h⟩ := bind_eq_ok.mp h
      cases h
      obtain ⟨before, after, heq, _⟩ := List.lookup_eq_some_iff.mp hlook
      have hv : v.Ordered := hvalues (f.key, v) (by simp [heq])
      obtain ⟨hws, hs₁⟩ := ordered_collect hvalues hreads hs
      exact ⟨List.forall_mem_cons.mpr ⟨hv, hws⟩, hs₁⟩
    · split at h
      · next v s₁ hmissing =>
        obtain ⟨⟨ws, s₂⟩, hreads, h⟩ := bind_eq_ok.mp h
        cases h
        obtain ⟨hv, hs₁⟩ := ordered_missing hmissing hs
        obtain ⟨hws, hs₂⟩ := ordered_collect hvalues hreads hs₁
        exact ⟨List.forall_mem_cons.mpr ⟨hv, hws⟩, hs₂⟩
      · cases h

variable {schema : Schema}

/-- What is put around ordered values is ordered. -/
theorem ordered_of_map {α : Type} {x : Except Mismatch (α × Store)} {s' : Store} {w : Value}
    {around : α → Value} {inside : α → Prop} (h : x.map (fun q => (around q.1, q.2)) = .ok (w, s'))
    (hx : ∀ {a s₁}, x = .ok (a, s₁) → inside a ∧ s₁.All Value.Ordered)
    (haround : ∀ a, inside a → (around a).Ordered) : w.Ordered ∧ s'.All Value.Ordered := by
  obtain ⟨⟨a, s₁⟩, ha, h⟩ := map_eq_ok.mp h
  cases h
  exact (hx ha).imp_left (haround a)

/-- A node is read as an ordered value if its children are. -/
theorem ordered_readNode {v : Json} {kids : Children} (hitems : ∀ r ∈ kids.items, r.Orders)
    (hmembers : ∀ r ∈ kids.members, r.2.Orders) : Reader.Orders (readNode schema v kids) := by
  intro t
  induction t with
  | scalar k =>
    intro s w s' h hs
    rw [readNode, map_eq_ok] at h
    obtain ⟨l, _, h⟩ := h
    cases h
    exact ⟨.leaf l, hs⟩
  | record name =>
    intro s w s' h hs
    cases v with
    | obj members =>
      rw [readNode, bind_eq_ok] at h
      obtain ⟨⟨values, s₁⟩, hvalues, h⟩ := h
      obtain ⟨⟨slots, s₂⟩, hslots, h⟩ := bind_eq_ok.mp h
      cases h
      obtain ⟨hvalues, hs₁⟩ := ordered_readMembers hmembers hvalues hs
      obtain ⟨hslots, hs₂⟩ := ordered_collect hvalues hslots hs₁
      exact ⟨.record hslots, hs₂⟩
    | arr items =>
      exact ordered_of_map h (fun hslots => ordered_readPositions hitems hslots hs)
        fun _ => .record
    | _ => cases h
  | option t ih =>
    intro s w s' h hs
    cases v with
    | null =>
      cases h
      exact ⟨.absent, hs⟩
    | _ => exact ordered_of_map h (fun hw => ih s _ _ hw hs) fun _ => .present
  | box t ih => exact fun s w s' h hs => ordered_of_map h (fun hw => ih s _ _ hw hs) fun _ => .boxed
  | shared t ih =>
    intro s w s' h hs
    rw [readNode, map_eq_ok] at h
    obtain ⟨⟨u, s₁⟩, hu, h⟩ := h
    cases h
    obtain ⟨hu, hs₁⟩ := ih s u s₁ hu hs
    exact ⟨.shared _, hs₁.alloc hu t⟩
  | seq k t ih =>
    intro s w s' h hs
    cases v with
    | arr items =>
      cases k with
      | array n =>
        exact ordered_of_map h (fun hvs => ordered_readArray hitems hvs hs) fun _ => .sequence
      | vector =>
        exact ordered_of_map h (fun hvs => ordered_readItems hitems hvs hs) fun _ => .sequence
      | deque =>
        exact ordered_of_map h (fun hvs => ordered_readItems hitems hvs hs) fun _ => .sequence
    | _ => cases k <;> cases h
  | map k key t ih =>
    intro s w s' h hs
    cases v with
    | obj members =>
      exact ordered_of_map h (fun hes => ordered_readEntries hmembers hes hs) fun es hes =>
        .map (Dict.sorted_ofList es) fun e he => hes e (Dict.mem_ofList he)
    | _ => cases h

mutual

theorem ordered_ofJson : ∀ v : Json, (Reader.ofJson schema v).Orders
  | .arr items => ordered_readNode (ordered_ofItems items) nofun
  | .obj members => ordered_readNode nofun (ordered_ofMembers members)
  | .null => ordered_readNode nofun nofun
  | .bool _ => ordered_readNode nofun nofun
  | .num _ => ordered_readNode nofun nofun
  | .str _ => ordered_readNode nofun nofun

theorem ordered_ofItems : ∀ items : List Json, ∀ r ∈ Reader.ofItems schema items, r.Orders
  | [] => nofun
  | v :: vs => List.forall_mem_cons.mpr ⟨ordered_ofJson v, ordered_ofItems vs⟩

theorem ordered_ofMembers :
    ∀ members : List (String × Json), ∀ r ∈ Reader.ofMembers schema members, r.2.Orders
  | [] => nofun
  | (_, v) :: vs => List.forall_mem_cons.mpr ⟨ordered_ofJson v, ordered_ofMembers vs⟩

end

/-- **What is read is ordered**, in new cells too. -/
theorem ordered_read {t : Typ} {form : Json} {s s' : Store} {w : Value}
    (h : Value.read schema t form s = .ok (w, s')) (hs : s.All Value.Ordered) :
    w.Ordered ∧ s'.All Value.Ordered :=
  ordered_ofJson form t s w s' h hs

end FieldRules
