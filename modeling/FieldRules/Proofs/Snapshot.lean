import FieldRules.Proofs.Inspect

/-!
# Proofs/Snapshot — what has a snapshot can be read

A snapshot of a value holds the snapshots of its parts (`exists_snapshot_of_mem_parts`), so the
leaves below a value that has one are readable (`readable_of_snapshot`).  A snapshot that fails does
so at a leaf, at a cell or in a part (`snapshotWithin_error_cases`), and where a guard goes through,
at a leaf (`exists_leaf_of_snapshot_error`).
-/

namespace FieldRules

variable {schema : Schema} {store : Store}

/-- The parts of a value that has a snapshot have one. -/
theorem exists_snapshot_of_mem_parts {hops : Nat} {v : Value} {form : Json}
    (h : v.snapshotWithin schema store hops = .ok form)
    (hexposes : ∀ name slots, v = .record name slots → schema.Exposes name slots) {p : Part}
    (hp : p ∈ v.parts schema store) :
    ∃ hops form, p.value.snapshotWithin schema store hops = .ok form := by
  have hof {w : Value} {j : Json} (h : w.snapshotWith schema (cellForm schema store hops) = .ok j) :
      ∃ hops form, w.snapshotWithin schema store hops = .ok form :=
    ⟨hops, j, (Value.snapshotWithin_eq schema store hops w).trans h⟩
  rw [Value.snapshotWithin_eq] at h
  cases v with
  | leaf l => cases hp
  | absent => cases hp
  | present w =>
    obtain rfl := List.mem_singleton.mp hp
    exact hof h
  | boxed w =>
    obtain rfl := List.mem_singleton.mp hp
    exact hof h
  | shared c =>
    obtain rfl := List.mem_singleton.mp hp
    rw [Value.snapshotWith] at h
    cases hops with
    | zero => cases h
    | succ hops =>
      rw [cellForm] at h
      split at h
      · cases h
      · exact ⟨hops, form, h⟩
  | sequence items =>
    rw [Value.snapshotWith, bind_eq_ok] at h
    obtain ⟨forms, hforms, _⟩ := h
    rw [Value.snapshotItems_eq] at hforms
    have hw : p.value ∈ items := by
      rw [← Value.values_parts_sequence schema store items]
      exact List.mem_map_of_mem hp
    obtain ⟨_, hj⟩ := exists_of_mapM_eq_ok hforms p.value hw
    obtain ⟨j, hj, _⟩ := map_eq_ok.mp hj
    exact hof hj
  | map entries =>
    rw [Value.snapshotWith, bind_eq_ok] at h
    obtain ⟨forms, hforms, _⟩ := h
    rw [Value.snapshotEntries_eq] at hforms
    obtain ⟨e, he, rfl⟩ := List.mem_map.mp hp
    obtain ⟨_, hj⟩ := exists_of_mapM_eq_ok hforms e he
    obtain ⟨j, hj, _⟩ := map_eq_ok.mp hj
    exact hof hj
  | record name slots =>
    rw [Value.snapshotWith, bind_eq_ok] at h
    obtain ⟨forms, hforms, _⟩ := h
    rw [Value.snapshotSlots_eq, ← (hexposes name slots rfl).zip_take] at hforms
    have hw : p.value ∈ ((schema.record name).fields.zip
        (slots.take (schema.record name).exposed)).map Prod.snd := by
      rw [← Value.values_parts_record schema store]
      exact List.mem_map_of_mem hp
    obtain ⟨q, hq, hpq⟩ := List.mem_map.mp hw
    obtain ⟨_, hj⟩ := exists_of_mapM_eq_ok hforms q hq
    obtain ⟨j, hj, _⟩ := map_eq_ok.mp hj
    exact hpq ▸ hof hj

/-- **A value that has a snapshot can be read**, if its records expose all fields. -/
theorem readable_of_snapshot {v : Value} {form : Json}
    (h : v.snapshot schema store = .ok form)
    (hexposes : ∀ name slots, Below schema store v (.record name slots) →
      schema.Exposes name slots) : Readable schema store v := by
  have hbelow : ∀ w, Below schema store v w →
      ∃ hops form, w.snapshotWithin schema store hops = .ok form := by
    intro w hw
    refine (hw.of_closed (P := fun u =>
      (∀ name slots, Below schema store u (.record name slots) → schema.Exposes name slots) ∧
        ∃ hops form, u.snapshotWithin schema store hops = .ok form) ?_ ⟨hexposes, _, form, h⟩).2
    rintro u ⟨hu, hops, form, hform⟩ p hp
    exact ⟨fun name slots hb => hu name slots (.part hp hb), exists_snapshot_of_mem_parts hform
      (fun name slots he => hu name slots (he ▸ .refl _)) hp⟩
  refine ⟨fun l hl => ?_, hexposes⟩
  obtain ⟨hops, form, hl⟩ := hbelow _ hl
  rw [Value.snapshotWithin_eq] at hl
  exact ⟨form, hl⟩

/-! ## What has no snapshot -/

/-- A leaf without a JSON form is an integer out of range. -/
theorem Leaf.eq_of_snapshot_error {l : Leaf} {u : Unreadable} (h : l.snapshot = .error u) :
    u = .outOfRange := by
  cases l with
  | int n =>
    rw [snapshot] at h
    split at h
    · cases h
    · exact (Except.error.inj h).symm
  | _ => cases h

/-- **A snapshot fails at a leaf, at a cell, or in a part.** -/
theorem snapshotWithin_error_cases {hops : Nat} {v : Value} {u : Unreadable}
    (h : v.snapshotWithin schema store hops = .error u)
    (hexposes : ∀ name slots, v = .record name slots → schema.Exposes name slots) :
    (∃ l, v = .leaf l ∧ l.snapshot = .error u) ∨
      (∃ c, v = .shared c ∧ cellForm schema store hops c = .error u) ∨
      v.entered = [] ∧ ∃ p ∈ v.parts schema store,
        p.value.snapshotWithin schema store hops = .error u := by
  have hof {w : Value} (h : w.snapshotWith schema (cellForm schema store hops) = .error u) :
      w.snapshotWithin schema store hops = .error u :=
    (Value.snapshotWithin_eq schema store hops w).trans h
  rw [Value.snapshotWithin_eq] at h
  cases v with
  | leaf l => exact .inl ⟨l, rfl, h⟩
  | absent => cases h
  | present w => exact .inr (.inr ⟨rfl, ⟨.inner, w⟩, List.mem_singleton_self _, hof h⟩)
  | boxed w => exact .inr (.inr ⟨rfl, ⟨.inner, w⟩, List.mem_singleton_self _, hof h⟩)
  | shared c => exact .inr (.inl ⟨c, rfl, h⟩)
  | sequence items =>
    obtain h | ⟨_, _, h⟩ := bind_eq_error.mp h
    · rw [Value.snapshotItems_eq] at h
      obtain ⟨w, hw, h⟩ := exists_of_mapM_eq_error h
      rw [← Value.values_parts_sequence schema store items] at hw
      obtain ⟨p, hp, rfl⟩ := List.mem_map.mp hw
      exact .inr (.inr ⟨rfl, p, hp, hof (map_eq_error.mp h)⟩)
    · cases h
  | map entries =>
    obtain h | ⟨_, _, h⟩ := bind_eq_error.mp h
    · rw [Value.snapshotEntries_eq] at h
      obtain ⟨e, he, h⟩ := exists_of_mapM_eq_error h
      exact .inr (.inr ⟨rfl, ⟨.entry e.1, e.2⟩, List.mem_map.mpr ⟨e, he, rfl⟩,
        hof (map_eq_error.mp h)⟩)
    · cases h
  | record name slots =>
    obtain h | ⟨_, _, h⟩ := bind_eq_error.mp h
    · rw [Value.snapshotSlots_eq, ← (hexposes name slots rfl).zip_take] at h
      obtain ⟨q, hq, h⟩ := exists_of_mapM_eq_error h
      obtain ⟨p, hp, hpq⟩ := Value.exists_part_of_slot store hq
      exact .inr (.inr ⟨rfl, p, hp, hpq ▸ hof (map_eq_error.mp h)⟩)
    · cases h

/-- **Where a guard goes through, a snapshot fails only at a leaf.** -/
theorem exists_leaf_of_snapshot_error {ctx : Context} {room : Nat} {st s : Store} {v : Value}
    {path : String} {hops : Nat} {u : Unreadable} (hg : guard ctx room st v path = .ok ())
    (hexposes : ∀ name slots, Below ctx.schema st v (.record name slots) →
      ctx.schema.Exposes name slots)
    (hsees : st.Sees s hops) (h : v.snapshotWithin ctx.schema s hops = .error u) :
    ∃ l, Below ctx.schema st v (.leaf l) ∧ l.snapshot = .error u := by
  induction room generalizing st s v path hops with
  | zero => cases hg
  | succ room ih =>
    have hpart (p : Part) (hp : p ∈ v.parts ctx.schema st) {s : Store} {hops : Nat}
        (hsees : (v.heldIn st).Sees s hops)
        (h : p.value.snapshotWithin ctx.schema s hops = .error u) :
        ∃ l, Below ctx.schema st v (.leaf l) ∧ l.snapshot = .error u := by
      have hcells : (v.heldIn st).cells = st.cells := v.cells_heldIn st
      obtain ⟨l, hl, hu⟩ := ih (guard_part hg hp)
        (fun name slots hb => hexposes name slots (.part hp (hb.of_cells hcells))) hsees h
      exact ⟨l, .part hp (hl.of_cells hcells), hu⟩
    obtain ⟨l, rfl, hl⟩ | ⟨c, rfl, hc⟩ | ⟨hv, p, hp, h⟩ :=
      snapshotWithin_error_cases h fun name slots he => hexposes name slots (he ▸ .refl v)
    · exact ⟨l, .refl _, hl⟩
    · have hfree := Value.not_barred_iff.mp (not_barred_of_guard hg) c rfl
      obtain ⟨n, rfl⟩ := hsees.exists_succ
      simp only [cellForm, hsees.free hfree, hsees.cell, Bool.false_eq_true, if_false] at hc
      obtain hlt | hge := Nat.lt_or_ge c st.cells.length
      · exact hpart ⟨.inner, (st.cell c).content⟩ (List.mem_singleton_self _)
          (hsees.below hlt hfree) hc
      · rw [Store.cell_of_le hge, Value.snapshotWithin_eq] at hc
        cases hc
    · rw [v.parts_of_cells (hsees.cells)] at hp
      refine hpart p hp ?_ h
      rwa [v.heldIn_of_entered hv]

end FieldRules
