import FieldRules.Proofs.Inspect

/-!
# Proofs/Hops — a snapshot needs no more hops than there are cells

With more hops a snapshot finds the end of more cells, and never changes what it found
(`cellForm_refines`).  Once one more hop finds nothing new, no number of hops does, so this happens
within the number of cells (`cellForm_of_lt`).
-/

namespace FieldRules

/-! ## Forms that are found, or not yet -/

/-- A result without end so far, or the one that is found. -/
def Refines {α : Type} (x y : Except Unreadable α) : Prop := x = .error .endless ∨ x = y

namespace Refines

variable {α β : Type} {x y : Except Unreadable α}

theorem refl (x : Except Unreadable α) : Refines x x := .inr rfl

theorem bind {f g : α → Except Unreadable β} (h : Refines x y) (hfg : ∀ a, Refines (f a) (g a)) :
    Refines (x >>= f) (y >>= g) := by
  rcases h with rfl | rfl
  · exact .inl rfl
  · cases x with
    | error e => exact .refl _
    | ok a => exact hfg a

theorem eq_of_ne (h : Refines x y) (hne : x ≠ .error .endless) : x = y := h.resolve_left hne

end Refines

variable {schema : Schema} {s : Store}

namespace Value

variable {deref deref' : CellId → Except Unreadable Json}

mutual

/-- What is found of the cells is found of a value. -/
theorem snapshotWith_refines (h : ∀ c, Refines (deref c) (deref' c)) :
    ∀ v, Refines (snapshotWith schema deref v) (snapshotWith schema deref' v)
  | leaf l => by
    rw [snapshotWith, snapshotWith]
    exact .refl _
  | absent => by
    rw [snapshotWith, snapshotWith]
    exact .refl _
  | present v => by
    rw [snapshotWith, snapshotWith]
    exact snapshotWith_refines h v
  | boxed v => by
    rw [snapshotWith, snapshotWith]
    exact snapshotWith_refines h v
  | shared c => by
    rw [snapshotWith, snapshotWith]
    exact h c
  | sequence items => by
    rw [snapshotWith, snapshotWith]
    exact (snapshotItems_refines h items).bind fun _ => .refl _
  | map entries => by
    rw [snapshotWith, snapshotWith]
    exact (snapshotEntries_refines h entries).bind fun _ => .refl _
  | record name slots => by
    rw [snapshotWith, snapshotWith]
    exact (snapshotSlots_refines h _ slots).bind fun _ => .refl _

theorem snapshotItems_refines (h : ∀ c, Refines (deref c) (deref' c)) :
    ∀ items, Refines (snapshotItems schema deref items) (snapshotItems schema deref' items)
  | [] => .refl _
  | v :: vs => by
    rw [snapshotItems, snapshotItems]
    exact (snapshotWith_refines h v).bind fun _ =>
      (snapshotItems_refines h vs).bind fun _ => .refl _

theorem snapshotEntries_refines (h : ∀ c, Refines (deref c) (deref' c)) :
    ∀ entries, Refines (snapshotEntries schema deref entries)
      (snapshotEntries schema deref' entries)
  | [] => .refl _
  | (k, v) :: es => by
    rw [snapshotEntries, snapshotEntries]
    exact (snapshotWith_refines h v).bind fun _ =>
      (snapshotEntries_refines h es).bind fun _ => .refl _

theorem snapshotSlots_refines (h : ∀ c, Refines (deref c) (deref' c)) :
    ∀ fields slots, Refines (snapshotSlots schema deref fields slots)
      (snapshotSlots schema deref' fields slots)
  | [], [] => .refl _
  | [], _ :: _ => .refl _
  | _ :: _, [] => .refl _
  | f :: fs, v :: vs => by
    rw [snapshotSlots, snapshotSlots]
    exact (snapshotWith_refines h v).bind fun _ =>
      (snapshotSlots_refines h fs vs).bind fun _ => .refl _

end

end Value

/-! ## Cells with more hops -/

theorem cellForm_succ (schema : Schema) (s : Store) (hops : Nat) (c : CellId) :
    cellForm schema s (hops + 1) c = if s.isHeld c then .error .held
      else Value.snapshotWith schema (cellForm schema s hops) (s.cell c).content := by
  rw [cellForm, Value.snapshotWithin_eq]

/-- **With one more hop, what is found of a cell stays as it is.** -/
theorem cellForm_refines (hops : Nat) (c : CellId) :
    Refines (cellForm schema s hops c) (cellForm schema s (hops + 1) c) := by
  induction hops generalizing c with
  | zero => exact .inl rfl
  | succ hops ih =>
    rw [cellForm_succ schema s hops, cellForm_succ schema s (hops + 1)]
    split
    · exact .refl _
    · exact Value.snapshotWith_refines ih _

/-- If one more hop finds nothing new, no number of hops does. -/
theorem cellForm_add {hops : Nat} (h : cellForm schema s (hops + 1) = cellForm schema s hops) :
    ∀ more, cellForm schema s (hops + more) = cellForm schema s hops
  | 0 => rfl
  | more + 1 => by
    have hmore := cellForm_add h more
    rw [← h]
    funext c
    rw [← Nat.add_assoc, cellForm_succ, cellForm_succ, hmore]

open Classical in
/-- The cells whose form is found with some hops. -/
noncomputable def Store.found (schema : Schema) (s : Store) (hops : Nat) : Finset CellId :=
  (Finset.range s.cells.length).filter fun c => cellForm schema s hops c ≠ .error .endless

theorem Store.mem_found {hops : Nat} {c : CellId} : c ∈ s.found schema hops ↔
    c < s.cells.length ∧ cellForm schema s hops c ≠ .error .endless := by
  classical
  rw [found, Finset.mem_filter, Finset.mem_range]

theorem Store.card_found_le (hops : Nat) : (s.found schema hops).card ≤ s.cells.length := by
  refine (Finset.card_le_card fun c hc => ?_).trans_eq (Finset.card_range s.cells.length)
  exact Finset.mem_range.mpr (mem_found.mp hc).1

/-- The form of a cell that was never made is found with one hop. -/
theorem cellForm_of_le {c : CellId} (h : s.cells.length ≤ c) (hops : Nat) :
    cellForm schema s (hops + 2) c = cellForm schema s (hops + 1) c := by
  rw [cellForm_succ, cellForm_succ, Store.cell_of_le h, Value.snapshotWith, Value.snapshotWith]

/-- **One more hop finds a cell more, or it finds nothing new.** -/
theorem Store.card_found_lt {hops : Nat}
    (h : cellForm schema s (hops + 2) ≠ cellForm schema s (hops + 1)) :
    (s.found schema (hops + 1)).card < (s.found schema (hops + 2)).card := by
  have hstep : ∀ c, Refines (cellForm schema s (hops + 1) c) (cellForm schema s (hops + 2) c) :=
    cellForm_refines (hops + 1)
  refine Finset.card_lt_card ⟨fun c hc => ?_, fun hsub => h (funext fun c => ?_)⟩
  · obtain ⟨hlt, hne⟩ := mem_found.mp hc
    exact mem_found.mpr ⟨hlt, (hstep c).eq_of_ne hne ▸ hne⟩
  · rcases Nat.lt_or_ge c s.cells.length with hlt | hge
    · by_cases hne : cellForm schema s (hops + 2) c = .error .endless
      · rw [hne]
        rcases hstep c with he | he
        · exact he.symm
        · rw [he, hne]
      · have hin : c ∈ s.found schema (hops + 1) := hsub (mem_found.mpr ⟨hlt, hne⟩)
        exact ((hstep c).eq_of_ne (mem_found.mp hin).2).symm
    · exact cellForm_of_le hge hops

/-- Within the number of cells, there is a number of hops after which nothing new is found. -/
theorem exists_cellForm_fixed (schema : Schema) (s : Store) :
    ∃ hops ≤ s.cells.length + 1, cellForm schema s (hops + 1) = cellForm schema s hops := by
  -- As long as each hop finds a cell more, there are as many cells as hops.
  have hcount : ∀ n, (∃ hops ≤ n, cellForm schema s (hops + 1) = cellForm schema s hops) ∨
      n ≤ (s.found schema (n + 1)).card := by
    intro n
    induction n with
    | zero => exact .inr (Nat.zero_le _)
    | succ n ih =>
      rcases ih with ⟨hops, hle, h⟩ | hcard
      · exact .inl ⟨hops, Nat.le_succ_of_le hle, h⟩
      · by_cases h : cellForm schema s (n + 2) = cellForm schema s (n + 1)
        · exact .inl ⟨n + 1, Nat.le_refl _, h⟩
        · exact .inr (Nat.succ_le_of_lt (hcard.trans_lt (Store.card_found_lt h)))
  refine (hcount (s.cells.length + 1)).resolve_right fun hcard => ?_
  exact Nat.not_succ_le_self _ (hcard.trans (Store.card_found_le _))

/-- **More hops than there are cells find nothing new.** -/
theorem cellForm_of_lt {hops : Nat} (h : s.cells.length < hops) :
    cellForm schema s hops = cellForm schema s (s.cells.length + 1) := by
  obtain ⟨n, hn, hfixed⟩ := exists_cellForm_fixed schema s
  have hall : ∀ m, n ≤ m → cellForm schema s m = cellForm schema s n := by
    intro m hm
    obtain ⟨more, rfl⟩ := Nat.exists_eq_add_of_le hm
    exact cellForm_add hfixed more
  rw [hall hops (hn.trans h), hall _ hn]

end FieldRules
