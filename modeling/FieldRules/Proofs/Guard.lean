import FieldRules.Proofs.Route
import FieldRules.Proofs.Sequence
import FieldRules.Walk.Inspect

/-!
# Proofs/Guard — what a guard lets through

A guard walks every route.  It lets a value through iff no route is too long and none meets a cell
that is held (`guard_eq_ok_iff`), where the cells entered on the way count as held.  If it fails,
then at the end of a route: a cell met again, or a node beyond the room (`exists_route_of_guard`).
-/

namespace FieldRules

/-- The steps that sites add to a path. -/
def Context.steps (ctx : Context) (sites : List Site) : List Step :=
  sites.flatMap (Site.steps ctx.settings.displayNames)

/-- The path of a site below another path. -/
def Context.sitePath (ctx : Context) (path : String) (site : Site) : String :=
  Path.spellFrom path (site.steps ctx.settings.displayNames)

theorem Context.spellFrom_cons (ctx : Context) (path : String) (site : Site) (sites : List Site) :
    Path.spellFrom path (ctx.steps (site :: sites))
      = Path.spellFrom (ctx.sitePath path site) (ctx.steps sites) :=
  Path.spellFrom_append path _ _

/-! ## One level of a guard -/

variable {ctx : Context}

theorem guard_held {room : Nat} {store : Store} {c : CellId} {path : String}
    (h : store.isHeld c = true) :
    guard ctx (room + 1) store (.shared c) path = .error (ctx.cycle store c path) := by
  simp only [guard, Context.enter, h, if_true]
  rfl

/-- **One level of a guard goes through the parts in order**, with the cell held in between. -/
theorem guard_succ {room : Nat} {store : Store} {v : Value} {path : String}
    (h : ¬ v.Barred store) :
    guard ctx (room + 1) store v path =
      forM (v.parts ctx.schema store) fun p =>
        guard ctx room (v.heldIn store) p.value (ctx.sitePath path p.site) := by
  cases v with
  | leaf l => rfl
  | absent => rfl
  | present w => exact (bind_pure_unit (x := guard ctx room store w path)).symm
  | boxed w => exact (bind_pure_unit (x := guard ctx room store w path)).symm
  | shared c =>
    have hc : store.isHeld c = false := Value.not_barred_iff.mp h c rfl
    simp only [guard, Context.enter, hc, Bool.false_eq_true, if_false]
    exact (bind_pure_unit (x := guard ctx room (store.hold c) (store.cell c).content path)).symm
  | sequence items =>
    rw [guard, List.forM_eq_forM, Value.parts, List.forM_map]
    rfl
  | map entries =>
    rw [guard, List.forM_eq_forM, Value.parts, List.forM_map]
    rfl
  | record name slots =>
    rw [guard, List.forM_eq_forM, Value.parts, List.forM_map,
      ← List.zipIdx_map_fst 0 ((ctx.schema.record name).fields.zip _), List.forM_map,
      List.zipIdx_map_fst]
    rfl

theorem not_barred_of_guard {room : Nat} {store : Store} {v : Value} {path : String}
    (h : guard ctx (room + 1) store v path = .ok ()) : ¬ v.Barred store := by
  rintro ⟨c, rfl, hc⟩
  rw [guard_held hc] at h
  cases h

/-- What is let through has parts that are let through. -/
theorem guard_part {room : Nat} {store : Store} {v : Value} {path : String}
    (h : guard ctx (room + 1) store v path = .ok ()) {p : Part}
    (hp : p ∈ v.parts ctx.schema store) :
    guard ctx room (v.heldIn store) p.value (ctx.sitePath path p.site) = .ok () := by
  rw [guard_succ (not_barred_of_guard h), forM_eq_ok] at h
  exact h p hp

/-! ## What is let through -/

/-- A route within some levels that meets no cell that is held before or was entered on the way. -/
def Clear (store : Store) (room : Nat) (sites : List Site) (cells : List CellId) (w : Value) :
    Prop :=
  sites.length < room ∧ ∀ c, w = .shared c → store.isHeld c = false ∧ c ∉ cells

/-- A route from a part is clear iff the route that comes to it from the value is. -/
theorem clear_cons_iff {store : Store} {room : Nat} {v w : Value} {site : Site}
    {sites : List Site} {cells : List CellId} :
    Clear store (room + 1) (site :: sites) (v.entered ++ cells) w
      ↔ Clear (v.heldIn store) room sites cells w := by
  simp only [Clear, List.length_cons, Nat.add_lt_add_iff_right, Value.isHeld_heldIn,
    Bool.or_eq_false_iff, List.mem_append, not_or]
  refine and_congr_right fun _ => forall_congr' fun c => imp_congr_right fun _ => ?_
  rw [← Bool.not_eq_true (v.entered.contains c), List.contains_iff_mem, and_assoc]

/-- **A guard lets a value through iff every route from it is clear.**  The path plays no part. -/
theorem guard_eq_ok_iff {room : Nat} {store : Store} {v : Value} {path : String} :
    guard ctx room store v path = .ok () ↔
      ∀ sites cells w, Route ctx.schema store v sites cells w → Clear store room sites cells w := by
  induction room generalizing store v path with
  | zero =>
    refine ⟨fun h => ?_, fun h => ?_⟩
    · cases h
    · exact absurd (h [] [] v (.here v)).1 (Nat.lt_irrefl 0)
  | succ room ih =>
    have hcells : (v.heldIn store).cells = store.cells := v.cells_heldIn store
    refine ⟨fun h sites cells w hroute => ?_, fun h => ?_⟩
    · have hfree := Value.not_barred_iff.mp (not_barred_of_guard h)
      cases hroute with
      | here => exact ⟨Nat.succ_pos room, fun c hv => ⟨hfree c hv, List.not_mem_nil⟩⟩
      | down hp hroute =>
        exact clear_cons_iff.mpr
          (ih.mp (guard_part h hp) _ _ _ (hroute.of_cells hcells.symm))
    · have hfree : ¬ v.Barred store :=
        Value.not_barred_iff.mpr fun c hv => ((h [] [] v (.here v)).2 c hv).1
      rw [guard_succ hfree, forM_eq_ok]
      exact fun p hp => ih.mpr fun sites cells w hroute =>
        clear_cons_iff.mp (h _ _ _ (.down hp (hroute.of_cells hcells)))

/-- A guard that lets a value through does so on every path. -/
theorem guard_of_path {room : Nat} {store : Store} {v : Value} {path path' : String}
    (h : guard ctx room store v path = .ok ()) : guard ctx room store v path' = .ok () :=
  guard_eq_ok_iff.mpr (guard_eq_ok_iff.mp h)

/-! ## Where a guard fails -/

/-- **A guard fails at the end of a route**: at a cell that is held or was entered on the way, or at
the first level beyond the room.  No cell that it entered was held before. -/
theorem exists_route_of_guard {room : Nat} {store : Store} {v : Value} {path : String} {e : Error}
    (h : guard ctx room store v path = .error e) :
    ∃ sites cells w, Route ctx.schema store v sites cells w ∧
      (∀ c ∈ cells, store.isHeld c = false) ∧
      ((∃ c, w = .shared c ∧ (store.isHeld c = true ∨ c ∈ cells) ∧
          e = ctx.cycle store c (Path.spellFrom path (ctx.steps sites))) ∨
        (sites.length = room ∧ e = ctx.tooDeep (Path.spellFrom path (ctx.steps sites)))) := by
  induction room generalizing store v path with
  | zero =>
    obtain rfl : ctx.tooDeep path = e := Except.error.inj h
    exact ⟨[], [], v, .here v, fun c hc => absurd hc List.not_mem_nil, .inr ⟨rfl, rfl⟩⟩
  | succ room ih =>
    by_cases hbar : v.Barred store
    · obtain ⟨c, rfl, hc⟩ := hbar
      rw [guard_held hc] at h
      obtain rfl : ctx.cycle store c path = e := Except.error.inj h
      exact ⟨[], [], .shared c, .here _, fun c hc => absurd hc List.not_mem_nil,
        .inl ⟨c, rfl, .inl hc, rfl⟩⟩
    · rw [guard_succ hbar] at h
      obtain ⟨p, hp, hpe⟩ := exists_of_forM_eq_error h
      obtain ⟨sites, cells, w, hroute, hfree, hend⟩ := ih hpe
      have hcells : (v.heldIn store).cells = store.cells := v.cells_heldIn store
      refine ⟨p.site :: sites, v.entered ++ cells, w, .down hp (hroute.of_cells hcells), ?_, ?_⟩
      · intro c hc
        obtain hc | hc := List.mem_append.mp hc
        · cases v with
          | shared d =>
            obtain rfl := List.mem_singleton.mp hc
            exact Value.not_barred_iff.mp hbar c rfl
          | _ => cases hc
        · have := hfree c hc
          rw [Value.isHeld_heldIn, Bool.or_eq_false_iff] at this
          exact this.1
      · rw [Context.spellFrom_cons]
        obtain ⟨c, rfl, hc, rfl⟩ | ⟨rfl, rfl⟩ := hend
        · refine .inl ⟨c, rfl, ?_, by simp only [Context.cycle, Store.cell, hcells]⟩
          rw [Value.isHeld_heldIn, Bool.or_eq_true, List.contains_iff_mem] at hc
          rw [List.mem_append]
          tauto
        · exact .inr ⟨rfl, rfl⟩

end FieldRules
