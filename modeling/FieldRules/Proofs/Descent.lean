import FieldRules.Proofs.Fresh
import FieldRules.Proofs.Inspect
import FieldRules.Proofs.Plans

/-!
# Proofs/Descent — a run without cycles stays without them

The cells of a store are **ranked** so that the content of a cell refers to lower cells only.  A
walk goes down in rank, so it never meets a cell that it holds (`Ranked.guard_ne_cycle`).  Mapped
values hold new cells only, which are ranked below all others; a visit can thus be followed step by
step with new ranks that keep the order of the cells held (`visit_settled`).
-/

namespace FieldRules

variable {ctx : Context}

/-- Live cells refer to live cells of lower rank.  New cells are live, and held ones exist. -/
structure Ranked (schema : Schema) (live : CellId → Prop) (rank : CellId → Nat) (s : Store) :
    Prop where
  fresh : ∀ c, s.cells.length ≤ c → live c
  below : ∀ c d, live c → Refers schema (s.cell c).content d → live d ∧ rank d < rank c

/-- A value that refers to live cells below all cells that are held. -/
def Under (schema : Schema) (live : CellId → Prop) (rank : CellId → Nat) (s : Store) (v : Value) :
    Prop :=
  ∀ d, Refers schema v d → live d ∧ ∀ c, s.isHeld c = true → rank d < rank c

/-- What is held exists. -/
def Store.HoldsCells (s : Store) : Prop := ∀ c, s.isHeld c = true → c < s.cells.length

variable {live : CellId → Prop} {rank : CellId → Nat} {s : Store} {v : Value}

/-- A value below all cells that are held is not held. -/
theorem Under.not_barred (h : Under ctx.schema live rank s v) : ¬ v.Barred s := by
  rintro ⟨c, rfl, hc⟩
  exact Nat.lt_irrefl _ ((h c (.here c)).2 c hc)

/-- The parts of a value are below the cells that are held in it. -/
theorem Under.part (hs : Ranked ctx.schema live rank s) (h : Under ctx.schema live rank s v)
    {p : Part} (hp : p ∈ v.parts ctx.schema s) :
    Under ctx.schema live rank (v.heldIn s) p.value := by
  intro d hd
  cases v with
  | shared c =>
    obtain rfl := List.mem_singleton.mp hp
    obtain ⟨hlive, hlow⟩ := h c (.here c)
    obtain ⟨hd, hdc⟩ := hs.below c d hlive hd
    refine ⟨hd, fun c' hc' => ?_⟩
    rw [Value.heldIn_shared, Store.isHeld_hold, Bool.or_eq_true, decide_eq_true_eq] at hc'
    obtain hc' | rfl := hc'
    · exact hdc.trans (hlow c' hc')
    · exact hdc
  | _ => exact h d ((refers_iff rfl s).mpr ⟨p, hp, hd⟩)

/-- A store stays ranked while the parts of a value are walked. -/
theorem Ranked.heldIn (hs : Ranked ctx.schema live rank s) (v : Value) :
    Ranked ctx.schema live rank (v.heldIn s) := by
  have hcells : (v.heldIn s).cells = s.cells := v.cells_heldIn s
  exact ⟨hcells ▸ hs.fresh, fun c d => by rw [Store.cell, hcells]; exact hs.below c d⟩

/-- **A guard of a ranked value meets no cycle.** -/
theorem Ranked.guard_ne_cycle (hs : Ranked ctx.schema live rank s)
    (h : Under ctx.schema live rank s v) (room : Nat) (path p typeName : String) :
    guard ctx room s v path ≠ .error (.cycle p typeName) := by
  induction room generalizing s v path with
  | zero => nofun
  | succ room ih =>
    rw [guard_succ h.not_barred]
    intro he
    obtain ⟨q, hq, he⟩ := exists_of_forM_eq_error he
    exact ih (hs.heldIn v) (h.part hs hq) _ he

/-! ## Steps between ranked stores -/

/-- A step to another store, with ranks that keep the order below the cells that are held. -/
structure Moves (rank : CellId → Nat) (s : Store) (rank' : CellId → Nat) (s' : Store) : Prop where
  held : s'.held = s.held
  length : s.cells.length ≤ s'.cells.length
  order : ∀ c d, s.isHeld c = true → rank d < rank c → rank' d < rank' c

namespace Moves

variable {rank' rank'' : CellId → Nat} {s' s'' : Store}

theorem refl (rank : CellId → Nat) (s : Store) : Moves rank s rank s :=
  ⟨rfl, Nat.le_refl _, fun _ _ _ => id⟩

theorem isHeld_eq (h : Moves rank s rank' s') (c : CellId) : s'.isHeld c = s.isHeld c := by
  rw [Store.isHeld, Store.isHeld, h.held]

theorem trans (h : Moves rank s rank' s') (h' : Moves rank' s' rank'' s'') :
    Moves rank s rank'' s'' :=
  ⟨h'.held.trans h.held, h.length.trans h'.length, fun c d hc hd =>
    h'.order c d ((h.isHeld_eq c).trans hc) (h.order c d hc hd)⟩

theorem holdsCells (h : Moves rank s rank' s') (hs : s.HoldsCells) : s'.HoldsCells := fun c hc =>
  (hs c (h.isHeld_eq c ▸ hc)).trans_le h.length

/-- What is below the cells that are held stays so. -/
theorem under (h : Moves rank s rank' s') (hv : Under ctx.schema live rank s v) :
    Under ctx.schema live rank' s' v := fun d hd =>
  ⟨(hv d hd).1, fun c hc =>
    have hc : s.isHeld c = true := h.isHeld_eq c ▸ hc
    h.order c d hc ((hv d hd).2 c hc)⟩

end Moves

/-- **A value that is read can be ranked below all that was there.** -/
theorem Ranked.read (hs : Ranked ctx.schema live rank s) (hheld : s.HoldsCells) {w : Value}
    {s' : Store} (hw : Made ctx.schema s [w] s') :
    ∃ rank', Moves rank s rank' s' ∧ Ranked ctx.schema live rank' s' ∧
      Under ctx.schema live rank' s' w := by
  have hlen := hw.grown.length_le
  -- The new cells keep their order; all others are lifted above them.
  let rank' : Nat → Nat := fun c =>
    if s.cells.length ≤ c ∧ c < s'.cells.length then c - s.cells.length
    else rank c + (s'.cells.length - s.cells.length)
  have hnew : ∀ d : Nat, s.cells.length ≤ d → d < s'.cells.length → ∀ c : Nat,
      c < s.cells.length → rank' d < rank' c := by
    intro d hd hd' c hc
    simp only [rank']
    rw [if_pos ⟨hd, hd'⟩, if_neg (by omega)]
    omega
  have hamong : ∀ c d : Nat, s.cells.length ≤ d → d < c → c < s'.cells.length →
      rank' d < rank' c := by
    intro c d hd hdc hc
    simp only [rank']
    rw [if_pos (by omega), if_pos (by omega)]
    omega
  have hold : ∀ c d : Nat, c < s.cells.length → rank d < rank c → rank' d < rank' c := by
    intro c d hc hd
    simp only [rank']
    rw [if_neg (show ¬ (s.cells.length ≤ c ∧ c < s'.cells.length) by omega)]
    split <;> omega
  refine ⟨rank', ⟨hw.grown.held, hlen, fun c d hc => hold c d (hheld c hc)⟩,
    ⟨fun c hc => hs.fresh c (hlen.trans hc), fun c d hlive hd => ?_⟩, fun d hd => ?_⟩
  · obtain hc | hc := Nat.lt_or_ge c s.cells.length
    · rw [Store.cell_of_prefix hw.grown.cells hc] at hd
      exact ⟨(hs.below c d hlive hd).1, hold c d hc (hs.below c d hlive hd).2⟩
    · obtain hc' | hc' := Nat.lt_or_ge c s'.cells.length
      · obtain ⟨hd, hdc⟩ := hw.grown.fresh c hc hc' d hd
        exact ⟨hs.fresh d hd, hamong c d hd hdc hc'⟩
      · rw [Store.cell_of_le hc'] at hd
        exact absurd hd not_refers_leaf
  · obtain ⟨hd, hd'⟩ := hw.refers w (List.mem_singleton_self w) d hd
    refine ⟨hs.fresh d hd, fun c hc => hnew d hd hd' c (hheld c ?_)⟩
    rwa [Store.isHeld, ← hw.grown.held]

/-! ## Visits -/

/-- A visit that ends in a ranked store, with values below the cells held, and with no cycle. -/
def Settled (ctx : Context) (live : CellId → Prop) (rank : CellId → Nat) (s : Store)
    (vs : List Value) (s' : Store) (stop : Option Error) : Prop :=
  (∀ path typeName, stop ≠ some (.cycle path typeName)) ∧
    ∃ rank', Moves rank s rank' s' ∧ Ranked ctx.schema live rank' s' ∧
      ∀ v ∈ vs, Under ctx.schema live rank' s' v

/-- Nothing is done, and there is no cycle. -/
theorem Settled.same (hs : Ranked ctx.schema live rank s) {vs : List Value}
    (hvs : ∀ v ∈ vs, Under ctx.schema live rank s v) {stop : Option Error}
    (hstop : ∀ path typeName, stop ≠ some (.cycle path typeName)) :
    Settled ctx live rank s vs s stop :=
  ⟨hstop, rank, .refl rank s, hs, hvs⟩

theorem Ranked.apply {run : Run} (hs : Ranked ctx.schema live rank run.store)
    (hheld : run.store.HoldsCells) (hv : Under ctx.schema live rank run.store v) (room : Nat)
    (rule : Rule) (p : Place) :
    Settled ctx live rank run.store [(FieldRules.apply ctx room rule v p run).value]
      (FieldRules.apply ctx room rule v p run).run.store
      (FieldRules.apply ctx room rule v p run).stop := by
  obtain ⟨e, hi, h⟩ | ⟨report, h | ⟨mapped, w, s', hread, h⟩⟩ := apply_cases rule v p run
  · rw [h]
    refine .same hs (List.forall_mem_singleton.mpr hv) fun path typeName he => ?_
    rw [Option.some.inj he] at hi
    exact hs.guard_ne_cycle hv room p.path path typeName (guard_of_inspect_cycle hi)
  · rw [h]
    exact .same hs (List.forall_mem_singleton.mpr hv) nofun
  · rw [h]
    obtain ⟨rank', hmove, hs', hw⟩ := hs.read hheld (made_read hread)
    exact ⟨nofun, rank', hmove, hs', List.forall_mem_singleton.mpr hw⟩

/-- All visits of some values settle. -/
def SettlesAll (ctx : Context) (live : CellId → Prop) (room : Nat) : Prop :=
  ∀ {rank : CellId → Nat} {run : Run} {v : Value}, Ranked ctx.schema live rank run.store →
    run.store.HoldsCells → Under ctx.schema live rank run.store v → ∀ path,
      Settled ctx live rank run.store [(FieldRules.visit ctx room v path run).value]
        (FieldRules.visit ctx room v path run).run.store
        (FieldRules.visit ctx room v path run).stop

theorem Task.settled {room : Nat} (hvisit : SettlesAll ctx live room) {run : Run} {t : Task}
    (hs : Ranked ctx.schema live rank run.store) (hheld : run.store.HoldsCells)
    (ht : Under ctx.schema live rank run.store t.value) (path : String) :
    Settled ctx live rank run.store [(t.visit ctx room path run).value]
      (t.visit ctx room path run).run.store (t.visit ctx room path run).stop := by
  rw [Task.visit]
  cases t.rule? with
  | none => exact hvisit hs hheld ht _
  | some rp =>
    obtain ⟨rule, p⟩ := rp
    have happly := hs.apply hheld ht room rule p
    simp only [Visit.andThen]
    split
    · exact happly
    · obtain ⟨_, rank', hmove, hs', hv⟩ := happly
      obtain ⟨hstop, rank'', hmove', hin⟩ := hvisit hs' (hmove.holdsCells hheld)
        (hv _ (List.mem_singleton_self _)) (Path.spellFrom path (t.steps ctx))
      exact ⟨hstop, rank'', hmove.trans hmove', hin⟩

theorem visitTasks_settled {room : Nat} (hvisit : SettlesAll ctx live room) {path : String} :
    ∀ {ts : List Task} {rank : CellId → Nat} {run : Run},
      Ranked ctx.schema live rank run.store → run.store.HoldsCells →
      (∀ t ∈ ts, Under ctx.schema live rank run.store t.value) →
      Settled ctx live rank run.store (visitTasks ctx room path ts run).value
        (visitTasks ctx room path ts run).run.store (visitTasks ctx room path ts run).stop
  | [], _, _, hs, _, _ => .same hs (fun _ hv => absurd hv List.not_mem_nil) nofun
  | t :: ts, rank, run, hs, hheld, hts => by
    rw [List.forall_mem_cons] at hts
    obtain ⟨hstop, rank', hmove, hs', hv⟩ := Task.settled hvisit hs hheld hts.1 path
    have hv := hv _ (List.mem_singleton_self _)
    cases h : (t.visit ctx room path run).stop with
    | some e =>
      rw [visitTasks_cons_stop h]
      refine ⟨h ▸ hstop, rank', hmove, hs', List.forall_mem_cons.mpr ⟨hv, fun w hw => ?_⟩⟩
      obtain ⟨t', ht', rfl⟩ := List.mem_map.mp hw
      exact hmove.under (hts.2 t' ht')
    | none =>
      rw [visitTasks_cons h]
      obtain ⟨hstop', rank'', hmove', hs'', hvs⟩ := visitTasks_settled hvisit hs'
        (hmove.holdsCells hheld) fun t' ht' => hmove.under (hts.2 t' ht')
      exact ⟨hstop', rank'', hmove.trans hmove', hs'',
        List.forall_mem_cons.mpr ⟨hmove'.under hv, hvs⟩⟩

/-- What a refilled value refers to, its parts refer to. -/
theorem exists_of_refers_refill {v : Value} (hv : v.entered = []) {ws : List Value}
    (hlen : ws.length = (v.parts ctx.schema s).length) {d : CellId}
    (h : Refers ctx.schema (v.refill ws) d) : ∃ w ∈ ws, Refers ctx.schema w d := by
  obtain ⟨p, hp, hd⟩ := (refers_iff ((v.entered_refill ws).trans hv) s).mp h
  rw [Value.parts_refill hv hlen] at hp
  obtain ⟨i, hi, rfl⟩ := List.mem_iff_getElem.mp hp
  rw [List.getElem_zipWith] at hd
  exact ⟨_, List.getElem_mem _, hd⟩

/-- The cell that was visited gets its content back, which is below it. -/
theorem Ranked.release (hs : Ranked ctx.schema live rank s) (c : CellId) {w : Value}
    (hw : Under ctx.schema live rank s w) (hc : s.isHeld c = true) (hlen : c < s.cells.length) :
    Ranked ctx.schema live rank ((s.write c w).release c) := by
  refine ⟨fun d hd => hs.fresh d ?_, fun d d' hlive hd => ?_⟩
  · rwa [← s.length_write c w]
  · change Refers ctx.schema ((s.write c w).cell d).content d' at hd
    by_cases h : d = c
    · subst h
      rw [Store.content_write hlen] at hd
      exact ⟨(hw d' hd).1, (hw d' hd).2 d hc⟩
    · rw [Store.cell_write_of_ne h] at hd
      exact hs.below d d' hlive hd

/-- A cell that was never made holds a leaf, which a visit leaves as it is. -/
theorem exists_visit_of_le (room : Nat) {run : Run} {c : CellId}
    (hc : run.store.cells.length ≤ c) (hfree : run.store.isHeld c = false) (path : String) :
    ∃ stop, (∀ p typeName, stop ≠ some (.cycle p typeName)) ∧
      visit ctx (room + 1) (.shared c) path run = ⟨.shared c, run, stop⟩ := by
  have hstore := run.store.release_write_hold c
  rw [Store.cell_of_le hc] at hstore
  cases room with
  | zero =>
    refine ⟨some (ctx.tooDeep path), (fun p typeName h => by cases h), ?_⟩
    simp only [visit, Context.enter, hfree, Bool.false_eq_true, if_false, Store.cell_of_le hc,
      hstore]
  | succ room =>
    refine ⟨none, (fun p typeName h => by cases h), ?_⟩
    simp only [visit, Context.enter, hfree, Bool.false_eq_true, if_false, Store.cell_of_le hc,
      hstore]

/-- If the parts of a value settle, so does the value they are put back into. -/
theorem Settled.refill {v : Value} (hv : v.entered = []) {ws : List Value}
    (hlen : ws.length = (v.parts ctx.schema s).length) {s' : Store} {stop : Option Error}
    (h : Settled ctx live rank s ws s' stop) : Settled ctx live rank s [v.refill ws] s' stop := by
  obtain ⟨hstop, rank', hmove, hs', hws⟩ := h
  refine ⟨hstop, rank', hmove, hs', List.forall_mem_singleton.mpr fun d hd => ?_⟩
  obtain ⟨w, hw, hd⟩ := exists_of_refers_refill hv hlen hd
  exact hws w hw d hd

/-- If the content of a cell settles while the cell is held, so does the cell. -/
theorem Settled.cell {c : CellId} (hlen : c < s.cells.length)
    (hv : Under ctx.schema live rank s (.shared c)) {w : Value} {s' : Store} {stop : Option Error}
    (h : Settled ctx live rank (s.hold c) [w] s' stop) :
    Settled ctx live rank s [.shared c] ((s'.write c w).release c) stop := by
  obtain ⟨hstop, rank', hmove, hs', hw⟩ := h
  have hheld {d : CellId} (hd : s.isHeld d = true) : (s.hold c).isHeld d = true := by
    rw [Store.isHeld_hold, hd, Bool.true_or]
  have hc : s'.isHeld c = true := by
    rw [hmove.isHeld_eq, Store.isHeld_hold, decide_eq_true rfl, Bool.or_true]
  have hback : ((s'.write c w).release c).held = s.held := by
    rw [Store.release, Store.held_write, hmove.held, Store.hold, List.erase_cons_head]
  refine ⟨hstop, rank', ⟨hback, hmove.length.trans_eq (Store.length_write _ c w).symm,
    fun d d' hd => hmove.order d d' (hheld hd)⟩,
    hs'.release c (hw w (List.mem_singleton_self w)) hc (hlen.trans_le hmove.length),
    List.forall_mem_singleton.mpr fun d hd => ?_⟩
  obtain rfl := refers_shared.mp hd
  refine ⟨(hv d (.here d)).1, fun c' hc' => ?_⟩
  have hc' : s.isHeld c' = true := by rwa [Store.isHeld, ← hback]
  exact hmove.order c' d (hheld hc') ((hv d (.here d)).2 c' hc')

/-- Cells exist that are held in a value, if it is no cell that was never made. -/
theorem Store.HoldsCells.heldIn (hs : s.HoldsCells) (hv : ∀ c, v = .shared c → c < s.cells.length) :
    (v.heldIn s).HoldsCells := by
  intro d hd
  rw [Value.cells_heldIn]
  cases v with
  | shared c =>
    rw [Value.heldIn_shared, Store.isHeld_hold, Bool.or_eq_true, decide_eq_true_eq] at hd
    obtain hd | rfl := hd
    · exact hs d hd
    · exact hv d rfl
  | _ => exact hs d hd

/-- **A visit of a ranked value settles.** -/
theorem visit_settled (room : Nat) : SettlesAll ctx live room := by
  induction room with
  | zero => exact fun hs _ hv path => .same hs (List.forall_mem_singleton.mpr hv) nofun
  | succ room ih =>
    intro rank run v hs hheld hv path
    cases hopen : v.opening ctx path run with | mk run' opened
    cases opened with
    | error e =>
      have hrun := (of_opening_error hopen).1
      rw [visit_of_opening_error hopen, hrun]
      refine .same hs (List.forall_mem_singleton.mpr hv) fun p t hpt => ?_
      obtain rfl := Option.some.inj hpt
      obtain ⟨c, rfl, hc, _⟩ | ⟨_, _, he⟩ | ⟨_, _, he⟩ := error_of_opening hopen
      · exact hv.not_barred ⟨c, rfl, hc⟩
      · cases he
      · cases he
    | ok tasks =>
      obtain ⟨hrun, hfree, hparts⟩ := of_opening hopen
      have hstore : run'.store = v.heldIn run.store := congrArg Run.store hrun
      by_cases hmade : ∀ c, v = .shared c → c < run.store.cells.length
      · have htasks : ∀ t ∈ tasks, Under ctx.schema live rank run'.store t.value := by
          intro t ht
          obtain ⟨p, hp, hof⟩ := exists_of_mem_forall₂ hparts t ht
          rw [hof.value_eq, hstore]
          exact hv.part hs hp
        have hset : Settled ctx live rank run'.store (visitTasks ctx room path tasks run').value
            (visitTasks ctx room path tasks run').run.store
            (visitTasks ctx room path tasks run').stop :=
          visitTasks_settled ih (hstore ▸ hs.heldIn v) (hstore ▸ hheld.heldIn hmade) htasks
        have hlen : (visitTasks ctx room path tasks run').value.length
            = (v.parts ctx.schema run.store).length :=
          (length_visitTasks tasks run').trans hparts.length_eq.symm
        rw [hstore] at hset
        rw [visit_of_opening hopen]
        cases v with
        | shared c =>
          obtain ⟨w, hw⟩ : ∃ w, (visitTasks ctx room path tasks run').value = [w] :=
            exists_of_shared hparts
          rw [hw] at hset ⊢
          exact hset.cell (hmade c rfl) hv
        | _ => exact hset.refill rfl hlen
      · obtain ⟨c, rfl, hc⟩ : ∃ c, v = .shared c ∧ run.store.cells.length ≤ c := by
          simpa only [not_forall, not_lt, exists_prop] using hmade
        obtain ⟨stop, hstop, hvisit⟩ :=
          exists_visit_of_le room hc (Value.not_barred_iff.mp hfree c rfl) path
        rw [hvisit]
        exact .same hs (List.forall_mem_singleton.mpr hv) hstop

/-- A visit of a ranked value meets no cycle. -/
theorem Ranked.visit_ne_cycle (run : Run) (hs : Ranked ctx.schema live rank run.store)
    (hheld : run.store.HoldsCells) (hv : Under ctx.schema live rank run.store v) (room : Nat)
    (path p typeName : String) : (visit ctx room v path run).stop ≠ some (.cycle p typeName) :=
  (visit_settled room hs hheld hv path).1 p typeName

/-! ## Graphs without cycles -/

theorem Refers.reaches {schema : Schema} {v : Value} {c : CellId} (h : Refers schema v c)
    (store : Store) : Below schema store v (.shared c) := by
  induction h with
  | here c => exact .refl _
  | part hv hp _ ih =>
    rw [Value.parts_of_entered hv .empty store] at hp
    exact .part hp ih

open Classical in
/-- The rank of a cell by the number of cells that can be reached from its content. -/
noncomputable def reach (schema : Schema) (store : Store) (c : CellId) : Nat :=
  if c < store.cells.length then
    ((Finset.range store.cells.length).filter fun d =>
      Below schema store (store.cell c).content (.shared d)).card + 1
  else 0

/-- A cell reaches more cells than one that its content refers to, unless that one reaches
itself. -/
theorem reach_lt {schema : Schema} {store : Store} {c d : CellId}
    (h : Refers schema (store.cell c).content d) (hd : ¬ Loops schema store d) :
    reach schema store d < reach schema store c := by
  classical
  have hc : c < store.cells.length := by
    by_contra hc
    rw [Store.cell_of_le (Nat.le_of_not_lt hc)] at h
    exact not_refers_leaf h
  rw [reach, reach, if_pos hc]
  split
  · next hlt =>
    refine Nat.succ_lt_succ (Finset.card_lt_card (Finset.ssubset_iff_of_subset ?_ |>.mpr
      ⟨d, ?_, ?_⟩))
    · intro d' hd'
      rw [Finset.mem_filter] at hd' ⊢
      exact ⟨hd'.1, (h.reaches store).trans (.content hd'.2)⟩
    · exact Finset.mem_filter.mpr ⟨Finset.mem_range.mpr hlt, h.reaches store⟩
    · exact fun hmem => hd (Finset.mem_filter.mp hmem).2
  · exact Nat.succ_pos _

/-- **From a graph without cycles a run never meets one**, whatever the mappers write. -/
theorem result_ne_cycle (e : Engine) (schema : Schema) (rootType : Typ) {v : Value} {store : Store}
    (hheld : store.held = [])
    (hv : ∀ c, Below schema store v (.shared c) → ¬ Loops schema store c) (path typeName : String) :
    (e.validate schema rootType v store).result ≠ .error (.cycle path typeName) := by
  intro hresult
  by_cases hleaf : ∃ l, v = .leaf l
  · obtain ⟨l, rfl⟩ := hleaf
    cases hresult
  · have hroot : ∀ l, v ≠ .leaf l := not_exists.mp hleaf
    have hfree : ∀ c, store.isHeld c = false := fun c => by rw [Store.isHeld, hheld]; rfl
    have hranked : Ranked schema
        (fun c => Below schema store v (.shared c) ∨ store.cells.length ≤ c)
        (reach schema store) store := by
      refine ⟨fun c => .inr, fun c d hlive hd => ?_⟩
      obtain hc | hc := hlive
      · have hbelow : Below schema store v (.shared d) := hc.trans (.content (hd.reaches store))
        exact ⟨.inl hbelow, reach_lt hd (hv d hbelow)⟩
      · rw [Store.cell_of_le hc] at hd
        exact absurd hd not_refers_leaf
    have hunder : Under schema (fun c => Below schema store v (.shared c) ∨ store.cells.length ≤ c)
        (reach schema store) store v := fun d hd =>
      ⟨.inl (hd.reaches store), fun c hc => Bool.noConfusion ((hfree c).symm.trans hc)⟩
    have hholds : store.HoldsCells := fun c hc => Bool.noConfusion ((hfree c).symm.trans hc)
    have hstop : ∀ p t, (e.visitRoot schema v store).stop ≠ some (.cycle p t) :=
      Ranked.visit_ne_cycle ⟨store, e.cache, .empty⟩ hranked hholds hunder _ ""
    cases hs : (e.visitRoot schema v store).stop with
    | some err =>
      rw [e.result_of_stop schema rootType store hroot hs] at hresult
      rw [Except.error.inj hresult] at hs
      exact hstop path typeName hs
    | none =>
      rw [e.result_of_none schema rootType store hroot hs, Report.result] at hresult
      split at hresult <;> cases hresult

end FieldRules
