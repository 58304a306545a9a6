import FieldRules.Proofs.Agree
import FieldRules.Proofs.Descent

/-!
# Proofs/Cycle — cycles are reported where they are

A run that ends in a cycle ends at a cell that it went through before, on a route that is spelled by
the path it reports (`cycleAt_of_visit`).  If there is no cycle it reports none, and if there is
one, and rules have no mappers, it does not come to an end without an error (`cycles_exact`).
-/

namespace FieldRules

variable {ctx : Context}

/-! ## What a visit leaves of the store -/

/-- **A run releases what it holds, and makes cells only.** -/
theorem kept_store : Run.Kept ctx fun run run' => run'.store.held = run.store.held ∧
    run.store.cells.length ≤ run'.store.cells.length where
  refl := fun _ => ⟨rfl, Nat.le_refl _⟩
  trans := fun hab hbc => ⟨hbc.1.trans hab.1, hab.2.trans hbc.2⟩
  lookup := fun _ _ => ⟨rfl, Nat.le_refl _⟩
  apply := fun room rule v p run => by
    obtain ⟨_, _, h⟩ | ⟨_, h | ⟨_, w, s, hread, h⟩⟩ := apply_cases rule v p run
    · rw [h]
      exact ⟨rfl, Nat.le_refl _⟩
    · rw [h]
      exact ⟨rfl, Nat.le_refl _⟩
    · rw [h]
      exact ⟨(made_read hread).grown.held, (made_read hread).grown.length_le⟩
  cell := fun run run' c w _ h => by
    refine ⟨?_, h.2.trans_eq (Store.length_write _ c w).symm⟩
    have hheld : run'.store.held = c :: run.store.held := h.1
    rw [Store.release, Store.held_write, hheld, List.erase_cons_head]

/-- …also as a whole. -/
theorem Engine.kept_validate (e : Engine) (schema : Schema) (rootType : Typ) (v : Value)
    (s : Store) : (e.validate schema rootType v s).store.held = s.held ∧
      s.cells.length ≤ (e.validate schema rootType v s).store.cells.length := by
  by_cases hleaf : ∃ l, v = .leaf l
  · obtain ⟨l, rfl⟩ := hleaf
    exact ⟨rfl, Nat.le_refl _⟩
  · rw [(e.left_validate schema rootType s (not_exists.mp hleaf)).2]
    exact kept_store.visit _ v "" ⟨s, e.cache, .empty⟩

/-! ## The steps of a site -/

/-- The steps that an engine's plans give to a site.  A field has the name of the field at the same
place of a type with the same identity. -/
inductive Context.Spells (ctx : Context) : Site → List Step → Prop
  | plain {site : Site} (h : ∀ name i d, site ≠ .field name i d) :
      ctx.Spells site (site.steps ctx.settings.displayNames)
  | field {name m : String} {i : Nat} {d d' : FieldDecl}
      (hid : (ctx.schema.record m).identity = (ctx.schema.record name).identity)
      (hd : (ctx.schema.decls m)[i]? = some d') :
      ctx.Spells (.field name i d) [.segment (d'.segment ctx.settings.displayNames)]

/-- The declaration at the site of a field is that of the record type at the index. -/
theorem decl_of_mem_parts {schema : Schema} {store : Store} {v : Value} {p : Part}
    (hp : p ∈ v.parts schema store) {name : String} {i : Nat} {d : FieldDecl}
    (hsite : p.site = .field name i d) : (schema.decls name)[i]? = some d := by
  obtain ⟨slots, rfl⟩ := Value.owner_of_mem_parts hp hsite
  obtain ⟨⟨⟨f, w⟩, j⟩, hq, rfl⟩ := List.mem_map.mp hp
  cases hsite
  have hf := (List.getElem?_zip_eq_some.mp (List.mem_zipIdx_iff_getElem?.mp hq)).1
  rw [Schema.decls, List.getElem?_map, hf]
  rfl

theorem spells_of_mem_parts {store : Store} {v : Value} {p : Part}
    (hp : p ∈ v.parts ctx.schema store) :
    ctx.Spells p.site (p.site.steps ctx.settings.displayNames) := by
  cases hsite : p.site with
  | field name i d =>
    rw [Site.steps_field]
    exact .field rfl (decl_of_mem_parts hp hsite)
  | _ => exact .plain nofun

theorem spells_of_route {store : Store} {v w : Value} {sites : List Site} {cells : List CellId}
    (h : Route ctx.schema store v sites cells w) :
    List.Forall₂ ctx.Spells sites (sites.map (Site.steps ctx.settings.displayNames)) := by
  induction h with
  | here v => exact .nil
  | down hp _ ih => exact .cons (spells_of_mem_parts hp) ih

/-- The steps of a task are steps of its site. -/
theorem Task.Of.spells {types : String → Prop} {path : String} {cache : PlanCache} {p : Part}
    {t : Task} (h : Task.Of ctx path cache p t) (hcache : cache.Comes ctx types)
    (hp : ∀ name i d, p.site = .field name i d → types name) : ctx.Spells p.site (t.steps ctx) := by
  cases h with
  | plain hsite => exact .plain hsite
  | @field name i d w plan f typ hplan hf hd =>
    obtain ⟨m, _, hid, hm⟩ := hcache.of_lookup (hp name i d rfl) hplan
    have hi : i < (ctx.schema.decls m).length := by
      rw [(forall₂_plan hm).length_eq]
      exact (List.getElem?_eq_some_iff.mp hf).1
    have hd' : (ctx.schema.decls m)[i]? = some (ctx.schema.decls m)[i] :=
      List.getElem?_eq_getElem hi
    rw [Slot.steps_task, segment_of_compileField (compileField_of_plan hm hd' hf)]
    exact .field hid hd'

/-! ## Where a cycle is found -/

/-- A route in a store to a cell that was held or that the route went through, with the path and the
type of the cell.  No cell that the route goes through was held. -/
def CycleAt (ctx : Context) (before : Store) (v : Value) (after : Store)
    (path p typeName : String) : Prop :=
  ∃ sites cells c steps, Route ctx.schema after v sites cells (.shared c) ∧
    (∀ d ∈ cells, before.isHeld d = false) ∧ (before.isHeld c = true ∨ c ∈ cells) ∧
    List.Forall₂ ctx.Spells sites steps ∧ p = Path.spellFrom path steps.flatten ∧
    typeName = (after.cell c).typ.typeName ctx.schema

variable {before after : Store} {v : Value} {path p typeName : String}

theorem cycleAt_of_guard {room : Nat}
    (h : guard ctx room before v path = .error (.cycle p typeName)) :
    CycleAt ctx before v before path p typeName := by
  obtain ⟨sites, cells, w, hroute, hfree, ⟨c, rfl, hc, he⟩ | ⟨_, he⟩⟩ := exists_route_of_guard h
  · cases he
    exact ⟨sites, cells, c, _, hroute, hfree, hc, spells_of_route hroute, by
      rw [Context.steps, List.flatMap_def], rfl⟩
  · cases he

/-- A cycle below a part is one below the value. -/
theorem CycleAt.part {q : Part} {steps : List Step} (hv : v.entered = [])
    (hq : q ∈ v.parts ctx.schema after) (hsteps : ctx.Spells q.site steps)
    (h : CycleAt ctx before q.value after (Path.spellFrom path steps) p typeName) :
    CycleAt ctx before v after path p typeName := by
  obtain ⟨sites, cells, c, rest, hroute, hfree, hc, hrest, hp, ht⟩ := h
  refine ⟨q.site :: sites, cells, c, steps :: rest, ?_, hfree, hc, .cons hsteps hrest, ?_, ht⟩
  · have := Route.down hq hroute
    rwa [hv, List.nil_append] at this
  · rw [hp, List.flatten_cons, Path.spellFrom_append]

/-- A cycle inside a cell is one below the cell, once its content is put back. -/
theorem CycleAt.cell {c : CellId} {w : Value}
    (hfree : before.isHeld c = false) (hc : c < after.cells.length)
    (h : CycleAt ctx (before.hold c) w after path p typeName) :
    CycleAt ctx before (.shared c) ((after.write c w).release c) path p typeName := by
  obtain ⟨sites, cells, d, steps, hroute, hcells, hd, hsteps, hp, ht⟩ := h
  simp only [Store.isHeld_hold, Bool.or_eq_false_iff, decide_eq_false_iff_not] at hcells
  rw [Store.isHeld_hold, Bool.or_eq_true, decide_eq_true_eq] at hd
  have hcontent : (((after.write c w).release c).cell c).content = w := Store.content_write hc w
  -- The route does not go through the cell, so it is there after the write.
  have hroute' : Route ctx.schema ((after.write c w).release c)
      (((after.write c w).release c).cell c).content sites cells (.shared d) := by
    rw [hcontent]
    exact hroute.congr fun d' hd' =>
      (congrArg Cell.content (Store.cell_write_of_ne (hcells d' hd').2 after w)).symm
  refine ⟨.inner :: sites, c :: cells, d, [] :: steps, ?_, ?_, ?_, ?_, ?_, ?_⟩
  · exact .down (p := ⟨.inner, (((after.write c w).release c).cell c).content⟩)
      (List.mem_singleton_self _) hroute'
  · exact List.forall_mem_cons.mpr ⟨hfree, fun d' hd' => (hcells d' hd').1⟩
  · rw [List.mem_cons]
    tauto
  · exact .cons (.plain nofun) hsteps
  · rw [hp]
    rfl
  · rw [ht]
    exact congrArg (Typ.typeName ctx.schema) (after.typ_write c d w).symm

/-- All visits that end in a cycle end where one is. -/
def FindsCycles (ctx : Context) (room : Nat) : Prop :=
  ∀ (v : Value) (path : String) (run : Run) (p typeName : String),
    run.cache.Comes ctx (fun _ => True) →
    (visit ctx room v path run).stop = some (.cycle p typeName) →
    CycleAt ctx run.store (visit ctx room v path run).value (visit ctx room v path run).run.store
      path p typeName

/-- What the cells held before are does not depend on the contents. -/
theorem CycleAt.of_held {before' : Store} (hheld : before'.held = before.held)
    (h : CycleAt ctx before v after path p typeName) :
    CycleAt ctx before' v after path p typeName := by
  simpa only [CycleAt, Store.isHeld, hheld] using h

theorem Task.cycleAt {room : Nat} (hvisit : FindsCycles ctx room) {t : Task} {run : Run}
    (hcache : run.cache.Comes ctx fun _ => True)
    (hrule : ∀ rule place, t.rule? = some (rule, place) →
      place.path = Path.spellFrom path (t.steps ctx))
    (h : (t.visit ctx room path run).stop = some (.cycle p typeName)) :
    CycleAt ctx run.store (t.visit ctx room path run).value (t.visit ctx room path run).run.store
      (Path.spellFrom path (t.steps ctx)) p typeName := by
  rw [Task.visit] at h ⊢
  cases hr : t.rule? with
  | none =>
    simp only [hr] at h ⊢
    exact hvisit _ _ run _ _ hcache h
  | some rp =>
    obtain ⟨rule, place⟩ := rp
    simp only [hr] at h ⊢
    obtain ⟨e, hi, happly⟩ | ⟨report, happly | ⟨mapped, w, s, hread, happly⟩⟩ :=
      apply_cases rule t.value place run
    · rw [happly] at h ⊢
      cases h
      rw [← hrule rule place hr]
      exact cycleAt_of_guard (guard_of_inspect_cycle hi)
    · rw [happly] at h ⊢
      exact hvisit _ _ { run with report := report } _ _ hcache h
    · rw [happly] at h ⊢
      exact (hvisit w _ ⟨s, run.cache, report⟩ _ _ hcache h).of_held
        (made_read hread).grown.held.symm

/-- A cycle among tasks is one at a part. -/
theorem exists_of_visitTasks_cycle {room : Nat} (hvisit : FindsCycles ctx room)
    {cache : PlanCache} :
    ∀ {qs : List Part} {ts : List Task}, List.Forall₂ (Task.Of ctx path cache) qs ts →
      cache.Comes ctx (fun _ => True) → ∀ {run : Run}, run.cache.Comes ctx (fun _ => True) →
      (visitTasks ctx room path ts run).stop = some (.cycle p typeName) →
      ∃ (i : Nat) (q : Part) (w : Value) (steps : List Step), qs[i]? = some q ∧
        (visitTasks ctx room path ts run).value[i]? = some w ∧ ctx.Spells q.site steps ∧
        CycleAt ctx run.store w (visitTasks ctx room path ts run).run.store
          (Path.spellFrom path steps) p typeName
  | _, _, .nil, _, _, _, h => by cases h
  | q :: qs, t :: ts, .cons hof hrest, hcache, run, hrun, h => by
    cases hstop : (t.visit ctx room path run).stop with
    | some e =>
      rw [visitTasks_cons_stop hstop] at h ⊢
      cases h
      exact ⟨0, q, _, t.steps ctx, rfl, rfl, hof.spells hcache fun _ _ _ _ => trivial,
        Task.cycleAt hvisit hrun (fun _ _ => hof.rule_path) hstop⟩
    | none =>
      rw [visitTasks_cons hstop] at h ⊢
      have hknown : (t.visit ctx room path run).run.cache.Comes ctx (fun _ => True) :=
        (kept_cache fun _ _ hc => hc.lookup trivial).task room path t run hrun
      obtain ⟨i, q', w, steps, hq, hw, hsteps, hc⟩ :=
        exists_of_visitTasks_cycle hvisit hrest hcache hknown h
      exact ⟨i + 1, q', w, steps, hq, hw, hsteps,
        hc.of_held (kept_store.task room path t run).1.symm⟩

/-- A cycle below a part is one below the value that the parts are put back into. -/
theorem CycleAt.refill {q : Part} {w : Value} {ws : List Value} {i : Nat} {steps : List Step}
    (hv : v.entered = []) (hlen : ws.length = (v.parts ctx.schema before).length)
    (hq : (v.parts ctx.schema before)[i]? = some q) (hw : ws[i]? = some w)
    (hsteps : ctx.Spells q.site steps)
    (h : CycleAt ctx before w after (Path.spellFrom path steps) p typeName) :
    CycleAt ctx before (v.refill ws) after path p typeName := by
  rw [Value.parts_of_entered hv before after] at hlen hq
  have hmem : ⟨q.site, w⟩ ∈ (v.refill ws).parts ctx.schema after := by
    refine List.mem_of_getElem? (i := i) ?_
    rw [Value.parts_refill hv hlen, List.getElem?_zipWith, hq, hw]
  exact CycleAt.part ((v.entered_refill ws).trans hv) hmem hsteps h

/-- A visit does not end in a cycle at a cell that was never made. -/
theorem lt_of_visit_cycle {room : Nat} {c : CellId} {run : Run}
    (hfree : run.store.isHeld c = false)
    (h : (visit ctx (room + 1) (.shared c) path run).stop = some (.cycle p typeName)) :
    c < run.store.cells.length := by
  by_contra hge
  obtain ⟨stop, hne, hleaf⟩ : ∃ stop, (∀ p t, stop ≠ some (.cycle p t)) ∧
      visit ctx (room + 1) (.shared c) path run = ⟨.shared c, run, stop⟩ :=
    exists_visit_of_le room (Nat.le_of_not_lt hge) hfree path
  rw [hleaf] at h
  exact hne p typeName h

/-- **A visit that ends in a cycle ends at one.** -/
theorem cycleAt_of_visit (room : Nat) : FindsCycles ctx room := by
  induction room with
  | zero =>
    intro v path run p typeName _ h
    cases h
  | succ room ih =>
    intro v path run p typeName hcache h
    cases hopen : v.opening ctx path run with | mk run' opened
    cases opened with
    | error e =>
      have hrun := (of_opening_error hopen).1
      rw [visit_of_opening_error hopen] at h ⊢
      obtain rfl := Option.some.inj h
      obtain ⟨c, rfl, hc, he⟩ | ⟨_, _, he⟩ | ⟨_, _, he⟩ := error_of_opening hopen
      · cases he
        exact ⟨[], [], c, [], .here _, nofun, .inl hc, .nil, rfl, hrun ▸ rfl⟩
      · cases he
      · cases he
    | ok tasks =>
      obtain ⟨hrun, hfree, hparts⟩ := of_opening hopen
      have hstore : run'.store = v.heldIn run.store := congrArg Run.store hrun
      have hknown : run'.cache.Comes ctx (fun _ => True) :=
        hrun ▸ v.found_known (fun name _ _ => hcache.lookup trivial) hcache
      have hlen : (visitTasks ctx room path tasks run').value.length
          = (v.parts ctx.schema run.store).length :=
        (length_visitTasks tasks run').trans hparts.length_eq.symm
      have hvisit : visit ctx (room + 1) v path run = _ := visit_of_opening hopen
      have hstop : (visitTasks ctx room path tasks run').stop = some (.cycle p typeName) := by
        rwa [hvisit] at h
      obtain ⟨i, q, w, steps, hq, hw, hsteps, hc⟩ :=
        exists_of_visitTasks_cycle ih hparts hcache hknown hstop
      rw [hstore] at hc
      cases v with
      | shared c =>
        have hc' := Value.not_barred_iff.mp hfree c rfl
        have hlt : c < run.store.cells.length := lt_of_visit_cycle hc' h
        have hgrow : run'.store.cells.length
            ≤ (visitTasks ctx room path tasks run').run.store.cells.length :=
          (kept_store.tasks room path tasks run').2
        obtain ⟨w', hw'⟩ : ∃ w', (visitTasks ctx room path tasks run').value = [w'] :=
          exists_of_shared hparts
        rw [hw'] at hw
        rw [hstore] at hgrow
        -- The only part is the content, which adds nothing to the path.
        obtain ⟨hi, hq⟩ := List.getElem?_eq_some_iff.mp hq
        obtain rfl : i = 0 := Nat.lt_one_iff.mp hi
        obtain rfl := hq
        obtain rfl := Option.some.inj hw
        cases hsteps
        rw [hvisit, hw']
        exact hc.cell hc' (hlt.trans_le hgrow)
      | _ =>
        rw [hvisit]
        exact hc.refill rfl hlen hq hw hsteps

/-! ## Where there is a cycle -/

/-- A record of a declared type that has a plan, and that exposes as many slots as every type of its
identity with a plan declares fields. -/
structure Fits (ctx : Context) (name : String) (slots : List Value) : Prop where
  declared : ctx.schema.Declares name
  planned : ∃ plan, ctx.plan name = .ok plan
  exposes : ∀ m plan, ctx.schema.Declares m →
    (ctx.schema.record m).identity = (ctx.schema.record name).identity → ctx.plan m = .ok plan →
      (slots.take (ctx.schema.record name).exposed).length = (ctx.schema.decls m).length

theorem Fits.exposes_self {name : String} {slots : List Value} (h : Fits ctx name slots) :
    ctx.schema.Exposes name slots := by
  obtain ⟨plan, hplan⟩ := h.planned
  have hlen := h.exposes name plan h.declared rfl hplan
  rwa [Schema.decls, List.length_map] at hlen

/-- Fitting records without mappers are served, if not by plans of their own. -/
theorem Fits.serves {name : String} {slots : List Value} (h : Fits ctx name slots)
    (hun : ∀ m, ctx.schema.Declares m → ∀ d ∈ ctx.schema.decls m, d.Unmapped) :
    Serves ctx (PlanCache.Comes ctx ctx.schema.Declares) False name := by
  have hlen : ∀ m plan, ctx.schema.Declares m →
      (ctx.schema.record m).identity = (ctx.schema.record name).identity →
      ctx.plan m = .ok plan →
      plan.fields.length = (ctx.schema.record name).fields.length := by
    intro m plan hm hid hplan
    rw [← (forall₂_plan hplan).length_eq, ← h.exposes m plan hm hid hplan, h.exposes_self]
  refine ⟨.of_comes h.declared hun, fun cache hcache => ?_⟩
  cases hlook : (ctx.lookup cache name).result with
  | error e =>
    obtain ⟨plan, hplan⟩ := h.planned
    cases hplan.symm.trans (plan_of_lookup_error hlook)
  | ok plan =>
    obtain ⟨m, hm, hid, hmplan⟩ := hcache.of_lookup h.declared hlook
    exact ⟨plan, rfl, hlen m plan hm hid hmplan, False.elim⟩

/-- A guard does not go past a cell that can be reached from itself. -/
theorem guard_ne_ok_of_loops {room : Nat} {store : Store} {v : Value} {path : String} {c : CellId}
    (hc : Below ctx.schema store v (.shared c)) (hloop : Loops ctx.schema store c) :
    guard ctx room store v path ≠ .ok () := by
  intro h
  obtain ⟨sites, cells, hdown⟩ := hc
  obtain ⟨sites', cells', hround⟩ := hloop
  have hin : Route ctx.schema store (.shared c) (.inner :: sites') ([c] ++ cells') (.shared c) :=
    .down (p := ⟨.inner, (store.cell c).content⟩) (List.mem_singleton_self _) hround
  exact ((guard_eq_ok_iff.mp h _ _ _ (hdown.append hin)).2 c rfl).2 (by simp)

/-- A run over a value in which a cell can be reached from itself ends at a node. -/
theorem exists_error_of_loops {e : Engine} {schema : Schema} {v : Value} {store : Store}
    (hcache : e.cache.Comes (e.context schema) schema.Declares)
    (hun : ∀ m, schema.Declares m → ∀ d ∈ schema.decls m, d.Unmapped)
    (hfits : ∀ name slots, Below schema store v (.record name slots) →
      Fits (e.context schema) name slots)
    (hleaf : ∀ l, Below schema store v (.leaf l) → ∃ form, l.snapshot = .ok form)
    {c : CellId} (hc : Below schema store v (.shared c)) (hloop : Loops schema store c)
    (rootType : Typ) :
    ∃ err, (e.validate schema rootType v store).result = .error err ∧ err.EndsWalk := by
  have hexposes : ∀ name slots, Below schema store v (.record name slots) →
      schema.Exposes name slots := fun name slots hb => (hfits name slots hb).exposes_self
  have hread : Readable schema store v := ⟨hleaf, hexposes⟩
  have hquiet : Quiet (e.context schema)
      (PlanCache.Comes (e.context schema) schema.Declares) False store v := fun name slots hb =>
    ⟨(hfits name slots hb).serves hun, hexposes name slots hb,
      fun p hp _ => (hread.below hb).part hp⟩
  have hagree : Agrees False (guard (e.context schema) (e.context schema).room store v "")
      (e.visitRoot schema v store).stop := visit_agrees ⟨store, e.cache, .empty⟩ hquiet hcache
  have hroot : ∀ l, v ≠ .leaf l := by
    rintro l rfl
    obtain ⟨_, _, hroute⟩ := hc
    cases hroute with
    | down hp => cases hp
  cases hg : guard (e.context schema) (e.context schema).room store v "" with
  | ok u => exact absurd hg (guard_ne_ok_of_loops hc hloop)
  | error e' =>
    rw [hg] at hagree
    cases hstop : (e.visitRoot schema v store).stop with
    | none =>
      rw [hstop] at hagree
      cases hagree
    | some err =>
      rw [hstop] at hagree
      cases hagree with
      | stopped _ hends _ => exact ⟨err, e.result_of_stop schema rootType store hroot hstop, hends⟩

/-! ## Cycles are found exactly -/

/-- In what a run leaves, a route from the root whose steps spell a path leads to a cell with
content of a type, and went through that cell before. -/
def Engine.Validation.AtCycle (after : Engine.Validation) (ctx : Context)
    (path typeName : String) : Prop :=
  ∃ sites cells c steps, Route ctx.schema after.store after.value sites cells (.shared c) ∧
    c ∈ cells ∧ List.Forall₂ ctx.Spells sites steps ∧ path = Path.spell steps.flatten ∧
    typeName = (after.store.cell c).typ.typeName ctx.schema

/-- A run that ends in a cycle ends at one, in the value and the store that it leaves. -/
theorem cycleAt_of_result {e : Engine} {schema : Schema} {rootType : Typ} {v : Value}
    {store : Store} (hcache : e.cache.Comes (e.context schema) fun _ => True)
    {path typeName : String}
    (h : (e.validate schema rootType v store).result = .error (.cycle path typeName)) :
    CycleAt (e.context schema) store (e.validate schema rootType v store).value
      (e.validate schema rootType v store).store "" path typeName := by
  by_cases hleaf : ∃ l, v = .leaf l
  · obtain ⟨l, rfl⟩ := hleaf
    cases h
  · have hroot : ∀ l, v ≠ .leaf l := not_exists.mp hleaf
    have hstop : (e.visitRoot schema v store).stop = some (.cycle path typeName) := by
      cases hs : (e.visitRoot schema v store).stop with
      | some err =>
        rw [e.result_of_stop schema rootType store hroot hs] at h
        rw [Except.error.inj h]
      | none =>
        rw [e.result_of_none schema rootType store hroot hs, Report.result] at h
        split at h <;> cases h
    obtain ⟨hvalue, hstore⟩ := e.left_validate schema rootType store hroot
    rw [hvalue, hstore]
    exact cycleAt_of_visit _ v "" _ path typeName hcache hstop

/-- …where the run went through the cell before, if none was held. -/
theorem atCycle_of_result {e : Engine} {schema : Schema} {rootType : Typ} {v : Value}
    {store : Store} (hcache : e.cache.Comes (e.context schema) fun _ => True)
    (hheld : store.held = []) {path typeName : String}
    (h : (e.validate schema rootType v store).result = .error (.cycle path typeName)) :
    (e.validate schema rootType v store).AtCycle (e.context schema) path typeName := by
  obtain ⟨sites, cells, c, steps, hroute, _, hc, hsteps, hpath, htype⟩ :=
    cycleAt_of_result hcache h
  have hfree : store.isHeld c = false := by rw [Store.isHeld, hheld]; rfl
  exact ⟨sites, cells, c, steps, hroute,
    hc.resolve_left fun h => Bool.noConfusion (hfree.symm.trans h), hsteps, hpath, htype⟩

/-- **Cycles are found exactly.**  If a run over a store with nothing held ends in a cycle, it
stands at a cell that is its own ancestor, where its path says.  No run from a graph without cycles
ends in a cycle, whatever the mappers write.  And without mappers, a run over records that fit and
leaves that are readable does not get past a cell that can be reached from itself. -/
theorem cycles_exact (registry : Registry) (settings : Settings) (schema : Schema) :
    (∀ (calls : List Call) (rootType : Typ) (v : Value) (store : Store) (path typeName : String),
      store.held = [] →
      (((Engine.new registry settings).after schema calls).validate schema rootType v store).result
        = .error (.cycle path typeName) →
      (((Engine.new registry settings).after schema calls).validate schema rootType v store).AtCycle
        ((Engine.new registry settings).context schema) path typeName) ∧
    (∀ (e : Engine) (rootType : Typ) (v : Value) (store : Store), store.held = [] →
      (∀ c, Below schema store v (.shared c) → ¬ Loops schema store c) →
      ∀ path typeName, (e.validate schema rootType v store).result
        ≠ .error (.cycle path typeName)) ∧
    ∀ (calls : List Call) (rootType : Typ) (v : Value) (store : Store) (c : CellId),
      (∀ call ∈ calls, call.Declared schema) →
      (∀ name, schema.Declares name → ∀ d ∈ schema.decls name, d.Unmapped) →
      (∀ name slots, Below schema store v (.record name slots) →
        Fits ((Engine.new registry settings).context schema) name slots) →
      (∀ l, Below schema store v (.leaf l) → ∃ form, l.snapshot = .ok form) →
      Below schema store v (.shared c) → Loops schema store c →
      ∃ err, (((Engine.new registry settings).after schema calls).validate schema rootType v
        store).result = .error err ∧ err.EndsWalk := by
  refine ⟨?_, fun e rootType v store => result_ne_cycle e schema rootType, ?_⟩
  · intro calls rootType v store path typeName hheld h
    obtain ⟨hctx, hcache⟩ := comes_after registry settings schema calls
    rw [← hctx] at hcache ⊢
    exact atCycle_of_result hcache hheld h
  · intro calls rootType v store c hcalls hun hfits hleaf hc hloop
    obtain ⟨hctx, hcache⟩ := comes_after_declared registry settings hcalls hun
    rw [← hctx] at hcache hfits
    exact exists_error_of_loops hcache hun hfits hleaf hc hloop rootType

/-! ### A node that refers to itself -/

/-- One record type, with a reference to a node that may be annotated. -/
def ringSchema (tag : Option String) : Schema :=
  ⟨[("Node", ⟨"Node", "Node", "Node",
    [⟨⟨"next", tag, none⟩, "next", .shared (.record "Node")⟩], 1⟩)]⟩

def ringNode : Value := .record "Node" [.shared 0]

def ringStore : Store := ⟨[⟨.record "Node", ringNode⟩], []⟩

/-- One validator, which has nothing to say. -/
def ringRegistry : Registry := ⟨[], [("any", fun _ => .ok fun _ _ => none)]⟩

/-- Everything below the node is the node itself or a reference to it. -/
theorem below_ringNode {tag : Option String} {w : Value}
    (h : Below (ringSchema tag) ringStore ringNode w) : w = ringNode ∨ w = .shared 0 := by
  refine h.of_closed (P := fun w => w = ringNode ∨ w = .shared 0) ?_ (.inl rfl)
  rintro _ (rfl | rfl) p hp
  · obtain rfl := List.mem_singleton.mp hp
    exact .inr rfl
  · obtain rfl := List.mem_singleton.mp hp
    exact .inl rfl

theorem record_ringNode {tag : Option String} {name : String} {slots : List Value}
    (h : Below (ringSchema tag) ringStore ringNode (.record name slots)) :
    name = "Node" ∧ slots = [.shared 0] := by
  obtain h | h := below_ringNode h
  · cases h
    exact ⟨rfl, rfl⟩
  · cases h

theorem not_leaf_ringNode {tag : Option String} {l : Leaf} :
    ¬ Below (ringSchema tag) ringStore ringNode (.leaf l) := by
  intro h
  obtain h | h := below_ringNode h <;> cases h

theorem unmapped_ringNode {tag : Option String} (htag : tag = none ∨ tag = some "any") :
    ∀ d ∈ (ringSchema tag).decls "Node", d.Unmapped := by
  intro d hd text t ht hparse
  obtain rfl := List.mem_singleton.mp hd
  obtain rfl | rfl := htag
  · cases ht
  · cases ht
    obtain rfl := Except.ok.inj hparse
    rfl

theorem eq_of_declares_ring {tag : Option String} {name : String}
    (h : (ringSchema tag).Declares name) : name = "Node" := by
  obtain ⟨r, hr⟩ := h
  by_contra hne
  rw [ringSchema, List.lookup_cons, beq_false_of_ne hne] at hr
  cases hr

theorem fits_ringNode {tag : Option String} (htag : tag = none ∨ tag = some "any") :
    Fits ((Engine.new ringRegistry .initial).context (ringSchema tag)) "Node" [.shared 0] := by
  refine ⟨⟨_, rfl⟩, ?_, fun m plan hm _ _ => ?_⟩
  · obtain rfl | rfl := htag
    · exact ⟨_, rfl⟩
    · exact ⟨_, rfl⟩
  · obtain rfl := eq_of_declares_ring hm
    rfl

/-- A cell with a leaf in it that is referred to twice reaches nothing. -/
theorem not_loops_leaf {schema : Schema} {t : Typ} {l : Leaf} {c : CellId} :
    ¬ Loops schema ⟨[⟨t, .leaf l⟩], []⟩ c := by
  intro h
  have hleaf : ∃ l', (Store.cell ⟨[⟨t, .leaf l⟩], []⟩ c).content = .leaf l' := by
    cases c with
    | zero => exact ⟨l, rfl⟩
    | succ c => exact ⟨.unit, rfl⟩
  obtain ⟨l', hl'⟩ := hleaf
  rw [Loops, hl'] at h
  cases h.eq_of_leaf

/-- The node is found to be a cycle, also by the last part; two references to a leaf are none. -/
theorem cycles_exact_ringNode :
    ((Engine.new ringRegistry .initial).validate (ringSchema (some "any")) (.record "Node")
        ringNode ringStore).AtCycle
          ((Engine.new ringRegistry .initial).context (ringSchema (some "any")))
          "next.next" "Node" ∧
      (∀ path typeName, ((Engine.new ringRegistry .initial).validate (ringSchema (some "any"))
        (.seq .vector (.shared (.scalar .unit))) (.sequence [.shared 0, .shared 0])
        ⟨[⟨.scalar .unit, .leaf .unit⟩], []⟩).result ≠ .error (.cycle path typeName)) ∧
      ∃ err, ((Engine.new ringRegistry .initial).validate (ringSchema (some "any"))
        (.record "Node") ringNode ringStore).result = .error err ∧ err.EndsWalk := by
  have hcycles := cycles_exact ringRegistry .initial (ringSchema (some "any"))
  refine ⟨hcycles.1 [] (.record "Node") ringNode ringStore "next.next" "Node" rfl rfl,
    hcycles.2.1 _ _ _ _ rfl fun c _ => not_loops_leaf,
    hcycles.2.2 [] (.record "Node") ringNode ringStore 0 nofun (fun name hname => ?_)
      (fun name slots hb => ?_) (fun l hb => absurd hb not_leaf_ringNode) ?_ ?_⟩
  · obtain rfl := eq_of_declares_ring hname
    exact unmapped_ringNode (.inr rfl)
  · obtain ⟨rfl, rfl⟩ := record_ringNode hb
    exact fits_ringNode (.inr rfl)
  · exact .part (List.mem_singleton_self _) (.refl _)
  · exact .part (List.mem_singleton_self _) (.refl _)

end FieldRules
