import FieldRules.Proofs.Positions
import FieldRules.Proofs.Snapshot

/-!
# Proofs/Issues — all issues of a value, in document order

Without mappers, a run that is not stopped says at every annotated field what its validators say of
the field as it was at the start, and nothing else (`visit_issues`).  So the issues of a whole run
are those of the annotated fields in document order (`issues_complete`).
-/

namespace FieldRules

/-! ## What is said at a position -/

/-- The validators that an annotation names, in order. -/
def FieldDecl.validators (registry : Registry) (d : FieldDecl) :
    Except RuleError (List Validator) :=
  match d.tag with
  | none => .ok []
  | some text => do
    let tag ← Tag.parse text
    tag.validators.mapM fun t => registry.validator t.name t.args

/-- The messages of some validators, in order, without the empty ones. -/
def messagesOf (validators : List Validator) (form : Json) (hint : Hint) : List String :=
  (validators.filterMap fun validator => validator form hint).filter (!·.isEmpty)

/-- What the validators of the field at a position say of its snapshot, under the path that the
sites spell below another path. -/
def Position.Says (ctx : Context) (store : Store) (path : String) (q : Position)
    (issues : List Issue) : Prop :=
  ∃ name i d validators form hint, q.sites.getLast? = some (.field name i d) ∧
    d.validators ctx.registry = .ok validators ∧
    q.value.snapshot ctx.schema store = .ok form ∧
    zeroHint ctx store q.value (Path.spellFrom path (ctx.steps q.sites)) = .ok hint ∧
    issues = (messagesOf validators form hint).map
      fun m => ⟨m, Path.spellFrom path (ctx.steps q.sites), form⟩

variable {ctx : Context} {Known : PlanCache → Prop} {store : Store} {path : String}

theorem Position.Says.under {site : Site} {q : Position} {issues : List Issue}
    (h : q.Says ctx store (ctx.sitePath path site) issues) :
    (q.under site).Says ctx store path issues := by
  obtain ⟨name, i, d, validators, form, hint, hlast, hvalidators, hform, hhint, rfl⟩ := h
  rw [← Context.spellFrom_cons] at hhint
  refine ⟨name, i, d, validators, form, hint, ?_, hvalidators, hform, hhint, ?_⟩
  · rw [Position.under, List.getLast?_cons, hlast]
    rfl
  · rw [← Context.spellFrom_cons]
    rfl

/-- No message that is said is empty. -/
theorem Position.Says.message_ne {q : Position} {issues : List Issue}
    (h : q.Says ctx store path issues) : ∀ issue ∈ issues, issue.message ≠ "" := by
  obtain ⟨name, i, d, validators, form, hint, _, _, _, _, rfl⟩ := h
  intro issue hissue
  obtain ⟨m, hm, rfl⟩ := List.mem_map.mp hissue
  have hne := (List.mem_filter.mp hm).2
  rintro rfl
  cases hne

/-! ## Rules and validators -/

theorem mapM_of_resolve {α : Type} {generate : String → List String → Except RuleError α} :
    ∀ {ts : List Token} {l : List (String × α)}, Rule.resolve generate ts = .ok l →
      (ts.mapM fun t => generate t.name t.args) = .ok (l.map Prod.snd)
  | [], l, h => by
    obtain rfl := Except.ok.inj h
    rfl
  | t :: ts, l, h => by
    obtain ⟨a, ha, h⟩ := bind_eq_ok.mp h
    obtain ⟨rest, hrest, h⟩ := bind_eq_ok.mp h
    obtain rfl := Except.ok.inj h
    rw [List.mapM_cons, ha, mapM_of_resolve hrest]
    rfl

/-- The rule of a field has the validators of its annotation. -/
theorem validators_of_compileField {registry : Registry} {owner : String} {d : FieldDecl}
    {f : PlannedField} (h : Plan.compileField registry owner d = .ok f) :
    d.validators registry = .ok (f.rule.validators.map Prod.snd) := by
  obtain ⟨_, _, ⟨htag, hrule⟩ | ⟨text, htag, hrule⟩⟩ := of_compileField h
  · rw [FieldDecl.validators, htag, hrule]
    rfl
  · obtain ⟨tag, hparse, hrule⟩ := bind_eq_ok.mp hrule
    obtain ⟨mappers, _, hrule⟩ := bind_eq_ok.mp hrule
    obtain ⟨validators, hvalidators, hrule⟩ := bind_eq_ok.mp hrule
    rw [FieldDecl.validators, htag, ← Except.ok.inj hrule]
    exact bind_eq_ok.mpr ⟨tag, hparse, mapM_of_resolve hvalidators⟩

theorem check_eq_messagesOf (rule : Rule) (form : Json) (hint : Hint) :
    rule.check form hint = messagesOf (rule.validators.map Prod.snd) form hint := by
  rw [Rule.check, messagesOf, List.filterMap_map]
  rfl

/-- A rule without mappers and validators says nothing. -/
theorem check_of_isEmpty {rule : Rule} (h : rule.isEmpty = true) (form : Json) (hint : Hint) :
    rule.check form hint = [] := by
  rw [Rule.isEmpty, Bool.and_eq_true, List.isEmpty_iff, List.isEmpty_iff] at h
  rw [Rule.check, h.2]
  rfl

/-! ## One task -/

theorem Store.Sees.heldIn {st s : Store} {hops : Nat} (h : st.Sees s hops) (v : Value) :
    (v.heldIn st).Sees s ((v.heldIn st).cells.length + 1) :=
  ⟨h.cells.trans (v.cells_heldIn st).symm,
    fun c hc => by rw [Value.isHeld_heldIn, h.held c hc, Bool.true_or],
    Nat.lt_succ_of_le (v.heldIn st).free_le⟩

theorem own_eq_nil {p : Part} (h : ¬ p.site.Annotated) : p.own = [] := if_neg h

theorem own_eq_singleton {p : Part} (h : p.site.Annotated) : p.own = [⟨[p.site], p.value⟩] :=
  if_pos h

/-- A slot that is inspected says what its validators say, and is visited. -/
theorem visit_task_of_inspect {room : Nat} {owner here : String} {slot : Slot} {run : Run}
    {hint : Hint} {form : Json}
    (hhere : Path.join path (slot.planned.segment ctx.settings.displayNames) = here)
    (hmappers : slot.planned.rule.mappers = [])
    (hi : slot.planned.rule.isEmpty = false → inspect ctx room run.store slot.value
      ⟨owner, slot.planned.name, slot.typ, here⟩ = .ok (hint, form)) :
    (slot.task ctx owner path).visit ctx room path run = visit ctx room slot.value here
      (run.addIssues ((slot.planned.rule.check form hint).map fun m => ⟨m, here, form⟩)) := by
  subst hhere
  rw [Task.visit, Slot.task]
  cases hempty : slot.planned.rule.isEmpty with
  | true =>
    rw [check_of_isEmpty hempty, List.map_nil, Run.addIssues, List.append_nil]
    rfl
  | false =>
    simp only [Bool.false_eq_true, if_false, apply_unmapped hmappers, hi hempty]
    rfl

/-- A task of a part without an annotation only visits it: there is no rule. -/
theorem Task.Of.visit_of_not_annotated {room : Nat} {cache : PlanCache} {p : Part} {t : Task}
    {run : Run} (hof : Task.Of ctx path cache p t)
    (hplan : ∀ name i d plan, p.site = .field name i d → (ctx.lookup cache name).result = .ok plan →
      ctx.plan name = .ok plan ∧ ∀ f ∈ plan.fields, f.rule.mappers = [])
    (hann : ¬ p.site.Annotated) :
    t.visit ctx room path run
      = FieldRules.visit ctx room p.value (ctx.sitePath path p.site) run := by
  have hpath := hof.path_eq fun name i d plan hsite hlook => (hplan name i d plan hsite hlook).1
  cases hof with
  | plain _ => rfl
  | @field name i d w plan f typ hlook hf hd =>
    have hcompile := compileField_of_plan (hplan name i d plan rfl hlook).1 hd hf
    have hrule : f.rule = .empty := by
      obtain ⟨_, _, ⟨_, hempty⟩ | ⟨tag, htag, _⟩⟩ := of_compileField hcompile
      · exact hempty
      · exact absurd (Option.isSome_iff_exists.mpr ⟨tag, htag⟩) hann
    rw [Task.visit, Slot.task]
    simp only [hrule]
    exact congrArg (fun here => FieldRules.visit ctx room w here run) hpath

/-- A task of a part with an annotation says what the validators say of the part, and visits it. -/
theorem Task.Of.visit_of_annotated {room hops : Nat} {cache : PlanCache} {p : Part} {t : Task}
    {run : Run} (hof : Task.Of ctx path cache p t)
    (hplan : ∀ name i d plan, p.site = .field name i d → (ctx.lookup cache name).result = .ok plan →
      ctx.plan name = .ok plan ∧ ∀ f ∈ plan.fields, f.rule.mappers = [])
    (hann : p.site.Annotated) (hread : Readable ctx.schema run.store p.value)
    (hg : guard ctx room run.store p.value (ctx.sitePath path p.site) = .ok ())
    (hsees : run.store.Sees store hops) :
    ∃ issues, Position.Says ctx store path ⟨[p.site], p.value⟩ issues ∧
      t.visit ctx room path run = FieldRules.visit ctx room p.value (ctx.sitePath path p.site)
        (run.addIssues issues) := by
  have hpath := hof.path_eq fun name i d plan hsite hlook => (hplan name i d plan hsite hlook).1
  cases hof with
  | @plain site w hsite =>
    cases site with
    | field name i d => exact absurd rfl (hsite name i d)
    | _ => exact hann.elim
  | @field name i d w plan f typ hlook hf hd =>
    obtain ⟨hown, hmappers⟩ := hplan name i d plan rfl hlook
    have hcompile := compileField_of_plan hown hd hf
    let place : Place := ⟨(ctx.schema.record name).typeName, f.name, typ,
      ctx.sitePath path (.field name i d)⟩
    obtain ⟨hint, form, hi, hseen⟩ := exists_inspect_of_guard (p := place) hg hread
    obtain ⟨hhint, hform⟩ := hseen store hops hsees
    refine ⟨(f.rule.check form hint).map fun m => ⟨m, place.path, form⟩,
      ⟨name, i, d, _, form, hint, rfl, validators_of_compileField hcompile, hform, ?_, ?_⟩,
      visit_task_of_inspect hpath (hmappers f (List.mem_of_getElem? hf)) fun _ => hi⟩
    · rw [Context.spellFrom_cons]
      exact hhint
    · rw [check_eq_messagesOf, Context.spellFrom_cons]
      rfl

/-- **A task says what its part has to say itself, and goes on below.** -/
theorem Task.Of.exists_own {room hops : Nat} {cache : PlanCache} {p : Part} {t : Task} {run : Run}
    (hof : Task.Of ctx path cache p t)
    (hplan : ∀ name i d plan, p.site = .field name i d → (ctx.lookup cache name).result = .ok plan →
      ctx.plan name = .ok plan ∧ ∀ f ∈ plan.fields, f.rule.mappers = [])
    (hread : p.site.Annotated → Readable ctx.schema run.store p.value)
    (hg : guard ctx room run.store p.value (ctx.sitePath path p.site) = .ok ())
    (hsees : run.store.Sees store hops) :
    ∃ own, List.Forall₂ (Position.Says ctx store path) p.own own ∧
      t.visit ctx room path run = FieldRules.visit ctx room p.value (ctx.sitePath path p.site)
        (run.addIssues own.flatten) := by
  by_cases hann : p.site.Annotated
  · obtain ⟨issues, hsays, hvisit⟩ := hof.visit_of_annotated hplan hann (hread hann) hg hsees
    refine ⟨[issues], ?_, ?_⟩
    · rw [own_eq_singleton hann]
      exact .cons hsays .nil
    · rw [List.flatten_singleton, hvisit]
  · refine ⟨[], ?_, ?_⟩
    · rw [own_eq_nil hann]
      exact .nil
    · rw [List.flatten_nil, hof.visit_of_not_annotated hplan hann, Run.addIssues, List.append_nil]

/-! ## Whole visits -/

/-- A visit that is not stopped, and says what is to be said at some positions, in order. -/
def Collects {α : Type} (ctx : Context) (store : Store) (path : String) (positions : List Position)
    (run : Run) (o : Visit α) : Prop :=
  o.stop = none ∧ ∃ found, List.Forall₂ (Position.Says ctx store path) positions found ∧
    o.run.report.issues = run.report.issues ++ found.flatten

/-- What has been said already is kept. -/
theorem Collects.of_own {α : Type} {own : List (List Issue)} {positions positions' : List Position}
    {site : Site} {run : Run} {o : Visit α}
    (hown : List.Forall₂ (Position.Says ctx store path) positions own)
    (h : Collects ctx store (ctx.sitePath path site) positions' (run.addIssues own.flatten) o) :
    Collects ctx store path (positions ++ positions'.map (Position.under site)) run o := by
  obtain ⟨hstop, found, hfound, hissues⟩ := h
  refine ⟨hstop, own ++ found, List.rel_append hown ?_, ?_⟩
  · rw [List.forall₂_map_left_iff]
    exact hfound.imp fun _ _ => Position.Says.under
  · rw [hissues, List.flatten_append, ← List.append_assoc]
    rfl

/-- Tasks say what their parts say, one after the other. -/
theorem visitTasks_collects {room : Nat} {st : Store} {positions : Part → List Position} :
    ∀ {ps : List Part} {ts : List Task},
      List.Forall₂ (fun p t => ∀ run : Run, run.store = st → Known run.cache →
        Untouched Known t.value run (t.visit ctx room path run) ∧
          Collects ctx store path (positions p) run (t.visit ctx room path run)) ps ts →
      ∀ run : Run, run.store = st → Known run.cache →
        Collects ctx store path (ps.flatMap positions) run (visitTasks ctx room path ts run)
  | _, _, .nil, run, _, _ => ⟨rfl, [], .nil, (List.append_nil _).symm⟩
  | p :: ps, t :: ts, .cons h hs, run, hst, hk => by
    obtain ⟨hkeep, hstop, found, hfound, hissues⟩ := h run hst hk
    obtain ⟨hrest, found', hfound', hissues'⟩ :=
      visitTasks_collects hs _ (hkeep.store.trans hst) hkeep.known
    rw [visitTasks_cons hstop, List.flatMap_cons]
    refine ⟨hrest, found ++ found', List.rel_append hfound hfound', ?_⟩
    rw [List.flatten_append, ← List.append_assoc, ← hissues]
    exact hissues'

theorem Value.report_leave (v : Value) (ws : List Value) (run : Run) :
    (v.leave ws run).report = run.report := by
  cases v with
  | shared c => cases ws <;> rfl
  | _ => rfl

/-- A task says what is to be said of its part and below it, if visits below do. -/
theorem Task.Of.collects {room hops : Nat} {v : Value} {run run' : Run} {p : Part} {t : Task}
    (hof : Task.Of ctx path run.cache p t) (hp : p ∈ v.parts ctx.schema run.store)
    (hq : Quiet ctx Known True run.store v) (hk : Known run.cache)
    (hg : guard ctx room run'.store p.value (ctx.sitePath path p.site) = .ok ())
    (hsees : run'.store.Sees store hops) (hcells : run'.store.cells = run.store.cells)
    (hbelow : ∀ run'' : Run, run''.store = run'.store → run''.cache = run'.cache →
      Collects ctx store (ctx.sitePath path p.site) (p.value.positions ctx.schema store room) run''
        (FieldRules.visit ctx room p.value (ctx.sitePath path p.site) run'')) :
    Collects ctx store path
      (p.own ++ (p.value.positions ctx.schema store room).map (Position.under p.site)) run'
      (t.visit ctx room path run') := by
  have hread (hann : p.site.Annotated) : Readable ctx.schema run'.store p.value := by
    cases hsite : p.site with
    | field name i d => exact (hq.readable hp hsite fun _ => hann).of_cells hcells
    | _ => exact absurd hann (by rw [hsite]; exact id)
  obtain ⟨own, hown, hvisit⟩ := hof.exists_own
    (fun name i d plan hsite hlook =>
      (hq.planned hk hp hsite hlook).imp_left fun h => h trivial) hread hg hsees
  rw [hvisit]
  exact (hbelow (run'.addIssues own.flatten) rfl rfl).of_own hown

/-- **A visit that a guard lets through says what is to be said at the annotated fields**, from any
store with the same contents and no more cells held. -/
theorem visit_collects {room hops : Nat} {v : Value} {run : Run}
    (hq : Quiet ctx Known True run.store v) (hk : Known run.cache)
    (hg : guard ctx room run.store v path = .ok ()) (hsees : run.store.Sees store hops) :
    Collects ctx store path (v.positions ctx.schema store room) run
      (visit ctx room v path run) := by
  induction room generalizing v path run hops with
  | zero => cases hg
  | succ room ih =>
    have hstop : (visit ctx (room + 1) v path run).stop = none := stop_eq_none_of_guard hq hk hg
    cases hopen : v.opening ctx path run with | mk run' opened
    cases opened with
    | error e =>
      rw [visit_of_opening_error hopen] at hstop
      cases hstop
    | ok tasks =>
      obtain ⟨rfl, hfree, hparts⟩ := of_opening hopen
      have hharm : ∀ name slots, Below ctx.schema run.store v (.record name slots) →
          Harmless ctx Known name := fun name slots hb => (hq name slots hb).serves.toHarmless
      have hfound : Known (v.found ctx run.cache) :=
        v.found_known (fun name slots he => (hharm name slots (he ▸ .refl _)).known _ hk) hk
      have htasks : Collects ctx store path (v.positions ctx.schema store (room + 1))
          ⟨v.heldIn run.store, v.found ctx run.cache, run.report⟩
          (visitTasks ctx room path tasks
            ⟨v.heldIn run.store, v.found ctx run.cache, run.report⟩) := by
        rw [Value.positions, Value.parts_of_cells hsees.cells]
        refine visitTasks_collects (List.Forall₂.imp ?_
          ((List.forall₂_and_left _ _).mpr ⟨fun p hp => hp, hparts⟩)) _ rfl hfound
        rintro p t ⟨hp, hof⟩ run' hst hk'
        have hcells : run'.store.cells = run.store.cells :=
          (congrArg Store.cells hst).trans (v.cells_heldIn run.store)
        have hg' : guard ctx room run'.store p.value (ctx.sitePath path p.site) = .ok () :=
          hst ▸ guard_part hg hp
        have hsees' : run'.store.Sees store (run'.store.cells.length + 1) := hst ▸ hsees.heldIn v
        refine ⟨hof.untouched hk hp hharm hst hk', ?_⟩
        refine hof.collects hp hq hk hg' hsees' hcells fun run'' hst' hcache => ?_
        have hcells' := (congrArg Store.cells hst').trans hcells
        exact ih ((hq.part hp).of_cells hcells') (hcache ▸ hk') (hst' ▸ hg') (hst' ▸ hsees')
      rw [visit_of_opening hopen]
      obtain ⟨hnone, found, hfound, hissues⟩ := htasks
      exact ⟨hnone, found, hfound, by rw [Value.report_leave, hissues]⟩

/-! ## Whole runs -/

/-- Record types of different names have different identities. -/
def Schema.Distinct (schema : Schema) : Prop :=
  ∀ m n, schema.Declares m → schema.Declares n →
    (schema.record m).identity = (schema.record n).identity → m = n

/-- **A value in which only the depth can stop a run.**  Its records are declared, have plans and
expose all fields; no cell in it is held or can be reached from itself; and its annotated fields
have snapshots.  Maps list their entries by key. -/
structure Unobstructed (ctx : Context) (store : Store) (v : Value) : Prop where
  not_leaf : ∀ l, v ≠ .leaf l
  declared : ∀ name slots, Below ctx.schema store v (.record name slots) → ctx.schema.Declares name
  planned : ∀ name slots, Below ctx.schema store v (.record name slots) →
    ∃ plan, ctx.plan name = .ok plan
  exposes : ∀ name slots, Below ctx.schema store v (.record name slots) →
    ctx.schema.Exposes name slots
  free : ∀ c, Below ctx.schema store v (.shared c) → store.isHeld c = false
  acyclic : ∀ c, Below ctx.schema store v (.shared c) → ¬ Loops ctx.schema store c
  snapshots : ∀ q, v.AnnotatedAt ctx.schema store q →
    ∃ form, q.value.snapshot ctx.schema store = .ok form
  sorted : ∀ entries, Below ctx.schema store v (.map entries) → Dict.Sorted entries

/-- **A value that a run goes through from end to end.**  Its records are declared, have plans and
expose all fields; no cell in it is held or can be reached from itself; no node lies too deep; and
its annotated fields have snapshots.  Maps list their entries by key. -/
structure Passable (ctx : Context) (store : Store) (v : Value) : Prop where
  not_leaf : ∀ l, v ≠ .leaf l
  declared : ∀ name slots, Below ctx.schema store v (.record name slots) → ctx.schema.Declares name
  planned : ∀ name slots, Below ctx.schema store v (.record name slots) →
    ∃ plan, ctx.plan name = .ok plan
  exposes : ∀ name slots, Below ctx.schema store v (.record name slots) →
    ctx.schema.Exposes name slots
  free : ∀ c, Below ctx.schema store v (.shared c) → store.isHeld c = false
  acyclic : ∀ c, Below ctx.schema store v (.shared c) → ¬ Loops ctx.schema store c
  shallow : ∀ sites cells w, Route ctx.schema store v sites cells w →
    sites.length ≤ ctx.settings.maxDepth
  snapshots : ∀ q, v.AnnotatedAt ctx.schema store q →
    ∃ form, q.value.snapshot ctx.schema store = .ok form
  sorted : ∀ entries, Below ctx.schema store v (.map entries) → Dict.Sorted entries

/-- A declared type that has a plan is served by it, if identities are distinct. -/
theorem serves_of_distinct {name : String} (hname : ctx.schema.Declares name)
    (hplan : ∃ plan, ctx.plan name = .ok plan) (hids : ctx.schema.Distinct)
    (hun : ∀ m, ctx.schema.Declares m → ∀ d ∈ ctx.schema.decls m, d.Unmapped) :
    Serves ctx (PlanCache.Comes ctx ctx.schema.Declares) True name := by
  refine ⟨.of_comes hname hun, fun cache hcache => ?_⟩
  cases hlook : (ctx.lookup cache name).result with
  | error e =>
    obtain ⟨plan, hplan⟩ := hplan
    cases hplan.symm.trans (plan_of_lookup_error hlook)
  | ok plan =>
    obtain ⟨m, hm, hid, hmplan⟩ := hcache.of_lookup hname hlook
    obtain rfl := hids m name hm hname hid
    exact ⟨plan, rfl, length_fields_plan hmplan, fun _ => hmplan⟩

namespace Unobstructed

variable {v : Value}

/-- No route meets a cell that is held, or one that it entered before. -/
theorem fresh (h : Unobstructed ctx store v) {sites : List Site} {cells : List CellId}
    {c : CellId} (hroute : Route ctx.schema store v sites cells (.shared c)) :
    store.isHeld c = false ∧ c ∉ cells :=
  have hc : Below ctx.schema store v (.shared c) := ⟨sites, cells, hroute⟩
  ⟨h.free c hc, hroute.not_mem_of_not_loops (h.acyclic c hc)⟩

theorem quiet (h : Unobstructed ctx store v) (hids : ctx.schema.Distinct)
    (hun : ∀ m, ctx.schema.Declares m → ∀ d ∈ ctx.schema.decls m, d.Unmapped) :
    Quiet ctx (PlanCache.Comes ctx ctx.schema.Declares) True store v := by
  intro name slots hb
  refine ⟨serves_of_distinct (h.declared name slots hb) (h.planned name slots hb) hids hun,
    h.exposes name slots hb, fun p hp hann => ?_⟩
  obtain ⟨sites, cells, hroute⟩ := hb
  have hat : v.AnnotatedAt ctx.schema store ⟨sites ++ [p.site], p.value⟩ :=
    ⟨⟨_, hroute.append (.part hp)⟩, p.site, List.getLast?_concat, hann trivial⟩
  obtain ⟨form, hform⟩ := h.snapshots _ hat
  exact readable_of_snapshot hform fun name' slots' hb' =>
    h.exposes name' slots' (.trans ⟨_, _, hroute⟩ (.part hp hb'))

end Unobstructed

namespace Passable

variable {v : Value}

theorem unobstructed (h : Passable ctx store v) : Unobstructed ctx store v :=
  ⟨h.not_leaf, h.declared, h.planned, h.exposes, h.free, h.acyclic, h.snapshots, h.sorted⟩

/-- A guard lets a passable value through. -/
theorem guard (h : Passable ctx store v) : FieldRules.guard ctx ctx.room store v path = .ok () := by
  refine guard_eq_ok_iff.mpr fun sites cells w hroute => ⟨?_, ?_⟩
  · exact Nat.lt_succ_of_le (h.shallow sites cells w hroute)
  · rintro c rfl
    exact h.unobstructed.fresh hroute

end Passable

/-- **All issues of a value, in document order.**  Without mappers, and with distinct identities, a
run over a passable value ends with the issues of its annotated fields: at each of them what its
validators say of its snapshot, and the fields in document order.  No message is empty. -/
theorem issues_complete (registry : Registry) (settings : Settings) (schema : Schema)
    (calls : List Call) (rootType : Typ) (v : Value) (store : Store)
    (hcalls : ∀ call ∈ calls, call.Declared schema) (hids : schema.Distinct)
    (hun : ∀ name, schema.Declares name → ∀ d ∈ schema.decls name, d.Unmapped)
    (hv : Passable ((Engine.new registry settings).context schema) store v) :
    ∃ positions found, (∀ q, q ∈ positions ↔ v.AnnotatedAt schema store q) ∧
      positions.Pairwise Position.Before ∧
      List.Forall₂ (Position.Says ((Engine.new registry settings).context schema) store "")
        positions found ∧
      (((Engine.new registry settings).after schema calls).validate schema rootType v store).result
        = .ok found.flatten ∧
      ∀ issue ∈ found.flatten, issue.message ≠ "" := by
  let e := (Engine.new registry settings).after schema calls
  obtain ⟨hctx, hcache⟩ := comes_after_declared registry settings hcalls hun
  rw [← hctx] at hcache hv ⊢
  let ctx := e.context schema
  let o := e.visitRoot schema v store
  have hq : Quiet ctx (PlanCache.Comes ctx schema.Declares) True store v :=
    hv.unobstructed.quiet hids hun
  have hcollects : Collects ctx store "" (v.positions schema store ctx.room)
      ⟨store, e.cache, .empty⟩ o := visit_collects hq hcache hv.guard (.refl store)
  have hkeep : Untouched (PlanCache.Comes ctx schema.Declares) v ⟨store, e.cache, .empty⟩ o :=
    visit_untouched (fun name slots hb => (hq name slots hb).serves.toHarmless) hcache
  obtain ⟨hstop, found, hfound, hissues⟩ := hcollects
  refine ⟨v.positions schema store ctx.room, found, fun q => ?_, pairwise_positions hv.sorted,
    hfound, ?_, ?_⟩
  · rw [mem_positions]
    refine and_iff_left_of_imp fun hq => ?_
    obtain ⟨cells, hroute⟩ := hq.1
    exact Nat.le_succ_of_le (hv.shallow _ _ _ hroute)
  · have hrejected : o.run.report.rejected = [] := hkeep.rejected
    have hreport : o.run.report = ⟨found.flatten, []⟩ := by
      rw [← hrejected, ← show o.run.report.issues = found.flatten from hissues]
    rw [e.result_of_none schema rootType store hv.not_leaf hstop, hreport]
    rfl
  · intro issue hissue
    obtain ⟨issues, hmem, hissue⟩ := List.mem_flatten.mp hissue
    obtain ⟨q, _, hsays⟩ := exists_of_mem_forall₂ hfound issues hmem
    exact hsays.message_ne issue hissue

/-! ### A note with two annotated fields -/

def noteSchema : Schema :=
  ⟨[("Note", ⟨"Note", "Note", "Note",
    [⟨⟨"text", some "loud", none⟩, "text", .shared (.scalar .text)⟩,
      ⟨⟨"reply", some "loud", none⟩, "reply", .option (.box (.record "Note"))⟩], 2⟩)]⟩

def note : Value := .record "Note" [.shared 0, .absent]

def noteStore : Store := ⟨[⟨.scalar .text, .leaf (.text "a")⟩], []⟩

/-- One validator, which never is content. -/
def noteRegistry : Registry := ⟨[], [("loud", fun _ => .ok fun _ _ => some "no")]⟩

theorem below_note {w : Value} (h : Below noteSchema noteStore note w) :
    w = note ∨ w = .shared 0 ∨ w = .leaf (.text "a") ∨ w = .absent := by
  refine h.of_closed (P := fun w => w = note ∨ w = .shared 0 ∨ w = .leaf (.text "a") ∨
    w = .absent) ?_ (.inl rfl)
  rintro _ (rfl | rfl | rfl | rfl) p hp
  · obtain rfl | hp := List.mem_cons.mp hp
    · exact .inr (.inl rfl)
    · obtain rfl := List.mem_singleton.mp hp
      exact .inr (.inr (.inr rfl))
  · obtain rfl := List.mem_singleton.mp hp
    exact .inr (.inr (.inl rfl))
  · cases hp
  · cases hp

theorem record_note {name : String} {slots : List Value}
    (h : Below noteSchema noteStore note (.record name slots)) :
    name = "Note" ∧ slots = [.shared 0, .absent] := by
  obtain h | h | h | h := below_note h
  · cases h
    exact ⟨rfl, rfl⟩
  · cases h
  · cases h
  · cases h

theorem eq_of_declares_note {name : String} (h : noteSchema.Declares name) : name = "Note" := by
  obtain ⟨r, hr⟩ := h
  by_contra hne
  rw [noteSchema, List.lookup_cons, beq_false_of_ne hne] at hr
  cases hr

theorem distinct_note : noteSchema.Distinct := fun m n hm hn _ => by
  rw [eq_of_declares_note hm, eq_of_declares_note hn]

theorem unmapped_note (name : String) (hname : noteSchema.Declares name) :
    ∀ d ∈ noteSchema.decls name, d.Unmapped := by
  intro d hd text tag ht hparse
  obtain rfl := eq_of_declares_note hname
  obtain rfl | hd := List.mem_cons.mp hd
  · cases ht
    obtain rfl := Except.ok.inj hparse
    rfl
  · obtain rfl := List.mem_singleton.mp hd
    cases ht
    obtain rfl := Except.ok.inj hparse
    rfl

theorem declared_note (call : Call) (hcall : call ∈ [Call.precompile "Note"]) :
    call.Declared noteSchema := by
  obtain rfl := List.mem_singleton.mp hcall
  exact ⟨_, rfl⟩

theorem passable_note :
    Passable ((Engine.new noteRegistry .initial).context noteSchema) noteStore note := by
  refine ⟨nofun, fun name slots hb => ?_, fun name slots hb => ?_, fun name slots hb => ?_,
    fun c hc => ?_, fun c hc h => ?_, fun sites cells w hroute => ?_, fun q hq => ?_,
    fun entries hb => ?_⟩
  · obtain ⟨rfl, _⟩ := record_note hb
    exact ⟨_, rfl⟩
  · obtain ⟨rfl, _⟩ := record_note hb
    exact ⟨_, rfl⟩
  · obtain ⟨rfl, rfl⟩ := record_note hb
    rfl
  · rfl
  · obtain hc | hc | hc | hc := below_note hc
    · cases hc
    · cases hc
      cases h.eq_of_leaf
    · cases hc
    · cases hc
  · have hguard : guard ((Engine.new noteRegistry .initial).context noteSchema) 129 noteStore
        note "" = .ok () := rfl
    exact Nat.le_of_lt_succ (guard_eq_ok_iff.mp hguard sites cells w hroute).1
  · obtain ⟨sites, w⟩ := q
    obtain ⟨⟨cells, hroute⟩, _⟩ := hq
    obtain rfl | rfl | rfl | rfl := below_note ⟨_, _, hroute⟩
    · exact ⟨_, rfl⟩
    · exact ⟨_, rfl⟩
    · exact ⟨_, rfl⟩
    · exact ⟨_, rfl⟩
  · obtain h | h | h | h := below_note hb <;> cases h

/-- Both fields of the note have an issue. -/
theorem issues_complete_note :
    Passable ((Engine.new noteRegistry .initial).context noteSchema) noteStore note ∧
      ∃ positions found, (∀ q, q ∈ positions ↔ note.AnnotatedAt noteSchema noteStore q) ∧
        positions.Pairwise Position.Before ∧
        List.Forall₂ (Position.Says ((Engine.new noteRegistry .initial).context noteSchema)
          noteStore "") positions found ∧
        (((Engine.new noteRegistry .initial).after noteSchema [.precompile "Note"]).validate
          noteSchema (.record "Note") note noteStore).result = .ok found.flatten ∧
        ∀ issue ∈ found.flatten, issue.message ≠ "" :=
  ⟨passable_note, issues_complete noteRegistry .initial noteSchema [.precompile "Note"]
    (.record "Note") note noteStore declared_note distinct_note unmapped_note passable_note⟩

example : ((Engine.new noteRegistry .initial).validate noteSchema (.record "Note") note
    noteStore).result = .ok [⟨"no", "text", .str "a"⟩, ⟨"no", "reply", .null⟩] := rfl

end FieldRules
