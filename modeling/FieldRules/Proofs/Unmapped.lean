import FieldRules.Proofs.Inspect
import FieldRules.Proofs.Plans

/-!
# Proofs/Unmapped — visits under rules that have no mappers

Where no rule has mappers, a visit leaves the value and the store as they were
(`visit_untouched`): a part of a value is visited with the store and the plans that the parts before
it were visited with, and put back as it was.
-/

namespace FieldRules

/-- An annotation that names no mappers. -/
def FieldDecl.Unmapped (d : FieldDecl) : Prop :=
  ∀ text tag, d.tag = some text → Tag.parse text = .ok tag → tag.mappers = []

/-- The rule of an annotation without mappers has none. -/
theorem FieldDecl.Unmapped.mappers_eq {d : FieldDecl} (h : d.Unmapped) {registry : Registry}
    {owner : String} {f : PlannedField} (hf : Plan.compileField registry owner d = .ok f) :
    f.rule.mappers = [] := by
  obtain ⟨_, _, ⟨_, hrule⟩ | ⟨text, htext, hrule⟩⟩ := of_compileField hf
  · rw [hrule]
    rfl
  · obtain ⟨tag, htag, hrule⟩ := bind_eq_ok.mp hrule
    rw [Rule.ofTag, h text tag htext htag, bind_eq_ok] at hrule
    obtain ⟨mappers, hmappers, hrule⟩ := hrule
    obtain ⟨_, _, hrule⟩ := bind_eq_ok.mp hrule
    rw [← Except.ok.inj hrule, ← Except.ok.inj hmappers]

variable {ctx : Context} {Known : PlanCache → Prop}

/-- The plan of a type without mappers has none. -/
theorem mappers_of_plan {name : String} {plan : Plan} (h : ctx.plan name = .ok plan)
    (hname : ∀ d ∈ ctx.schema.decls name, d.Unmapped) : ∀ f ∈ plan.fields, f.rule.mappers = [] := by
  intro f hf
  obtain ⟨d, hd, hcompile⟩ := exists_of_mem_forall₂ (forall₂_plan h) f hf
  exact (hname d hd).mappers_eq hcompile

/-! ## A visit that changes nothing -/

/-- A visit that leaves a value, the store and the rejections as they were, and the plans known. -/
structure Untouched {α : Type} (Known : PlanCache → Prop) (a : α) (run : Run) (o : Visit α) :
    Prop where
  value : o.value = a
  store : o.run.store = run.store
  rejected : o.run.report.rejected = run.report.rejected
  known : Known o.run.cache

/-- A rule without mappers reports what its validators say of the snapshot. -/
theorem apply_unmapped {rule : Rule} (h : rule.mappers = []) (room : Nat) (v : Value) (p : Place)
    (run : Run) :
    apply ctx room rule v p run =
      match inspect ctx room run.store v p with
      | .error e => ⟨v, run, some e⟩
      | .ok (hint, form) =>
        ⟨v, run.addIssues ((rule.check form hint).map fun m => ⟨m, p.path, form⟩), none⟩ := by
  have hmap : ∀ form, rule.map form = none := fun form => by rw [Rule.map, h, Rule.mapFrom]
  rw [apply]
  cases inspect ctx room run.store v p with
  | error e => rfl
  | ok seen =>
    obtain ⟨hint, form⟩ := seen
    simp only [Rule.act, hmap, Option.getD_none]

theorem apply_untouched {rule : Rule} (h : rule.mappers = []) (room : Nat) (v : Value) (p : Place)
    {run : Run} (hk : Known run.cache) : Untouched Known v run (apply ctx room rule v p run) := by
  rw [apply_unmapped h]
  split
  · exact ⟨rfl, rfl, rfl, hk⟩
  · exact ⟨rfl, rfl, rfl, hk⟩

theorem Task.visit_untouched {room : Nat} {path : String} {t : Task} {run : Run}
    (ht : ∀ rule p, t.rule? = some (rule, p) → rule.mappers = []) (hk : Known run.cache)
    (hvisit : ∀ path run', run'.store = run.store → Known run'.cache →
      Untouched Known t.value run' (FieldRules.visit ctx room t.value path run')) :
    Untouched Known t.value run (t.visit ctx room path run) := by
  rw [Task.visit]
  cases hrule : t.rule? with
  | none => exact hvisit _ run rfl hk
  | some rp =>
    obtain ⟨rule, p⟩ := rp
    have happly : Untouched Known t.value run (apply ctx room rule t.value p run) :=
      apply_untouched (ht rule p hrule) room t.value p hk
    simp only [Visit.andThen]
    split
    · exact happly
    · rw [happly.value]
      have hin := hvisit (Path.spellFrom path (t.steps ctx)) _ happly.store happly.known
      exact ⟨hin.value, hin.store.trans happly.store, hin.rejected.trans happly.rejected, hin.known⟩

theorem visitTasks_untouched {room : Nat} {path : String} {st : Store} :
    ∀ {tasks : List Task} {run : Run}, run.store = st → Known run.cache →
      (∀ t ∈ tasks, ∀ run, run.store = st → Known run.cache →
        Untouched Known t.value run (t.visit ctx room path run)) →
      Untouched Known (tasks.map Task.value) run (visitTasks ctx room path tasks run)
  | [], _, _, hk, _ => ⟨rfl, rfl, rfl, hk⟩
  | t :: ts, run, hst, hk, h => by
    have ht := h t List.mem_cons_self run hst hk
    cases hs : (t.visit ctx room path run).stop with
    | some e =>
      rw [visitTasks_cons_stop hs]
      exact ⟨congrArg (· :: _) ht.value, ht.store, ht.rejected, ht.known⟩
    | none =>
      have hts := visitTasks_untouched (ht.store.trans hst) ht.known
        fun t' ht' => h t' (List.mem_cons_of_mem t ht')
      rw [visitTasks_cons hs]
      exact ⟨congrArg₂ List.cons ht.value hts.value, hts.store.trans ht.store,
        hts.rejected.trans ht.rejected, hts.known⟩

/-- A record type whose plans map nothing, with lookups that leave the plans known. -/
structure Harmless (ctx : Context) (Known : PlanCache → Prop) (name : String) : Prop where
  known : ∀ cache, Known cache → Known (ctx.lookup cache name).cache
  unmapped : ∀ cache plan, Known cache → (ctx.lookup cache name).result = .ok plan →
    ∀ f ∈ plan.fields, f.rule.mappers = []

/-- The rule of a task maps nothing if the record it belongs to is harmless. -/
theorem Task.Of.mappers_eq {path : String} {cache : PlanCache} {p : Part} {t : Task}
    (h : Task.Of ctx path cache p t) (hk : Known cache)
    (hp : ∀ name i d, p.site = .field name i d → Harmless ctx Known name) {rule : Rule}
    {place : Place} (hrule : t.rule? = some (rule, place)) : rule.mappers = [] := by
  cases h with
  | plain => cases hrule
  | @field name i d w plan f typ hplan hf hd =>
    have hf' := (hp name i d rfl).unmapped cache plan hk hplan f (List.mem_of_getElem? hf)
    simp only [Slot.task] at hrule
    split at hrule
    · cases hrule
    · obtain ⟨rfl, _⟩ := Prod.mk.inj (Option.some.inj hrule)
      exact hf'

/-- The site of a part of a record is a field of the record. -/
theorem Value.owner_of_mem_parts {schema : Schema} {store : Store} {v : Value} {p : Part}
    (hp : p ∈ v.parts schema store) {name : String} {i : Nat} {d : FieldDecl}
    (hsite : p.site = .field name i d) : ∃ slots, v = .record name slots := by
  cases v with
  | record owner slots =>
    obtain ⟨q, _, rfl⟩ := List.mem_map.mp hp
    cases hsite
    exact ⟨slots, rfl⟩
  | sequence items =>
    obtain ⟨q, _, rfl⟩ := List.mem_map.mp hp
    cases hsite
  | map entries =>
    obtain ⟨q, _, rfl⟩ := List.mem_map.mp hp
    cases hsite
  | leaf l => cases hp
  | absent => cases hp
  | _ =>
    obtain rfl := List.mem_singleton.mp hp
    cases hsite

/-- **Rules without mappers change nothing but the report.** -/
theorem visit_untouched {room : Nat} {v : Value} {path : String} {run : Run}
    (hv : ∀ name slots, Below ctx.schema run.store v (.record name slots) →
      Harmless ctx Known name)
    (hk : Known run.cache) : Untouched Known v run (visit ctx room v path run) := by
  induction room generalizing v path run with
  | zero => exact ⟨rfl, rfl, rfl, hk⟩
  | succ room ih =>
    have hfound : Known (v.found ctx run.cache) :=
      v.found_known (fun name slots he => (hv name slots (he ▸ .refl _)).known _ hk) hk
    cases hopen : v.opening ctx path run with | mk run' opened
    cases opened with
    | error e =>
      rw [visit_of_opening_error hopen, (of_opening_error hopen).1]
      exact ⟨rfl, rfl, rfl, hfound⟩
    | ok tasks =>
      obtain ⟨rfl, hfree, hparts⟩ := of_opening hopen
      have htasks : Untouched Known (tasks.map Task.value)
          ⟨v.heldIn run.store, v.found ctx run.cache, run.report⟩
          (visitTasks ctx room path tasks
            ⟨v.heldIn run.store, v.found ctx run.cache, run.report⟩) := by
        refine visitTasks_untouched rfl hfound fun t ht run' hst hk' => ?_
        obtain ⟨p, hp, hof⟩ := exists_of_mem_forall₂ hparts t ht
        refine Task.visit_untouched (fun rule place => hof.mappers_eq hk ?_) hk' ?_
        · intro name i d hsite
          obtain ⟨slots, rfl⟩ := Value.owner_of_mem_parts hp hsite
          exact hv name slots (.refl _)
        · intro path' run'' hst' hk''
          have hcells : run''.store.cells = run.store.cells := by
            rw [hst', hst, Value.cells_heldIn]
          rw [hof.value_eq]
          exact ih (fun name slots hb => hv name slots (.part hp (hb.of_cells hcells))) hk''
      rw [visit_of_opening hopen, htasks.value, values_of_forall₂ hparts,
        v.leave_parts ctx.schema run.store htasks.store]
      exact ⟨v.refill_self ctx.schema run.store, rfl, htasks.rejected, htasks.known⟩

/-- The task of a part changes nothing. -/
theorem Task.Of.untouched {room : Nat} {path : String} {st : Store} {cache : PlanCache} {v : Value}
    {p : Part} {t : Task} (hof : Task.Of ctx path cache p t) (hcache : Known cache)
    (hp : p ∈ v.parts ctx.schema st)
    (hv : ∀ name slots, Below ctx.schema st v (.record name slots) → Harmless ctx Known name)
    {run : Run} (hst : run.store = v.heldIn st) (hk : Known run.cache) :
    Untouched Known t.value run (t.visit ctx room path run) := by
  refine Task.visit_untouched (fun rule place => hof.mappers_eq hcache ?_) hk ?_
  · intro name i d hsite
    obtain ⟨slots, rfl⟩ := Value.owner_of_mem_parts hp hsite
    exact hv name slots (.refl _)
  · intro path' run' hst' hk'
    have hcells : run'.store.cells = st.cells := by rw [hst', hst, Value.cells_heldIn]
    rw [hof.value_eq]
    exact FieldRules.visit_untouched
      (fun name slots hb => hv name slots (.part hp (hb.of_cells hcells))) hk'

/-! ## Engines that have met declared types only -/

/-- A name that record types are declared under. -/
def Schema.Declares (schema : Schema) (name : String) : Prop :=
  ∃ r, schema.records.lookup name = some r

/-- A call about declared types only. -/
def Call.Declared (schema : Schema) : Call → Prop
  | validate _ v store => ∀ name slots, Below schema store v (.record name slots) →
      schema.Declares name
  | precompile name => schema.Declares name

/-- A type whose plans come from types without mappers is harmless. -/
theorem Harmless.of_comes {types : String → Prop} {name : String} (hname : types name)
    (hun : ∀ m, types m → ∀ d ∈ ctx.schema.decls m, d.Unmapped) :
    Harmless ctx (PlanCache.Comes ctx types) name := by
  refine ⟨fun cache h => h.lookup hname, fun cache plan h hplan => ?_⟩
  obtain ⟨m, hm, _, hmplan⟩ := h.of_lookup hname hplan
  exact mappers_of_plan hmplan (hun m hm)

/-- **Without mappers, the plans of an engine come from declared types** if its calls were about
such types: nothing is written, so no other types are met. -/
theorem comes_after_declared (registry : Registry) (settings : Settings) {schema : Schema}
    {calls : List Call} (hcalls : ∀ call ∈ calls, call.Declared schema)
    (hun : ∀ name, schema.Declares name → ∀ d ∈ schema.decls name, d.Unmapped) :
    ((Engine.new registry settings).after schema calls).context schema
        = (Engine.new registry settings).context schema ∧
      ((Engine.new registry settings).after schema calls).cache.Comes
        ((Engine.new registry settings).context schema) schema.Declares := by
  refine Engine.after_kept (Call.Declared schema) (fun e he call hcall h => ?_) calls _ rfl
    hcalls .empty
  cases call with
  | precompile name =>
    rw [← he] at h ⊢
    exact h.lookup hcall
  | validate rootType v store =>
    rw [Engine.call, Engine.cache_validate, Engine.visitRoot, he]
    have hharm : ∀ name slots, Below schema store v (.record name slots) →
        Harmless ((Engine.new registry settings).context schema)
          (PlanCache.Comes ((Engine.new registry settings).context schema) schema.Declares) name :=
      fun name slots hb => .of_comes (hcall name slots hb) hun
    exact (visit_untouched hharm h).known

end FieldRules
