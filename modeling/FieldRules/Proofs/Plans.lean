import FieldRules.Proofs.Sequence
import FieldRules.Proofs.Visit
import FieldRules.Engine

/-!
# Proofs/Plans — where the plans of a run come from

An engine is what a sequence of calls makes of a new one (`Engine.after`).  Every plan that it keeps
was compiled for a type with the identity it is kept for (`PlanCache.Comes`), and a plan has one
field for every declared one, with its name and the rule of its annotation (`forall₂_plan`).
-/

namespace FieldRules

/-! ## Compiled plans -/

/-- The plan that is compiled for a record type. -/
def Context.plan (ctx : Context) (name : String) : Except Error Plan :=
  Plan.compile ctx.registry (ctx.schema.record name).typeName (ctx.schema.decls name)

variable {ctx : Context} {cache : PlanCache}

/-- A field that is compiled has the names of its declaration and the rule of its annotation. -/
theorem of_compileField {registry : Registry} {owner : String} {d : FieldDecl} {f : PlannedField}
    (h : Plan.compileField registry owner d = .ok f) :
    f.name = d.name ∧ f.displayName = d.displayName ∧
      ((d.tag = none ∧ f.rule = .empty) ∨
        ∃ tag, d.tag = some tag ∧ Rule.compile registry tag = .ok f.rule) := by
  rw [Plan.compileField] at h
  cases htag : d.tag with
  | none =>
    simp only [htag, Except.ok.injEq] at h
    subst h
    exact ⟨rfl, rfl, .inl ⟨rfl, rfl⟩⟩
  | some tag =>
    simp only [htag] at h
    cases hrule : Rule.compile registry tag with
    | error e => simp [hrule] at h
    | ok rule =>
      simp only [hrule, Except.ok.injEq] at h
      subst h
      exact ⟨rfl, rfl, .inr ⟨tag, rfl, hrule⟩⟩

/-- A field fails to compile if its annotation does, and the error tells which field it is. -/
theorem compileField_eq_error_iff {registry : Registry} {owner : String} {d : FieldDecl}
    {e : Error} : Plan.compileField registry owner d = .error e ↔
      ∃ text r, d.tag = some text ∧ Rule.compile registry text = .error r ∧
        e = .rule (owner ++ "." ++ d.name) r := by
  rw [Plan.compileField]
  rcases d.tag with _ | text
  · simp
  · rcases hrule : Rule.compile registry text with r | rule
    · simp [hrule, eq_comm]
    · simp [hrule]

theorem segment_of_compileField {registry : Registry} {owner : String} {d : FieldDecl}
    {f : PlannedField} (h : Plan.compileField registry owner d = .ok f) (displayNames : Bool) :
    f.segment displayNames = d.segment displayNames := by
  obtain ⟨hname, hdisplay, _⟩ := of_compileField h
  rw [PlannedField.segment, FieldDecl.segment, FieldDecl.segment, hname, hdisplay]

theorem compileFields_eq_mapM (registry : Registry) (owner : String) : ∀ ds : List FieldDecl,
    Plan.compileFields registry owner ds = ds.mapM (Plan.compileField registry owner)
  | [] => rfl
  | d :: ds => by
    rw [Plan.compileFields, List.mapM_cons, compileFields_eq_mapM registry owner ds]

theorem forall₂_compileFields {registry : Registry} {owner : String} {ds : List FieldDecl}
    {fs : List PlannedField} (h : Plan.compileFields registry owner ds = .ok fs) :
    List.Forall₂ (fun d f => Plan.compileField registry owner d = .ok f) ds fs := by
  rw [compileFields_eq_mapM] at h
  exact mapM_eq_ok_iff.mp h

/-- **A plan has a field for every declaration**, compiled from it. -/
theorem forall₂_plan {name : String} {plan : Plan} (h : ctx.plan name = .ok plan) :
    List.Forall₂
      (fun d f => Plan.compileField ctx.registry (ctx.schema.record name).typeName d = .ok f)
      (ctx.schema.decls name) plan.fields := by
  obtain ⟨fs, hfs, h⟩ := bind_eq_ok.mp h
  obtain rfl := Except.ok.inj h
  exact forall₂_compileFields hfs

/-- A plan names its fields as the record declares them. -/
theorem segments_of_plan {name : String} {plan : Plan} (h : ctx.plan name = .ok plan)
    (displayNames : Bool) : plan.fields.map (PlannedField.segment · displayNames)
      = (ctx.schema.decls name).map (FieldDecl.segment · displayNames) := by
  have hfields := forall₂_plan h
  generalize ctx.schema.decls name = ds at hfields ⊢
  generalize plan.fields = fs at hfields ⊢
  induction hfields with
  | nil => rfl
  | cons hcompile _ ih =>
    rw [List.map_cons, List.map_cons, segment_of_compileField hcompile, ih]

theorem length_fields_plan {name : String} {plan : Plan} (h : ctx.plan name = .ok plan) :
    plan.fields.length = (ctx.schema.record name).fields.length := by
  rw [← (forall₂_plan h).length_eq, Schema.decls, List.length_map]

/-- A plan that cannot be compiled has an annotation that cannot. -/
theorem exists_of_plan_error {name : String} {e : Error} (h : ctx.plan name = .error e) :
    ∃ place r, e = .rule place r := by
  obtain h | ⟨fs, _, h⟩ := bind_eq_error.mp h
  · rw [compileFields_eq_mapM] at h
    obtain ⟨d, _, hd⟩ := exists_of_mapM_eq_error h
    obtain ⟨_, r, _, _, he⟩ := compileField_eq_error_iff.mp hd
    exact ⟨_, r, he⟩
  · cases h

/-- The field of a plan at an index is compiled from the declaration there. -/
theorem compileField_of_plan {name : String} {plan : Plan} (h : ctx.plan name = .ok plan) {i : Nat}
    {d : FieldDecl} {f : PlannedField} (hd : (ctx.schema.decls name)[i]? = some d)
    (hf : plan.fields[i]? = some f) :
    Plan.compileField ctx.registry (ctx.schema.record name).typeName d = .ok f :=
  (forall₂_iff_getElem?.mp (forall₂_plan h)).2 i d f hd hf

/-! ## Plans that are kept -/

theorem Dict.get?_cons {α : Type} (e : String × α) (d : Dict α) (k : String) :
    Dict.get? (e :: d) k = if k = e.1 then some e.2 else Dict.get? d k := by
  by_cases h : k = e.1
  · rw [if_pos h, get?, List.lookup_cons, beq_iff_eq.mpr h]
  · rw [if_neg h, get?, List.lookup_cons, beq_false_of_ne h]
    rfl

theorem Dict.get?_insert {α : Type} (key : String) (a : α) (k : String) :
    ∀ d : Dict α, Dict.get? (Dict.insert key a d) k = if k = key then some a else Dict.get? d k
  | [] => Dict.get?_cons (key, a) [] k
  | entry :: rest => by
    rw [insert]
    split
    · exact Dict.get?_cons (key, a) (entry :: rest) k
    · split
      · next h =>
        rw [Dict.get?_cons, Dict.get?_cons, ← h]
        split <;> rfl
      · next h =>
        rw [Dict.get?_cons, Dict.get?_cons, Dict.get?_insert key a k rest]
        by_cases hk : k = entry.1
        · rw [if_pos hk, if_pos hk, if_neg fun hkey : k = key => h (hkey.symm.trans hk)]
        · rw [if_neg hk, if_neg hk]

theorem Dict.mem_keys_iff {α : Type} {d : Dict α} {key : String} :
    key ∈ d.keys ↔ d.get? key ≠ none := by
  simp only [get?, ne_eq, List.lookup_eq_none_iff, keys, List.mem_map, bne_iff_ne, not_forall,
    Classical.not_not, exists_prop]
  exact exists_congr fun _ => and_congr_right' eq_comm

/-- **A lookup gives the plan that is kept, or else compiles one**; the plans kept then are those
kept before and the one that was compiled. -/
theorem lookup_cases (ctx : Context) (cache : PlanCache) (name : String) :
    (∃ plan, cache.get? (ctx.schema.record name).identity = some plan ∧
      ctx.lookup cache name = ⟨.ok plan, false, cache⟩) ∨
    (cache.get? (ctx.schema.record name).identity = none ∧
      ((∃ plan cache', ctx.plan name = .ok plan ∧
          ctx.lookup cache name = ⟨.ok plan, true, cache'⟩ ∧
          ∀ id, cache'.get? id = if id = (ctx.schema.record name).identity then some plan
            else cache.get? id) ∨
        ∃ e, ctx.plan name = .error e ∧ ctx.lookup cache name = ⟨.error e, true, cache⟩)) := by
  have hlook : ctx.lookup cache name =
      cache.getOrBuild (ctx.schema.record name).identity fun _ => ctx.plan name := rfl
  rw [hlook, PlanCache.getOrBuild]
  cases hget : cache.get? (ctx.schema.record name).identity with
  | some plan => exact .inl ⟨plan, rfl, rfl⟩
  | none =>
    refine .inr ⟨rfl, ?_⟩
    cases hplan : ctx.plan name with
    | ok plan => exact .inl ⟨plan, _, rfl, rfl, fun id => Dict.get?_insert _ plan id _⟩
    | error e => exact .inr ⟨e, rfl, rfl⟩

/-- A lookup fails with the error of the plan that cannot be compiled. -/
theorem plan_of_lookup_error {name : String} {e : Error}
    (h : (ctx.lookup cache name).result = .error e) : ctx.plan name = .error e := by
  obtain ⟨_, _, hlook⟩ | ⟨_, ⟨_, _, _, hlook, _⟩ | ⟨e', he, hlook⟩⟩ := lookup_cases ctx cache name
  · rw [hlook] at h
    cases h
  · rw [hlook] at h
    cases h
  · rw [hlook] at h
    exact Except.error.inj h ▸ he

/-- **An error at an opening** is a cycle at a held cell, or one of a rule or of a record. -/
theorem error_of_opening {v : Value} {path : String} {run run' : Run} {e : Error}
    (h : v.opening ctx path run = (run', .error e)) :
    (∃ c, v = .shared c ∧ run.store.isHeld c = true ∧ e = ctx.cycle run.store c path) ∨
      (∃ place r, e = .rule place r) ∨ ∃ typeName m, e = .misuse typeName m := by
  obtain ⟨_, hc | ⟨name, _, _, he | ⟨_, _, _, m, he⟩⟩⟩ := of_opening_error h
  · exact .inl hc
  · exact .inr (.inl (exists_of_plan_error (plan_of_lookup_error he)))
  · exact .inr (.inr ⟨_, m, he⟩)

/-- Every plan that is kept was compiled for one of some types, under its identity. -/
def PlanCache.Comes (ctx : Context) (types : String → Prop) (cache : PlanCache) : Prop :=
  ∀ id plan, cache.get? id = some plan →
    ∃ name, types name ∧ (ctx.schema.record name).identity = id ∧ ctx.plan name = .ok plan

namespace PlanCache.Comes

variable {types : String → Prop}

theorem empty : PlanCache.empty.Comes ctx types := nofun

/-- A plan that is looked up was compiled for a type of the same identity. -/
theorem of_lookup (h : cache.Comes ctx types) {name : String} (hname : types name) {plan : Plan}
    (hplan : (ctx.lookup cache name).result = .ok plan) :
    ∃ m, types m ∧ (ctx.schema.record m).identity = (ctx.schema.record name).identity ∧
      ctx.plan m = .ok plan := by
  obtain ⟨p, hget, hlook⟩ | ⟨_, ⟨p, _, hp, hlook, _⟩ | ⟨e, _, hlook⟩⟩ := lookup_cases ctx cache name
  · rw [hlook] at hplan
    obtain rfl := Except.ok.inj hplan
    exact h _ p hget
  · rw [hlook] at hplan
    obtain rfl := Except.ok.inj hplan
    exact ⟨name, hname, rfl, hp⟩
  · rw [hlook] at hplan
    cases hplan

theorem lookup (h : cache.Comes ctx types) {name : String} (hname : types name) :
    (ctx.lookup cache name).cache.Comes ctx types := by
  obtain ⟨p, _, hlook⟩ | ⟨_, ⟨p, cache', hp, hlook, hget⟩ | ⟨e, _, hlook⟩⟩ :=
    lookup_cases ctx cache name
  · rwa [hlook]
  · rw [hlook]
    intro id plan hid
    rw [hget] at hid
    split at hid
    · next hname' =>
      obtain rfl := Option.some.inj hid
      exact ⟨name, hname, hname'.symm, hp⟩
    · exact h id plan hid
  · rwa [hlook]

end PlanCache.Comes

/-! ## Engines -/

/-- One use of an engine. -/
inductive Call where
  | validate (rootType : Typ) (v : Value) (store : Store)
  | precompile (name : String)

namespace Engine

/-- The engine that a call leaves. -/
def call (e : Engine) (schema : Schema) : Call → Engine
  | .validate rootType v store => (e.validate schema rootType v store).engine
  | .precompile name => (e.precompile schema name).2

/-- The engine that calls leave, one after the other. -/
def after (e : Engine) (schema : Schema) (calls : List Call) : Engine :=
  calls.foldl (fun e c => e.call schema c) e

theorem context_call (e : Engine) (schema : Schema) (c : Call) :
    (e.call schema c).context schema = e.context schema := by
  cases c with
  | precompile name => rfl
  | validate rootType v store => cases v <;> rfl

/-- The visit of the root of a run. -/
def visitRoot (e : Engine) (schema : Schema) (v : Value) (store : Store) : Visit Value :=
  visit (e.context schema) (e.context schema).room v "" ⟨store, e.cache, .empty⟩

section

variable (e : Engine) (schema : Schema) (rootType : Typ) {v : Value} (store : Store)

/-- The plans after a run are those that the visit of its root leaves. -/
theorem cache_validate (v : Value) :
    (e.validate schema rootType v store).engine.cache = (e.visitRoot schema v store).run.cache := by
  cases v <;> rfl

/-- A run whose root is no leaf leaves the value and the store of the visit. -/
theorem left_validate (hv : ∀ l, v ≠ .leaf l) :
    (e.validate schema rootType v store).value = (e.visitRoot schema v store).value ∧
      (e.validate schema rootType v store).store = (e.visitRoot schema v store).run.store := by
  cases v with
  | leaf l => exact absurd rfl (hv l)
  | _ => exact ⟨rfl, rfl⟩

/-- A run whose visit was stopped ends with the error that stopped it. -/
theorem result_of_stop (hv : ∀ l, v ≠ .leaf l) {err : Error}
    (h : (e.visitRoot schema v store).stop = some err) :
    (e.validate schema rootType v store).result = .error err := by
  rw [visitRoot] at h
  cases v with
  | leaf l => exact absurd rfl (hv l)
  | _ => simp only [validate, h]

/-- A run whose visit was not stopped ends with what was collected. -/
theorem result_of_none (hv : ∀ l, v ≠ .leaf l) (h : (e.visitRoot schema v store).stop = none) :
    (e.validate schema rootType v store).result
      = (e.visitRoot schema v store).run.report.result := by
  rw [visitRoot] at h ⊢
  cases v with
  | leaf l => exact absurd rfl (hv l)
  | _ => simp only [validate, h]

end

/-- What holds of the plans of a new engine and is kept by every call holds of all engines. -/
theorem after_kept {P : PlanCache → Prop} (ok : Call → Prop) {schema : Schema} {ctx : Context}
    (hcall : ∀ e : Engine, e.context schema = ctx → ∀ c, ok c → P e.cache →
      P (e.call schema c).cache) :
    ∀ (calls : List Call) (e : Engine), e.context schema = ctx → (∀ c ∈ calls, ok c) → P e.cache →
      (e.after schema calls).context schema = ctx ∧ P (e.after schema calls).cache
  | [], _, he, _, h => ⟨he, h⟩
  | c :: calls, e, he, hok, h =>
    after_kept ok hcall calls (e.call schema c) ((e.context_call schema c).trans he)
      (fun c' hc' => hok c' (List.mem_cons_of_mem c hc'))
      (hcall e he c (hok c List.mem_cons_self) h)

end Engine

/-- A rule does not look up plans. -/
theorem cache_apply (room : Nat) (rule : Rule) (v : Value) (p : Place) (run : Run) :
    (apply ctx room rule v p run).run.cache = run.cache := by
  obtain ⟨_, _, h⟩ | ⟨_, h | ⟨_, _, _, _, h⟩⟩ := apply_cases rule v p run <;> rw [h]

/-- What every lookup of a plan keeps of the plans, a run keeps. -/
theorem kept_cache {P : PlanCache → Prop}
    (h : ∀ cache name, P cache → P (ctx.lookup cache name).cache) :
    Run.Kept ctx fun run run' => P run.cache → P run'.cache where
  refl := fun _ => id
  trans := fun hab hbc ha => hbc (hab ha)
  lookup := fun run name => h run.cache name
  apply := fun room rule v p run hr => by rwa [cache_apply]
  cell := fun _ _ _ _ _ hin => hin

/-- **The plans of an engine come from the types it has met.** -/
theorem comes_after (registry : Registry) (settings : Settings) (schema : Schema)
    (calls : List Call) :
    ((Engine.new registry settings).after schema calls).context schema
        = (Engine.new registry settings).context schema ∧
      ((Engine.new registry settings).after schema calls).cache.Comes
        ((Engine.new registry settings).context schema) fun _ => True := by
  refine Engine.after_kept (fun _ => True) (fun e he c _ h => ?_) calls _ rfl
    (fun _ _ => trivial) .empty
  cases c with
  | precompile name =>
    rw [← he] at h ⊢
    exact h.lookup trivial
  | validate rootType v store =>
    rw [Engine.call, Engine.cache_validate, Engine.visitRoot, he]
    exact (kept_cache fun _ _ hc => hc.lookup trivial).visit _ _ _ _ h

end FieldRules
