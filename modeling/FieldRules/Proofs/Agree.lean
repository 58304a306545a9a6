import FieldRules.Proofs.Unmapped

/-!
# Proofs/Agree — a visit stops where a guard fails

Under rules without mappers, with plans that fit the records and leaves that are readable, a visit
and a guard of the same value agree (`visit_agrees`): both go through, or both fail, with the same
error if the plans are those of the types, and else with errors of the same sort.
-/

namespace FieldRules

/-! ## What ends a walk -/

/-- An error with which a walk ends at a node: a cell that is met again, or a level too many. -/
def Error.EndsWalk (e : Error) : Prop :=
  (∃ path typeName, e = .cycle path typeName) ∨ ∃ path limit, e = .tooDeep path limit

variable {ctx : Context} {Known : PlanCache → Prop} {own : Prop}

theorem endsWalk_of_guard {room : Nat} {st : Store} {v : Value} {path : String} {e : Error}
    (h : guard ctx room st v path = .error e) : e.EndsWalk := by
  obtain ⟨_, _, _, _, _, ⟨c, _, _, rfl⟩ | ⟨_, rfl⟩⟩ := exists_route_of_guard h
  · exact .inl ⟨_, _, rfl⟩
  · exact .inr ⟨_, _, rfl⟩

/-- A guard and a visit both go through, or both end at a node; with the same error under a
condition. -/
inductive Agrees (own : Prop) : Except Error Unit → Option Error → Prop
  | through : Agrees own (.ok ()) none
  | stopped {e e' : Error} (hg : e.EndsWalk) (hv : e'.EndsWalk) (h : own → e = e') :
      Agrees own (.error e) (some e')

/-- If the error need not be the same, the path of the guard plays no part. -/
theorem Agrees.of_path {room : Nat} {st : Store} {v : Value} {path path' : String}
    {stop : Option Error} (h : Agrees own (guard ctx room st v path) stop)
    (hpath : own → path = path') : Agrees own (guard ctx room st v path') stop := by
  by_cases hown : own
  · rwa [← hpath hown]
  · cases hg : guard ctx room st v path with
    | ok u =>
      rw [hg] at h
      rw [guard_of_path hg]
      exact h
    | error e =>
      rw [hg] at h
      cases hg' : guard ctx room st v path' with
      | ok u =>
        have hok : guard ctx room st v path = .ok () := guard_of_path hg'
        cases hok.symm.trans hg
      | error e' =>
        cases h with
        | stopped _ hv _ => exact .stopped (endsWalk_of_guard hg') hv fun ho => absurd ho hown

/-! ## Records that are visited quietly -/

/-- A site of a field with an annotation. -/
def Site.Annotated : Site → Prop
  | field _ _ d => d.tag.isSome = true
  | _ => False

/-- A record type that always has a plan, with as many fields as it declares and no mappers; under a
condition the plan is its own. -/
structure Serves (ctx : Context) (Known : PlanCache → Prop) (own : Prop) (name : String) : Prop
    extends Harmless ctx Known name where
  found : ∀ cache, Known cache → ∃ plan, (ctx.lookup cache name).result = .ok plan ∧
    plan.fields.length = (ctx.schema.record name).fields.length ∧ (own → ctx.plan name = .ok plan)

/-- A record that has a plan, exposes all fields, and can be read where a rule looks at it. -/
structure QuietRecord (ctx : Context) (Known : PlanCache → Prop) (own : Prop) (st : Store)
    (name : String) (slots : List Value) : Prop where
  serves : Serves ctx Known own name
  exposes : ctx.schema.Exposes name slots
  readable : ∀ p ∈ (Value.record name slots).parts ctx.schema st,
    (own → p.site.Annotated) → Readable ctx.schema st p.value

/-- A value with quiet records only. -/
def Quiet (ctx : Context) (Known : PlanCache → Prop) (own : Prop) (st : Store) (v : Value) : Prop :=
  ∀ name slots, Below ctx.schema st v (.record name slots) →
    QuietRecord ctx Known own st name slots

theorem Quiet.part {st : Store} {v : Value} (h : Quiet ctx Known own st v) {p : Part}
    (hp : p ∈ v.parts ctx.schema st) : Quiet ctx Known own st p.value :=
  fun name slots hb => h name slots (.part hp hb)

theorem Quiet.of_cells {st st' : Store} {v : Value} (hcells : st'.cells = st.cells)
    (h : Quiet ctx Known own st v) : Quiet ctx Known own st' v := fun name slots hb =>
  have hq := h name slots (hb.of_cells hcells)
  ⟨hq.serves, hq.exposes, fun p hp hown =>
    (hq.readable p (Value.parts_of_cells hcells _ ▸ hp) hown).of_cells hcells⟩

/-- The plan of a part that is a field maps nothing, and is the record's own if that is asked
for. -/
theorem Quiet.planned {st : Store} {v : Value} (h : Quiet ctx Known own st v) {cache : PlanCache}
    (hk : Known cache) {p : Part} (hp : p ∈ v.parts ctx.schema st) {name : String} {i : Nat}
    {d : FieldDecl} (hsite : p.site = .field name i d) {plan : Plan}
    (hlook : (ctx.lookup cache name).result = .ok plan) :
    (own → ctx.plan name = .ok plan) ∧ ∀ f ∈ plan.fields, f.rule.mappers = [] := by
  obtain ⟨slots, rfl⟩ := Value.owner_of_mem_parts hp hsite
  have hserves := (h name slots (.refl _)).serves
  obtain ⟨plan', hfound, _, hown⟩ := hserves.found cache hk
  obtain rfl := Except.ok.inj (hfound.symm.trans hlook)
  exact ⟨hown, hserves.unmapped cache plan' hk hlook⟩

/-- A part that is an annotated field can be read, if only these are asked for. -/
theorem Quiet.readable {st : Store} {v : Value} (h : Quiet ctx Known own st v) {p : Part}
    (hp : p ∈ v.parts ctx.schema st) {name : String} {i : Nat} {d : FieldDecl}
    (hsite : p.site = .field name i d) (hann : own → p.site.Annotated) :
    Readable ctx.schema st p.value := by
  obtain ⟨slots, rfl⟩ := Value.owner_of_mem_parts hp hsite
  exact (h name slots (.refl _)).readable p hp hann

/-! ## Tasks and parts agree -/

/-- The path of a task is that of its part if the plan is that of the record. -/
theorem Task.Of.path_eq {path : String} {cache : PlanCache} {p : Part} {t : Task}
    (h : Task.Of ctx path cache p t)
    (hp : ∀ name i d plan, p.site = .field name i d → (ctx.lookup cache name).result = .ok plan →
      ctx.plan name = .ok plan) :
    Path.spellFrom path (t.steps ctx) = ctx.sitePath path p.site := by
  cases h with
  | plain => rfl
  | @field name i d w plan f typ hplan hf hd =>
    have hf' := compileField_of_plan (hp name i d plan rfl hplan) hd hf
    rw [Context.sitePath, Slot.steps_task, Site.steps_field, segment_of_compileField hf']

/-- The rule of a task is looked at under the path of the task. -/
theorem Task.Of.rule_path {path : String} {cache : PlanCache} {p : Part} {t : Task}
    (h : Task.Of ctx path cache p t) {rule : Rule} {place : Place}
    (hrule : t.rule? = some (rule, place)) : place.path = Path.spellFrom path (t.steps ctx) := by
  cases h with
  | plain => cases hrule
  | field =>
    simp only [Slot.task] at hrule
    split at hrule
    · cases hrule
    · obtain ⟨_, rfl⟩ := Prod.mk.inj (Option.some.inj hrule)
      rfl

/-- A part whose task has a rule is a field, with a rule of the plan, and annotated if the plan is
that of the record. -/
theorem Task.Of.annotated {path : String} {cache : PlanCache} {p : Part} {t : Task}
    (h : Task.Of ctx path cache p t) {rule : Rule} {place : Place}
    (hrule : t.rule? = some (rule, place)) :
    ∃ name i d, p.site = .field name i d ∧ ∃ plan, (ctx.lookup cache name).result = .ok plan ∧
      (∃ f ∈ plan.fields, f.rule = rule) ∧ (ctx.plan name = .ok plan → p.site.Annotated) := by
  cases h with
  | plain => cases hrule
  | @field name i d w plan f typ hplan hf hd =>
    have hrule' : f.rule = rule := by
      simp only [Slot.task] at hrule
      split at hrule
      · cases hrule
      · exact (Prod.mk.inj (Option.some.inj hrule)).1
    refine ⟨name, i, d, rfl, plan, hplan, ⟨f, List.mem_of_getElem? hf, hrule'⟩, fun hown => ?_⟩
    obtain ⟨_, _, ⟨_, hempty⟩ | ⟨tag, htag, _⟩⟩ := of_compileField (compileField_of_plan hown hd hf)
    · rw [Slot.task, hempty] at hrule
      cases hrule
    · exact Option.isSome_iff_exists.mpr ⟨tag, htag⟩

/-- **A task agrees with the guard of its part**: the rule is stopped by its own guard only, and
lets the visit go on otherwise. -/
theorem Task.visit_agrees {room : Nat} {path : String} {st : Store} {t : Task} {run : Run}
    (hst : run.store = st) (hk : Known run.cache)
    (hrule : ∀ rule p, t.rule? = some (rule, p) → rule.mappers = [] ∧
      p.path = Path.spellFrom path (t.steps ctx) ∧ Readable ctx.schema st t.value)
    (hvisit : ∀ path' run', run'.store = st → Known run'.cache →
      Agrees own (guard ctx room st t.value path')
        (FieldRules.visit ctx room t.value path' run').stop) :
    Agrees own (guard ctx room st t.value (Path.spellFrom path (t.steps ctx)))
      (t.visit ctx room path run).stop := by
  rw [Task.visit]
  cases h : t.rule? with
  | none => exact hvisit _ run hst hk
  | some rp =>
    obtain ⟨rule, p⟩ := rp
    obtain ⟨hmappers, hpath, hread⟩ := hrule rule p h
    simp only [apply_unmapped hmappers, hst]
    cases hg : guard ctx room st t.value p.path with
    | error e =>
      rw [inspect_of_guard_error hg, ← hpath, hg]
      exact .stopped (endsWalk_of_guard hg) (endsWalk_of_guard hg) fun _ => rfl
    | ok u =>
      obtain ⟨hint, form, hi, _⟩ := exists_inspect_of_guard hg hread
      rw [hi]
      exact hvisit _ _ hst hk

/-- Tasks agree with the guards of their parts if each of them does. -/
theorem visitTasks_agrees {room : Nat} {path : String} {st : Store} {g : Part → Except Error Unit} :
    ∀ {ps : List Part} {ts : List Task},
      List.Forall₂ (fun p t => ∀ run : Run, run.store = st → Known run.cache →
        Untouched Known t.value run (t.visit ctx room path run) ∧
          Agrees own (g p) (t.visit ctx room path run).stop) ps ts →
      ∀ run : Run, run.store = st → Known run.cache →
        Agrees own (forM ps g) (visitTasks ctx room path ts run).stop
  | _, _, .nil, _, _, _ => .through
  | p :: ps, t :: ts, .cons h hs, run, hst, hk => by
    obtain ⟨hkeep, hagree⟩ := h run hst hk
    rw [List.forM_cons]
    cases hstop : (t.visit ctx room path run).stop with
    | some e =>
      rw [visitTasks_cons_stop hstop]
      rw [hstop] at hagree
      cases hg : g p with
      | ok u => rw [hg] at hagree; cases hagree
      | error e' => rwa [hg] at hagree
    | none =>
      rw [visitTasks_cons hstop]
      rw [hstop] at hagree
      cases hg : g p with
      | error e' => rw [hg] at hagree; cases hagree
      | ok u => exact visitTasks_agrees hs _ (hkeep.store.trans hst) hkeep.known

/-! ## Visits and guards agree -/

/-- **A visit stops iff a guard fails**, and then both end at a node. -/
theorem visit_agrees {room : Nat} {v : Value} {path : String} (run : Run)
    (hq : Quiet ctx Known own run.store v) (hk : Known run.cache) :
    Agrees own (guard ctx room run.store v path) (visit ctx room v path run).stop := by
  induction room generalizing v path run with
  | zero => exact .stopped (.inr ⟨_, _, rfl⟩) (.inr ⟨_, _, rfl⟩) fun _ => rfl
  | succ room ih =>
    cases hopen : v.opening ctx path run with | mk run' opened
    cases opened with
    | error e =>
      rw [visit_of_opening_error hopen]
      obtain ⟨_, ⟨c, rfl, hc, rfl⟩ | ⟨name, slots, rfl, hplan⟩⟩ := of_opening_error hopen
      · rw [guard_held hc]
        exact .stopped (.inl ⟨_, _, rfl⟩) (.inl ⟨_, _, rfl⟩) fun _ => rfl
      · have hrec := hq name slots (.refl _)
        obtain ⟨plan, hfound, hlen, _⟩ := hrec.serves.found run.cache hk
        rw [hfound] at hplan
        obtain hplan | ⟨plan', hplan, hne, _⟩ := hplan
        · cases hplan
        · obtain rfl := Except.ok.inj hplan
          exact absurd (hrec.exposes.trans hlen.symm) hne
    | ok tasks =>
      obtain ⟨rfl, hfree, hparts⟩ := of_opening hopen
      have hharm : ∀ name slots, Below ctx.schema run.store v (.record name slots) →
          Harmless ctx Known name := fun name slots hb => (hq name slots hb).serves.toHarmless
      have hfound : Known (v.found ctx run.cache) :=
        v.found_known (fun name slots he => (hharm name slots (he ▸ .refl _)).known _ hk) hk
      have hcells : (v.heldIn run.store).cells = run.store.cells := v.cells_heldIn run.store
      rw [visit_of_opening hopen, guard_succ hfree]
      refine visitTasks_agrees (List.Forall₂.imp ?_
        ((List.forall₂_and_left _ _).mpr ⟨fun p hp => hp, hparts⟩)) _ rfl hfound
      rintro p t ⟨hp, hof⟩ run' hst hk'
      refine ⟨hof.untouched hk hp hharm hst hk', ?_⟩
      have htask : Agrees own (guard ctx room (v.heldIn run.store) t.value
          (Path.spellFrom path (t.steps ctx))) (t.visit ctx room path run').stop := by
        refine Task.visit_agrees hst hk' (fun rule place hrule => ?_)
          fun path' run'' hst' hk'' => ?_
        · obtain ⟨name, i, d, hsite, plan, hlook, ⟨f, hf, rfl⟩, hann⟩ := hof.annotated hrule
          obtain ⟨hown, hmappers⟩ := hq.planned hk hp hsite hlook
          refine ⟨hmappers f hf, hof.rule_path hrule, ?_⟩
          rw [hof.value_eq]
          exact (hq.readable hp hsite fun ho => hann (hown ho)).of_cells hcells
        · rw [hof.value_eq, ← hst']
          exact ih _ ((hq.part hp).of_cells ((congrArg Store.cells hst').trans hcells)) hk''
      rw [hof.value_eq] at htask
      exact htask.of_path fun ho => hof.path_eq fun name i d plan hsite hlook =>
        (hq.planned hk hp hsite hlook).1 ho

/-- A visit that a guard lets through is not stopped. -/
theorem stop_eq_none_of_guard {room : Nat} {v : Value} {path : String} {run : Run}
    (hq : Quiet ctx Known own run.store v) (hk : Known run.cache)
    (hg : guard ctx room run.store v path = .ok ()) : (visit ctx room v path run).stop = none := by
  have hagree : Agrees own (guard ctx room run.store v path) (visit ctx room v path run).stop :=
    visit_agrees run hq hk
  rw [hg] at hagree
  generalize (visit ctx room v path run).stop = stop at hagree ⊢
  cases hagree
  rfl

/-- A visit is stopped by the error of the guard, if plans are those of the types. -/
theorem Quiet.guard_eq_error_iff {room : Nat} {v : Value} {path : String} (run : Run)
    (hq : Quiet ctx Known True run.store v) (hk : Known run.cache) (e : Error) :
    guard ctx room run.store v path = .error e ↔ (visit ctx room v path run).stop = some e := by
  have hagree : Agrees True (guard ctx room run.store v path)
      (visit ctx room v path run).stop := visit_agrees run hq hk
  generalize (visit ctx room v path run).stop = stop at hagree ⊢
  generalize guard ctx room run.store v path = checked at hagree ⊢
  cases hagree with
  | through => exact ⟨nofun, nofun⟩
  | stopped _ _ h => rw [← h trivial, Option.some.injEq, Except.error.injEq]

/-- **A run over a value that is no leaf fails iff a guard of the value fails**, with its error. -/
theorem Quiet.result_eq_error_iff {e : Engine} {schema : Schema} {v : Value} {store : Store}
    (hq : Quiet (e.context schema) Known True store v) (hk : Known e.cache)
    (hv : ∀ l, v ≠ .leaf l) (rootType : Typ) (err : Error) :
    (e.validate schema rootType v store).result = .error err ↔
      guard (e.context schema) (e.context schema).room store v "" = .error err := by
  have hkeep : Untouched Known v ⟨store, e.cache, .empty⟩ (e.visitRoot schema v store) :=
    visit_untouched (fun name slots hb => (hq name slots hb).serves.toHarmless) hk
  have hguard : guard (e.context schema) (e.context schema).room store v "" = .error err ↔
      (e.visitRoot schema v store).stop = some err :=
    hq.guard_eq_error_iff ⟨store, e.cache, .empty⟩ hk err
  rw [hguard]
  cases hstop : (e.visitRoot schema v store).stop with
  | some err' =>
    rw [e.result_of_stop schema rootType store hv hstop, Except.error.injEq, Option.some.injEq]
  | none =>
    have hrejected : (e.visitRoot schema v store).run.report.rejected = [] := hkeep.rejected
    simp [e.result_of_none schema rootType store hv hstop, Report.result, hrejected]

end FieldRules
