import FieldRules.Proofs.Abort
import FieldRules.Proofs.Limit

/-!
# Proofs/Rerooting — a visit further down

A visit at some path does what it does at the root, and tells the same further down: the paths of
its issues, rejections and errors are **rerooted** (`visit_reroot`).  It is up to names and keys not
to look like the number of an element, and not to be empty: the first of them is joined to nothing
at the root, and to a path further down.
-/

namespace FieldRules

/-! ## Paths -/

namespace Path

/-- A path that began at the root, from another path on. -/
def reroot (p f : String) : String :=
  match f.toList with
  | [] => p
  | c :: _ => if c = '[' then p ++ f else p ++ "." ++ f

/-- A name that is not empty and does not begin like the number of an element. -/
def Plain (name : String) : Prop := name ≠ "" ∧ name.toList.head? ≠ some '['

instance (name : String) : Decidable (Plain name) := inferInstanceAs (Decidable (_ ∧ _))

variable {p f k : String}

@[simp] theorem reroot_root (p : String) : reroot p "" = p := rfl

/-- What follows a path follows the rerooted one. -/
theorem reroot_append (hf : f ≠ "") (p g : String) : reroot p (f ++ g) = reroot p f ++ g := by
  rw [reroot, reroot, String.toList_append]
  cases hcs : f.toList with
  | nil => exact absurd (String.toList_eq_nil_iff.mp hcs) hf
  | cons c cs =>
    simp only [List.cons_append]
    split
    · exact (String.append_assoc).symm
    · simp only [String.append_assoc]

theorem reroot_of_plain (hk : Plain k) (p : String) : reroot p k = p ++ "." ++ k := by
  rw [reroot]
  cases hcs : k.toList with
  | nil => exact absurd (String.toList_eq_nil_iff.mp hcs) hk.1
  | cons c cs =>
    have hc : c ≠ '[' := fun h => hk.2 (by rw [hcs, h]; rfl)
    simp only [if_neg hc]

theorem reroot_ne (hp : p ≠ "") (f : String) : reroot p f ≠ "" := by
  have happend (g : String) : p ++ g ≠ "" := fun h => hp (String.append_eq_empty_iff.mp h).1
  rw [reroot]
  split
  · exact hp
  · split
    · exact happend f
    · rw [String.append_assoc]
      exact happend _

theorem join_of_ne (hp : p ≠ "") (k : String) : join p k = p ++ ("." ++ k) := by
  have hempty : p.isEmpty = false := Bool.eq_false_iff.mpr fun h => hp (String.isEmpty_iff.mp h)
  rw [join, hempty, String.append_assoc]
  rfl

theorem index_eq_append (p : String) (i : Nat) :
    index p i = p ++ ("[" ++ (toString i ++ "]")) := by
  rw [index, String.append_assoc, String.append_assoc]

theorem index_ne (p : String) (i : Nat) : index p i ≠ "" := fun h =>
  absurd (String.append_eq_empty_iff.mp h).2 (by decide)

/-- The number of an element follows a rerooted path. -/
theorem index_reroot (p f : String) (i : Nat) : index (reroot p f) i = reroot p (index f i) := by
  rw [index_eq_append, index_eq_append]
  by_cases hf : f = ""
  · subst hf
    rw [reroot_root, String.empty_append, reroot, String.toList_append]
    rfl
  · rw [reroot_append hf]

/-- **A plain name follows a rerooted path**, also right below the root. -/
theorem join_reroot (hp : p ≠ "") (hk : Plain k) (f : String) :
    join (reroot p f) k = reroot p (join f k) := by
  rw [join_of_ne (reroot_ne hp f)]
  by_cases hf : f = ""
  · subst hf
    rw [reroot_root, ← String.append_assoc]
    exact (reroot_of_plain hk p).symm
  · rw [join_of_ne hf, reroot_append hf]

end Path

/-! ## Reports and errors -/

/-- An issue further down. -/
def Issue.reroot (p : String) (i : Issue) : Issue := ⟨i.message, Path.reroot p i.field, i.value⟩

/-- A rejected or unreadable value further down; other causes tell no path. -/
def RuleError.reroot (p : String) : RuleError → RuleError
  | unstorable field typeName value reason =>
    unstorable (Path.reroot p field) typeName value reason
  | unreadable field typeName reason => unreadable (Path.reroot p field) typeName reason
  | e => e

namespace Report

/-- What was collected, further down. -/
def reroot (p : String) (r : Report) : Report :=
  ⟨r.issues.map (Issue.reroot p), r.rejected.map (RuleError.reroot p)⟩

/-- What was collected first, and what after. -/
instance : Append Report := ⟨fun a b => ⟨a.issues ++ b.issues, a.rejected ++ b.rejected⟩⟩

/-- What was collected in several reports, in order. -/
def concat (rs : List Report) : Report := rs.foldr (· ++ ·) .empty

theorem append_assoc (a b c : Report) : a ++ b ++ c = a ++ (b ++ c) :=
  congrArg₂ Report.mk (List.append_assoc _ _ _) (List.append_assoc _ _ _)

theorem append_empty (a : Report) : a ++ empty = a :=
  congrArg₂ Report.mk (List.append_nil _) (List.append_nil _)

theorem empty_append (a : Report) : empty ++ a = a := rfl

end Report

/-- An error further down: all paths in it are, also one that is the place of a value without a JSON
form. -/
def Error.Rerooted (ctx : Context) (p : String) (own there : Error) : Prop :=
  there.Paired ctx ctx (fun q f => q = Path.reroot p f) own

/-- A visit that does what another one does, and adds to a report what that one reports, further
down. -/
structure Visit.Rerooted (ctx : Context) (p : String) (before : Report) (own there : Visit Value) :
    Prop where
  value : there.value = own.value
  store : there.run.store = own.run.store
  cache : there.run.cache = own.run.cache
  report : there.run.report = before ++ own.run.report.reroot p
  stop : Option.Rel (Error.Rerooted ctx p) own.stop there.stop

/-! ## Records with plain names -/

variable {ctx : Context} {cache : PlanCache}

/-- A record type whose fields have plain names in paths, also in the plan that a run gets for
it. -/
structure Context.PlainRecord (ctx : Context) (cache : PlanCache) (name : String) : Prop where
  decl : ∀ d ∈ ctx.schema.decls name, Path.Plain (d.segment ctx.settings.displayNames)
  planned : ∀ plan, (ctx.lookup cache name).result = .ok plan → ∀ f ∈ plan.fields,
    Path.Plain (f.segment ctx.settings.displayNames)

/-- A lookup depends on the plan that is kept for the type only. -/
theorem result_lookup_congr {cache' : PlanCache} {name : String}
    (h : cache'.get? (ctx.schema.record name).identity
      = cache.get? (ctx.schema.record name).identity) :
    (ctx.lookup cache' name).result = (ctx.lookup cache name).result := by
  rw [Context.lookup, Context.lookup, PlanCache.getOrBuild, PlanCache.getOrBuild, h]
  cases cache.get? (ctx.schema.record name).identity with
  | some plan => rfl
  | none => cases Plan.compile _ _ _ <;> rfl

/-- **After a lookup, another one gives what it would have given before**, or the same plan. -/
theorem result_lookup_lookup (ctx : Context) (cache : PlanCache) (name m : String) :
    (ctx.lookup (ctx.lookup cache name).cache m).result = (ctx.lookup cache m).result ∨
      (ctx.lookup (ctx.lookup cache name).cache m).result = (ctx.lookup cache name).result := by
  obtain ⟨_, _, hlook⟩ | ⟨_, ⟨plan, cache', _, hlook, hget⟩ | ⟨_, _, hlook⟩⟩ :=
    lookup_cases ctx cache name
  · rw [hlook]
    exact .inl rfl
  · rw [hlook]
    have hm := hget (ctx.schema.record m).identity
    split at hm
    · refine .inr ?_
      simp only [Context.lookup, PlanCache.getOrBuild, hm]
    · exact .inl (result_lookup_congr hm)
  · rw [hlook]
    exact .inl rfl

/-- A plain record stays plain when a plan is looked up for a plain one. -/
theorem Context.PlainRecord.lookup {name m : String} (hm : ctx.PlainRecord cache m)
    (h : ctx.PlainRecord cache name) : ctx.PlainRecord (ctx.lookup cache name).cache m := by
  refine ⟨hm.decl, fun plan hplan => ?_⟩
  obtain hlook | hlook := result_lookup_lookup ctx cache name m
  · exact hm.planned plan (hlook.symm.trans hplan)
  · exact h.planned plan (hlook.symm.trans hplan)

/-- A field of a record is one of a declared record type. -/
theorem Schema.exists_of_mem_fields {schema : Schema} {name : String} {g : RecordField}
    (hg : g ∈ (schema.record name).fields) : ∃ r ∈ schema.records, g ∈ r.2.fields := by
  rw [record] at hg
  cases hlook : schema.records.lookup name with
  | none =>
    rw [hlook] at hg
    cases hg
  | some r =>
    rw [hlook] at hg
    obtain ⟨before, after, heq, _⟩ := List.lookup_eq_some_iff.mp hlook
    refine ⟨(name, r), ?_, hg⟩
    rw [heq]
    exact List.mem_append_right _ List.mem_cons_self

/-- A field of a plan is spelled as a declared field, if the plan is that of a type. -/
theorem declared_of_mem_plan (hknown : cache.Comes ctx fun _ => True) {name : String} {plan : Plan}
    (hplan : (ctx.lookup cache name).result = .ok plan) {f : PlannedField}
    (hf : f ∈ plan.fields) :
    ∃ m, ∃ d ∈ ctx.schema.decls m,
      ∀ displayNames, f.segment displayNames = d.segment displayNames := by
  obtain ⟨m, _, _, hm⟩ := hknown.of_lookup trivial hplan
  obtain ⟨i, hi, hfi⟩ := List.getElem_of_mem hf
  have hi' : i < (ctx.schema.decls m).length := (forall₂_plan hm).length_eq ▸ hi
  have hcompile := compileField_of_plan hm (List.getElem?_eq_getElem hi')
    (List.getElem?_eq_some_iff.mpr ⟨hi, hfi⟩)
  exact ⟨m, _, List.getElem_mem hi', segment_of_compileField hcompile⟩

/-- With plans of types, it is enough that declared names are plain. -/
theorem Context.plainRecord_of_comes (hcache : cache.Comes ctx fun _ => True)
    (h : ∀ r ∈ ctx.schema.records, ∀ g ∈ r.2.fields,
      Path.Plain (g.decl.segment ctx.settings.displayNames)) (name : String) :
    ctx.PlainRecord cache name := by
  have hdecls : ∀ n, ∀ d ∈ ctx.schema.decls n,
      Path.Plain (d.segment ctx.settings.displayNames) := by
    intro n d hd
    obtain ⟨g, hg, rfl⟩ := List.mem_map.mp hd
    obtain ⟨r, hr, hg⟩ := Schema.exists_of_mem_fields hg
    exact h r hr g hg
  refine ⟨hdecls name, fun plan hplan f hf => ?_⟩
  obtain ⟨m, d, hd, hsegment⟩ := declared_of_mem_plan hcache hplan hf
  rw [hsegment]
  exact hdecls m d hd

/-! ## Visits -/

/-- Runs over plain records at a path and at the root. -/
def Context.rerooting (ctx : Context) (live : CellId → Prop) (report : Report) {p : String}
    (hp : p ≠ "") {records : String → Prop}
    (hdecls : ∀ name, records name → ∀ d ∈ ctx.schema.decls name,
      Path.Plain (d.segment ctx.settings.displayNames)) : Pairing where
  ctx := ctx
  settings := ctx.settings
  before := report
  before' := .empty
  types := fun _ => True
  records := records
  keys := Path.Plain
  live := live
  rename := id
  paths := fun q f => q = Path.reroot p f
  walked := fun _ _ => True
  plans := fun c c' => c' = c ∧ ∀ name, records name → ctx.PlainRecord c name
  closed := ctx.closed_all
  index := fun i h => by rw [h, Path.index_reroot]
  key := fun hk h => by rw [h, Path.join_reroot hp hk]
  decl := fun hname hd h => by rw [h, Path.join_reroot hp (hdecls _ hname _ hd)]
  lookup := fun _ hname ⟨heq, hplain⟩ =>
    ⟨by rw [heq], by rw [heq], fun m hm => (hplain m hm).lookup (hplain _ hname)⟩
  slot := fun _ hname hplans hplan hf h => by
    rw [h, Path.join_reroot hp ((hplans.2 _ hname).planned _ hplan _ hf)]

section

variable {live : CellId → Prop} {report : Report} {p : String} {hp : p ≠ ""}
  {records : String → Prop} {hdecls : ∀ name, records name → ∀ d ∈ ctx.schema.decls name,
    Path.Plain (d.segment ctx.settings.displayNames)}

theorem rerooted_of_told (q f : String) (h : (ctx.rerooting live report hp hdecls).Told q f) :
    q = Path.reroot p f := h.1

theorem issue_rerooted {there own : Issue}
    (h : there.Paired (ctx.rerooting live report hp hdecls).Told own) : there = own.reroot p := by
  cases h with
  | mk message h value => rw [rerooted_of_told _ _ h, Issue.reroot]

theorem rejection_rerooted {there own : RuleError}
    (h : there.Paired (ctx.rerooting live report hp hdecls).Told own) : there = own.reroot p := by
  cases h with
  | unstorable h => rw [rerooted_of_told _ _ h, RuleError.reroot]

end

/-- Of two lists that have grown side by side, the second one from nothing, the first one has grown
by the images of the second. -/
theorem Pairing.Grown.eq_append_map {α : Type} {R : α → α → Prop} {before now now' : List α}
    {f : α → α} (h : Pairing.Grown R before [] now now') (hR : ∀ a b, R a b → a = f b) :
    now = before ++ now'.map f := by
  obtain ⟨new, new', rfl, rfl, hnew⟩ := h
  induction hnew with
  | nil => rfl
  | cons hab _ ih => rw [hR _ _ hab, List.map_cons, List.append_cancel_left ih]

/-- A visit at a path of a value without cells, in which all names and keys are plain: those of the
value, and those of what is written. -/
structure PlainVisit (ctx : Context) (records : String → Prop) (room : Nat) (v : Value)
    (path : String) (run : Run) : Prop where
  plain : ∀ name, records name → ctx.PlainRecord run.cache name
  within : v.Within (fun _ => True) fun _ => False
  spelled : v.Spelled records Path.Plain
  writes : ∀ m, Meets ctx room v path run m → m.WritesSpelled ctx records Path.Plain

section

variable {records : String → Prop} {room : Nat} {v : Value} {p : String} {run : Run}

/-- How a plain visit at a path and the one at the root differ; only new cells are live. -/
def PlainVisit.pairing (h : PlainVisit ctx records room v p run) (hp : p ≠ "") : Pairing :=
  ctx.rerooting (fun c => run.store.cells.length ≤ c) run.report hp fun name hname =>
    (h.plain name hname).decl

/-- A plain visit goes on beside the one at the root. -/
theorem PlainVisit.visits (h : PlainVisit ctx records room v p run) (hp : p ≠ "") :
    (h.pairing hp).Visits (h.pairing hp).Values run.store (visit ctx room v p run)
      (visit ctx room v "" { run with report := .empty }) := by
  let start : Run := { run with report := .empty }
  have hlive := run.store.encloses_new
  have hgood : (h.pairing hp).Good v := ⟨h.within.mono (fun _ => id) nofun, h.spelled⟩
  have hruns : (h.pairing hp).Runs run start := by
    refine ⟨hlive.alike rfl fun _ _ => rfl, fun c hc => ⟨hlive.within c hc, ?_⟩, ⟨rfl, h.plain⟩,
      .refl _ _, .refl _ _⟩
    rw [Store.cell_of_le hc]
    exact .leaf _
  exact Pairing.visit_paired _ room v v p "" run start ⟨hgood, v.rename_id.symm⟩ rfl hruns
    ⟨h.writes, fun _ _ => trivial⟩

/-- **A visit does what it does at the root**, and reports it further down; its records are plain
then as before. -/
theorem visit_reroot (hp : p ≠ "") (h : PlainVisit ctx records room v p run) :
    (visit ctx room v "" { run with report := .empty }).Rerooted ctx p run.report
        (visit ctx room v p run) ∧
      ∀ name, records name → ctx.PlainRecord (visit ctx room v p run).run.cache name := by
  let start : Run := { run with report := .empty }
  let own := visit ctx room v "" start
  let there := visit ctx room v p run
  have hvisits : (h.pairing hp).Visits _ run.store there own := h.visits hp
  have houtside : ∀ c, ¬ run.store.cells.length ≤ c → own.run.store.cell c = run.store.cell c :=
    fun c hc => cell_visit_of_not_live start.store.encloses_new
      (h.within.mono (fun _ => id) nofun) hc room ""
  -- cells that are not new are not live, so both visits leave them as they were
  have hstore : own.run.store = there.run.store := by
    rw [hvisits.store_eq rfl houtside, held_visit, ← held_visit ctx room v p run]
  have hreport : there.run.report = run.report ++ own.run.report.reroot p :=
    congrArg₂ Report.mk
      (hvisits.runs.issues.eq_append_map fun _ _ => issue_rerooted)
      (hvisits.runs.rejected.eq_append_map fun _ _ => rejection_rerooted)
  have hstop : Option.Rel (Error.Rerooted ctx p) own.stop there.stop := by
    obtain ⟨ho, ho'⟩ | ⟨e, e', ho, ho', he⟩ := hvisits.stop_cases
    · rw [ho, ho']
      exact .none
    · rw [ho, ho']
      exact .some (he.imp rerooted_of_told)
  obtain ⟨hcache, hplain⟩ := hvisits.runs.plans
  exact ⟨⟨(hvisits.value.eq rfl).symm, hstore.symm, hcache.symm, hreport, hstop⟩, hplain⟩

end

/-! ## Where all visits are plain -/

/-- **A task with a rule is a slot of a record**, and the rule is that of its plan. -/
theorem exists_slot_of_opening {v : Value} {path : String} {run run' : Run} {ts : List Task}
    (h : v.opening ctx path run = (run', .ok ts)) {t : Task} (ht : t ∈ ts) {rule : Rule}
    {place : Place} (hrule : t.rule? = some (rule, place)) :
    ∃ name plan, (ctx.lookup run.cache name).result = .ok plan ∧
      (∃ f ∈ plan.fields, rule = f.rule) ∧
      ∃ g ∈ (ctx.schema.record name).fields, place.typ = g.typ := by
  have halone {w : Value} (hmem : t ∈ [⟨.inner, none, w⟩]) : False := by
    obtain rfl := List.mem_singleton.mp hmem
    cases hrule
  cases v with
  | leaf l =>
    obtain ⟨rfl, rfl⟩ := opened_inj h
    cases ht
  | absent =>
    obtain ⟨rfl, rfl⟩ := opened_inj h
    cases ht
  | present w =>
    obtain ⟨rfl, rfl⟩ := opened_inj h
    exact (halone ht).elim
  | boxed w =>
    obtain ⟨rfl, rfl⟩ := opened_inj h
    exact (halone ht).elim
  | shared c =>
    obtain ⟨_, hopen⟩ | ⟨_, hopen⟩ := Value.opening_shared ctx path c run
    · cases hopen.symm.trans h
    · obtain ⟨rfl, rfl⟩ := opened_inj (hopen.symm.trans h)
      exact (halone ht).elim
  | sequence items =>
    obtain ⟨rfl, rfl⟩ := opened_inj h
    obtain ⟨_, _, rfl⟩ := List.mem_map.mp ht
    cases hrule
  | map entries =>
    obtain ⟨rfl, rfl⟩ := opened_inj h
    obtain ⟨_, _, rfl⟩ := List.mem_map.mp ht
    cases hrule
  | record name slots =>
    obtain ⟨_, _, hopen⟩ | ⟨plan, hplan, ⟨_, hopen⟩ | ⟨_, hopen⟩⟩ :=
      Value.opening_record ctx path name slots run
    · cases hopen.symm.trans h
    · cases hopen.symm.trans h
    · obtain ⟨rfl, rfl⟩ := opened_inj (hopen.symm.trans h)
      obtain ⟨slot, hslot, rfl⟩ := List.mem_map.mp ht
      obtain ⟨⟨g, hg, htyp⟩, _⟩ := of_mem_slotsOf hslot
      simp only [Slot.task] at hrule
      split at hrule
      · cases hrule
      · obtain ⟨rfl, rfl⟩ := Prod.mk.inj (Option.some.inj hrule)
        exact ⟨name, plan, hplan, ⟨_, planned_of_mem_slotsOf hslot, rfl⟩, g, hg, htyp⟩

section

variable {room : Nat} {v : Value} {path : String} {run run' : Run} {m : Moment}

/-- A visit keeps plans of types until it comes to a task. -/
theorem ComesTo.comes {t : Task} (h : ComesTo ctx room path v run t run')
    (hcache : run.cache.Comes ctx fun _ => True) : run'.cache.Comes ctx fun _ => True := by
  obtain ⟨opened, before, after, hopen, _, rfl⟩ := h
  have hkept : Run.Kept ctx fun run run' => run.cache.Comes ctx (fun _ => True) →
      run'.cache.Comes ctx fun _ => True := kept_cache fun _ _ hc => hc.lookup trivial
  obtain ⟨rfl, _, _⟩ := of_opening hopen
  exact hkept.tasks _ _ _ _ (hkept.found v run hcache)

/-- **The rule of a moment is that of a plan**, and the type that of a field. -/
theorem Meets.exists_planned (h : Meets ctx room v path run m)
    (hcache : run.cache.Comes ctx fun _ => True) :
    (∃ name plan, ctx.plan name = .ok plan ∧ ∃ f ∈ plan.fields, m.rule = f.rule) ∧
      ∃ name, ∃ g ∈ (ctx.schema.record name).fields, m.place.typ = g.typ := by
  induction h with
  | own hcomes hrule =>
    -- the plan may have been compiled for another type of the same identity
    obtain ⟨opened, before, after, hopen, _, _⟩ := hcomes
    obtain ⟨name, plan, hplan, hf, hg⟩ := exists_slot_of_opening hopen
      (List.mem_append_right _ List.mem_cons_self) hrule
    obtain ⟨n, _, _, hn⟩ := hcache.of_lookup trivial hplan
    exact ⟨⟨n, plan, hn, hf⟩, name, hg⟩
  | plain hcomes _ _ ih => exact ih (hcomes.comes hcache)
  | @field _ _ _ _ _ run' _ _ _ _ _ hcomes _ happly _ ih =>
    have hcache' := hcomes.comes hcache
    rw [← cache_apply, happly] at hcache'
    exact ih hcache'

/-- A rule without mappers writes nothing. -/
theorem Moment.writesSpelled_of_mappers (h : m.rule.mappers = []) (records keys : String → Prop) :
    m.WritesSpelled ctx records keys := by
  rintro w cells ⟨hint, form, mapped, _, hmapped, _, _⟩
  have hmap : m.rule.map form = none := by rw [Rule.map, h, Rule.mapFrom]
  simp only [Rule.act, hmap] at hmapped
  cases hmapped

/-- What is written into a leaf field is a leaf. -/
theorem Moment.writesSpelled_of_scalar {k : Scalar} (h : m.place.typ = .scalar k)
    (records keys : String → Prop) : m.WritesSpelled ctx records keys := by
  rintro w cells ⟨_, _, mapped, _, _, _, hread⟩
  rw [h, read_scalar] at hread
  cases hleaf : Leaf.read k mapped with
  | error e =>
    rw [hleaf] at hread
    cases hread
  | ok l =>
    rw [hleaf] at hread
    cases hread
    refine ⟨.leaf l, fun c hc => ?_⟩
    rw [Store.cell_of_le hc]
    exact .leaf _

/-- Where nothing is mapped, or only leaves, certain records and keys are written. -/
theorem Meets.writesSpelled (h : Meets ctx room v path run m)
    (hcache : run.cache.Comes ctx fun _ => True)
    (hmapped : (∀ r ∈ ctx.schema.records, ∀ g ∈ r.2.fields, g.decl.Unmapped) ∨
      ∀ r ∈ ctx.schema.records, ∀ g ∈ r.2.fields, ∃ k, g.typ = .scalar k)
    (records keys : String → Prop) : m.WritesSpelled ctx records keys := by
  obtain ⟨⟨n, plan, hplan, f, hf, hrule⟩, name, g, hg, htyp⟩ := h.exists_planned hcache
  obtain hunmapped | hscalar := hmapped
  · have hmappers : f.rule.mappers = [] := mappers_of_plan hplan (fun d hd => by
      obtain ⟨g', hg', rfl⟩ := List.mem_map.mp hd
      obtain ⟨r, hr, hg'⟩ := Schema.exists_of_mem_fields hg'
      exact hunmapped r hr g' hg') f hf
    exact m.writesSpelled_of_mappers (hrule ▸ hmappers) _ _
  · obtain ⟨r, hr, hg⟩ := Schema.exists_of_mem_fields hg
    obtain ⟨k, hk⟩ := hscalar r hr g hg
    exact m.writesSpelled_of_scalar (htyp.trans hk) _ _

/-- **Where all names of fields are plain, visits are plain** if the keys of the value are, and
nothing is mapped, or only leaves. -/
theorem plainVisit_of_fields (hcache : run.cache.Comes ctx fun _ => True)
    (hnames : ∀ r ∈ ctx.schema.records, ∀ g ∈ r.2.fields,
      Path.Plain (g.decl.segment ctx.settings.displayNames))
    (hmapped : (∀ r ∈ ctx.schema.records, ∀ g ∈ r.2.fields, g.decl.Unmapped) ∨
      ∀ r ∈ ctx.schema.records, ∀ g ∈ r.2.fields, ∃ k, g.typ = .scalar k)
    (hwithin : v.Within (fun _ => True) fun _ => False)
    (hkeys : v.Spelled (fun _ => True) Path.Plain) (room : Nat) (path : String) :
    PlainVisit ctx (fun _ => True) room v path run :=
  ⟨fun name _ => ctx.plainRecord_of_comes hcache hnames name, hwithin, hkeys,
    fun _ hm => hm.writesSpelled hcache hmapped _ _⟩

end

end FieldRules
