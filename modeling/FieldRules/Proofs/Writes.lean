import FieldRules.Proofs.Stops

/-!
# Proofs/Writes — what a run writes back, and what it rejects

A **walk** goes through a whole value and knows nothing of reports: where a field refuses a mapped
value, the walk goes on with the old one.  Its **journal** has an entry for every rule that was run,
in order.  A visit that is not stopped is a walk, and its report is what the journal says
(`exists_walk_of_visit`, `visit_of_walk`).
-/

namespace FieldRules

/-! ## One rule that is run -/

/-- A rule that was run on a field: what was known and seen of the field, its value before and the
one it has when the walk goes on below it, and why it refused the mapped value, if it did. -/
structure FieldVisit where
  rule : Rule
  place : Place
  hint : Hint
  current : Json
  before : Value
  after : Value
  refusal? : Option Mismatch

namespace FieldVisit

/-- What the validators see: the mapped value, or else the field as it is. -/
def seen (f : FieldVisit) : Json := (f.rule.map f.current).getD f.current

/-- What is to be written back: a mapped value that is another one than that of the field. -/
def attempt? (f : FieldVisit) : Option Json :=
  (f.rule.map f.current).filter fun w => !w.same f.current

/-- What the validators know of the type: nothing, if the value they see is another one. -/
def known (f : FieldVisit) : Hint := if f.attempt?.isSome then .unknown else f.hint

/-- What the validators say of the value they see. -/
def issues (f : FieldVisit) : List Issue :=
  (f.rule.check f.seen f.known).map fun m => ⟨m, f.place.path, f.seen⟩

/-- The rejection of a mapped value that the field refused. -/
def rejection? (ctx : Context) (f : FieldVisit) : Option RuleError :=
  f.attempt?.bind fun w => f.refusal?.map fun e =>
    .unstorable f.place.path (f.place.typ.typeName ctx.schema) w.display e.message

/-- A rule is run on a field that was inspected.  A write that is refused changes nothing. -/
inductive Acts (ctx : Context) (room : Nat) (f : FieldVisit) : Store → Store → Prop
  | kept {s : Store} (hi : inspect ctx room s f.before f.place = .ok (f.hint, f.current))
      (hw : f.attempt? = none) (ha : f.after = f.before) (hr : f.refusal? = none) :
      Acts ctx room f s s
  | stored {s s' : Store} {w : Json}
      (hi : inspect ctx room s f.before f.place = .ok (f.hint, f.current))
      (hw : f.attempt? = some w) (hread : Value.read ctx.schema f.place.typ w s = .ok (f.after, s'))
      (hr : f.refusal? = none) : Acts ctx room f s s'
  | refused {s : Store} {w : Json} {e : Mismatch}
      (hi : inspect ctx room s f.before f.place = .ok (f.hint, f.current))
      (hw : f.attempt? = some w) (hread : Value.read ctx.schema f.place.typ w s = .error e)
      (ha : f.after = f.before) (hr : f.refusal? = some e) : Acts ctx room f s s

end FieldVisit

/-! ## Walks -/

/-- What a walk changes besides the value: the cells, and the plans kept. -/
structure Stage where
  store : Store
  cache : PlanCache

/-- The run at a stage, with what it has collected. -/
def Stage.run (s : Stage) (report : Report) : Run := ⟨s.store, s.cache, report⟩

def Run.stage (run : Run) : Stage := ⟨run.store, run.cache⟩

/-- Walks through all tasks in order: the rule of a field is run before the walk goes on below. -/
inductive WalkTasks (ctx : Context) (room : Nat) (path : String)
    (below : Value → String → Stage → List FieldVisit → Value → Stage → Prop) :
    List Task → Stage → List FieldVisit → List Value → Stage → Prop
  | nil (s : Stage) : WalkTasks ctx room path below [] s [] [] s
  | plain {t : Task} {ts : List Task} {s s' s'' : Stage} {j js : List FieldVisit} {w : Value}
      {ws : List Value} (hrule : t.rule? = none)
      (hwalk : below t.value (Path.spellFrom path (t.steps ctx)) s j w s')
      (hrest : WalkTasks ctx room path below ts s' js ws s'') :
      WalkTasks ctx room path below (t :: ts) s (j ++ js) (w :: ws) s''
  | field {t : Task} {ts : List Task} {s s' s'' : Stage} {store : Store} {j js : List FieldVisit}
      {w : Value} {ws : List Value} {f : FieldVisit} (hrule : t.rule? = some (f.rule, f.place))
      (hvalue : f.before = t.value) (hacts : f.Acts ctx room s.store store)
      (hwalk : below f.after (Path.spellFrom path (t.steps ctx)) ⟨store, s.cache⟩ j w s')
      (hrest : WalkTasks ctx room path below ts s' js ws s'') :
      WalkTasks ctx room path below (t :: ts) s (f :: (j ++ js)) (w :: ws) s''

/-- A walk through a value with `room` levels left, with the journal of the rules that were run. -/
def Walk (ctx : Context) :
    (room : Nat) → Value → (path : String) → Stage → List FieldVisit → Value → Stage → Prop
  | 0, _, _, _, _, _, _ => False
  | room + 1, v, path, s, journal, w, s' =>
    ∃ opened tasks ws left, v.opening ctx path (s.run .empty) = (opened, .ok tasks) ∧
      WalkTasks ctx room path (Walk ctx room) tasks opened.stage journal ws left ∧
      w = v.refill ws ∧ s' = (v.leave ws (left.run .empty)).stage

/-! ## Reports -/

variable {ctx : Context} {room : Nat} {path : String}

/-- A report with what a journal says. -/
def Report.add (ctx : Context) (r : Report) (journal : List FieldVisit) : Report :=
  ⟨r.issues ++ journal.flatMap FieldVisit.issues,
    r.rejected ++ journal.filterMap (FieldVisit.rejection? ctx)⟩

@[simp] theorem Report.add_nil (r : Report) : r.add ctx [] = r := by
  simp only [add, List.flatMap_nil, List.filterMap_nil, List.append_nil]

@[simp] theorem Report.add_add (r : Report) (j js : List FieldVisit) :
    (r.add ctx j).add ctx js = r.add ctx (j ++ js) := by
  simp only [add, List.flatMap_append, List.filterMap_append, List.append_assoc]

/-- Opening a value takes no notice of the report. -/
theorem opening_report (v : Value) (s : Stage) (report : Report) :
    v.opening ctx path (s.run report) =
      ((v.opening ctx path (s.run .empty)).1.stage.run report,
        (v.opening ctx path (s.run .empty)).2) := by
  cases v with
  | shared c =>
    simp only [Value.opening, Stage.run]
    cases ctx.enter s.store c path <;> rfl
  | _ => rfl

/-- A value that is opened before anything is collected is opened so in any run. -/
theorem opening_run {v : Value} {s : Stage} {opened : Run} {tasks : List Task}
    (h : v.opening ctx path (s.run .empty) = (opened, .ok tasks)) (report : Report) :
    v.opening ctx path (s.run report) = (opened.stage.run report, .ok tasks) := by
  rw [opening_report, h]

theorem leave_report (v : Value) (ws : List Value) (s : Stage) (report : Report) :
    v.leave ws (s.run report) = (v.leave ws (s.run .empty)).stage.run report := by
  cases v with
  | shared c => cases ws <;> rfl
  | _ => rfl

theorem stage_leave (v : Value) (ws : List Value) (run : Run) :
    (v.leave ws run).stage = (v.leave ws (run.stage.run .empty)).stage := by
  have h : v.leave ws run = _ := leave_report v ws run.stage run.report
  rw [h]
  rfl

/-! ## A walk is a visit -/

/-- The validators of a rule see the mapped value, and the hint counts if that is the same. -/
theorem FieldVisit.messages_act (f : FieldVisit) :
    (f.rule.act f.current f.hint).messages = f.rule.check f.seen f.known := by
  rw [Rule.act, seen, known, attempt?]
  cases f.rule.map f.current with
  | none => rfl
  | some w =>
    by_cases h : w.same f.current = true <;> simp [h]

theorem FieldVisit.mapped_act (f : FieldVisit) :
    (f.rule.act f.current f.hint).mapped = f.rule.map f.current := by
  rw [Rule.act]
  cases f.rule.map f.current <;> rfl

/-- What is attempted is a mapped value that is not the same. -/
theorem FieldVisit.attempt?_eq_some {f : FieldVisit} {w : Json} :
    f.attempt? = some w ↔ f.rule.map f.current = some w ∧ w.same f.current = false := by
  rw [attempt?, Option.filter_eq_some_iff, Bool.not_eq_true']

/-- Running a rule on an inspected field collects its issues, and stores what is attempted. -/
theorem FieldVisit.apply_of_inspect {f : FieldVisit} {run : Run}
    (hi : inspect ctx room run.store f.before f.place = .ok (f.hint, f.current)) :
    apply ctx room f.rule f.before f.place run =
      match f.attempt? with
      | none => ⟨f.before, run.addIssues f.issues, none⟩
      | some w => FieldRules.store ctx f.before f.place w (run.addIssues f.issues) := by
  rw [apply, hi]
  simp only [f.messages_act, f.mapped_act]
  change (match f.rule.map f.current with
    | none => (⟨f.before, run.addIssues f.issues, none⟩ : Visit Value)
    | some w => if w.same f.current then ⟨f.before, run.addIssues f.issues, none⟩
      else FieldRules.store ctx f.before f.place w (run.addIssues f.issues)) = _
  cases hmap : f.rule.map f.current with
  | none => rw [attempt?, hmap, Option.filter_none]
  | some w =>
    cases hsame : w.same f.current with
    | true =>
      have hw : f.attempt? = none := by simp [attempt?, hmap, hsame]
      simp only [hw, hsame, if_true]
    | false =>
      simp only [attempt?_eq_some.mpr ⟨hmap, hsame⟩, hsame, Bool.false_eq_true, if_false]

theorem FieldVisit.Acts.inspected {f : FieldVisit} {room : Nat} {s s' : Store}
    (h : f.Acts ctx room s s') :
    inspect ctx room s f.before f.place = .ok (f.hint, f.current) := by
  cases h with
  | kept hi => exact hi
  | stored hi => exact hi
  | refused hi => exact hi

/-- **A rule that was run collects the issues and the rejection of its entry.** -/
theorem FieldVisit.Acts.apply_eq {f : FieldVisit} {s : Stage} {store : Store}
    (h : f.Acts ctx room s.store store) (report : Report) :
    apply ctx room f.rule f.before f.place (s.run report)
      = ⟨f.after, Stage.run ⟨store, s.cache⟩ (report.add ctx [f]), none⟩ := by
  cases h with
  | kept hi hw ha hr =>
    rw [apply_of_inspect hi, hw, ha]
    simp [Report.add, rejection?, hw, Stage.run, Run.addIssues]
  | stored hi hw hread hr =>
    rw [apply_of_inspect hi, hw]
    simp [Report.add, rejection?, hw, hr, Stage.run, Run.addIssues, FieldRules.store, hread]
  | refused hi hw hread ha hr =>
    rw [apply_of_inspect hi, hw, ha]
    simp [Report.add, rejection?, hw, hr, Stage.run, Run.addIssues, Run.reject, FieldRules.store,
      hread]

/-- A rule can be run on a field that can be inspected. -/
theorem exists_acts_of_inspect (rule : Rule) {v : Value} {p : Place} {s : Store} {hint : Hint}
    {current : Json} (hi : inspect ctx room s v p = .ok (hint, current)) :
    ∃ f : FieldVisit, f.rule = rule ∧ f.place = p ∧ f.before = v ∧
      ∃ store, f.Acts ctx room s store := by
  -- The entry but for what the write decides.
  let f : FieldVisit := ⟨rule, p, hint, current, v, v, none⟩
  cases hw : f.attempt? with
  | none => exact ⟨f, rfl, rfl, rfl, _, .kept hi hw rfl rfl⟩
  | some w =>
    cases hread : Value.read ctx.schema p.typ w s with
    | ok read => exact ⟨{ f with after := read.1 }, rfl, rfl, rfl, read.2, .stored hi hw hread rfl⟩
    | error e =>
      exact ⟨{ f with refusal? := some e }, rfl, rfl, rfl, _, .refused hi hw hread rfl rfl⟩

/-- A rule that does not stop the visit was run. -/
theorem exists_acts_of_apply {rule : Rule} {v : Value} {p : Place} {run : Run}
    (h : (apply ctx room rule v p run).stop = none) :
    ∃ f : FieldVisit, f.rule = rule ∧ f.place = p ∧ f.before = v ∧
      ∃ store, f.Acts ctx room run.store store := by
  cases hi : inspect ctx room run.store v p with
  | error e =>
    rw [apply, hi] at h
    cases h
  | ok seen => exact exists_acts_of_inspect rule hi

/-- Tasks that are walked are visited without a stop, if that holds one level below. -/
theorem visitTasks_of_walk
    {below : Value → String → Stage → List FieldVisit → Value → Stage → Prop}
    (hbelow : ∀ {v p s j w s'}, below v p s j w s' → ∀ report,
      visit ctx room v p (s.run report) = ⟨w, s'.run (report.add ctx j), none⟩)
    {ts : List Task} {s s' : Stage} {j : List FieldVisit} {ws : List Value}
    (h : WalkTasks ctx room path below ts s j ws s') (report : Report) :
    visitTasks ctx room path ts (s.run report) = ⟨ws, s'.run (report.add ctx j), none⟩ := by
  induction h generalizing report with
  | nil s => rw [visitTasks, Report.add_nil]
  | @plain t ts s s' s'' j js w ws hrule hwalk hrest ih =>
    have ht : t.visit ctx room path (s.run report) = ⟨w, s'.run (report.add ctx j), none⟩ :=
      (Task.visit_plain hrule _).trans (hbelow hwalk report)
    rw [visitTasks_cons (by rw [ht]), ht, ih, Report.add_add]
    rfl
  | @field t ts s s' s'' store j js w ws f hrule hvalue hacts hwalk hrest ih =>
    have ht : t.visit ctx room path (s.run report)
        = ⟨w, s'.run ((report.add ctx [f]).add ctx j), none⟩ :=
      (Task.visit_ruled hrule (hvalue ▸ hacts.apply_eq report)).trans (hbelow hwalk _)
    rw [visitTasks_cons (by rw [ht]), ht, ih, Report.add_add, Report.add_add]
    rfl

/-- **A walk is a visit that is not stopped**, and the visit collects what the journal says. -/
theorem visit_of_walk {v : Value} {s s' : Stage} {j : List FieldVisit} {w : Value}
    (h : Walk ctx room v path s j w s') (report : Report) :
    visit ctx room v path (s.run report) = ⟨w, s'.run (report.add ctx j), none⟩ := by
  induction room generalizing v path s j w s' report with
  | zero => cases h
  | succ room ih =>
    obtain ⟨opened, tasks, ws, left, hopen, htasks, rfl, rfl⟩ := h
    rw [visit_of_opening (opening_run hopen report), visitTasks_of_walk ih htasks, leave_report]

/-! ## A visit is a walk -/

/-- A task that is visited without a stop: its rule was run, if it has one, and what was in it then
was visited. -/
theorem Task.visit_cases {t : Task} {run : Run} (h : (t.visit ctx room path run).stop = none) :
    (t.rule? = none ∧
      t.visit ctx room path run =
        FieldRules.visit ctx room t.value (Path.spellFrom path (t.steps ctx)) run) ∨
    ∃ f store, t.rule? = some (FieldVisit.rule f, f.place) ∧ f.before = t.value ∧
      f.Acts ctx room run.store store ∧
      t.visit ctx room path run =
        FieldRules.visit ctx room f.after (Path.spellFrom path (t.steps ctx))
          (Stage.run ⟨store, run.cache⟩ (run.report.add ctx [f])) := by
  rw [Task.visit] at h ⊢
  cases hrule : t.rule? with
  | none => exact .inl ⟨rfl, rfl⟩
  | some rp =>
    obtain ⟨rule, p⟩ := rp
    simp only [hrule] at h ⊢
    cases hstop : (apply ctx room rule t.value p run).stop with
    | some e => simp only [Visit.andThen, hstop] at h; cases h
    | none =>
      obtain ⟨f, rfl, rfl, hbefore, store, hacts⟩ := exists_acts_of_apply hstop
      have happly : apply ctx room f.rule f.before f.place run = _ :=
        hacts.apply_eq (s := run.stage) run.report
      refine .inr ⟨f, store, rfl, hbefore, hacts, ?_⟩
      rw [← hbefore, happly]
      rfl

/-- Tasks that are visited without a stop are walked, if that holds one level below. -/
theorem exists_walkTasks
    (hbelow : ∀ v p run, (visit ctx room v p run).stop = none → ∃ j,
      Walk ctx room v p run.stage j (visit ctx room v p run).value
        (visit ctx room v p run).run.stage) :
    ∀ (ts : List Task) (run : Run), (visitTasks ctx room path ts run).stop = none → ∃ j,
      WalkTasks ctx room path (Walk ctx room) ts run.stage j (visitTasks ctx room path ts run).value
        (visitTasks ctx room path ts run).run.stage
  | [], run, _ => ⟨[], .nil _⟩
  | t :: ts, run, h => by
    cases hstop : (t.visit ctx room path run).stop with
    | some e =>
      rw [visitTasks_cons_stop hstop] at h
      cases h
    | none =>
      rw [visitTasks_cons hstop] at h ⊢
      obtain ⟨js, hrest⟩ := exists_walkTasks hbelow ts _ h
      obtain ⟨hrule, ht⟩ | ⟨f, store, hrule, hvalue, hacts, ht⟩ := Task.visit_cases hstop
      · rw [ht] at hstop hrest ⊢
        obtain ⟨j, hj⟩ := hbelow _ _ _ hstop
        exact ⟨_, .plain hrule hj hrest⟩
      · rw [ht] at hstop hrest ⊢
        obtain ⟨j, hj⟩ := hbelow _ _ _ hstop
        exact ⟨_, .field hrule hvalue hacts hj hrest⟩

/-- **A visit that is not stopped is a walk.** -/
theorem exists_walk_of_visit {v : Value} {run : Run} (h : (visit ctx room v path run).stop = none) :
    ∃ j, Walk ctx room v path run.stage j (visit ctx room v path run).value
      (visit ctx room v path run).run.stage := by
  induction room generalizing v path run with
  | zero => cases h
  | succ room ih =>
    cases hopen : v.opening ctx path run with | mk run' opened
    cases opened with
    | error e =>
      rw [visit_of_opening_error hopen] at h
      cases h
    | ok tasks =>
      rw [visit_of_opening hopen] at h ⊢
      obtain ⟨j, hj⟩ := exists_walkTasks (fun v p run => ih) tasks run' h
      have hopen' : v.opening ctx path run = _ := opening_report v run.stage run.report
      obtain ⟨hrun', htasks⟩ := Prod.mk.inj (hopen.symm.trans hopen')
      subst hrun'
      exact ⟨j, _, tasks, _, _, Prod.ext rfl htasks.symm, hj, rfl,
        stage_leave v _ _⟩

/-! ## Whole runs -/

/-- A refusal answers an attempt, and the walk goes on with the value that the field had. -/
theorem FieldVisit.Acts.of_refusal {f : FieldVisit} {s s' : Store} (h : f.Acts ctx room s s')
    {e : Mismatch} (hr : f.refusal? = some e) :
    ∃ w, f.attempt? = some w ∧ Value.read ctx.schema f.place.typ w s = .error e ∧
      f.after = f.before ∧ s' = s := by
  cases h with
  | kept hi hw ha hr' => exact nomatch hr'.symm.trans hr
  | stored hi hw hread hr' => exact nomatch hr'.symm.trans hr
  | refused hi hw hread ha hr' =>
    obtain rfl := Option.some.inj (hr'.symm.trans hr)
    exact ⟨_, hw, hread, ha, rfl⟩

/-- The rule of an entry was run somewhere. -/
def FieldVisit.Happened (ctx : Context) (f : FieldVisit) : Prop :=
  ∃ room s s', f.Acts ctx room s s'

theorem WalkTasks.happened
    {below : Value → String → Stage → List FieldVisit → Value → Stage → Prop}
    (hbelow : ∀ {v p s j w s'}, below v p s j w s' → ∀ f ∈ j, f.Happened ctx)
    {ts : List Task} {s s' : Stage} {j : List FieldVisit} {ws : List Value}
    (h : WalkTasks ctx room path below ts s j ws s') : ∀ f ∈ j, f.Happened ctx := by
  induction h with
  | nil s => nofun
  | plain hrule hwalk hrest ih => exact List.forall_mem_append.mpr ⟨hbelow hwalk, ih⟩
  | field hrule hvalue hacts hwalk hrest ih =>
    exact List.forall_mem_cons.mpr
      ⟨⟨_, _, _, hacts⟩, List.forall_mem_append.mpr ⟨hbelow hwalk, ih⟩⟩

/-- Every entry of a journal is a rule that was run. -/
theorem Walk.happened {v w : Value} {s s' : Stage} {j : List FieldVisit}
    (h : Walk ctx room v path s j w s') : ∀ f ∈ j, f.Happened ctx := by
  induction room generalizing v path s j w s' with
  | zero => cases h
  | succ room ih =>
    obtain ⟨_, _, _, _, _, htasks, _, _⟩ := h
    exact htasks.happened ih

/-- What the journal of a complete run says of its result. -/
structure Engine.Validation.Accounted (r : Engine.Validation) (ctx : Context)
    (journal : List FieldVisit) : Prop where
  /-- The run ends well iff no field refused its mapped value. -/
  accepted : (∃ issues, r.result = .ok issues) ↔ ∀ f ∈ journal, f.refusal? = none
  issues : ∀ issues, r.result = .ok issues → issues = journal.flatMap FieldVisit.issues
  /-- Otherwise it ends with one rejection for each refusal, and with all issues. -/
  rejected : ∀ e, r.result = .error e →
    e = .rejected (journal.filterMap (FieldVisit.rejection? ctx))
      (journal.flatMap FieldVisit.issues) ∧
      journal.filterMap (FieldVisit.rejection? ctx) ≠ []
  /-- A refusal answers an attempt to write a mapped value that is another one, and is told of with
  that value and the path of the field.  The validators see that value, and the walk goes on with
  the value before. -/
  refused : ∀ f ∈ journal, ∀ e, f.refusal? = some e → f.after = f.before ∧
    ∃ w, f.rule.map f.current = some w ∧ w.same f.current = false ∧ f.seen = w ∧ f.rejection? ctx =
      some (.unstorable f.place.path (f.place.typ.typeName ctx.schema) w.display e.message)

theorem FieldVisit.Acts.rejection_eq_none_iff {f : FieldVisit} {s s' : Store}
    (h : f.Acts ctx room s s') : f.rejection? ctx = none ↔ f.refusal? = none := by
  cases hr : f.refusal? with
  | none => simp [rejection?, hr]
  | some e =>
    obtain ⟨w, hw, _⟩ := h.of_refusal hr
    simp [rejection?, hr, hw]

/-- A report of a whole walk ends a run as its journal says. -/
theorem accounted_of_walk {r : Engine.Validation} {journal : List FieldVisit}
    (hj : ∀ f ∈ journal, f.Happened ctx)
    (hr : r.result = (Report.empty.add ctx journal).result) : r.Accounted ctx journal := by
  have hnone : journal.filterMap (FieldVisit.rejection? ctx) = []
      ↔ ∀ f ∈ journal, f.refusal? = none := by
    rw [List.filterMap_eq_nil_iff]
    refine forall₂_congr fun f hf => ?_
    obtain ⟨_, _, _, hacts⟩ := hj f hf
    exact hacts.rejection_eq_none_iff
  have hok (h : journal.filterMap (FieldVisit.rejection? ctx) = []) :
      r.result = .ok (journal.flatMap FieldVisit.issues) := by
    simp only [hr, Report.result, Report.add, Report.empty, List.nil_append, h, List.isEmpty_nil,
      if_true]
  have herr (h : journal.filterMap (FieldVisit.rejection? ctx) ≠ []) :
      r.result = .error (.rejected (journal.filterMap (FieldVisit.rejection? ctx))
        (journal.flatMap FieldVisit.issues)) := by
    simp only [hr, Report.result, Report.add, Report.empty, List.nil_append, List.isEmpty_iff, h,
      if_false]
  refine ⟨⟨?_, fun h => ⟨_, hok (hnone.mpr h)⟩⟩, fun issues h => ?_, fun e h => ?_,
    fun f hf e he => ?_⟩
  · rintro ⟨issues, h⟩
    refine hnone.mp ?_
    by_contra hne
    cases h.symm.trans (herr hne)
  · by_cases hrej : journal.filterMap (FieldVisit.rejection? ctx) = []
    · exact Except.ok.inj (h.symm.trans (hok hrej))
    · cases h.symm.trans (herr hrej)
  · by_cases hrej : journal.filterMap (FieldVisit.rejection? ctx) = []
    · cases h.symm.trans (hok hrej)
    · exact ⟨Except.error.inj (h.symm.trans (herr hrej)), hrej⟩
  · obtain ⟨_, _, _, hacts⟩ := hj f hf
    obtain ⟨w, hw, _, hafter, _⟩ := hacts.of_refusal he
    obtain ⟨hmap, hsame⟩ := FieldVisit.attempt?_eq_some.mp hw
    refine ⟨hafter, w, hmap, hsame, by rw [FieldVisit.seen, hmap, Option.getD_some], ?_⟩
    rw [FieldVisit.rejection?, hw, he]
    rfl

/-- A run whose visit is not stopped is a walk of the whole value, and ends as its journal says. -/
theorem exists_accounted {e : Engine} {schema : Schema} {v : Value} {store : Store}
    (rootType : Typ) (hv : ∀ l, v ≠ .leaf l) (hstop : (e.visitRoot schema v store).stop = none) :
    ∃ journal,
      Walk (e.context schema) (e.context schema).room v "" ⟨store, e.cache⟩ journal
        (e.validate schema rootType v store).value
        ⟨(e.validate schema rootType v store).store,
          (e.validate schema rootType v store).engine.cache⟩ ∧
      (e.validate schema rootType v store).Accounted (e.context schema) journal := by
  let o := e.visitRoot schema v store
  obtain ⟨journal, hwalk⟩ := exists_walk_of_visit hstop
  have hvisit : o = _ := visit_of_walk hwalk .empty
  have hresult : (e.validate schema rootType v store).result = o.run.report.result :=
    e.result_of_none schema rootType store hv hstop
  obtain ⟨hvalue, hstore⟩ := e.left_validate schema rootType store hv
  have hcache : (e.validate schema rootType v store).engine.cache = o.run.cache :=
    e.cache_validate schema rootType store v
  refine ⟨journal, ?_, accounted_of_walk hwalk.happened (by rw [hresult, hvisit]; rfl)⟩
  rw [show (e.validate schema rootType v store).value = o.value from hvalue,
    show (e.validate schema rootType v store).store = o.run.store from hstore, hcache]
  exact hwalk

/-- **What a run writes back, and what it rejects.**  A run is complete or stopped.  A complete one
is a walk of the whole value, whatever fields refuse, and its result is that of the journal; a
stopped one ends with the error that stopped it, and no walk goes through the value.  Every error
is of exactly one kind. -/
theorem writes_accounted (e : Engine) (schema : Schema) (rootType : Typ) (v : Value)
    (store : Store) :
    let r := e.validate schema rootType v store
    let ctx := e.context schema
    ((∃ journal, (∀ l, v ≠ .leaf l) ∧
        Walk ctx ctx.room v "" ⟨store, e.cache⟩ journal r.value ⟨r.store, r.engine.cache⟩ ∧
        r.Accounted ctx journal) ∨
      ∃ err, r.result = .error err ∧ err.issues? = none ∧ ((∃ l, v = .leaf l) ∨
        ∀ journal w s, ¬ Walk ctx ctx.room v "" ⟨store, e.cache⟩ journal w s)) ∧
    ∀ err, r.result = .error err → err.isConfiguration = !err.isTraversal := by
  intro r ctx
  by_cases hleaf : ∃ l, v = .leaf l
  · obtain ⟨l, rfl⟩ := hleaf
    refine ⟨.inr ⟨_, rfl, rfl, .inl ⟨l, rfl⟩⟩, fun err h => ?_⟩
    rw [← Except.error.inj h]
    rfl
  · have hne : ∀ l, v ≠ .leaf l := fun l h => hleaf ⟨l, h⟩
    let o := e.visitRoot schema v store
    cases hstop : o.stop with
    | some err =>
      have hresult : r.result = .error err := e.result_of_stop schema rootType store hne hstop
      have herr : err.Stops := stops_of_visit hstop
      refine ⟨.inr ⟨err, hresult, herr.issues?_eq_none, .inr fun journal w s hwalk => ?_⟩,
        fun err' h => ?_⟩
      · have hvisit : o = _ := visit_of_walk hwalk .empty
        rw [hvisit] at hstop
        cases hstop
      · rw [← Except.error.inj (hresult.symm.trans h)]
        exact herr.isConfiguration_eq
    | none =>
      obtain ⟨journal, hwalk, hacc⟩ := exists_accounted rootType hne hstop
      refine ⟨.inl ⟨journal, hne, hwalk, hacc⟩, fun err h => ?_⟩
      rw [(hacc.rejected err h).1]
      rfl

end FieldRules
