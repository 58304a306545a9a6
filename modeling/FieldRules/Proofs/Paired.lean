import FieldRules.Proofs.Pairing

/-!
# Proofs/Paired — two runs side by side

Runs that are paired go on side by side (`visit_paired`): they write the same values, up to the
numbers of cells, they stop together or not at all, and their issues, rejections and errors differ
in their paths and in the depth limit only.  It is up to the mappers to write good values.  The
turns that a run takes down to what it tells of are those of its tasks, and of its guards from there
(`Takes`).
-/

namespace FieldRules

/-! ## What is written -/

/-- A value that the rule of a moment writes, and the store with its new cells. -/
def Moment.Writes (ctx : Context) (m : Moment) (w : Value) (cells : Store) : Prop :=
  ∃ hint current mapped, inspect ctx m.room m.store m.value m.place = .ok (hint, current) ∧
    (m.rule.act current hint).mapped = some mapped ∧ mapped.same current = false ∧
    Value.read ctx.schema m.place.typ mapped m.store = .ok (w, cells)

/-- What a moment writes, if anything, is spelled with certain records and keys. -/
def Moment.WritesSpelled (ctx : Context) (records keys : String → Prop) (m : Moment) : Prop :=
  ∀ w cells, m.Writes ctx w cells → w.Spelled records keys ∧
    ∀ c, m.store.cells.length ≤ c → (cells.cell c).content.Spelled records keys

theorem Moment.writesSpelled_all (ctx : Context) (m : Moment) :
    m.WritesSpelled ctx (fun _ => True) fun _ => True :=
  fun w cells _ => ⟨w.spelled_all, fun c _ => (cells.cell c).content.spelled_all⟩

/-- A task meets a moment: its own, or one below. -/
inductive Task.Meets (ctx : Context) (room : Nat) (path : String) (t : Task) (run : Run) :
    Moment → Prop
  | own {rule : Rule} {p : Place} (hrule : t.rule? = some (rule, p)) :
      Task.Meets ctx room path t run ⟨room, run.store, rule, t.value, p⟩
  | plain {m : Moment} (hrule : t.rule? = none)
      (h : FieldRules.Meets ctx room t.value (Path.spellFrom path (t.steps ctx)) run m) :
      Task.Meets ctx room path t run m
  | field {rule : Rule} {p : Place} {w : Value} {run' : Run} {m : Moment}
      (hrule : t.rule? = some (rule, p))
      (happly : apply ctx room rule t.value p run = ⟨w, run', none⟩)
      (h : FieldRules.Meets ctx room w (Path.spellFrom path (t.steps ctx)) run' m) :
      Task.Meets ctx room path t run m

/-- A visit meets what the tasks meet that it comes to. -/
theorem ComesTo.meets {ctx : Context} {room : Nat} {path : String} {v : Value} {run run' : Run}
    {t : Task} {m : Moment} (hcomes : ComesTo ctx room path v run t run')
    (h : t.Meets ctx room path run' m) : Meets ctx (room + 1) v path run m := by
  cases h with
  | own hrule => exact .own hcomes hrule
  | plain hrule h => exact .plain hcomes hrule h
  | field hrule happly h => exact .field hcomes hrule happly h

/-! ## Where a visit goes -/

/-- A visit takes turns down from a value: to one of its tasks, and on from there.  Before the rule
of a task is run, a guard goes down the routes of the part as it is then; after it, the visit goes
down what the rule made of the part. -/
inductive Takes (ctx : Context) : (room : Nat) → Value → (path : String) → Run → List Turn → Prop
  | here {room : Nat} {v : Value} {path : String} {run : Run} : Takes ctx room v path run []
  | guard {room : Nat} {v w : Value} {path : String} {run run' : Run} {t : Task} {rule : Rule}
      {p : Place} {sites : List Site} {cells : List CellId}
      (hcomes : ComesTo ctx room path v run t run') (hrule : t.rule? = some (rule, p))
      (hroute : Route ctx.schema run'.store t.value sites cells w) (hlen : sites.length ≤ room) :
      Takes ctx (room + 1) v path run (t.turn :: sites.map Site.turn)
  | plain {room : Nat} {v : Value} {path : String} {run run' : Run} {t : Task} {turns : List Turn}
      (hcomes : ComesTo ctx room path v run t run') (hrule : t.rule? = none)
      (hbelow : Takes ctx room t.value (Path.spellFrom path (t.steps ctx)) run' turns) :
      Takes ctx (room + 1) v path run (t.turn :: turns)
  | field {room : Nat} {v w : Value} {path : String} {run run' run'' : Run} {t : Task} {rule : Rule}
      {p : Place} {turns : List Turn} (hcomes : ComesTo ctx room path v run t run')
      (hrule : t.rule? = some (rule, p))
      (happly : apply ctx room rule t.value p run' = ⟨w, run'', none⟩)
      (hbelow : Takes ctx room w (Path.spellFrom path (t.steps ctx)) run'' turns) :
      Takes ctx (room + 1) v path run (t.turn :: turns)

/-- The turns that are taken to a task and below it. -/
inductive Task.Takes (ctx : Context) (room : Nat) (path : String) (t : Task) (run : Run) :
    List Turn → Prop
  | guard {rule : Rule} {p : Place} {w : Value} {sites : List Site} {cells : List CellId}
      (hrule : t.rule? = some (rule, p)) (hroute : Route ctx.schema run.store t.value sites cells w)
      (hlen : sites.length ≤ room) : Task.Takes ctx room path t run (t.turn :: sites.map Site.turn)
  | plain {turns : List Turn} (hrule : t.rule? = none)
      (h : FieldRules.Takes ctx room t.value (Path.spellFrom path (t.steps ctx)) run turns) :
      Task.Takes ctx room path t run (t.turn :: turns)
  | field {rule : Rule} {p : Place} {w : Value} {run' : Run} {turns : List Turn}
      (hrule : t.rule? = some (rule, p))
      (happly : apply ctx room rule t.value p run = ⟨w, run', none⟩)
      (h : FieldRules.Takes ctx room w (Path.spellFrom path (t.steps ctx)) run' turns) :
      Task.Takes ctx room path t run (t.turn :: turns)

/-- A visit takes the turns that are taken to a task that it comes to. -/
theorem ComesTo.takes {ctx : Context} {room : Nat} {path : String} {v : Value} {run run' : Run}
    {t : Task} {turns : List Turn} (hcomes : ComesTo ctx room path v run t run')
    (h : t.Takes ctx room path run' turns) : Takes ctx (room + 1) v path run turns := by
  cases h with
  | guard hrule hroute hlen => exact .guard hcomes hrule hroute hlen
  | plain hrule h => exact .plain hcomes hrule h
  | field hrule happly h => exact .field hcomes hrule happly h

/-- Of some tasks, those before one are visited and do not stop the visit. -/
def TasksComeTo (ctx : Context) (room : Nat) (path : String) (ts : List Task) (run : Run) (t : Task)
    (run' : Run) : Prop :=
  ∃ before after, ts = before ++ t :: after ∧ (visitTasks ctx room path before run).stop = none ∧
    (visitTasks ctx room path before run).run = run'

namespace TasksComeTo

variable {ctx : Context} {room : Nat} {path : String} {t u : Task} {ts : List Task} {run run' : Run}

theorem head (t : Task) (ts : List Task) (run : Run) :
    TasksComeTo ctx room path (t :: ts) run t run := ⟨[], ts, rfl, rfl, rfl⟩

theorem tail (ho : (t.visit ctx room path run).stop = none)
    (h : TasksComeTo ctx room path ts (t.visit ctx room path run).run u run') :
    TasksComeTo ctx room path (t :: ts) run u run' := by
  obtain ⟨before, after, rfl, hstop, hrun⟩ := h
  refine ⟨t :: before, after, rfl, ?_, ?_⟩
  · rw [visitTasks_cons ho]
    exact hstop
  · rw [visitTasks_cons ho]
    exact hrun

/-- A visit comes to the tasks that its tasks come to. -/
theorem comesTo {v : Value} {opened : Run} (hopen : v.opening ctx path run = (opened, .ok ts))
    (h : TasksComeTo ctx room path ts opened t run') : ComesTo ctx room path v run t run' := by
  obtain ⟨before, after, rfl, hstop, hrun⟩ := h
  exact ⟨opened, before, after, hopen, hstop, hrun⟩

end TasksComeTo

/-! ## Slots and cells -/

/-- A cell that was held last is released. -/
theorem Store.release_of_held {s : Store} {c : CellId} {held : List CellId}
    (h : s.held = c :: held) : s.release c = ⟨s.cells, held⟩ := by
  rw [Store.release, h, List.erase_cons_head]

/-- A slot has a field of the plan. -/
theorem planned_of_mem_slotsOf {slot : Slot} :
    ∀ {ps : List PlannedField} {fs : List RecordField} {vs : List Value},
      slot ∈ slotsOf ps fs vs → slot.planned ∈ ps
  | _ :: ps, _ :: fs, _ :: vs, h => by
    obtain rfl | h := List.mem_cons.mp h
    · exact List.mem_cons_self
    · exact List.mem_cons_of_mem _ (planned_of_mem_slotsOf h)

/-- A slot has the type of a field, and one of the values. -/
theorem of_mem_slotsOf {slot : Slot} :
    ∀ {ps : List PlannedField} {fs : List RecordField} {vs : List Value},
      slot ∈ slotsOf ps fs vs → (∃ g ∈ fs, slot.typ = g.typ) ∧ slot.value ∈ vs
  | _ :: ps, g :: fs, v :: vs, h => by
    rcases List.mem_cons.mp h with rfl | h
    · exact ⟨⟨g, List.mem_cons_self, rfl⟩, List.mem_cons_self⟩
    · obtain ⟨⟨g', hg', htyp⟩, hv⟩ := of_mem_slotsOf h
      exact ⟨⟨g', List.mem_cons_of_mem g hg', htyp⟩, List.mem_cons_of_mem v hv⟩

theorem slotsOf_map_rename {f : CellId → CellId} :
    ∀ (ps : List PlannedField) (fs : List RecordField) (vs : List Value),
      slotsOf ps fs (vs.map (Value.rename f))
        = (slotsOf ps fs vs).map fun slot => { slot with value := slot.value.rename f }
  | [], _, _ => rfl
  | _ :: _, [], _ => rfl
  | _ :: _, _ :: _, [] => rfl
  | _ :: ps, _ :: fs, _ :: vs => by
    rw [List.map_cons, slotsOf, slotsOf, List.map_cons, slotsOf_map_rename ps fs vs]

/-- A visit releases what it holds. -/
theorem held_visit (ctx : Context) (room : Nat) (v : Value) (path : String) (run : Run) :
    (visit ctx room v path run).run.store.held = run.store.held :=
  (kept_store.visit room v path run).1

namespace Pairing

variable {P : Pairing} {v v' : Value} {vs vs' : List Value} {s s' : Store} {p q : String}
  {room : Nat}

/-! ## Runs and visits -/

/-- Two lists that have grown by elements that are related. -/
def Grown {α : Type} (R : α → α → Prop) (before before' now now' : List α) : Prop :=
  ∃ new new', now = before ++ new ∧ now' = before' ++ new' ∧ List.Forall₂ R new new'

theorem Grown.refl {α : Type} {R : α → α → Prop} (before before' : List α) :
    Grown R before before' before before' :=
  ⟨[], [], before.append_nil.symm, before'.append_nil.symm, .nil⟩

/-- Lists that have grown from one list by the same elements are the same. -/
theorem Grown.eq {α : Type} {R : α → α → Prop} {before now now' : List α}
    (h : Grown R before before now now') (hR : ∀ a b, R a b → b = a) : now' = now := by
  obtain ⟨new, new', rfl, rfl, hnew⟩ := h
  induction hnew with
  | nil => rfl
  | cons hab _ ih => rw [hR _ _ hab, List.append_cancel_left ih]

theorem Grown.append {α : Type} {R : α → α → Prop} {before before' now now' as bs : List α}
    (h : Grown R before before' now now') (hab : List.Forall₂ R as bs) :
    Grown R before before' (now ++ as) (now' ++ bs) := by
  obtain ⟨new, new', rfl, rfl, hnew⟩ := h
  exact ⟨new ++ as, new' ++ bs, List.append_assoc _ _ _, List.append_assoc _ _ _,
    List.rel_append hnew hab⟩

/-- Two runs with stores that are alike and plans that are paired, that have reported the same at
paired paths. -/
structure Runs (P : Pairing) (run run' : Run) : Prop where
  store : run.store.Alike P.types P.live P.rename run'.store
  sound : P.Sound run.store
  plans : P.plans run.cache run'.cache
  issues : Grown (Issue.Paired P.Told) P.before.issues P.before'.issues run.report.issues
    run'.report.issues
  rejected : Grown (RuleError.Paired P.Told) P.before.rejected P.before'.rejected
    run.report.rejected run'.report.rejected

/-- Two visits that leave related values and paired runs, and both go through or stop with paired
errors.  The first one leaves all cells that are not live as they were. -/
structure Visits (P : Pairing) {α : Type} (rel : α → α → Prop) (start : Store) (o o' : Visit α) :
    Prop where
  value : rel o.value o'.value
  runs : P.Runs o.run o'.run
  stop : Option.Rel P.Errors o.stop o'.stop
  outside : ∀ c, ¬ P.live c → o.run.store.cell c = start.cell c

variable {run run' : Run}

/-- Without any renaming, values that are paired are the same. -/
theorem Values.eq (h : P.Values v v') (hid : P.rename = id) : v' = v := by
  rw [h.2, hid, Value.rename_id]

/-- Paired visits are both stopped, or none is. -/
theorem Visits.stop_cases {α : Type} {rel : α → α → Prop} {start : Store} {o o' : Visit α}
    (h : P.Visits rel start o o') :
    (o.stop = none ∧ o'.stop = none) ∨
      ∃ e e', o.stop = some e ∧ o'.stop = some e' ∧ P.Errors e e' := by
  have hstop := h.stop
  generalize o.stop = stop at hstop ⊢
  generalize o'.stop = stop' at hstop ⊢
  cases hstop with
  | none => exact .inl ⟨rfl, rfl⟩
  | some he => exact .inr ⟨_, _, rfl, rfl, he⟩

/-- Without any renaming, paired visits leave the same in all cells, if the second one as well
leaves those that are not live as they were. -/
theorem Visits.store_eq {α : Type} {rel : α → α → Prop} {start : Store} {o o' : Visit α}
    (h : P.Visits rel start o o') (hid : P.rename = id)
    (houtside : ∀ c, ¬ P.live c → o'.run.store.cell c = start.cell c) :
    o'.run.store = ⟨o.run.store.cells, o'.run.store.held⟩ := by
  have halike := h.runs.store
  rw [hid] at halike
  refine Store.eq_of_cell rfl (halike.shift 0).symm fun c => ?_
  by_cases hc : P.live c
  · exact halike.cell_eq hc
  · exact (houtside c hc).trans (h.outside c hc).symm

theorem Visits.andThen {rel : Value → Value → Prop} {start : Store} {o o' : Visit Value}
    {next next' : Value → Run → Visit Value} (h : P.Visits rel start o o')
    (hnext : o.stop = none →
      P.Visits rel o.run.store (next o.value o.run) (next' o'.value o'.run)) :
    P.Visits rel start (o.andThen next) (o'.andThen next') := by
  rw [Visit.andThen, Visit.andThen]
  obtain ⟨ho, ho'⟩ | ⟨e, e', ho, ho', _⟩ := h.stop_cases
  · rw [ho, ho']
    have hn := hnext ho
    exact ⟨hn.value, hn.runs, hn.stop, fun c hc => (hn.outside c hc).trans (h.outside c hc)⟩
  · rw [ho, ho']
    exact h

/-- A visit that does nothing but stop is paired with another one. -/
theorem Runs.stopped (hrun : P.Runs run run') (hv : P.Values v v') {e e' : Error}
    (he : P.Errors e e') : P.Visits P.Values run.store ⟨v, run, some e⟩ ⟨v', run', some e'⟩ :=
  ⟨hv, hrun, .some he, fun _ _ => rfl⟩

theorem Runs.unchanged (hrun : P.Runs run run') (hv : P.Values v v') :
    P.Visits P.Values run.store ⟨v, run, none⟩ ⟨v', run', none⟩ :=
  ⟨hv, hrun, .none, fun _ _ => rfl⟩

theorem Told.eq (hpaths : P.paths = Eq) (h : P.Told p q) : p = q := by
  have hpq := h.1
  rwa [hpaths] at hpq

/-- Issues and rejections that are told at the same paths are the same. -/
theorem issue_eq_of_told (hpaths : P.paths = Eq) {i i' : Issue} (h : i.Paired P.Told i') :
    i' = i := by
  cases h with
  | mk message h value => rw [h.eq hpaths]

theorem rejection_eq_of_told (hpaths : P.paths = Eq) {e e' : RuleError}
    (h : e.Paired P.Told e') : e' = e := by
  cases h with
  | unstorable h => rw [h.eq hpaths]

/-- Runs along the same paths that start with the same report go on with the same. -/
theorem Runs.report_eq (h : P.Runs run run') (hpaths : P.paths = Eq)
    (hbefore : P.before' = P.before) : run'.report = run.report := by
  have hissues := h.issues
  have hrejected := h.rejected
  rw [hbefore] at hissues hrejected
  exact (congrArg₂ Report.mk (hissues.eq fun _ _ => issue_eq_of_told hpaths)
    (hrejected.eq fun _ _ => rejection_eq_of_told hpaths) :)

theorem Runs.addIssues (h : P.Runs run run') (htold : P.Told p q) (messages : List String)
    (value : Json) :
    P.Runs (run.addIssues (messages.map fun m => ⟨m, p, value⟩))
      (run'.addIssues (messages.map fun m => ⟨m, q, value⟩)) := by
  refine ⟨h.store, h.sound, h.plans, h.issues.append ?_, h.rejected⟩
  rw [List.forall₂_map_left_iff, List.forall₂_map_right_iff, List.forall₂_same]
  exact fun m _ => .mk m htold value

theorem Runs.reject (h : P.Runs run run') {e e' : RuleError} (he : e.Paired P.Told e') :
    P.Runs (run.reject e) (run'.reject e') :=
  ⟨h.store, h.sound, h.plans, h.issues, h.rejected.append (.cons he .nil)⟩

/-! ## Rules -/

/-- A mapped value that is read is good in the first run, and the same in the second one. -/
theorem read_paired {t : Typ} (ht : t.Within P.types) (mapped : Json) (hs : P.Sound s)
    (halike : s.Alike P.types P.live P.rename s')
    (hspelled : ∀ w cells, Value.read P.ctx.schema t mapped s = .ok (w, cells) →
      w.Spelled P.records P.keys ∧
        ∀ c, s.cells.length ≤ c → (cells.cell c).content.Spelled P.records P.keys) :
    (∃ e, Value.read P.ctx.schema t mapped s = .error e ∧
      Value.read P.ctx.schema t mapped s' = .error e) ∨
    ∃ w w' cells cells', Value.read P.ctx.schema t mapped s = .ok (w, cells) ∧
      Value.read P.ctx.schema t mapped s' = .ok (w', cells') ∧ P.Values w w' ∧
      cells.Alike P.types P.live P.rename cells' ∧ P.Sound cells ∧
      ∀ c, ¬ P.live c → cells.cell c = s.cell c := by
  have hread := read_alike P.closed ht mapped halike
  generalize hx : Value.read P.ctx.schema t mapped s = x at hread hspelled ⊢
  generalize Value.read P.ctx.schema t mapped s' = x' at hread ⊢
  cases hread with
  | error e => exact .inl ⟨e, rfl, rfl⟩
  | @ok w w' cells cells' hw hcells =>
    obtain ⟨hspell, hnew⟩ := hspelled w cells rfl
    have hold {c : CellId} (hlt : c < s.cells.length) : cells.cell c = s.cell c :=
      Store.cell_of_prefix (made_read hx).grown.cells hlt
    refine .inr ⟨w, w', cells, cells', rfl, rfl, ⟨⟨hw.1, hspell⟩, hw.2⟩, hcells, fun c hc => ?_,
      fun c hc => hold (Nat.lt_of_not_le fun hge => hc (halike.fresh c hge))⟩
    refine ⟨hcells.within c hc, ?_⟩
    rcases Nat.lt_or_ge c s.cells.length with hlt | hge
    · rw [hold hlt]
      exact (hs c hc).spelled
    · exact hnew c hge

theorem store_paired {place place' : Place} (hv : P.Values v v') (hplace : P.Places place place')
    (htold : P.Told place.path place'.path) (mapped : Json) (hrun : P.Runs run run')
    (hspelled : ∀ w cells, Value.read P.ctx.schema place.typ mapped run.store = .ok (w, cells) →
      w.Spelled P.records P.keys ∧
        ∀ c, run.store.cells.length ≤ c → (cells.cell c).content.Spelled P.records P.keys) :
    P.Visits P.Values run.store (store P.ctx v place mapped run)
      (store P.other v' place' mapped run') := by
  have hschema : P.other.schema = P.ctx.schema := rfl
  rw [store, store, hschema, hplace.typ]
  obtain ⟨e, hr, hr'⟩ | ⟨w, w', cells, cells', hr, hr', hw, hcells, hsound, hout⟩ :=
    read_paired hplace.within mapped hrun.sound hrun.store hspelled
  · simp only [hr, hr']
    exact (hrun.reject (.unstorable htold _ _ _)).unchanged hv
  · simp only [hr, hr']
    exact ⟨hw, ⟨hcells, hsound, hrun.plans, hrun.issues, hrun.rejected⟩, .none, hout⟩

/-- **A rule does the same in both runs**, if what it writes is good. -/
theorem apply_paired {place place' : Place} (rule : Rule) (hv : P.Values v v')
    (hplace : P.Places place place') (hrun : P.Runs run run')
    (hwrites : Moment.WritesSpelled P.ctx P.records P.keys ⟨room, run.store, rule, v, place⟩)
    (hguards : P.Guards room run.store v place.path place'.path) :
    P.Visits P.Values run.store (apply P.ctx room rule v place run)
      (apply P.other room rule v' place' run') := by
  have hseen : P.Results Eq (inspect P.ctx room run.store v place)
    (inspect P.other room run'.store v' place') :=
    inspect_paired hv hrun.sound hrun.store hplace hguards
  have htold : P.Told place.path place'.path := ⟨hplace.path, hguards.here⟩
  rw [apply, apply]
  generalize hx : inspect P.ctx room run.store v place = x at hseen ⊢
  generalize inspect P.other room run'.store v' place' = y at hseen ⊢
  cases hseen with
  | error he => exact hrun.stopped hv he
  | @ok seen _ hsame =>
    obtain rfl := hsame
    obtain ⟨hint, form⟩ := seen
    have hissues (value : Json) :=
      hrun.addIssues htold (rule.act form hint).messages value
    simp only
    cases hmapped : (rule.act form hint).mapped with
    | none => exact (hissues form).unchanged hv
    | some w =>
      simp only
      split
      · exact (hissues w).unchanged hv
      · next hdiffers =>
        exact store_paired hv hplace htold w (hissues w) fun u cells hread =>
          hwrites u cells ⟨hint, form, w, hx, hmapped, Bool.eq_false_iff.mpr hdiffers, hread⟩

/-! ## Tasks -/

/-- The same task below paired paths. -/
structure Tasks (P : Pairing) (p q : String) (t t' : Task) : Prop where
  value : P.Values t.value t'.value
  turn : t'.turn = t.turn
  path : P.paths (Path.spellFrom p (t.steps P.ctx)) (Path.spellFrom q (t'.steps P.other))
  rule : Option.Rel (fun r r' => r'.1 = r.1 ∧ P.Places r.2 r'.2 ∧
    r.2.path = Path.spellFrom p (t.steps P.ctx) ∧ r'.2.path = Path.spellFrom q (t'.steps P.other))
    t.rule? t'.rule?

/-- A visit from two paths is allowed: it writes good values only, and all paths are walked to which
it takes turns. -/
structure Allows (P : Pairing) (room : Nat) (v : Value) (p q : String) (run : Run) : Prop where
  writes : ∀ m, Meets P.ctx room v p run m → m.WritesSpelled P.ctx P.records P.keys
  walked : ∀ turns, Takes P.ctx room v p run turns → P.Leads p q turns

/-- A task below two paths is allowed. -/
structure AllowsTask (P : Pairing) (room : Nat) (p q : String) (t : Task) (run : Run) : Prop where
  writes : ∀ m, t.Meets P.ctx room p run m → m.WritesSpelled P.ctx P.records P.keys
  walked : ∀ turns, t.Takes P.ctx room p run turns → P.Leads p q turns

theorem Allows.task {t : Task} (h : P.Allows (room + 1) v p q run)
    (hcomes : ComesTo P.ctx room p v run t run') : P.AllowsTask room p q t run' :=
  ⟨fun m hm => h.writes m (hcomes.meets hm), fun turns ht => h.walked turns (hcomes.takes ht)⟩

namespace AllowsTask

variable {t t' : Task} {rule : Rule} {place : Place}

theorem plain (h : P.AllowsTask room p q t run) (hrule : t.rule? = none)
    (hturn : t'.turn = t.turn) :
    P.Allows room t.value (Path.spellFrom p (t.steps P.ctx)) (Path.spellFrom q (t'.steps P.other))
      run := by
  refine ⟨fun m hm => h.writes m (.plain hrule hm), fun turns hturns => ?_⟩
  rw [Task.steps, Task.steps, hturn]
  exact leads_cons_iff.mp (h.walked _ (.plain hrule hturns))

theorem field (h : P.AllowsTask room p q t run) (hrule : t.rule? = some (rule, place))
    {w : Value} (happly : apply P.ctx room rule t.value place run = ⟨w, run', none⟩)
    (hturn : t'.turn = t.turn) :
    P.Allows room w (Path.spellFrom p (t.steps P.ctx)) (Path.spellFrom q (t'.steps P.other))
      run' := by
  refine ⟨fun m hm => h.writes m (.field hrule happly hm), fun turns hturns => ?_⟩
  rw [Task.steps, Task.steps, hturn]
  exact leads_cons_iff.mp (h.walked _ (.field hrule happly hturns))

theorem guards (h : P.AllowsTask room p q t run) (hrule : t.rule? = some (rule, place))
    (hturn : t'.turn = t.turn) :
    P.Guards room run.store t.value (Path.spellFrom p (t.steps P.ctx))
      (Path.spellFrom q (t'.steps P.other)) := by
  intro sites cells w hroute hlen
  rw [Task.steps, Task.steps, hturn]
  exact leads_cons_iff.mp (h.walked _ (.guard hrule hroute hlen))

end AllowsTask

/-- Values of the second run are visited as those of the first one are, with some room. -/
def VisitsPaired (P : Pairing) (room : Nat) : Prop :=
  ∀ (v v' : Value) (p q : String) (run run' : Run), P.Values v v' → P.paths p q →
    P.Runs run run' → P.Allows room v p q run →
    P.Visits P.Values run.store (visit P.ctx room v p run) (visit P.other room v' q run')

theorem task_paired (hvisit : P.VisitsPaired room) {t t' : Task} (ht : P.Tasks p q t t')
    (hrun : P.Runs run run') (hallows : P.AllowsTask room p q t run) :
    P.Visits P.Values run.store (t.visit P.ctx room p run) (t'.visit P.other room q run') := by
  have hrule := ht.rule
  rw [Task.visit, Task.visit]
  cases htrule : t.rule? with
  | none =>
    rw [htrule] at hrule
    generalize t'.rule? = rule?' at hrule ⊢
    cases hrule
    exact hvisit _ _ _ _ _ _ ht.value ht.path hrun (hallows.plain htrule ht.turn)
  | some r =>
    rw [htrule] at hrule
    generalize t'.rule? = rule?' at hrule ⊢
    cases hrule with
    | @some _ r' hr =>
      obtain ⟨rule, place⟩ := r
      obtain ⟨rule', place'⟩ := r'
      obtain ⟨rfl, hplace, hpath, hpath'⟩ := hr
      have hguards : P.Guards room run.store t.value place.path place'.path := by
        rw [hpath, hpath']
        exact hallows.guards htrule ht.turn
      have hwrites := hallows.writes _ (.own htrule)
      have happly := apply_paired rule' ht.value hplace hrun hwrites hguards
      refine happly.andThen fun hstop => ?_
      refine hvisit _ _ _ _ _ _ happly.value ht.path happly.runs ?_
      refine hallows.field htrule ?_ ht.turn
      rw [← hstop]

/-- **Tasks are visited side by side.** -/
theorem visitTasks_paired (hvisit : P.VisitsPaired room) {ts ts' : List Task}
    (hts : List.Forall₂ (P.Tasks p q) ts ts') (hrun : P.Runs run run')
    (hallows : ∀ t opened, TasksComeTo P.ctx room p ts run t opened →
      P.AllowsTask room p q t opened) :
    P.Visits P.AllValues run.store (visitTasks P.ctx room p ts run)
      (visitTasks P.other room q ts' run') := by
  induction hts generalizing run run' with
  | nil => exact ⟨⟨nofun, rfl⟩, hrun, .none, fun _ _ => rfl⟩
  | @cons t t' ts ts' ht hts ih =>
    have htask := task_paired hvisit ht hrun (hallows t run (.head t ts run))
    obtain ⟨ho, ho'⟩ | ⟨e, e', ho, ho', he⟩ := htask.stop_cases
    · have hrest := ih htask.runs fun u opened hu => hallows u opened (.tail ho hu)
      rw [visitTasks_cons ho, visitTasks_cons ho']
      exact ⟨htask.value.cons hrest.value, hrest.runs, hrest.stop, fun c hc =>
        (hrest.outside c hc).trans (htask.outside c hc)⟩
    · have hvalues : P.AllValues (ts.map Task.value) (ts'.map Task.value) := by
        clear ih hallows
        induction hts with
        | nil => exact ⟨nofun, rfl⟩
        | cons ht _ ih => exact ht.value.cons ih
      rw [visitTasks_cons_stop ho, visitTasks_cons_stop ho']
      exact ⟨htask.value.cons hvalues, htask.runs, .some he, htask.outside⟩

/-! ## Openings -/

/-- Two openings that leave paired runs, and fail with paired errors or give the same tasks. -/
def Opens (P : Pairing) (p q : String) (o o' : Run × Except Error (List Task)) : Prop :=
  P.Runs o.1 o'.1 ∧ P.Results (List.Forall₂ (P.Tasks p q)) o.2 o'.2

/-- Tasks that are made of the same elements. -/
theorem Opens.of_map {α : Type} (hrun : P.Runs run run') {l : List α} {g g' : α → Task}
    (h : ∀ a ∈ l, P.Tasks p q (g a) (g' a)) :
    P.Opens p q (run, .ok (l.map g)) (run', .ok (l.map g')) := by
  refine ⟨hrun, .ok ?_⟩
  rw [List.forall₂_map_left_iff, List.forall₂_map_right_iff, List.forall₂_same]
  exact h

/-- What is inside a value that is looked through is the same task. -/
theorem Opens.alone (hrun : P.Runs run run') (hv : P.Values v v') (hpath : P.paths p q) :
    P.Opens p q (run, .ok [⟨.inner, none, v⟩]) (run', .ok [⟨.inner, none, v'⟩]) :=
  ⟨hrun, .ok (.cons ⟨hv, rfl, hpath, .none⟩ .nil)⟩

/-- A slot of a record is the same task, if the slot is that of a plan. -/
theorem Tasks.slot {c c' : PlanCache} {name : String} {plan : Plan} (hname : P.types name)
    (hrecord : P.records name) (hplans : P.plans c c')
    (hplan : (P.ctx.lookup c name).result = .ok plan) (hpath : P.paths p q) {slot : Slot}
    (hslot : slot.planned ∈ plan.fields) (hv : P.Good slot.value) (ht : slot.typ.Within P.types)
    (owner : String) :
    P.Tasks p q (slot.task P.ctx owner p)
      (({ slot with value := slot.value.rename P.rename } : Slot).task P.other owner q) := by
  have hsegment := P.slot hname hrecord hplans hplan hslot hpath
  refine ⟨⟨hv, rfl⟩, rfl, hsegment, ?_⟩
  simp only [Slot.task]
  cases slot.planned.rule.isEmpty with
  | true => exact .none
  | false => exact .some ⟨rfl, ⟨ht, rfl, rfl, rfl, hsegment⟩, rfl, rfl⟩

/-- **A record is opened as its plan says in both runs.** -/
theorem opening_record_paired {name : String} {slots : List Value}
    (hv : P.Good (.record name slots)) (hpath : P.paths p q) (hrun : P.Runs run run') :
    P.Opens p q ((Value.record name slots).opening P.ctx p run)
      (((Value.record name slots).rename P.rename).opening P.other q run') := by
  cases hv.within with | record hname hslots
  cases hv.spelled with | record hrecord hspelled
  obtain ⟨hresult, hplans⟩ := P.lookup hname hrecord hrun.plans
  have hruns : P.Runs { run with cache := (P.ctx.lookup run.cache name).cache }
      { run' with cache := (P.ctx.lookup run'.cache name).cache } :=
    ⟨hrun.store, hrun.sound, hplans, hrun.issues, hrun.rejected⟩
  have hlookup (c : PlanCache) : P.other.lookup c name = P.ctx.lookup c name := rfl
  have hschema : P.other.schema = P.ctx.schema := rfl
  simp only [Value.rename_record, Value.opening, hlookup, hresult, hschema, ← List.map_take,
    List.length_map]
  cases hlook : (P.ctx.lookup run.cache name).result with
  | error e => exact ⟨hruns, .error (.plan (plan_of_lookup_error hlook))⟩
  | ok plan =>
    simp only
    split
    · exact ⟨hruns, .error (.misuse _ _)⟩
    · rw [slotsOf_map_rename, List.map_map]
      refine .of_map hruns fun slot hslot => ?_
      obtain ⟨⟨g, hg, htyp⟩, hvalue⟩ := of_mem_slotsOf hslot
      have hslot' : slot.value ∈ slots := List.mem_of_mem_take hvalue
      refine .slot hname hrecord hrun.plans hlook hpath (planned_of_mem_slotsOf hslot)
        ⟨hslots _ hslot', hspelled _ hslot'⟩ ?_ _
      exact htyp ▸ P.closed name hname g hg

/-- **A value is opened alike in both runs.** -/
theorem opening_paired (hv : P.Values v v') (htold : P.Told p q) (hrun : P.Runs run run') :
    P.Opens p q (v.opening P.ctx p run) (v'.opening P.other q run') := by
  obtain ⟨hv, rfl⟩ := hv
  have hstore := hrun.store
  have hpath := htold.1
  cases hwithin : hv.within with
  | leaf l => exact ⟨hrun, .ok .nil⟩
  | absent => exact ⟨hrun, .ok .nil⟩
  | present hw =>
    cases hv.spelled with | present hspelled
    exact .alone hrun ⟨⟨hw, hspelled⟩, rfl⟩ hpath
  | boxed hw =>
    cases hv.spelled with | boxed hspelled
    exact .alone hrun ⟨⟨hw, hspelled⟩, rfl⟩ hpath
  | @shared c hc =>
    rw [Value.rename_shared, Value.opening, Value.opening, Context.enter, Context.enter,
      hstore.held _ hc, hstore.content hc]
    cases run.store.isHeld c with
    | true =>
      refine ⟨hrun, .error ?_⟩
      have hcycle : P.other.cycle run'.store (P.rename c) q = P.other.cycle run.store c q :=
        Context.cycle_rename hstore hc q
      rw [hcycle]
      exact .cycle htold _
    | false =>
      have hheld : P.Runs { run with store := run.store.hold c }
          { run' with store := run'.store.hold (P.rename c) } :=
        ⟨hstore.hold hc, hrun.sound.of_cells rfl, hrun.plans, hrun.issues, hrun.rejected⟩
      exact .alone hheld ⟨hrun.sound c hc, rfl⟩ hpath
  | sequence hitems =>
    cases hv.spelled with | sequence hspelled
    rw [Value.rename_sequence, Value.opening, Value.opening, List.zipIdx_map, List.map_map]
    refine .of_map hrun fun a ha => ?_
    have hmem := List.fst_mem_of_mem_zipIdx ha
    exact ⟨⟨⟨hitems _ hmem, hspelled _ hmem⟩, rfl⟩, rfl, P.index a.2 hpath, .none⟩
  | map hentries =>
    cases hv.spelled with | map hkeys hspelled
    rw [Value.rename_map, Value.opening, Value.opening, List.map_map]
    exact .of_map hrun fun e he =>
      ⟨⟨⟨hentries e he, hspelled e he⟩, rfl⟩, rfl, P.key (hkeys e he) hpath, .none⟩
  | record _ _ => exact opening_record_paired hv hpath hrun

/-! ## Visits -/

/-- What is left behind a value are paired runs, if its parts leave them and release what they
hold. -/
theorem leave_paired {o o' : Visit (List Value)} (hv : P.Good v) (hrun : P.Runs run run')
    (ho : P.Visits P.AllValues (v.heldIn run.store) o o')
    (hheld : o.run.store.held = (v.heldIn run.store).held)
    (hheld' : o'.run.store.held = ((v.rename P.rename).heldIn run'.store).held) :
    P.Runs (v.leave o.value o.run) ((v.rename P.rename).leave o'.value o'.run) ∧
      ∀ c, ¬ P.live c → (v.leave o.value o.run).store.cell c = run.store.cell c := by
  cases hwithin : hv.within with
  | @shared c hc =>
    rw [ho.value.2]
    cases hws : o.value with
    | nil => exact ⟨ho.runs, ho.outside⟩
    | cons w ws =>
      have hw : P.Good w := ho.value.1 w (hws ▸ List.mem_cons_self)
      have hwrite := (ho.runs.store.write hc hw.within).of_held hrun.store
      simp only [Value.rename_shared, Value.leave, List.map_cons]
      rw [Store.release_of_held (s := o.run.store.write c w) hheld,
        Store.release_of_held (s := o'.run.store.write (P.rename c) (w.rename P.rename)) hheld']
      refine ⟨⟨hwrite, (ho.runs.sound.write hw c).of_cells rfl, ho.runs.plans, ho.runs.issues,
        ho.runs.rejected⟩, fun d hd => ?_⟩
      have hne : d ≠ c := fun heq => hd (heq ▸ hc)
      exact (Store.cell_write_of_ne hne o.run.store w).trans (ho.outside d hd)
  | leaf l => exact ⟨ho.runs, ho.outside⟩
  | absent => exact ⟨ho.runs, ho.outside⟩
  | present hv => exact ⟨ho.runs, ho.outside⟩
  | boxed hv => exact ⟨ho.runs, ho.outside⟩
  | sequence hv => simpa [Value.leave] using ⟨ho.runs, ho.outside⟩
  | map hv => simpa [Value.leave] using ⟨ho.runs, ho.outside⟩
  | record hname hv => simpa [Value.leave] using ⟨ho.runs, ho.outside⟩

/-- **Paired runs go on side by side.** -/
theorem visit_paired (P : Pairing) (room : Nat) : P.VisitsPaired room := by
  induction room with
  | zero =>
    exact fun v v' p q run run' hv hpath hrun hallows =>
      hrun.stopped hv (.tooDeep ⟨hpath, hallows.walked [] .here⟩)
  | succ room ih =>
    intro v v' p q run run' hv hpath hrun hallows
    obtain ⟨hruns, hopened⟩ := opening_paired hv ⟨hpath, hallows.walked [] .here⟩ hrun
    obtain ⟨hgood, rfl⟩ := hv
    cases ho : v.opening P.ctx p run with | mk r opened
    cases ho' : (v.rename P.rename).opening P.other q run' with | mk r' opened'
    rw [ho, ho'] at hruns hopened
    cases hopened with
    | error he =>
      rw [visit_of_opening_error ho, visit_of_opening_error ho']
      refine ⟨⟨hgood, rfl⟩, hruns, .some he, fun c _ => ?_⟩
      rw [(of_opening_error ho).1]
    | @ok ts ts' hts =>
      obtain ⟨hr, _, _⟩ := of_opening ho
      obtain ⟨hr', _, _⟩ := of_opening ho'
      have htasks := visitTasks_paired ih hts hruns fun t opened ht =>
        hallows.task (ht.comesTo ho)
      have hheld : (visitTasks P.ctx room p ts r).run.store.held = r.store.held :=
        (kept_store.tasks room p ts r).1
      have hheld' : (visitTasks P.other room q ts' r').run.store.held = r'.store.held :=
        (kept_store.tasks room q ts' r').1
      rw [visit_of_opening ho, visit_of_opening ho']
      rw [hr] at htasks hheld ⊢
      rw [hr'] at htasks hheld' ⊢
      obtain ⟨hleave, houtside⟩ := leave_paired hgood hrun htasks hheld hheld'
      refine ⟨⟨hgood.refill htasks.value.1, ?_⟩, hleave, htasks.stop, houtside⟩
      rw [Value.rename_refill, htasks.value.2]

end Pairing

end FieldRules
