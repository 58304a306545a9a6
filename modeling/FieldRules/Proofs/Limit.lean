import FieldRules.Proofs.Depth
import FieldRules.Proofs.Transparent

/-!
# Proofs/Limit — the depth limit, and cells held elsewhere

The limit counts levels and does nothing else.  A walk that does not run out of levels is the same
walk with more of them (`visit_room`), and the number itself is only told in the error
(`visit_limit`), which also does not notice cells that are held out of its reach.  So a limit can be
raised without any effect on the runs that stay within it (`result_raised`).
-/

namespace FieldRules

variable {ctx : Context} {room room' : Nat} {path : String} {v : Value} {run : Run}

/-! ## Walks that do not run out of levels -/

/-- A sequence that fails in a certain way if an element does, and is the same otherwise. -/
theorem forM_or {α ε : Type} {f g : α → Except ε Unit} {P : ε → Prop} :
    ∀ {l : List α}, (∀ a ∈ l, (∃ e, P e ∧ f a = .error e) ∨ g a = f a) →
      (∃ e, P e ∧ forM l f = .error e) ∨ forM l g = forM l f
  | [], _ => .inr rfl
  | a :: l, h => by
    obtain ⟨ha, hl⟩ := List.forall_mem_cons.mp h
    rw [List.forM_cons, List.forM_cons]
    obtain ⟨e, he, ha⟩ | ha := ha
    · exact .inl ⟨e, he, by rw [ha]; rfl⟩
    · rw [ha]
      cases f a with
      | error e => exact .inr rfl
      | ok u => exact forM_or hl

/-- The error of a walk that runs out of levels. -/
def Error.OutOfRoom (ctx : Context) (e : Error) : Prop := ∃ path, e = ctx.tooDeep path

/-- **A guard that does not run out of levels is the same with more of them.** -/
theorem guard_room (s : Store) (v : Value) (path : String) (hle : room ≤ room') :
    (∃ e, e.OutOfRoom ctx ∧ guard ctx room s v path = .error e) ∨
      guard ctx room' s v path = guard ctx room s v path := by
  induction room generalizing room' s v path with
  | zero => exact .inl ⟨_, ⟨path, rfl⟩, rfl⟩
  | succ room ih =>
    obtain ⟨room', rfl⟩ := Nat.exists_eq_succ_of_ne_zero (Nat.ne_of_gt (Nat.zero_lt_of_lt hle))
    by_cases hbar : v.Barred s
    · obtain ⟨c, rfl, hc⟩ := hbar
      exact .inr (by rw [guard_held hc, guard_held hc])
    · rw [guard_succ hbar, guard_succ hbar]
      exact forM_or fun p _ => ih _ _ _ (Nat.le_of_succ_le_succ hle)

/-- …and so is an inspection. -/
theorem inspect_room (s : Store) (v : Value) (p : Place) (hle : room ≤ room') :
    (∃ e, e.OutOfRoom ctx ∧ inspect ctx room s v p = .error e) ∨
      inspect ctx room' s v p = inspect ctx room s v p := by
  rw [inspect, inspect]
  have hguard : (∃ e, e.OutOfRoom ctx ∧ guard ctx room s v p.path = .error e) ∨
      guard ctx room' s v p.path = guard ctx room s v p.path := guard_room s v p.path hle
  obtain ⟨e, he, hg⟩ | hg := hguard
  · exact .inl ⟨e, he, by rw [hg]; rfl⟩
  · exact .inr (by rw [hg])

/-- A visit that ran out of levels, or else is the same as another one. -/
def Visit.Raised (ctx : Context) {α : Type} (o o' : Visit α) : Prop :=
  (∃ e, e.OutOfRoom ctx ∧ o.stop = some e) ∨ o' = o

theorem apply_room (rule : Rule) (p : Place) (hle : room ≤ room') :
    (apply ctx room rule v p run).Raised ctx (apply ctx room' rule v p run) := by
  rw [apply, apply]
  have hinspect : (∃ e, e.OutOfRoom ctx ∧ inspect ctx room run.store v p = .error e) ∨
      inspect ctx room' run.store v p = inspect ctx room run.store v p := inspect_room _ v p hle
  obtain ⟨e, he, hi⟩ | hi := hinspect
  · exact .inl ⟨e, he, by rw [hi]⟩
  · exact .inr (by rw [hi])

theorem Visit.Raised.andThen {o o' : Visit Value} {next next' : Value → Run → Visit Value}
    (h : o.Raised ctx o') (hnext : ∀ w run, (next w run).Raised ctx (next' w run)) :
    (o.andThen next).Raised ctx (o'.andThen next') := by
  obtain ⟨e, he, hstop⟩ | rfl := h
  · exact .inl ⟨e, he, by simp only [Visit.andThen, hstop]⟩
  · rw [Visit.andThen, Visit.andThen]
    cases hstop : o'.stop with
    | some e => exact .inr rfl
    | none => exact hnext _ _

/-- With more levels, all visits are the same unless they ran out of levels. -/
def RaisedAll (ctx : Context) (room room' : Nat) : Prop :=
  ∀ (v : Value) (path : String) (run : Run),
    (visit ctx room v path run).Raised ctx (visit ctx room' v path run)

theorem task_room (hvisit : RaisedAll ctx room room') (hle : room ≤ room') (t : Task)
    (path : String) (run : Run) :
    (t.visit ctx room path run).Raised ctx (t.visit ctx room' path run) := by
  rw [Task.visit, Task.visit]
  cases t.rule? with
  | none => exact hvisit _ _ _
  | some r => exact (apply_room r.1 r.2 hle).andThen fun w run => hvisit _ _ _

theorem visitTasks_room (hvisit : RaisedAll ctx room room') (hle : room ≤ room')
    (path : String) : ∀ (ts : List Task) (run : Run),
      (visitTasks ctx room path ts run).Raised ctx (visitTasks ctx room' path ts run)
  | [], run => .inr rfl
  | t :: ts, run => by
    obtain ⟨e, he, hstop⟩ | ht := task_room hvisit hle t path run
    · exact .inl ⟨e, he, by rw [visitTasks_cons_stop hstop]⟩
    · cases hstop : (t.visit ctx room path run).stop with
      | some e =>
        rw [visitTasks_cons_stop hstop, visitTasks_cons_stop (ht.symm ▸ hstop), ht]
        exact .inr rfl
      | none =>
        rw [visitTasks_cons hstop, visitTasks_cons (ht.symm ▸ hstop), ht]
        obtain ⟨e, he, hrest⟩ | hrest := visitTasks_room hvisit hle path ts _
        · exact .inl ⟨e, he, hrest⟩
        · exact .inr (by rw [hrest])

/-- **A visit that does not run out of levels is the same with more of them.** -/
theorem visit_room (hle : room ≤ room') : RaisedAll ctx room room' := by
  induction room generalizing room' with
  | zero => exact fun v path run => .inl ⟨_, ⟨path, rfl⟩, rfl⟩
  | succ room ih =>
    obtain ⟨room', rfl⟩ := Nat.exists_eq_succ_of_ne_zero (Nat.ne_of_gt (Nat.zero_lt_of_lt hle))
    intro v path run
    cases hopen : v.opening ctx path run with | mk opened tasks
    cases tasks with
    | error e =>
      rw [visit_of_opening_error hopen, visit_of_opening_error hopen]
      exact .inr rfl
    | ok ts =>
      have hle' : room ≤ room' := Nat.le_of_succ_le_succ hle
      rw [visit_of_opening hopen, visit_of_opening hopen]
      obtain ⟨e, he, hstop⟩ | hts := visitTasks_room (ih hle') hle' path ts opened
      · exact .inl ⟨e, he, hstop⟩
      · exact .inr (by rw [hts])

/-! ## Another limit, and cells held elsewhere -/

/-- The context with another depth limit. -/
def Context.limit (ctx : Context) (maxDepth : Nat) : Context :=
  ⟨ctx.schema, ctx.registry, ⟨maxDepth, ctx.settings.displayNames⟩⟩

/-- An error with another depth limit, if it tells one. -/
def Error.limit (maxDepth : Nat) : Error → Error
  | tooDeep path _ => tooDeep path maxDepth
  | e => e

/-- A store in which some more cells are held. -/
def Store.holdAll (s : Store) (cells : List CellId) : Store := ⟨s.cells, cells ++ s.held⟩

/-- Cells that refer to none but themselves, with all that are not made yet. -/
structure Store.Encloses (s : Store) (live : CellId → Prop) : Prop where
  fresh : ∀ c, s.cells.length ≤ c → live c
  within : ∀ c, live c → (s.cell c).content.Within (fun _ => True) live

/-- Seen from the cells that it encloses, a store is like one in which other cells are held. -/
theorem Store.Encloses.alike {s s' : Store} {live : CellId → Prop} (h : s.Encloses live)
    (hcells : s'.cells = s.cells) (hheld : ∀ c, live c → s'.isHeld c = s.isHeld c) :
    s.Alike (fun _ => True) live id s' where
  fresh := h.fresh
  within := h.within
  inj := fun _ _ _ _ heq => heq
  shift := fun _ => by rw [hcells]; rfl
  lt := fun _ _ hlt => by rw [hcells]; exact hlt
  cell := fun c _ => by rw [Cell.rename, Value.rename_id, Store.cell, hcells]; rfl
  held := hheld

theorem Store.isHeld_holdAll {s : Store} {cells : List CellId} {c : CellId} (h : c ∉ cells) :
    (s.holdAll cells).isHeld c = s.isHeld c := by
  simp [isHeld, holdAll, h]

/-- Runs under two limits, over the same plans. -/
def Context.limits (ctx : Context) (maxDepth : Nat) (live : CellId → Prop) (report : Report) :
    Pairing :=
  ctx.along (ctx.limit maxDepth).settings rfl report ctx.closed_all live id Eq fun _ h => by
    subst h
    exact ⟨rfl, rfl⟩

section

variable {maxDepth : Nat} {live : CellId → Prop} {report : Report}

/-- Errors under two limits differ in the limit. -/
theorem error_limit_of_told {e e' : Error} (h : (ctx.limits maxDepth live report).Errors e e') :
    e' = e.limit maxDepth := by
  cases h with
  | plan h =>
    obtain ⟨place, r, rfl⟩ := exists_of_plan_error h
    rfl
  | misuse _ _ => rfl
  | cycle h _ => rw [h.eq rfl]; rfl
  | tooDeep h => rw [h.eq rfl]; rfl
  | unreadable h _ _ _ _ => rw [h.eq rfl]; rfl
  | unreadableBelow h _ _ => rw [h.eq rfl]; rfl

/-- Runs under two limits over stores that differ in cells that are held elsewhere. -/
theorem visits_limits (run' : Run) (hlive : run.store.Encloses live)
    (hcells : run'.store.cells = run.store.cells)
    (hheld : ∀ c, live c → run'.store.isHeld c = run.store.isHeld c)
    (hcache : run'.cache = run.cache) (hreport : run'.report = run.report)
    (hv : v.Within (fun _ => True) live) (maxDepth room : Nat) (path : String) :
    let P := ctx.limits maxDepth live run.report
    P.Visits P.Values run.store (visit ctx room v path run)
      (visit (ctx.limit maxDepth) room v path run') := by
  intro P
  have hvalues : P.Values v v := ⟨⟨hv, v.spelled_all⟩, v.rename_id.symm⟩
  have hruns : P.Runs run run' := by
    refine ⟨hlive.alike hcells hheld, fun c hc => ⟨hlive.within c hc, Value.spelled_all _⟩,
      hcache.symm, ?_, ?_⟩
    · rw [hreport]
      exact .refl _ _
    · rw [hreport]
      exact .refl _ _
  exact P.visit_paired room v v path path run run' hvalues rfl hruns
    ⟨fun m _ => m.writesSpelled_all ctx, fun _ _ => trivial⟩

/-- A visit of a value among enclosed cells leaves all others as they were. -/
theorem cell_visit_of_not_live (hlive : run.store.Encloses live)
    (hv : v.Within (fun _ => True) live) {c : CellId} (hc : ¬ live c) (room : Nat) (path : String) :
    (visit ctx room v path run).run.store.cell c = run.store.cell c := by
  have h : (ctx.limits 0 live run.report).Visits _ run.store (visit ctx room v path run) _ :=
    visits_limits run hlive rfl (fun _ _ => rfl) rfl rfl hv 0 room path
  exact h.outside c hc

/-- **The limit is only told in the error, and cells that are held elsewhere are not noticed.** -/
theorem visit_limit (cells : List CellId) (hlive : run.store.Encloses live)
    (hv : v.Within (fun _ => True) live) (hcells : ∀ c ∈ cells, ¬ live c) (maxDepth room : Nat)
    (path : String) :
    let o := visit ctx room v path run
    visit (ctx.limit maxDepth) room v path { run with store := run.store.holdAll cells } =
      ⟨o.value, { o.run with store := o.run.store.holdAll cells },
        o.stop.map (Error.limit maxDepth)⟩ := by
  intro o
  let held : Run := { run with store := run.store.holdAll cells }
  let o' := visit (ctx.limit maxDepth) room v path held
  have hheld : ∀ c, live c → held.store.isHeld c = run.store.isHeld c :=
    fun c hc => Store.isHeld_holdAll fun hmem => hcells c hmem hc
  have h : (ctx.limits maxDepth live run.report).Visits _ run.store o o' :=
    visits_limits held hlive rfl hheld rfl rfl hv maxDepth room path
  have hlive' : held.store.Encloses live := ⟨hlive.fresh, hlive.within⟩
  have houtside : ∀ c, ¬ live c → o'.run.store.cell c = run.store.cell c :=
    fun c hc => cell_visit_of_not_live hlive' hv hc room path
  have hstore : o'.run.store = o.run.store.holdAll cells := by
    rw [h.store_eq rfl houtside, Store.holdAll, held_visit, held_visit]
    rfl
  have hstop : o'.stop = o.stop.map (Error.limit maxDepth) := by
    obtain ⟨ho, ho'⟩ | ⟨e, e', ho, ho', he⟩ := h.stop_cases
    · rw [ho, ho']
      rfl
    · rw [ho, ho', error_limit_of_told he]
      rfl
  have hvalue : o'.value = o.value := h.value.eq rfl
  have hcache : o'.run.cache = o.run.cache := h.runs.plans.symm
  have hreport : o'.run.report = o.run.report := h.runs.report_eq rfl rfl
  calc o' = ⟨o'.value, ⟨o'.run.store, o'.run.cache, o'.run.report⟩, o'.stop⟩ := rfl
    _ = ⟨o.value, ⟨o.run.store.holdAll cells, o.run.cache, o.run.report⟩,
          o.stop.map (Error.limit maxDepth)⟩ := by rw [hvalue, hstore, hcache, hreport, hstop]

/-- All cells of a store are enclosed. -/
theorem Store.encloses_all (s : Store) : s.Encloses fun _ => True :=
  ⟨fun _ _ => trivial, fun c _ => (s.cell c).content.within_all⟩

/-- Cells that are not made yet are enclosed. -/
theorem Store.encloses_new (s : Store) : s.Encloses fun c => s.cells.length ≤ c := by
  refine ⟨fun _ => id, fun c hc => ?_⟩
  rw [cell_of_le hc]
  exact .leaf _

/-- With all cells at hand, only the limit is another one. -/
theorem visit_limit_all (v : Value) (maxDepth room : Nat) (path : String) (run : Run) :
    let o := visit ctx room v path run
    visit (ctx.limit maxDepth) room v path run =
      ⟨o.value, o.run, o.stop.map (Error.limit maxDepth)⟩ :=
  visit_limit [] run.store.encloses_all v.within_all nofun maxDepth room path

end

/-! ## Whole runs -/

/-- What a visit of a root ends with. -/
def Visit.result {α : Type} (o : Visit α) : Except Error (List Issue) :=
  match o.stop with
  | some e => .error e
  | none => o.run.report.result

/-- A run whose root is no leaf is the visit of its root. -/
theorem Engine.validate_eq_visitRoot (e : Engine) (schema : Schema) (rootType : Typ)
    (store : Store) (hv : ∀ l, v ≠ .leaf l) :
    e.validate schema rootType v store =
      ⟨(e.visitRoot schema v store).result, (e.visitRoot schema v store).value,
        (e.visitRoot schema v store).run.store,
        { e with cache := (e.visitRoot schema v store).run.cache }⟩ := by
  cases v with
  | leaf l => exact absurd rfl (hv l)
  | _ => rfl

theorem Error.limit_eq_self {e : Error} (h : ∀ path limit, e ≠ .tooDeep path limit)
    (maxDepth : Nat) : e.limit maxDepth = e := by
  cases e with
  | tooDeep path limit => exact absurd rfl (h path limit)
  | _ => rfl

/-- **A visit that is not too deep is the same under a higher limit.** -/
theorem visit_raised {maxDepth : Nat} (hle : ctx.settings.maxDepth ≤ maxDepth)
    (h : ∀ p limit, (visit ctx ctx.room v path run).stop ≠ some (.tooDeep p limit)) :
    visit (ctx.limit maxDepth) (ctx.limit maxDepth).room v path run =
      visit ctx ctx.room v path run := by
  have hroom : ctx.room ≤ (ctx.limit maxDepth).room := Nat.succ_le_succ hle
  have hsame : visit ctx (ctx.limit maxDepth).room v path run = visit ctx ctx.room v path run := by
    obtain ⟨_, ⟨p, rfl⟩, hstop⟩ | hsame := visit_room hroom v path run
    · exact absurd hstop (h p _)
    · exact hsame
  have hstop : (visit ctx ctx.room v path run).stop.map (Error.limit maxDepth) =
      (visit ctx ctx.room v path run).stop := by
    cases hs : (visit ctx ctx.room v path run).stop with
    | none => rfl
    | some e =>
      refine congrArg some (Error.limit_eq_self (fun p limit he => h p limit ?_) maxDepth)
      rw [hs, he]
  rw [visit_limit_all, hsame, hstop]

/-- **Raising the depth limit is harmless.**  Take two engines that differ in the depth limit only,
with any plans, and a run over any value and cells, with cycles or without.  If the run is not too
deep for the lower limit, then the run under the higher one ends with the same result, and leaves
the same value, the same cells and the same plans. -/
theorem raised_limit_harmless (registry : Registry) (displayNames : Bool) (cache : PlanCache)
    (schema : Schema) (rootType : Typ) (v : Value) (store : Store) {low high : Nat}
    (hle : low ≤ high) :
    let run (maxDepth : Nat) := (Engine.mk registry ⟨maxDepth, displayNames⟩ cache).validate schema
      rootType v store
    (∀ path limit, (run low).result ≠ .error (.tooDeep path limit)) →
      (run high).result = (run low).result ∧ (run high).value = (run low).value ∧
        (run high).store = (run low).store ∧
        (run high).engine.cache = (run low).engine.cache := by
  intro run hlow
  by_cases hleaf : ∃ l, v = .leaf l
  · obtain ⟨l, rfl⟩ := hleaf
    exact ⟨rfl, rfl, rfl, rfl⟩
  have hv : ∀ l, v ≠ .leaf l := not_exists.mp hleaf
  let engine (maxDepth : Nat) : Engine := ⟨registry, ⟨maxDepth, displayNames⟩, cache⟩
  have hstop (path : String) (limit : Nat) :
      ((engine low).visitRoot schema v store).stop ≠ some (.tooDeep path limit) := fun h =>
    hlow path limit ((engine low).result_of_stop schema rootType store hv h)
  have hsame : (engine high).visitRoot schema v store = (engine low).visitRoot schema v store :=
    visit_raised hle hstop
  have hrun (maxDepth : Nat) : run maxDepth = _ :=
    (engine maxDepth).validate_eq_visitRoot schema rootType store hv
  rw [hrun, hrun, hsame]
  exact ⟨rfl, rfl, rfl, rfl⟩

/-! ### The reply to a note, with just enough levels -/

/-- A limit of five is enough for the note with its reply, so nine gives the same. -/
theorem raised_limit_harmless_noteReplied :
    let run (maxDepth : Nat) := (Engine.mk noteRegistry ⟨maxDepth, true⟩ .empty).validate noteSchema
      (.record "Note") noteReplied noteStore
    (5 ≤ 9 ∧ ∀ path limit, (run 5).result ≠ .error (.tooDeep path limit)) ∧
      (run 9).result = (run 5).result ∧ (run 9).value = (run 5).value ∧
        (run 9).store = (run 5).store ∧ (run 9).engine.cache = (run 5).engine.cache := by
  intro run
  have hle : 5 ≤ 9 := by decide
  obtain ⟨issues, hissues⟩ : ∃ issues, (run 5).result = .ok issues := ⟨_, rfl⟩
  have hlow : ∀ path limit, (run 5).result ≠ .error (.tooDeep path limit) := fun _ _ h => by
    cases hissues.symm.trans h
  exact ⟨⟨hle, hlow⟩, raised_limit_harmless noteRegistry true .empty noteSchema (.record "Note")
    noteReplied noteStore hle hlow⟩

end FieldRules
