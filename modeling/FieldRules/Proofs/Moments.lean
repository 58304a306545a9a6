import FieldRules.Proofs.Cycle
import FieldRules.Proofs.Rename
import FieldRules.Proofs.Snapshot
import FieldRules.Proofs.Writes

/-!
# Proofs/Moments — a guard makes an inspection safe, and cells are released

A run inspects a field before it runs the rule of the field.  A **moment** of a run is such a field
with the state in which it is inspected, in which the cells around it are held (`Meets`); every rule
that is run is run at a moment (`Walk.isAt`).  If the guard goes through at a moment, the look for
zeros and the snapshot come to an end and meet no cell that is held (`Moment.safe_of_guard`); if
there is a cycle below, the run ends with the guard (`Meets.stop`).  All cells that a run holds are
released at its end, so runs over the same cells do not get in each other's way (`held_runAll`).
-/

namespace FieldRules

variable {ctx : Context}

/-! ## The moments of a run -/

/-- A field whose rule is about to be run: the levels left, the cells, and the rule on a value at a
place. -/
structure Moment where
  room : Nat
  store : Store
  rule : Rule
  value : Value
  place : Place

/-- A visit of a value comes to one of its tasks: those before it are visited and do not stop it. -/
def ComesTo (ctx : Context) (room : Nat) (path : String) (v : Value) (run : Run) (t : Task)
    (run' : Run) : Prop :=
  ∃ opened before after, v.opening ctx path run = (opened, .ok (before ++ t :: after)) ∧
    (visitTasks ctx room path before opened).stop = none ∧
    (visitTasks ctx room path before opened).run = run'

/-- A visit meets a moment: at one of its own tasks, or below one, where the rule of the task did
not stop it. -/
inductive Meets (ctx : Context) : (room : Nat) → Value → (path : String) → Run → Moment → Prop
  | own {room : Nat} {v : Value} {path : String} {run run' : Run} {t : Task} {rule : Rule}
      {p : Place} (hcomes : ComesTo ctx room path v run t run') (hrule : t.rule? = some (rule, p)) :
      Meets ctx (room + 1) v path run ⟨room, run'.store, rule, t.value, p⟩
  | plain {room : Nat} {v : Value} {path : String} {run run' : Run} {t : Task} {m : Moment}
      (hcomes : ComesTo ctx room path v run t run') (hrule : t.rule? = none)
      (hbelow : Meets ctx room t.value (Path.spellFrom path (t.steps ctx)) run' m) :
      Meets ctx (room + 1) v path run m
  | field {room : Nat} {v w : Value} {path : String} {run run' run'' : Run} {t : Task} {rule : Rule}
      {p : Place} {m : Moment} (hcomes : ComesTo ctx room path v run t run')
      (hrule : t.rule? = some (rule, p))
      (happly : apply ctx room rule t.value p run' = ⟨w, run'', none⟩)
      (hbelow : Meets ctx room w (Path.spellFrom path (t.steps ctx)) run'' m) :
      Meets ctx (room + 1) v path run m

section

variable {room : Nat} {path : String} {v : Value} {run run' : Run}

/-- Tasks after others that did not stop. -/
theorem visitTasks_append {before : List Task} (ts : List Task)
    (h : (visitTasks ctx room path before run).stop = none) :
    visitTasks ctx room path (before ++ ts) run =
      (visitTasks ctx room path ts (visitTasks ctx room path before run).run).map
        ((visitTasks ctx room path before run).value ++ ·) := by
  induction before generalizing run with
  | nil => rfl
  | cons t before ih =>
    cases hstop : (t.visit ctx room path run).stop with
    | some e =>
      rw [visitTasks_cons_stop hstop] at h
      cases h
    | none =>
      rw [visitTasks_cons hstop] at h
      rw [List.cons_append, visitTasks_cons hstop, visitTasks_cons hstop, ih h]
      rfl

theorem visitTasks_concat {before : List Task} {t : Task} {us : List Value} {w : Value}
    {run'' : Run}
    (h : visitTasks ctx room path before run = ⟨us, run', none⟩)
    (ht : t.visit ctx room path run' = ⟨w, run'', none⟩) :
    visitTasks ctx room path (before ++ [t]) run = ⟨us ++ [w], run'', none⟩ := by
  rw [visitTasks_append _ (by rw [h]), h, visitTasks_cons (by rw [ht]), ht]
  rfl

/-- After tasks that did not stop it, a visit comes to the next one. -/
theorem ComesTo.next {t : Task} {opened : Run} {before after : List Task} {us : List Value}
    (hopen : v.opening ctx path run = (opened, .ok (before ++ t :: after)))
    (hbefore : visitTasks ctx room path before opened = ⟨us, run', none⟩) :
    ComesTo ctx room path v run t run' :=
  ⟨opened, before, after, hopen, by rw [hbefore], by rw [hbefore]⟩

/-- A task that a visit comes to and that stops, stops the visit. -/
theorem ComesTo.stop {t : Task} {e : Error} (h : ComesTo ctx room path v run t run')
    (hstop : (t.visit ctx room path run').stop = some e) :
    (visit ctx (room + 1) v path run).stop = some e := by
  obtain ⟨opened, before, after, hopen, hbefore, rfl⟩ := h
  rw [visit_of_opening hopen, visitTasks_append _ hbefore, visitTasks_cons_stop hstop]
  rfl

/-- **A moment whose field cannot be inspected stops the run.** -/
theorem Meets.stop {m : Moment} (h : Meets ctx room v path run m) {e : Error}
    (hi : inspect ctx m.room m.store m.value m.place = .error e) :
    (visit ctx room v path run).stop = some e := by
  induction h with
  | @own room v path run run' t rule p hcomes hrule =>
    refine hcomes.stop ?_
    have happly : apply ctx room rule t.value p run' = ⟨t.value, run', some e⟩ := by rw [apply, hi]
    rw [Task.visit, hrule]
    simp only [happly, Visit.andThen]
  | plain hcomes hrule _ ih =>
    refine hcomes.stop ?_
    rw [Task.visit_plain hrule]
    exact ih hi
  | field hcomes hrule happly _ ih =>
    refine hcomes.stop ?_
    rw [Task.visit_ruled hrule happly]
    exact ih hi

end

/-! ## Every rule that is run is at a moment -/

/-- The rule of an entry is run at some moment of a visit. -/
def FieldVisit.IsAt (ctx : Context) (room : Nat) (v : Value) (path : String) (run : Run)
    (f : FieldVisit) : Prop :=
  ∃ room' store, Meets ctx room v path run ⟨room', store, f.rule, f.before, f.place⟩ ∧
    inspect ctx room' store f.before f.place = .ok (f.hint, f.current)

/-- Rules that are run in tasks are run at moments, if that holds one level below. -/
theorem isAt_of_walkTasks {room : Nat} {v : Value} {path : String} {run opened : Run}
    (hbelow : ∀ {v path s j w s'}, Walk ctx room v path s j w s' → ∀ report, ∀ f ∈ j,
      f.IsAt ctx room v path (s.run report))
    {before ts : List Task} (hopen : v.opening ctx path run = (opened, .ok (before ++ ts)))
    {s s' : Stage} {report : Report} {us ws : List Value} {j : List FieldVisit}
    (hbefore : visitTasks ctx room path before opened = ⟨us, s.run report, none⟩)
    (h : WalkTasks ctx room path (Walk ctx room) ts s j ws s') :
    ∀ f ∈ j, f.IsAt ctx (room + 1) v path run := by
  -- The tasks that were walked are put to those before, one at a time.
  induction h generalizing before report us with
  | nil => nofun
  | @plain t ts s s₁ s₂ j₁ js w ws hrule hwalk hrest ih =>
    have hcomes : ComesTo ctx room path v run t (s.run report) := .next hopen hbefore
    have ht : t.visit ctx room path (s.run report) = ⟨w, s₁.run (report.add ctx j₁), none⟩ :=
      (Task.visit_plain hrule _).trans (visit_of_walk hwalk report)
    have hjs : ∀ f ∈ js, f.IsAt ctx (room + 1) v path run :=
      ih (by rwa [← List.append_cons]) (visitTasks_concat hbefore ht)
    refine List.forall_mem_append.mpr ⟨fun f hf => ?_, hjs⟩
    obtain ⟨room', store, hmeets, hi⟩ := hbelow hwalk report f hf
    exact ⟨room', store, .plain hcomes hrule hmeets, hi⟩
  | @field t ts s s₁ s₂ store j₁ js w ws f hrule hvalue hacts hwalk hrest ih =>
    have hcomes : ComesTo ctx room path v run t (s.run report) := .next hopen hbefore
    have happly : apply ctx room f.rule t.value f.place (s.run report) = ⟨f.after, _, none⟩ :=
      hvalue ▸ hacts.apply_eq report
    have ht : t.visit ctx room path (s.run report)
        = ⟨w, s₁.run ((report.add ctx [f]).add ctx j₁), none⟩ :=
      (Task.visit_ruled hrule happly).trans (visit_of_walk hwalk _)
    have hjs : ∀ g ∈ js, g.IsAt ctx (room + 1) v path run :=
      ih (by rwa [← List.append_cons]) (visitTasks_concat hbefore ht)
    refine List.forall_mem_cons.mpr ⟨⟨room, s.store, ?_, hacts.inspected⟩,
      List.forall_mem_append.mpr ⟨fun g hg => ?_, hjs⟩⟩
    · rw [hvalue]
      exact .own hcomes hrule
    · obtain ⟨room', store', hmeets, hi⟩ := hbelow hwalk _ g hg
      exact ⟨room', store', .field hcomes hrule happly hmeets, hi⟩

/-- **Every rule that a walk runs is run at a moment**, where the field was inspected. -/
theorem Walk.isAt {room : Nat} {v w : Value} {path : String} {s s' : Stage} {j : List FieldVisit}
    (h : Walk ctx room v path s j w s') (report : Report) :
    ∀ f ∈ j, f.IsAt ctx room v path (s.run report) := by
  induction room generalizing v path s j w s' report with
  | zero => cases h
  | succ room ih =>
    obtain ⟨opened, tasks, ws, left, hopen, htasks, _, _⟩ := h
    have hopen' : v.opening ctx path (s.run report) = (_, .ok ([] ++ tasks)) :=
      opening_run hopen report
    exact isAt_of_walkTasks (fun h report => ih h report) hopen' rfl htasks

/-! ## What a guard makes safe -/

/-- Every value has some types and some cells. -/
theorem Value.within_all (v : Value) : v.Within (fun _ => True) fun _ => True := by
  cases v with
  | leaf l => exact .leaf l
  | absent => exact .absent
  | present v => exact .present v.within_all
  | boxed v => exact .boxed v.within_all
  | shared _ => exact .shared trivial
  | sequence items => exact .sequence fun v _ => v.within_all
  | map entries =>
    refine .map fun e he => ?_
    have hentry : sizeOf e < sizeOf entries := List.sizeOf_lt_of_mem he
    have hvalue : sizeOf e.2 < sizeOf e := by
      rw [Prod.mk.sizeOf_spec]
      omega
    exact e.2.within_all
  | record _ slots => exact .record trivial fun v _ => v.within_all

theorem Store.alike_all (s : Store) : s.Alike (fun _ => True) (fun _ => True) id s where
  fresh := fun _ _ => trivial
  within := fun c _ => (s.cell c).content.within_all
  inj := fun _ _ _ _ h => h
  shift := fun _ => rfl
  lt := fun _ _ h => h
  cell := fun c _ => by rw [Cell.rename, Value.rename_id]; rfl
  held := fun _ _ => rfl

section

variable {store : Store} {v : Value} {hops : Nat}

/-- **A look for zeros comes to an end**: more hops than there are cells make no difference. -/
theorem zeroHintWithin_of_lt (h : store.cells.length < hops) (path : String) :
    zeroHintWithin ctx path hops store v = zeroHint ctx store v path := by
  have hsame : zeroHintWithin ctx path hops store (v.rename id) = zeroHint ctx store v path :=
    zeroHintWithin_rename store.alike_all v.within_all (Nat.lt_succ_of_le store.free_le)
      (store.free_le.trans_lt h)
  rwa [Value.rename_id] at hsame

/-- …and so does a snapshot. -/
theorem snapshotWithin_of_lt (schema : Schema) (h : store.cells.length < hops) :
    v.snapshotWithin schema store hops = v.snapshot schema store := by
  rw [Value.snapshot, Value.snapshotWithin_eq, Value.snapshotWithin_eq, cellForm_of_lt h]

end

/-- At a moment, the look for zeros comes to an end and meets no cell that is held, and so does the
snapshot, which fails only at a leaf without a JSON form. -/
structure Moment.Safe (ctx : Context) (m : Moment) : Prop where
  hint_ends : ∀ hops, m.store.cells.length < hops →
    zeroHintWithin ctx m.place.path hops m.store m.value
      = zeroHint ctx m.store m.value m.place.path
  hint_ne_cycle : ∀ path typeName,
    zeroHint ctx m.store m.value m.place.path ≠ .error (.cycle path typeName)
  form_ends : ∀ hops, m.store.cells.length < hops →
    m.value.snapshotWithin ctx.schema m.store hops = m.value.snapshot ctx.schema m.store
  form_of_leaf : ∀ u, m.value.snapshot ctx.schema m.store = .error u →
    u = .outOfRange ∧ ∃ l, Below ctx.schema m.store m.value (.leaf l) ∧ l.snapshot = .error u

/-- **A guard makes a moment safe**, if the records below the field expose all their fields. -/
theorem Moment.safe_of_guard (m : Moment) (ctx : Context)
    (hexposes : ∀ name slots, Below ctx.schema m.store m.value (.record name slots) →
      ctx.schema.Exposes name slots)
    (hg : guard ctx m.room m.store m.value m.place.path = .ok ()) : m.Safe ctx := by
  refine ⟨fun hops h => zeroHintWithin_of_lt h _, fun path typeName => ?_,
    fun hops h => snapshotWithin_of_lt ctx.schema h, fun u hu => ?_⟩
  · obtain ⟨hint, hh⟩ := exists_zeroHint_of_guard False hg False.elim
    exact (hh m.store _ m.place.path (.refl m.store)).ne_cycle path typeName
  · obtain ⟨l, hl, hform⟩ := exists_leaf_of_snapshot_error hg hexposes (.refl m.store) hu
    exact ⟨Leaf.eq_of_snapshot_error hform, l, hl, hform⟩

/-! ## Where there is a cycle -/

/-- A cell below a value can be reached from itself, or is held around the value. -/
def Circular (schema : Schema) (store : Store) (v : Value) : Prop :=
  ∃ c, Below schema store v (.shared c) ∧ (Loops schema store c ∨ store.isHeld c = true)

theorem guard_ne_ok_of_circular {room : Nat} {store : Store} {v : Value} {path : String}
    (h : Circular ctx.schema store v) : guard ctx room store v path ≠ .ok () := by
  obtain ⟨c, hc, hloop | hheld⟩ := h
  · exact guard_ne_ok_of_loops hc hloop
  · intro hg
    obtain ⟨sites, cells, hroute⟩ := hc
    have hfree : store.isHeld c = false :=
      ((guard_eq_ok_iff.mp hg sites cells _ hroute).2 c rfl).1
    cases hheld.symm.trans hfree

/-- An inspection, for any hint that a look for zeros and any form that a snapshot could give. -/
def inspectWith (ctx : Context) (room : Nat) (store : Store) (v : Value) (p : Place)
    (look : Except Error Hint) (form : Except Unreadable Json) : Except Error (Hint × Json) := do
  guard ctx room store v p.path
  let hint ← look
  match form with
  | .ok form => return (hint, form)
  | .error u =>
    throw (.rule (p.owner ++ "." ++ p.name)
      (.unreadable p.path (p.typ.typeName ctx.schema) u.message))

theorem inspect_eq_inspectWith (ctx : Context) (room : Nat) (store : Store) (v : Value)
    (p : Place) : inspect ctx room store v p = inspectWith ctx room store v p
      (zeroHint ctx store v p.path) (v.snapshot ctx.schema store) := rfl

/-- A moment that ends an inspection before anything is looked at: whatever a look for zeros and a
snapshot would give, the error is the same. -/
def Moment.EndsUnseen (ctx : Context) (m : Moment) (e : Error) : Prop :=
  ∀ look form, inspectWith ctx m.room m.store m.value m.place look form = .error e

/-- **Nothing is looked at above a cycle**: the guard ends the inspection. -/
theorem Moment.endsUnseen_of_circular (m : Moment) (ctx : Context)
    (h : Circular ctx.schema m.store m.value) :
    ∃ e, e.EndsWalk ∧ m.EndsUnseen ctx e := by
  cases hg : guard ctx m.room m.store m.value m.place.path with
  | ok u => exact absurd hg (guard_ne_ok_of_circular h)
  | error e =>
    refine ⟨e, endsWalk_of_guard hg, fun look form => ?_⟩
    rw [inspectWith, hg]
    rfl

/-! ## Runs over the same cells -/

/-- Runs one after the other over the same cells: the engine and the cells that they leave. -/
def Engine.runAll (e : Engine) (schema : Schema) : List (Typ × Value) → Store → Engine × Store
  | [], store => (e, store)
  | (rootType, v) :: runs, store =>
    (e.validate schema rootType v store).engine.runAll schema runs
      (e.validate schema rootType v store).store

/-- **Runs release all cells that they hold.** -/
theorem held_runAll (schema : Schema) (runs : List (Typ × Value)) (e : Engine) (store : Store) :
    (e.runAll schema runs store).2.held = store.held := by
  induction runs generalizing e store with
  | nil => rfl
  | cons run runs ih => exact (ih _ _).trans (e.kept_validate schema run.1 run.2 store).1

/-- Runs over the same cells are calls of the engine. -/
theorem exists_calls_of_runAll (schema : Schema) (runs : List (Typ × Value)) (e : Engine)
    (store : Store) : ∃ calls, (e.runAll schema runs store).1 = e.after schema calls := by
  induction runs generalizing e store with
  | nil => exact ⟨[], rfl⟩
  | cons run runs ih =>
    obtain ⟨calls, hcalls⟩ := ih (e.validate schema run.1 run.2 store).engine
      (e.validate schema run.1 run.2 store).store
    exact ⟨.validate run.1 run.2 store :: calls, hcalls⟩

/-- The plans after runs over the same cells come from the types they met. -/
theorem comes_runAll (registry : Registry) (settings : Settings) (schema : Schema)
    (calls : List Call) (runs : List (Typ × Value)) (store : Store) :
    let ctx := (Engine.new registry settings).context schema
    let e := (((Engine.new registry settings).after schema calls).runAll schema runs store).1
    e.context schema = ctx ∧ e.cache.Comes ctx fun _ => True := by
  intro ctx e
  obtain ⟨more, hmore⟩ :=
    exists_calls_of_runAll schema runs ((Engine.new registry settings).after schema calls) store
  have hafter : e = (Engine.new registry settings).after schema (calls ++ more) := by
    rw [Engine.after, List.foldl_append]
    exact hmore
  rw [hafter]
  exact comes_after registry settings schema (calls ++ more)

/-- **Inspections are safe, and cells are released.**  Take an engine after any calls, and a run
over any value and cells, with cycles or without.  At every moment of the run where the guard goes
through, and the records below the field expose all their fields, the look for zeros and the
snapshot come to an end; neither meets a cell that is held, and the snapshot fails only at a leaf.
At a moment with a cycle below, nothing is looked at, and the run ends with the error of the guard.
However the run ends, the same cells are held as before.  So when some runs have been made over the
same cells, a run that reports a cycle has gone through the cell that it reports, or the cell was
held before all runs; and if none was, no run over a value without cycles reports one. -/
theorem inspections_safe (registry : Registry) (settings : Settings) (schema : Schema)
    (calls : List Call) (rootType : Typ) (v : Value) (store : Store) :
    let ctx := (Engine.new registry settings).context schema
    let e := (Engine.new registry settings).after schema calls
    let r := e.validate schema rootType v store
    (∀ m, Meets ctx ctx.room v "" ⟨store, e.cache, .empty⟩ m →
      ((∀ name slots, Below schema m.store m.value (.record name slots) →
          schema.Exposes name slots) →
        guard ctx m.room m.store m.value m.place.path = .ok () → m.Safe ctx) ∧
      (Circular schema m.store m.value →
        ∃ err, err.EndsWalk ∧ m.EndsUnseen ctx err ∧ r.result = .error err)) ∧
    r.store.held = store.held ∧
    ∀ (runs : List (Typ × Value)) (t : Typ) (w : Value),
      let later := e.runAll schema ((rootType, v) :: runs) store
      let last := later.1.validate schema t w later.2
      later.2.held = store.held ∧
      (∀ path typeName, last.result = .error (.cycle path typeName) →
        CycleAt ctx store last.value last.store "" path typeName) ∧
      (store.held = [] → (∀ c, Below schema later.2 w (.shared c) → ¬ Loops schema later.2 c) →
        ∀ path typeName, last.result ≠ .error (.cycle path typeName)) := by
  intro ctx e r
  have hctx : e.context schema = ctx := (comes_after registry settings schema calls).1
  refine ⟨fun m hm => ⟨m.safe_of_guard ctx, fun hcircular => ?_⟩,
    (e.kept_validate schema rootType v store).1, fun runs t w => ?_⟩
  · obtain ⟨err, hends, hunseen⟩ := m.endsUnseen_of_circular ctx hcircular
    have hstop : (e.visitRoot schema v store).stop = some err := by
      rw [Engine.visitRoot, hctx]
      exact hm.stop (hunseen _ _)
    have hroot (l : Leaf) : v ≠ .leaf l := by
      rintro rfl
      cases hstop
    exact ⟨err, hends, hunseen, e.result_of_stop schema rootType store hroot hstop⟩
  · intro later last
    have hheld : later.2.held = store.held := held_runAll schema _ e store
    obtain ⟨hlater, hcache⟩ := comes_runAll registry settings schema calls ((rootType, v) :: runs)
      store
    refine ⟨hheld, fun path typeName h => ?_, fun hnone hacyclic => ?_⟩
    · have hcycle := cycleAt_of_result (hlater.symm ▸ hcache) h
      rw [hlater] at hcycle
      exact hcycle.of_held hheld.symm
    · exact result_ne_cycle later.1 schema t (hheld.trans hnone) hacyclic

/-! ### A node that refers to itself, beside a stamp -/

/-- Nodes refer to nodes, and stamps to texts. -/
def deskSchema : Schema :=
  ⟨[("Node", ⟨"Node", "Node", "Node",
      [⟨⟨"next", some "any", none⟩, "next", .shared (.record "Node")⟩], 1⟩),
    ("Stamp", ⟨"Stamp", "Stamp", "Stamp",
      [⟨⟨"mark", some "any", none⟩, "mark", .shared (.scalar .text)⟩], 1⟩)]⟩

def stamp : Value := .record "Stamp" [.shared 1]

def deskStore : Store := ⟨[⟨.record "Node", ringNode⟩, ⟨.scalar .text, .leaf (.text "a")⟩], []⟩

theorem circular_ringNode : Circular deskSchema deskStore (.shared 0) := by
  have hnode : Below deskSchema deskStore ringNode (.shared 0) :=
    .part (p := ⟨.field "Node" 0 ⟨"next", some "any", none⟩, .shared 0⟩)
      (List.mem_singleton_self _) (.refl _)
  exact ⟨0, .refl _, .inl hnode⟩

/-- Everything below the stamp is the stamp, the cell with its mark, or the mark. -/
theorem below_stamp {w : Value} (h : Below deskSchema deskStore stamp w) :
    w = stamp ∨ w = .shared 1 ∨ w = .leaf (.text "a") := by
  refine h.of_closed (P := fun w => w = stamp ∨ w = .shared 1 ∨ w = .leaf (.text "a")) ?_ (.inl rfl)
  rintro _ (rfl | rfl | rfl) p hp
  · obtain rfl := List.mem_singleton.mp hp
    exact .inr (.inl rfl)
  · obtain rfl := List.mem_singleton.mp hp
    exact .inr (.inr rfl)
  · cases hp

theorem not_loops_stamp {c : CellId} (h : Below deskSchema deskStore stamp (.shared c)) :
    ¬ Loops deskSchema deskStore c := by
  obtain h | h | h := below_stamp h
  · cases h
  · cases h
    intro hloop
    cases hloop.eq_of_leaf
  · cases h

/-- The mark of a stamp is looked at, the reference of the node is not.  After the run that ends at
the node, another one ends there as well, where the cycle is, and one over the stamp does not. -/
theorem inspections_safe_stamp :
    let ctx := (Engine.new ringRegistry .initial).context deskSchema
    let run : Run := ⟨deskStore, .empty, .empty⟩
    let first := (Engine.new ringRegistry .initial).validate deskSchema (.record "Node") ringNode
      deskStore
    let second := first.engine.validate deskSchema (.record "Node") ringNode first.store
    (∃ m, Meets ctx ctx.room stamp "" run m ∧ m.Safe ctx) ∧
      (∃ m err, Meets ctx ctx.room ringNode "" run m ∧ m.EndsUnseen ctx err ∧
        first.result = .error err) ∧
      first.store.held = [] ∧
      CycleAt ctx deskStore second.value second.store "" "next.next" "Node" ∧
      ∀ path typeName, (first.engine.validate deskSchema (.record "Stamp") stamp
        first.store).result ≠ .error (.cycle path typeName) := by
  intro ctx run first second
  obtain ⟨hring, hheld, hlater⟩ := inspections_safe ringRegistry .initial deskSchema []
    (.record "Node") ringNode deskStore
  obtain ⟨hstamp, _⟩ := inspections_safe ringRegistry .initial deskSchema [] (.record "Stamp") stamp
    deskStore
  have hmark : ∃ m, Meets ctx ctx.room stamp "" run m ∧ m.store = deskStore ∧ m.value = .shared 1 ∧
      guard ctx m.room m.store m.value m.place.path = .ok () :=
    ⟨_, .own ⟨_, [], [], rfl, rfl, rfl⟩ rfl, rfl, rfl, rfl⟩
  have hnext : ∃ m, Meets ctx ctx.room ringNode "" run m ∧ m.store = deskStore ∧
      m.value = .shared 0 :=
    ⟨_, .own ⟨_, [], [], rfl, rfl, rfl⟩ rfl, rfl, rfl⟩
  refine ⟨?_, ?_, hheld, (hlater [] (.record "Node") ringNode).2.1 "next.next" "Node" rfl, ?_⟩
  · obtain ⟨m, hm, hs, hv, hg⟩ := hmark
    refine ⟨m, hm, (hstamp m hm).1 (fun name slots hb => ?_) hg⟩
    rw [hs, hv] at hb
    obtain h | h | h := below_stamp (.trans (.part (List.mem_singleton_self _) (.refl _)) hb)
    · cases h
      rfl
    · cases h
    · cases h
  · obtain ⟨m, hm, hs, hv⟩ := hnext
    obtain ⟨err, _, hunseen, hresult⟩ := (hring m hm).2 (by rw [hs, hv]; exact circular_ringNode)
    exact ⟨m, err, hm, hunseen, hresult⟩
  · exact (hlater [] (.record "Stamp") stamp).2.2 rfl fun c hc => not_loops_stamp hc

end FieldRules
