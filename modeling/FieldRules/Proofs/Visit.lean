import FieldRules.Proofs.Route
import FieldRules.Walk.Visit
import Mathlib.Data.List.Forall2

/-!
# Proofs/Visit — a visit as a list of tasks

A visit of a value opens it, visits its parts as **tasks** one after the other, and puts the visited
parts back (`visit_of_opening`).  What a run keeps through every opening, rule and cell, it keeps
through a whole visit (`visit_kept`).
-/

namespace FieldRules

/-! ## Tasks -/

/-- The plan that a run gets for a record type. -/
def Context.lookup (ctx : Context) (cache : PlanCache) (name : String) : PlanCache.Lookup :=
  cache.getOrBuild (ctx.schema.record name).identity fun _ =>
    Plan.compile ctx.registry (ctx.schema.record name).typeName (ctx.schema.decls name)

/-- A part to be visited: the turn to it, the rule to be run on it before if it is a field that has
one, and its value. -/
structure Task where
  turn : Turn
  rule? : Option (Rule × Place)
  value : Value

/-- What a task adds to a path. -/
def Task.steps (ctx : Context) (t : Task) : List Step := t.turn.steps ctx.settings.displayNames

/-- The task of a slot of a record at a path. -/
def Slot.task (ctx : Context) (owner path : String) (slot : Slot) : Task :=
  ⟨.field slot.planned.name slot.planned.displayName,
    if slot.planned.rule.isEmpty then none
    else some (slot.planned.rule, ⟨owner, slot.planned.name, slot.typ,
      Path.join path (slot.planned.segment ctx.settings.displayNames)⟩),
    slot.value⟩

theorem Slot.steps_task (ctx : Context) (owner path : String) (slot : Slot) :
    (slot.task ctx owner path).steps ctx
      = [.segment (slot.planned.segment ctx.settings.displayNames)] := rfl

/-- Runs the rule of a task, and visits what is in the part then. -/
def Task.visit (ctx : Context) (room : Nat) (path : String) (t : Task) (run : Run) : Visit Value :=
  match t.rule? with
  | none => FieldRules.visit ctx room t.value (Path.spellFrom path (t.steps ctx)) run
  | some (rule, p) => (apply ctx room rule t.value p run).andThen fun w run =>
      FieldRules.visit ctx room w (Path.spellFrom path (t.steps ctx)) run

section

variable {ctx : Context} {room : Nat} {path : String} {t : Task}

theorem Task.visit_plain (hrule : t.rule? = none) (run : Run) :
    t.visit ctx room path run =
      FieldRules.visit ctx room t.value (Path.spellFrom path (t.steps ctx)) run := by
  rw [Task.visit, hrule]

/-- What a rule left is visited, if the rule did not stop the visit. -/
theorem Task.visit_ruled {rule : Rule} {p : Place} {run run' : Run} {w : Value}
    (hrule : t.rule? = some (rule, p))
    (happly : apply ctx room rule t.value p run = ⟨w, run', none⟩) :
    t.visit ctx room path run =
      FieldRules.visit ctx room w (Path.spellFrom path (t.steps ctx)) run' := by
  rw [Task.visit, hrule]
  simp only [happly, Visit.andThen]

end

/-- The tasks in order; the values of those after a stop stay as they are. -/
def visitTasks (ctx : Context) (room : Nat) (path : String) : List Task → Run → Visit (List Value)
  | [], run => ⟨[], run, none⟩
  | t :: ts, run =>
    let o := t.visit ctx room path run
    match o.stop with
    | some e => ⟨o.value :: ts.map Task.value, o.run, some e⟩
    | none => (visitTasks ctx room path ts o.run).map (o.value :: ·)

namespace Value

/-- Opens a value: the tasks below it, or why there are none, and the run with the plan that was
looked up or the cell that is held. -/
def opening (ctx : Context) (path : String) (run : Run) : Value → Run × Except Error (List Task)
  | leaf _ => (run, .ok [])
  | absent => (run, .ok [])
  | present w => (run, .ok [⟨.inner, none, w⟩])
  | boxed w => (run, .ok [⟨.inner, none, w⟩])
  | shared c =>
    match ctx.enter run.store c path with
    | .error e => (run, .error e)
    | .ok (w, held) => ({ run with store := held }, .ok [⟨.inner, none, w⟩])
  | sequence items => (run, .ok (items.zipIdx.map fun (w, i) => ⟨.item i, none, w⟩))
  | map entries => (run, .ok (entries.map fun (k, w) => ⟨.entry k, none, w⟩))
  | record name slots =>
    let r := ctx.schema.record name
    let found := ctx.lookup run.cache name
    let exposed := slots.take r.exposed
    ({ run with cache := found.cache },
      match found.result with
      | .error e => .error e
      | .ok plan =>
        if exposed.length != plan.fields.length then
          .error (.misuse r.typeName (.fieldCount plan.fields.length exposed.length))
        else .ok ((slotsOf plan.fields r.fields exposed).map (Slot.task ctx r.typeName path)))

/-- A value with other parts. -/
def refill (v : Value) (ws : List Value) : Value :=
  match v with
  | leaf l => leaf l
  | absent => absent
  | present w => present (ws.headD w)
  | boxed w => boxed (ws.headD w)
  | shared c => shared c
  | sequence _ => sequence ws
  | map entries => map (entries.zipWith (fun e w => (e.1, w)) ws)
  | record name slots => record name (ws ++ slots.drop ws.length)

/-- The run after the parts of a value: the content of a cell is written and the cell released. -/
def leave (v : Value) (ws : List Value) (run : Run) : Run :=
  match v, ws with
  | shared c, w :: _ => { run with store := (run.store.write c w).release c }
  | _, _ => run

end Value

/-! ## What can be opened -/

theorem opened_inj {run run' : Run} {ts ts' : List Task}
    (h : (run, (.ok ts : Except Error (List Task))) = (run', .ok ts')) : run = run' ∧ ts = ts' := by
  obtain ⟨hrun, hts⟩ := Prod.mk.inj h
  exact ⟨hrun, Except.ok.inj hts⟩

/-- A cell is opened unless it is held. -/
theorem Value.opening_shared (ctx : Context) (path : String) (c : CellId) (run : Run) :
    (run.store.isHeld c = true ∧
      (shared c).opening ctx path run = (run, .error (ctx.cycle run.store c path))) ∨
    (run.store.isHeld c = false ∧
      (shared c).opening ctx path run = ({ run with store := run.store.hold c },
        .ok [⟨.inner, none, (run.store.cell c).content⟩])) := by
  rw [opening, Context.enter]
  cases hc : run.store.isHeld c with
  | true => exact .inl ⟨rfl, rfl⟩
  | false => exact .inr ⟨rfl, rfl⟩

/-- A record is opened if it has a plan with as many fields as it exposes. -/
theorem Value.opening_record (ctx : Context) (path name : String) (slots : List Value) (run : Run) :
    (∃ e, (ctx.lookup run.cache name).result = .error e ∧
      (record name slots).opening ctx path run =
        ({ run with cache := (ctx.lookup run.cache name).cache }, .error e)) ∨
    ∃ plan, (ctx.lookup run.cache name).result = .ok plan ∧
      (((slots.take (ctx.schema.record name).exposed).length ≠ plan.fields.length ∧
        (record name slots).opening ctx path run =
          ({ run with cache := (ctx.lookup run.cache name).cache },
            .error (.misuse (ctx.schema.record name).typeName (.fieldCount plan.fields.length
              (slots.take (ctx.schema.record name).exposed).length)))) ∨
      ((slots.take (ctx.schema.record name).exposed).length = plan.fields.length ∧
        (record name slots).opening ctx path run =
          ({ run with cache := (ctx.lookup run.cache name).cache },
            .ok ((slotsOf plan.fields (ctx.schema.record name).fields
              (slots.take (ctx.schema.record name).exposed)).map
                (Slot.task ctx (ctx.schema.record name).typeName path))))) := by
  simp only [opening]
  cases (ctx.lookup run.cache name).result with
  | error e => exact .inl ⟨e, rfl, rfl⟩
  | ok plan =>
    refine .inr ⟨plan, rfl, ?_⟩
    by_cases hlen : (slots.take (ctx.schema.record name).exposed).length = plan.fields.length
    · exact .inr ⟨hlen, congrArg (Prod.mk _) (if_neg fun h => bne_iff_ne.mp h hlen)⟩
    · exact .inl ⟨hlen, congrArg (Prod.mk _) (if_pos (bne_iff_ne.mpr hlen))⟩

/-! ## A visit opens, goes through the tasks, and refills -/

variable {ctx : Context} {room : Nat} {path : String}

theorem visitTasks_cons_stop {t : Task} {ts : List Task} {run : Run} {e : Error}
    (h : (t.visit ctx room path run).stop = some e) :
    visitTasks ctx room path (t :: ts) run =
      ⟨(t.visit ctx room path run).value :: ts.map Task.value, (t.visit ctx room path run).run,
        some e⟩ := by
  rw [visitTasks, h]

theorem visitTasks_cons {t : Task} {ts : List Task} {run : Run}
    (h : (t.visit ctx room path run).stop = none) :
    visitTasks ctx room path (t :: ts) run =
      (visitTasks ctx room path ts (t.visit ctx room path run).run).map
        ((t.visit ctx room path run).value :: ·) := by
  rw [visitTasks, h]

theorem length_visitTasks :
    ∀ (ts : List Task) (run : Run), (visitTasks ctx room path ts run).value.length = ts.length
  | [], _ => rfl
  | t :: ts, run => by
    cases h : (t.visit ctx room path run).stop with
    | some e => rw [visitTasks_cons_stop h, List.length_cons, List.length_map, List.length_cons]
    | none =>
      rw [visitTasks_cons h]
      exact congrArg (· + 1) (length_visitTasks ts _)

/-- Elements that are visited as tasks are those tasks, put back into the elements. -/
theorem visitAll_eq_visitTasks {α : Type} {f : α → Run → Visit α} (task : α → Task)
    (put : α → Value → α)
    (hf : ∀ a run, f a run = ((task a).visit ctx room path run).map (put a))
    (hput : ∀ a, put a (task a).value = a) :
    ∀ (as : List α) (run : Run), visitAll f as run =
      (visitTasks ctx room path (as.map task) run).map (as.zipWith put)
  | [], run => rfl
  | a :: as, run => by
    have ih := visitAll_eq_visitTasks task put hf hput as
    rw [visitAll, hf a run, List.map_cons]
    cases h : ((task a).visit ctx room path run).stop with
    | some e =>
      have hrest : as.zipWith put ((as.map task).map Task.value) = as := by
        rw [List.map_map, List.zipWith_map_right, List.zipWith_self]
        exact (List.map_congr_left fun b _ => hput b).trans as.map_id'
      rw [visitTasks_cons_stop h]
      simp only [Visit.map, h, List.zipWith_cons_cons, hrest]
    | none =>
      rw [visitTasks_cons h]
      simp only [Visit.map, h, List.zipWith_cons_cons, ih]

theorem zipWith_right {α β : Type} :
    ∀ {as : List α} {bs : List β}, as.length = bs.length → as.zipWith (fun _ b => b) bs = bs
  | [], [], _ => rfl
  | _ :: as, b :: bs, h => by
    rw [List.zipWith_cons_cons, zipWith_right (Nat.succ.inj h)]

theorem slotsOf_eq_zipWith :
    ∀ (ps : List PlannedField) (fs : List RecordField) (vs : List Value),
      slotsOf ps fs vs = ps.zipWith (fun p q => ⟨p, q.1.typ, q.2⟩) (fs.zip vs)
  | [], _, _ => rfl
  | _ :: _, [], _ => rfl
  | _ :: _, _ :: _, [] => rfl
  | _ :: ps, _ :: fs, _ :: vs => congrArg _ (slotsOf_eq_zipWith ps fs vs)

/-- The slots of a record are visited as tasks. -/
theorem visit_slot (owner : String) (slot : Slot) (run : Run) :
    (let p : Place := ⟨owner, slot.planned.name, slot.typ,
        Path.join path (slot.planned.segment ctx.settings.displayNames)⟩
      let applied :=
        if slot.planned.rule.isEmpty then ⟨slot.value, run, none⟩
        else apply ctx room slot.planned.rule slot.value p run
      (applied.andThen fun w run => visit ctx room w p.path run).map
        fun w => { slot with value := w })
      = ((slot.task ctx owner path).visit ctx room path run).map
          fun w => { slot with value := w } := by
  rw [Task.visit, Slot.task]
  cases slot.planned.rule.isEmpty <;> rfl

/-- The task of a value alone. -/
theorem visitTasks_alone (w : Value) (run : Run) :
    visitTasks ctx room path [⟨.inner, none, w⟩] run =
      (visit ctx room w path run).map fun w => [w] := by
  cases hs : (visit ctx room w path run).stop with
  | some e =>
    rw [visitTasks_cons_stop (t := ⟨.inner, none, w⟩) hs]
    simp only [Visit.map, hs]
    rfl
  | none =>
    rw [visitTasks_cons (t := ⟨.inner, none, w⟩) hs]
    simp only [Visit.map, hs]
    rfl

/-- A value that cannot be opened stops the visit. -/
theorem visit_of_opening_error {v : Value} {run run' : Run} {e : Error}
    (h : v.opening ctx path run = (run', .error e)) :
    visit ctx (room + 1) v path run = ⟨v, run', some e⟩ := by
  cases v with
  | shared c =>
    obtain ⟨hc, hopen⟩ | ⟨hc, hopen⟩ := Value.opening_shared ctx path c run
    · cases hopen.symm.trans h
      simp only [visit, Context.enter, hc, if_true]
    · cases hopen.symm.trans h
  | record name slots =>
    obtain ⟨e', hplan, hopen⟩ | ⟨plan, hplan, ⟨hlen, hopen⟩ | ⟨hlen, hopen⟩⟩ :=
      Value.opening_record ctx path name slots run
    · cases hopen.symm.trans h
      simp only [visit]
      change (match (ctx.lookup run.cache name).result with | .error e => _ | .ok plan => _) = _
      rw [hplan]
      rfl
    · cases hopen.symm.trans h
      simp only [visit]
      change (match (ctx.lookup run.cache name).result with | .error e => _ | .ok plan => _) = _
      simp only [hplan]
      rw [if_pos (bne_iff_ne.mpr hlen)]
      rfl
    · cases hopen.symm.trans h
  | _ => cases h

/-- **A visit opens the value, goes through the tasks, and puts the visited parts back.** -/
theorem visit_of_opening {v : Value} {run run' : Run} {tasks : List Task}
    (h : v.opening ctx path run = (run', .ok tasks)) :
    visit ctx (room + 1) v path run =
      ⟨v.refill (visitTasks ctx room path tasks run').value,
        v.leave (visitTasks ctx room path tasks run').value
          (visitTasks ctx room path tasks run').run,
        (visitTasks ctx room path tasks run').stop⟩ := by
  cases v with
  | leaf l =>
    obtain ⟨rfl, rfl⟩ := opened_inj h
    rfl
  | absent =>
    obtain ⟨rfl, rfl⟩ := opened_inj h
    rfl
  | present w =>
    obtain ⟨rfl, rfl⟩ := opened_inj h
    rw [visitTasks_alone]
    rfl
  | boxed w =>
    obtain ⟨rfl, rfl⟩ := opened_inj h
    rw [visitTasks_alone]
    rfl
  | shared c =>
    obtain ⟨hc, hopen⟩ | ⟨hc, hopen⟩ := Value.opening_shared ctx path c run
    · cases hopen.symm.trans h
    · obtain ⟨rfl, rfl⟩ := opened_inj (hopen.symm.trans h)
      rw [visitTasks_alone]
      simp only [visit, Context.enter, hc, Bool.false_eq_true, if_false]
      rfl
  | sequence items =>
    obtain ⟨rfl, rfl⟩ := opened_inj h
    rw [visit]
    refine (congrArg (Visit.map _) (visitAll_eq_visitTasks
      (fun (w, i) => ⟨.item i, none, w⟩) (fun q w => (w, q.2)) (fun _ _ => rfl)
      (fun _ => rfl) items.zipIdx run)).trans ?_
    simp only [Visit.map, List.map_zipWith, Value.refill, Value.leave]
    rw [zipWith_right (by rw [length_visitTasks, List.length_map])]
  | map entries =>
    obtain ⟨rfl, rfl⟩ := opened_inj h
    rw [visit]
    exact congrArg (Visit.map _) (visitAll_eq_visitTasks
      (fun (k, w) => ⟨.entry k, none, w⟩) (fun e w => (e.1, w)) (fun _ _ => rfl)
      (fun _ => rfl) entries run)
  | record name slots =>
    obtain ⟨e', hplan, hopen⟩ | ⟨plan, hplan, ⟨hlen, hopen⟩ | ⟨hlen, hopen⟩⟩ :=
      Value.opening_record ctx path name slots run
    · cases hopen.symm.trans h
    · cases hopen.symm.trans h
    · obtain ⟨rfl, rfl⟩ := opened_inj (hopen.symm.trans h)
      simp only [visit]
      change (match (ctx.lookup run.cache name).result with | .error e => _ | .ok plan => _) = _
      simp only [hplan]
      rw [if_neg fun h => bne_iff_ne.mp h hlen]
      refine (congrArg (Visit.map _) (visitAll_eq_visitTasks
        (Slot.task ctx (ctx.schema.record name).typeName path)
        (fun slot w => { slot with value := w }) (visit_slot _) (fun _ => rfl) _ _)).trans ?_
      simp only [Visit.map, Value.refill, Value.leave, List.length_zipWith, length_visitTasks,
        List.length_map, Nat.min_self, List.map_zipWith]
      rw [zipWith_right (by rw [length_visitTasks, List.length_map])]
      rfl

/-! ## What an opening is -/

/-- The task of a part.  Only fields have a rule, and their name is that of the plan. -/
inductive Task.Of (ctx : Context) (path : String) (cache : PlanCache) : Part → Task → Prop
  | plain {site : Site} {w : Value} (h : ∀ name i d, site ≠ .field name i d) :
      Task.Of ctx path cache ⟨site, w⟩ ⟨site.turn, none, w⟩
  | field {name : String} {i : Nat} {d : FieldDecl} {w : Value} {plan : Plan} {f : PlannedField}
      {typ : Typ} (hplan : (ctx.lookup cache name).result = .ok plan)
      (hf : plan.fields[i]? = some f) (hd : (ctx.schema.decls name)[i]? = some d) :
      Task.Of ctx path cache ⟨.field name i d, w⟩
        (Slot.task ctx (ctx.schema.record name).typeName path ⟨f, typ, w⟩)

theorem Task.Of.value_eq {cache : PlanCache} {p : Part} {t : Task}
    (h : Task.Of ctx path cache p t) : t.value = p.value := by cases h <;> rfl

theorem values_of_forall₂ {cache : PlanCache} {ps : List Part} {ts : List Task}
    (h : List.Forall₂ (Task.Of ctx path cache) ps ts) : ts.map Task.value = ps.map Part.value := by
  induction h with
  | nil => rfl
  | cons hpt _ ih => rw [List.map_cons, List.map_cons, hpt.value_eq, ih]

/-- The plans after a value was opened. -/
def Value.found (ctx : Context) (cache : PlanCache) : Value → PlanCache
  | record name _ => (ctx.lookup cache name).cache
  | _ => cache

/-- What is known of the plans is known after an opening, if it is after a lookup. -/
theorem Value.found_known {Known : PlanCache → Prop} {cache : PlanCache} (v : Value)
    (hv : ∀ name slots, v = record name slots → Known (ctx.lookup cache name).cache)
    (hk : Known cache) : Known (v.found ctx cache) := by
  cases v with
  | record name slots => exact hv name slots rfl
  | _ => exact hk

/-- One task for each part of what is no record. -/
theorem forall₂_plain {cache : PlanCache} {α : Type} (l : List α) (site : α → Site)
    (get : α → Value) (h : ∀ a name i d, site a ≠ .field name i d) :
    List.Forall₂ (Task.Of ctx path cache) (l.map fun a => ⟨site a, get a⟩)
      (l.map fun a => ⟨(site a).turn, none, get a⟩) := by
  rw [List.forall₂_map_left_iff, List.forall₂_map_right_iff, List.forall₂_same]
  exact fun a _ => .plain (h a)

/-- One task for each slot of a record, if some fields of the plan and of the record are passed.
The induction goes through the three lists at once. -/
theorem forall₂_slotsOf_append {cache : PlanCache} {name : String} {plan : Plan}
    (hplan : (ctx.lookup cache name).result = .ok plan) (before : List PlannedField)
    {ps : List PlannedField} (passed : List RecordField) {fs : List RecordField} {vs : List Value}
    (hps : plan.fields = before ++ ps)
    (hfs : (ctx.schema.record name).fields = passed ++ fs)
    (hpassed : before.length = passed.length) (hvs : vs.length = ps.length) :
    List.Forall₂ (Task.Of ctx path cache)
      (((fs.zip vs).zipIdx before.length).map fun q => ⟨.field name q.2 q.1.1.decl, q.1.2⟩)
      ((slotsOf ps fs vs).map (Slot.task ctx (ctx.schema.record name).typeName path)) := by
  induction ps generalizing before passed fs vs with
  | nil =>
    obtain rfl := List.length_eq_zero_iff.mp hvs
    rw [List.zip_nil_right]
    exact .nil
  | cons p ps ih =>
    cases vs with
    | nil => cases hvs
    | cons v vs =>
      cases fs with
      | nil => exact .nil
      | cons f fs =>
        refine .cons (.field hplan ?_ ?_) ?_
        · rw [hps, List.getElem?_append_right (Nat.le_refl _), Nat.sub_self]
          rfl
        · rw [Schema.decls, hfs, List.map_append, List.getElem?_append_right
            (by rw [List.length_map, hpassed]), List.length_map, hpassed, Nat.sub_self]
          rfl
        · have hrest := ih (before ++ [p]) (passed ++ [f])
            (by rw [hps, List.append_cons]) (by rw [hfs, List.append_cons])
            (by simp only [List.length_append, hpassed]; rfl) (Nat.succ.inj hvs)
          rwa [List.length_append] at hrest

/-- One task for each part of a record, if the plan has as many fields as are exposed. -/
theorem forall₂_slotsOf {cache : PlanCache} {name : String} {slots : List Value} {plan : Plan}
    (hplan : (ctx.lookup cache name).result = .ok plan)
    (hlen : (slots.take (ctx.schema.record name).exposed).length = plan.fields.length)
    (store : Store) :
    List.Forall₂ (Task.Of ctx path cache) ((Value.record name slots).parts ctx.schema store)
      ((slotsOf plan.fields (ctx.schema.record name).fields
        (slots.take (ctx.schema.record name).exposed)).map
          (Slot.task ctx (ctx.schema.record name).typeName path)) :=
  forall₂_slotsOf_append hplan [] [] rfl rfl rfl hlen

/-- **An opened value is free, and its tasks are those of its parts.** -/
theorem of_opening {v : Value} {run run' : Run} {tasks : List Task}
    (h : v.opening ctx path run = (run', .ok tasks)) :
    run' = ⟨v.heldIn run.store, v.found ctx run.cache, run.report⟩ ∧ ¬ v.Barred run.store ∧
      List.Forall₂ (Task.Of ctx path run.cache) (v.parts ctx.schema run.store) tasks := by
  have halone : ∀ w, List.Forall₂ (Task.Of ctx path run.cache) [⟨.inner, w⟩] [⟨.inner, none, w⟩] :=
    fun w => .cons (.plain nofun) .nil
  cases v with
  | leaf l =>
    obtain ⟨rfl, rfl⟩ := opened_inj h
    exact ⟨rfl, nofun, .nil⟩
  | absent =>
    obtain ⟨rfl, rfl⟩ := opened_inj h
    exact ⟨rfl, nofun, .nil⟩
  | present w =>
    obtain ⟨rfl, rfl⟩ := opened_inj h
    exact ⟨rfl, nofun, halone w⟩
  | boxed w =>
    obtain ⟨rfl, rfl⟩ := opened_inj h
    exact ⟨rfl, nofun, halone w⟩
  | shared c =>
    obtain ⟨hc, hopen⟩ | ⟨hc, hopen⟩ := Value.opening_shared ctx path c run
    · cases hopen.symm.trans h
    · obtain ⟨rfl, rfl⟩ := opened_inj (hopen.symm.trans h)
      exact ⟨rfl, Value.not_barred_iff.mpr fun d hd => Value.shared.inj hd ▸ hc, halone _⟩
  | sequence items =>
    obtain ⟨rfl, rfl⟩ := opened_inj h
    exact ⟨rfl, nofun, forall₂_plain _ (fun q => .item q.2) Prod.fst nofun⟩
  | map entries =>
    obtain ⟨rfl, rfl⟩ := opened_inj h
    exact ⟨rfl, nofun, forall₂_plain _ (fun e => .entry e.1) Prod.snd nofun⟩
  | record name slots =>
    obtain ⟨e', hplan, hopen⟩ | ⟨plan, hplan, ⟨hlen, hopen⟩ | ⟨hlen, hopen⟩⟩ :=
      Value.opening_record ctx path name slots run
    · cases hopen.symm.trans h
    · cases hopen.symm.trans h
    · obtain ⟨rfl, rfl⟩ := opened_inj (hopen.symm.trans h)
      exact ⟨rfl, nofun, forall₂_slotsOf hplan hlen run.store⟩

/-- **A value that cannot be opened** is a cell that is held, or a record that has no plan or one
with another number of fields. -/
theorem of_opening_error {v : Value} {run run' : Run} {e : Error}
    (h : v.opening ctx path run = (run', .error e)) :
    run' = { run with cache := v.found ctx run.cache } ∧
      ((∃ c, v = .shared c ∧ run.store.isHeld c = true ∧ e = ctx.cycle run.store c path) ∨
        ∃ name slots, v = .record name slots ∧
          ((ctx.lookup run.cache name).result = .error e ∨
            ∃ plan, (ctx.lookup run.cache name).result = .ok plan ∧
              (slots.take (ctx.schema.record name).exposed).length ≠ plan.fields.length ∧
              ∃ m, e = .misuse (ctx.schema.record name).typeName m)) := by
  cases v with
  | shared c =>
    obtain ⟨hc, hopen⟩ | ⟨hc, hopen⟩ := Value.opening_shared ctx path c run
    · cases hopen.symm.trans h
      exact ⟨rfl, .inl ⟨c, rfl, hc, rfl⟩⟩
    · cases hopen.symm.trans h
  | record name slots =>
    obtain ⟨e', hplan, hopen⟩ | ⟨plan, hplan, ⟨hlen, hopen⟩ | ⟨hlen, hopen⟩⟩ :=
      Value.opening_record ctx path name slots run
    · cases hopen.symm.trans h
      exact ⟨rfl, .inr ⟨name, slots, rfl, .inl hplan⟩⟩
    · cases hopen.symm.trans h
      exact ⟨rfl, .inr ⟨name, slots, rfl, .inr ⟨plan, hplan, hlen, _, rfl⟩⟩⟩
    · cases hopen.symm.trans h
  | _ => cases h

/-! ## What a rule does -/

/-- **A rule stops the visit where the field cannot be inspected.**  Otherwise the field keeps its
value, or gets one that was read from a mapped value, with the new cells in it. -/
theorem apply_cases (rule : Rule) (v : Value) (p : Place) (run : Run) :
    (∃ e, inspect ctx room run.store v p = .error e ∧
      apply ctx room rule v p run = ⟨v, run, some e⟩) ∨
    ∃ report, apply ctx room rule v p run = ⟨v, { run with report := report }, none⟩ ∨
      ∃ mapped w s, Value.read ctx.schema p.typ mapped run.store = .ok (w, s) ∧
        apply ctx room rule v p run = ⟨w, ⟨s, run.cache, report⟩, none⟩ := by
  cases hi : inspect ctx room run.store v p with
  | error e => exact .inl ⟨e, rfl, by rw [apply, hi]⟩
  | ok seen =>
    obtain ⟨hint, form⟩ := seen
    simp only [apply, hi]
    cases (rule.act form hint).mapped with
    | none => exact .inr ⟨_, .inl rfl⟩
    | some mapped =>
      simp only
      split
      · exact .inr ⟨_, .inl rfl⟩
      · rw [FieldRules.store]
        split
        · next w s hread => exact .inr ⟨_, .inr ⟨mapped, w, s, hread, rfl⟩⟩
        · exact .inr ⟨_, .inl rfl⟩

/-! ## Parts put back -/

theorem map_snd_zip_eq_take {α β : Type} :
    ∀ (as : List α) (bs : List β), (as.zip bs).map Prod.snd = bs.take as.length
  | [], _ => rfl
  | _ :: _, [] => rfl
  | _ :: as, b :: bs => congrArg (b :: ·) (map_snd_zip_eq_take as bs)

theorem Value.refill_self (schema : Schema) (store : Store) (v : Value) :
    v.refill ((v.parts schema store).map Part.value) = v := by
  cases v with
  | sequence items => rw [values_parts_sequence, refill]
  | map entries =>
    rw [values_parts_map, refill, List.zipWith_map_right, List.zipWith_self, List.map_id']
  | record name slots =>
    have hws : ((schema.record name).fields.zip (slots.take (schema.record name).exposed)).map
        Prod.snd <+: slots := by
      rw [map_snd_zip_eq_take]
      exact (List.take_prefix _ _).trans (List.take_prefix _ _)
    rw [values_parts_record, refill, List.prefix_iff_eq_append.mp hws]
  | _ => rfl

theorem Value.entered_refill (v : Value) (ws : List Value) : (v.refill ws).entered = v.entered := by
  cases v <;> rfl

/-- **The parts of a refilled value are the new ones, at the sites of the old ones.** -/
theorem Value.parts_refill {schema : Schema} {store : Store} {v : Value} (hv : v.entered = [])
    {ws : List Value} (hlen : ws.length = (v.parts schema store).length) :
    (v.refill ws).parts schema store
      = (v.parts schema store).zipWith (fun p w => ⟨p.site, w⟩) ws := by
  cases v with
  | leaf l => rfl
  | absent => rfl
  | present w =>
    obtain ⟨u, rfl⟩ := List.length_eq_one_iff.mp hlen
    rfl
  | boxed w =>
    obtain ⟨u, rfl⟩ := List.length_eq_one_iff.mp hlen
    rfl
  | shared c => cases hv
  | sequence items =>
    have hws : ws.length = items.length := by simpa [parts] using hlen
    refine List.ext_getElem (by simp [parts, refill, hws]) fun i h h' => ?_
    simp [parts, refill]
  | map entries =>
    have hws : ws.length = entries.length := by simpa [parts] using hlen
    refine List.ext_getElem (by simp [parts, refill]) fun i h h' => ?_
    simp [parts, refill]
  | record name slots =>
    have hws : ws.length = min (schema.record name).fields.length
        (min (schema.record name).exposed slots.length) := by simpa [parts] using hlen
    have hslots : ws.length ≤ slots.length := by omega
    refine List.ext_getElem ?_ fun i h h' => ?_
    · simp only [parts, refill, List.length_map, List.length_zipIdx, List.length_zip,
        List.length_take, List.length_append, List.length_drop, List.length_zipWith]
      omega
    · have hi : i < ws.length := by
        simp only [List.length_zipWith] at h'
        omega
      simp [parts, refill, List.getElem_append_left hi]

/-- …and they match the old ones as the new values do. -/
theorem Value.forall₂_parts_refill {schema : Schema} {R : Part → Value → Prop} {store : Store}
    {v : Value} (hv : v.entered = []) {ws : List Value}
    (h : List.Forall₂ R (v.parts schema store) ws) (store' : Store) :
    List.Forall₂ (fun p q => q.site = p.site ∧ R p q.value) (v.parts schema store')
      ((v.refill ws).parts schema store') := by
  rw [v.parts_of_entered hv store' store,
    (v.refill ws).parts_of_entered ((v.entered_refill ws).trans hv) store' store,
    parts_refill hv h.length_eq.symm]
  generalize v.parts schema store = ps at h
  induction h with
  | nil => exact .nil
  | cons hpw _ ih => exact .cons ⟨rfl, hpw⟩ ih

/-- A cell whose content is put back as it was leaves the store as it was. -/
theorem Store.release_write_hold (s : Store) (c : CellId) :
    ((s.hold c).write c (s.cell c).content).release c = s := by
  have hcells : (s.cells.modify c fun cell => { cell with content := (s.cell c).content })
      = s.cells := by
    refine List.ext_getElem? fun i => ?_
    rw [List.getElem?_modify]
    split
    · next h =>
      subst h
      cases hi : s.cells[c]? with
      | none => rfl
      | some cell =>
        have hcell : s.cell c = cell := by rw [Store.cell, List.getD_eq_getElem?_getD, hi]; rfl
        rw [hcell]
        rfl
    · exact Option.map_id'
  rw [Store.write, Store.hold, Store.release, hcells, List.erase_cons_head]

/-- A value is left as it was found if its parts are. -/
theorem Value.leave_parts (schema : Schema) (st : Store) (v : Value) {run : Run}
    (h : run.store = v.heldIn st) :
    v.leave ((v.parts schema st).map Part.value) run = { run with store := st } := by
  cases v with
  | shared c =>
    simp only [parts, List.map_cons, List.map_nil, leave, h, heldIn_shared,
      Store.release_write_hold]
  | _ =>
    simp only [heldIn] at h
    rw [← h]
    rfl

/-! ## What a run keeps -/

/-- What is visited inside a cell is one value. -/
theorem exists_of_shared {c : CellId} {run run' : Run} {tasks : List Task}
    (h : List.Forall₂ (Task.Of ctx path run.cache)
      ((Value.shared c).parts ctx.schema run.store) tasks) :
    ∃ w, (visitTasks ctx room path tasks run').value = [w] :=
  List.length_eq_one_iff.mp ((length_visitTasks tasks run').trans h.length_eq.symm)

/-- A relation of runs that every lookup, every rule and every cell keeps. -/
structure Run.Kept (ctx : Context) (R : Run → Run → Prop) : Prop where
  refl : ∀ run, R run run
  trans : ∀ {a b c}, R a b → R b c → R a c
  lookup : ∀ run name, R run { run with cache := (ctx.lookup run.cache name).cache }
  apply : ∀ room rule v p run, R run (apply ctx room rule v p run).run
  cell : ∀ run run' c w, run.store.isHeld c = false →
    R { run with store := run.store.hold c } run' →
    R run { run' with store := (run'.store.write c w).release c }

namespace Run.Kept

variable {R : Run → Run → Prop}

theorem found (h : Run.Kept ctx R) (v : Value) (run : Run) :
    R run { run with cache := v.found ctx run.cache } := by
  cases v with
  | record name slots => exact h.lookup run name
  | _ => exact h.refl run

theorem taskOf (h : Run.Kept ctx R)
    (hvisit : ∀ v path run, R run (visit ctx room v path run).run) (t : Task) (run : Run) :
    R run (t.visit ctx room path run).run := by
  rw [Task.visit]
  cases t.rule? with
  | none => exact hvisit _ _ run
  | some rp =>
    simp only [Visit.andThen]
    split
    · exact h.apply _ _ _ _ run
    · exact h.trans (h.apply _ _ _ _ run) (hvisit _ _ _)

theorem tasksOf (h : Run.Kept ctx R)
    (hvisit : ∀ v path run, R run (visit ctx room v path run).run) :
    ∀ (ts : List Task) (run : Run), R run (visitTasks ctx room path ts run).run
  | [], run => h.refl run
  | t :: ts, run => by
    have ht : R run (t.visit ctx room path run).run := h.taskOf hvisit t run
    cases hs : (t.visit ctx room path run).stop with
    | some e => rwa [visitTasks_cons_stop hs]
    | none =>
      rw [visitTasks_cons hs]
      exact h.trans ht (h.tasksOf hvisit ts _)

/-- **What a run keeps in every step, it keeps in a whole visit**, also in one that is stopped. -/
theorem visit (h : Run.Kept ctx R) :
    ∀ (room : Nat) (v : Value) (path : String) (run : Run),
      R run (FieldRules.visit ctx room v path run).run
  | 0, _, _, run => h.refl run
  | room + 1, v, path, run => by
    cases hopen : v.opening ctx path run with | mk run' opened
    cases opened with
    | error e =>
      rw [visit_of_opening_error hopen, (of_opening_error hopen).1]
      exact h.found v run
    | ok tasks =>
      obtain ⟨hrun, hfree, hparts⟩ := of_opening hopen
      have htasks : R run' (visitTasks ctx room path tasks run').run :=
        h.tasksOf (h.visit room) tasks run'
      rw [visit_of_opening hopen]
      cases v with
      | shared c =>
        have hc := Value.not_barred_iff.mp hfree c rfl
        obtain ⟨w, hw⟩ := exists_of_shared hparts
        rw [hw]
        exact h.cell run _ c w hc (hrun ▸ htasks)
      | _ => exact h.trans (hrun ▸ h.found _ run) htasks

/-- …and in the tasks that a visit consists of. -/
theorem task (h : Run.Kept ctx R) (room : Nat) (path : String) (t : Task) (run : Run) :
    R run (t.visit ctx room path run).run := h.taskOf (h.visit room) t run

theorem tasks (h : Run.Kept ctx R) (room : Nat) (path : String) (ts : List Task) (run : Run) :
    R run (visitTasks ctx room path ts run).run := h.tasksOf (h.visit room) ts run

end Run.Kept

end FieldRules
