import FieldRules.Proofs.Paired

/-!
# Proofs/Lockstep — visits of values that correspond

Two visits of corresponding values go on in lockstep, whatever plans are kept: they end with
corresponding values, with the same report, and stop with the same error (`visit_alike`).  What a
lookup gives is the plan of the type, as long as plans come from types of different identities.
-/

namespace FieldRules

variable {ctx : Context} {types : String → Prop} {live : CellId → Prop} {f : CellId → CellId}

/-! ## Plans -/

/-- **What is kept makes no difference to a lookup.** -/
theorem result_lookup (hfam : ctx.schema.Family types) {cache : PlanCache}
    (hcache : cache.Comes ctx types) {name : String} (hname : types name) :
    (ctx.lookup cache name).result = ctx.plan name := by
  rcases lookup_cases ctx cache name with
    ⟨plan, hget, hlook⟩ | ⟨_, ⟨plan, _, hplan, hlook, _⟩ | ⟨e, hplan, hlook⟩⟩
  · obtain ⟨m, hm, hid, hplan⟩ := hcache _ plan hget
    obtain rfl := hfam.distinct m name hm hname hid
    rw [hlook, hplan]
  · rw [hlook, hplan]
  · rw [hlook, hplan]

/-! ## Runs that are alike -/

/-- Two runs with stores that are alike, plans of the same types, and the same report. -/
structure Run.Alike (ctx : Context) (types : String → Prop) (live : CellId → Prop)
    (f : CellId → CellId) (run run' : Run) : Prop where
  store : run.store.Alike types live f run'.store
  known : run.cache.Comes ctx types
  known' : run'.cache.Comes ctx types
  report : run'.report = run.report

/-- Two visits that leave related values and runs that are alike, and stop with the same error or
not at all; the first one leaves all cells that are not live as they were. -/
structure Visit.Alike (ctx : Context) (types : String → Prop) (live : CellId → Prop)
    (f : CellId → CellId) {α : Type} (rel : α → α → Prop) (before : Store) (o o' : Visit α) :
    Prop where
  value : rel o.value o'.value
  run : o.run.Alike ctx types live f o'.run
  stop : o'.stop = o.stop
  outside : ∀ c, ¬ live c → o.run.store.cell c = before.cell c

/-- Corresponding values are visited alike with some room. -/
def VisitsAlike (ctx : Context) (types : String → Prop) (live : CellId → Prop)
    (f : CellId → CellId) (room : Nat) : Prop :=
  ∀ (v : Value) (path : String) (run run' : Run), v.Within types live →
    run.Alike ctx types live f run' →
    (visit ctx room v path run).Alike ctx types live f (Corresponds types live f) run.store
      (visit ctx room (v.rename f) path run')

/-! ## Runs that are alike are paired -/

/-- Runs along the same paths that start with the same report, with any plans of the types. -/
def Schema.Family.pairing (hfam : ctx.schema.Family types) (live : CellId → Prop)
    (f : CellId → CellId) (report : Report) : Pairing :=
  ctx.along ctx.settings rfl report hfam.closed live f
    (fun c c' => c.Comes ctx types ∧ c'.Comes ctx types) fun hname h =>
      ⟨(result_lookup hfam h.2 hname).trans (result_lookup hfam h.1 hname).symm,
        h.1.lookup hname, h.2.lookup hname⟩

/-- Errors at the same paths, under the same limit, are the same. -/
theorem Pairing.error_eq_of_told {P : Pairing} (hpaths : P.paths = Eq)
    (hlimit : P.settings.maxDepth = P.ctx.settings.maxDepth) {e e' : Error} (h : P.Errors e e') :
    e' = e := by
  cases h with
  | plan _ => rfl
  | misuse _ _ => rfl
  | tooDeep h => rw [h.eq hpaths, Context.tooDeep, Context.tooDeep, Pairing.other, hlimit]
  | _ h => rw [h.eq hpaths]

section

variable {room : Nat} {path : String} {v : Value} {run run' : Run} {hfam : ctx.schema.Family types}

theorem Run.Alike.runs (h : run.Alike ctx types live f run') (hfam : ctx.schema.Family types) :
    (hfam.pairing live f run.report).Runs run run' where
  store := h.store
  sound := fun c hc => ⟨h.store.within c hc, Value.spelled_all _⟩
  plans := ⟨h.known, h.known'⟩
  issues := by
    rw [h.report]
    exact .refl _ _
  rejected := by
    rw [h.report]
    exact .refl _ _

theorem Pairing.Runs.alike {report : Report}
    (h : (hfam.pairing live f report).Runs run run') : run.Alike ctx types live f run' :=
  ⟨h.store, h.plans.1, h.plans.2, h.report_eq rfl rfl⟩

/-- Runs that are paired along the same paths are alike. -/
theorem Pairing.Visits.alike {α : Type} {rel rel' : α → α → Prop} {report : Report}
    {start : Store} {o o' : Visit α}
    (h : (hfam.pairing live f report).Visits rel start o o')
    (hrel : rel o.value o'.value → rel' o.value o'.value) :
    o.Alike ctx types live f rel' start o' := by
  refine ⟨hrel h.value, h.runs.alike, ?_, h.outside⟩
  obtain ⟨ho, ho'⟩ | ⟨e, e', ho, ho', he⟩ := h.stop_cases
  · rw [ho, ho']
  · rw [ho, ho', Pairing.error_eq_of_told rfl rfl he]

theorem Pairing.Values.corresponds {report : Report} {v v' : Value}
    (h : (hfam.pairing live f report).Values v v') : Corresponds types live f v v' :=
  ⟨h.1.within, h.2⟩

theorem Value.Within.values (h : v.Within types live) (hfam : ctx.schema.Family types)
    (report : Report) : (hfam.pairing live f report).Values v (v.rename f) :=
  ⟨⟨h, v.spelled_all⟩, rfl⟩

/-- **Corresponding values are visited in lockstep.** -/
theorem visit_alike (hfam : ctx.schema.Family types) (room : Nat) :
    VisitsAlike ctx types live f room := by
  intro v path run run' hv hrun
  have hpaired := Pairing.visit_paired (hfam.pairing live f run.report) room v (v.rename f) path
    path run run' (hv.values hfam _) rfl (hrun.runs hfam)
    ⟨fun m _ => m.writesSpelled_all ctx, fun _ _ => trivial⟩
  exact hpaired.alike Pairing.Values.corresponds

/-! ## One run -/

/-- A run over values of some types and cells: it is like itself. -/
def Run.Sound (ctx : Context) (types : String → Prop) (live : CellId → Prop) (run : Run) : Prop :=
  run.Alike ctx types live id run

/-- A task whose value and the type of whose field are within some types and cells.  Its rule is run
at the path of the task. -/
structure Task.Within (ctx : Context) (types : String → Prop) (live : CellId → Prop)
    (path : String) (t : Task) : Prop where
  value : t.value.Within types live
  typ : ∀ rule p, t.rule? = some (rule, p) → p.typ.Within types
  path : ∀ rule p, t.rule? = some (rule, p) → p.path = Path.spellFrom path (t.steps ctx)

theorem Value.Within.self (h : v.Within types live) (hfam : ctx.schema.Family types)
    (report : Report) : (hfam.pairing live id report).Values v v :=
  ⟨⟨h, v.spelled_all⟩, v.rename_id.symm⟩

theorem Task.Within.self {t : Task} (h : t.Within ctx types live path)
    (hfam : ctx.schema.Family types) (report : Report) :
    (hfam.pairing live id report).Tasks path path t t := by
  refine ⟨h.value.self hfam report, rfl, rfl, ?_⟩
  cases hrule : t.rule? with
  | none => exact .none
  | some r =>
    have hpath := h.path r.1 r.2 hrule
    exact .some ⟨rfl, ⟨h.typ r.1 r.2 hrule, rfl, rfl, rfl, rfl⟩, hpath, hpath⟩

/-- A value over which a rule was run is within the types and cells. -/
theorem sound_apply (room : Nat) (hfam : ctx.schema.Family types) (rule : Rule)
    (hv : v.Within types live) {p : Place} (hp : p.typ.Within types)
    (hrun : run.Sound ctx types live) :
    (apply ctx room rule v p run).value.Within types live ∧
      (apply ctx room rule v p run).run.Sound ctx types live := by
  have hplace : (hfam.pairing live id run.report).Places p p := ⟨hp, rfl, rfl, rfl, rfl⟩
  have h : (hfam.pairing live id run.report).Visits _ run.store (apply ctx room rule v p run)
      (apply ctx room rule v p run) :=
    Pairing.apply_paired rule (hv.self hfam _) hplace (Run.Alike.runs hrun hfam)
      (Moment.writesSpelled_all ctx _) fun _ _ _ _ _ => trivial
  exact ⟨h.value.1.within, h.runs.alike⟩

/-- …and so is the part of a task that was visited. -/
theorem sound_task (room : Nat) (path : String) (hfam : ctx.schema.Family types) {t : Task}
    (ht : t.Within ctx types live path) (hrun : run.Sound ctx types live) :
    (t.visit ctx room path run).value.Within types live ∧
      (t.visit ctx room path run).run.Sound ctx types live := by
  have htask : (hfam.pairing live id run.report).Tasks path path t t := ht.self hfam _
  have h := Pairing.task_paired (Pairing.visit_paired _ room) htask (Run.Alike.runs hrun hfam)
    ⟨fun m _ => m.writesSpelled_all ctx, fun _ _ => trivial⟩
  exact ⟨h.value.1.within, h.runs.alike⟩

/-- The tasks of a value are within its types and cells. -/
theorem sound_opening (hfam : ctx.schema.Family types) (hv : v.Within types live)
    (hrun : run.Sound ctx types live) {ts : List Task}
    (h : v.opening ctx path run = (run', .ok ts)) :
    run'.Sound ctx types live ∧ ∀ t ∈ ts, t.Within ctx types live path := by
  have htold : (hfam.pairing live id run.report).Told path path := ⟨rfl, trivial⟩
  obtain ⟨hruns, hopened⟩ := Pairing.opening_paired (hv.self hfam run.report) htold
    (Run.Alike.runs hrun hfam)
  have hother : v.opening (hfam.pairing live id run.report).other path run = (run', .ok ts) := h
  have hctx : v.opening (hfam.pairing live id run.report).ctx path run = (run', .ok ts) := h
  rw [hctx, hother] at hruns hopened
  refine ⟨hruns.alike, fun t ht => ?_⟩
  cases hopened with | ok hts
  obtain ⟨t', _, hpaired⟩ := exists_of_mem_forall₂ hts.flip t ht
  have hrel := hpaired.rule
  generalize t'.rule? = rule?' at hrel
  refine ⟨hpaired.value.1.within, fun rule p hrule => ?_, fun rule p hrule => ?_⟩
  · rw [hrule] at hrel
    cases hrel with
    | some hsame => exact hsame.2.1.within
  · rw [hrule] at hrel
    cases hrel with
    | some hsame => exact hsame.2.2.1

end

end FieldRules
