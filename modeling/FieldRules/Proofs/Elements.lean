import FieldRules.Proofs.Rerooting
import FieldRules.Proofs.Rerun

/-!
# Proofs/Elements — the elements of a root, one by one

A run over a sequence or a map reports what its elements report when they are visited at the root
one after the other, each further down (`visits_compose`).  Cells carry nothing from one element to
the next, if there are none in the value; plans do not either, if record types have identities of
their own.  Types that share one do see each other: the first of them to be met brings its plan.
-/

namespace FieldRules

/-! ## Elements -/

namespace Value

/-- A sequence or a map. -/
inductive Collects : Value → Prop
  | sequence (items : List Value) : Collects (sequence items)
  | map (entries : List (String × Value)) : Collects (map entries)

/-- The elements of a sequence or a map, with the paths that lead to them. -/
def elements : Value → List (String × Value)
  | sequence items => items.zipIdx.map fun a => (Path.index "" a.2, a.1)
  | map entries => entries
  | _ => []

variable {v : Value}

theorem Within.elements {types : String → Prop} {live : CellId → Prop} (h : v.Within types live) :
    ∀ x ∈ v.elements, x.2.Within types live := by
  cases h with
  | sequence hitems =>
    intro x hx
    obtain ⟨a, ha, rfl⟩ := List.mem_map.mp hx
    exact hitems _ (List.fst_mem_of_mem_zipIdx ha)
  | map hentries => exact hentries
  | _ => exact nofun

theorem Spelled.elements {records : String → Prop} (h : v.Spelled records Path.Plain) :
    ∀ x ∈ v.elements, x.1 ≠ "" ∧ x.2.Spelled records Path.Plain := by
  cases h with
  | sequence hitems =>
    intro x hx
    obtain ⟨a, ha, rfl⟩ := List.mem_map.mp hx
    exact ⟨Path.index_ne "" a.2, hitems _ (List.fst_mem_of_mem_zipIdx ha)⟩
  | map hkeys hentries => exact fun x hx => ⟨(hkeys x hx).1, hentries x hx⟩
  | _ => exact nofun

end Value

/-- The task of an element of a root. -/
structure Task.IsElement (ctx : Context) (x : String × Value) (t : Task) : Prop where
  path : Path.spellFrom "" (t.steps ctx) = x.1
  rule : t.rule? = none
  value : t.value = x.2

/-- A sequence or a map at the root is opened as its elements. -/
theorem Value.Collects.exists_opening {v : Value} (hv : v.Collects) (ctx : Context) (run : Run) :
    ∃ ts, v.opening ctx "" run = (run, .ok ts) ∧
      List.Forall₂ (Task.IsElement ctx) v.elements ts := by
  cases hv with
  | sequence items =>
    refine ⟨_, rfl, ?_⟩
    rw [elements, List.forall₂_map_left_iff, List.forall₂_map_right_iff, List.forall₂_same]
    exact fun _ _ => ⟨rfl, rfl, rfl⟩
  | map entries =>
    refine ⟨_, rfl, ?_⟩
    rw [elements, List.forall₂_map_right_iff, List.forall₂_same]
    exact fun _ _ => ⟨rfl, rfl, rfl⟩

theorem Value.Collects.leave_eq {v : Value} (hv : v.Collects) (ws : List Value) (run : Run) :
    v.leave ws run = run := by
  cases hv <;> rfl

/-! ## Elements that are visited apart -/

/-- Elements that are visited at the root, one after the other, each with a new report, but with the
store and the plans that those before it leave. -/
def visitApart (ctx : Context) (room : Nat) :
    List (String × Value) → Store → PlanCache → List (String × Visit Value)
  | [], _, _ => []
  | (path, v) :: rest, store, cache =>
    let o := visit ctx room v "" ⟨store, cache, .empty⟩
    (path, o) :: visitApart ctx room rest o.run.store o.run.cache

/-- What some visits report, each further down. -/
def gather (visits : List (String × Visit Value)) : Report :=
  .concat (visits.map fun a => a.2.run.report.reroot a.1)

theorem gather_cons (path : String) (o : Visit Value) (visits : List (String × Visit Value)) :
    gather ((path, o) :: visits) = o.run.report.reroot path ++ gather visits := rfl

variable {ctx : Context} {records types : String → Prop} {room : Nat}

theorem Visit.Rerooted.stop_eq_none {p : String} {before : Report} {own there : Visit Value}
    (h : own.Rerooted ctx p before there) (hstop : there.stop = none) : own.stop = none := by
  have hrel := h.stop
  rw [hstop] at hrel
  generalize own.stop = stop at hrel
  cases hrel
  rfl

/-- **Tasks of elements report what the elements report apart.** -/
theorem visitTasks_apart {es : List (String × Value)} {ts : List Task}
    (hts : List.Forall₂ (Task.IsElement ctx) es ts) {run : Run}
    (hplain : ∀ name, records name → ctx.PlainRecord run.cache name)
    (hwithin : ∀ x ∈ es, x.2.Within (fun _ => True) fun _ => False)
    (hspelled : ∀ x ∈ es, x.1 ≠ "" ∧ x.2.Spelled records Path.Plain)
    (hwrites : ∀ t opened, TasksComeTo ctx room "" ts run t opened →
      ∀ m, t.Meets ctx room "" opened m → m.WritesSpelled ctx records Path.Plain)
    (hstop : (visitTasks ctx room "" ts run).stop = none) :
    let apart := visitApart ctx room es run.store run.cache
    (visitTasks ctx room "" ts run).run.report = run.report ++ gather apart ∧
      ∀ a ∈ apart, a.2.stop = none := by
  induction hts generalizing run with
  | nil => exact ⟨run.report.append_empty.symm, nofun⟩
  | @cons x t es ts ht hts ih =>
    obtain ⟨hw, hwithin⟩ := List.forall_mem_cons.mp hwithin
    obtain ⟨⟨hne, hs⟩, hspelled⟩ := List.forall_mem_cons.mp hspelled
    have hvisit : t.visit ctx room "" run = visit ctx room x.2 x.1 run := by
      rw [Task.visit, ht.rule, ht.path, ht.value]
    have hx : PlainVisit ctx records room x.2 x.1 run := by
      refine ⟨hplain, hw, hs, fun m hm => hwrites t run (.head t ts run) m (.plain ht.rule ?_)⟩
      rw [ht.path, ht.value]
      exact hm
    obtain ⟨hreroot, hplain'⟩ := visit_reroot hne hx
    rw [← hvisit] at hreroot hplain'
    cases ho : (t.visit ctx room "" run).stop with
    | some e =>
      rw [visitTasks_cons_stop ho] at hstop
      cases hstop
    | none =>
      rw [visitTasks_cons ho] at hstop ⊢
      obtain ⟨hreport, hrest⟩ := ih hplain' hwithin hspelled
        (fun u opened hu => hwrites u opened (.tail ho hu)) hstop
      -- the elements after it start from the same store and plans, wherever it was visited
      rw [hreroot.store, hreroot.cache] at hreport hrest
      refine ⟨?_, List.forall_mem_cons.mpr ⟨hreroot.stop_eq_none ho, hrest⟩⟩
      calc (visitTasks ctx room "" ts (t.visit ctx room "" run).run).run.report
          = (t.visit ctx room "" run).run.report ++ gather _ := hreport
        _ = _ := by rw [hreroot.report, Report.append_assoc]; rfl

/-! ## Elements that are visited alone -/

/-- **A value without cells is visited alike over every store and with any plans of its types.** -/
theorem visit_elsewhere (hfam : ctx.schema.Family types) {s s' : Store} {c c' : PlanCache}
    (hc : c.Comes ctx types) (hc' : c'.Comes ctx types) {v : Value}
    (hv : v.Within types fun _ => False) (hheld : s'.held = s.held)
    (hmade : ∀ d ∈ s.held, d < s.cells.length) (hlen : s.cells.length ≤ s'.cells.length)
    (room : Nat) (path : String) (report : Report) :
    let o := visit ctx room v path ⟨s, c, report⟩
    let o' := visit ctx room v path ⟨s', c', report⟩
    o'.run.report = o.run.report ∧ o'.stop = o.stop ∧ o'.run.cache.Comes ctx types := by
  have hspans : v.Spans types s fun _ => False := ⟨hv, nofun, nofun⟩
  -- new cells get other numbers over the second store, and the value has no others
  have halike := visit_alike hfam room v path ⟨s, c, report⟩ ⟨s', c', report⟩ hspans.within
    ⟨hspans.alike hlen nofun (Store.isHeld_renumber hheld hmade hlen), hc, hc', rfl⟩
  rw [hspans.rename_eq] at halike
  exact ⟨halike.run.report, halike.stop, halike.run.known'⟩

/-- The elements visited as roots of their own, all by the same engine over the same store. -/
def Engine.visitAlone (e : Engine) (schema : Schema) (es : List (String × Value)) (store : Store) :
    List (String × Visit Value) :=
  es.map fun x => (x.1, e.visitRoot schema x.2 store)

/-- A root that is not stopped with one level less is visited as it is then. -/
theorem Engine.visitRoot_of_stop (e : Engine) (schema : Schema) {v : Value} (store : Store)
    (h : (visit (e.context schema) e.settings.maxDepth v "" ⟨store, e.cache, .empty⟩).stop = none) :
    e.visitRoot schema v store =
      visit (e.context schema) e.settings.maxDepth v "" ⟨store, e.cache, .empty⟩ := by
  obtain ⟨err, _, hstop⟩ | hsame := visit_room (Nat.le_succ e.settings.maxDepth) v ""
    (Run.mk store e.cache .empty)
  · cases h.symm.trans hstop
  · exact hsame

/-- **Elements report apart what they report alone**, if record types have identities of their
own. -/
theorem gather_apart {e : Engine} {schema : Schema} (hfam : schema.Family types)
    (hcache : e.cache.Comes (e.context schema) types) {store : Store}
    (hmade : ∀ d ∈ store.held, d < store.cells.length) {es : List (String × Value)}
    (hes : ∀ x ∈ es, x.2.Within types fun _ => False) {s : Store} {c : PlanCache}
    (hc : c.Comes (e.context schema) types) (hheld : s.held = store.held)
    (hlen : store.cells.length ≤ s.cells.length)
    (hstops : ∀ a ∈ visitApart (e.context schema) e.settings.maxDepth es s c, a.2.stop = none) :
    gather (e.visitAlone schema es store) =
        gather (visitApart (e.context schema) e.settings.maxDepth es s c) ∧
      ∀ a ∈ e.visitAlone schema es store, a.2.stop = none := by
  induction es generalizing s c with
  | nil => exact ⟨rfl, nofun⟩
  | cons x es ih =>
    obtain ⟨hx, hes⟩ := List.forall_mem_cons.mp hes
    obtain ⟨ho, hrest⟩ := List.forall_mem_cons.mp hstops
    let o := visit (e.context schema) e.settings.maxDepth x.2 "" ⟨s, c, .empty⟩
    obtain ⟨hreport, hstop, hcomes⟩ := visit_elsewhere hfam hcache hc hx hheld hmade hlen
      e.settings.maxDepth "" .empty
    have hkept : o.run.store.held = s.held ∧ s.cells.length ≤ o.run.store.cells.length :=
      kept_store.visit _ _ _ _
    obtain ⟨hgather, halone⟩ := ih hes hcomes (hkept.1.trans hheld) (hlen.trans hkept.2) hrest
    have hroot := e.visitRoot_of_stop schema store (hstop.symm.trans ho)
    refine ⟨?_, List.forall_mem_cons.mpr ⟨?_, halone⟩⟩
    · change gather ((x.1, e.visitRoot schema x.2 store) :: e.visitAlone schema es store) =
        gather ((x.1, o) :: visitApart _ _ es o.run.store o.run.cache)
      rw [gather_cons, gather_cons, hgather, hroot, hreport]
    · exact (congrArg Visit.stop hroot).trans (hstop.symm.trans ho)

/-! ## Whole runs -/

/-- **A visit does not know where it is, and a run over elements is made of theirs.**  A visit of a
value without cells, in which all names and keys are plain, does at any path and with any report
what it does at the root with a new one: it leaves the same value, cells and plans, it adds the
same issues and rejections further down, and it stops at the same error further down, or not at all.
So a run over a sequence or a map that is not stopped ends with what its elements report when they
are visited apart, in order.  If record types have identities of their own, this is what each of
them reports alone. -/
theorem visits_compose (e : Engine) (schema : Schema) (records : String → Prop) :
    let ctx := e.context schema
    (∀ room v p run, p ≠ "" → PlainVisit ctx records room v p run →
      (visit ctx room v "" { run with report := .empty }).Rerooted ctx p run.report
        (visit ctx room v p run)) ∧
    ∀ rootType v store, v.Collects →
      PlainVisit ctx records ctx.room v "" ⟨store, e.cache, .empty⟩ →
      (e.visitRoot schema v store).stop = none →
      let result := (e.validate schema rootType v store).result
      let apart := visitApart ctx e.settings.maxDepth v.elements store e.cache
      (result = (gather apart).result ∧ ∀ a ∈ apart, a.2.stop = none) ∧
      ∀ types, schema.Family types → e.cache.Comes ctx types → v.Within types (fun _ => False) →
        (∀ c ∈ store.held, c < store.cells.length) →
        let alone := e.visitAlone schema v.elements store
        result = (gather alone).result ∧ ∀ a ∈ alone, a.2.stop = none := by
  intro ctx
  refine ⟨fun room v p run hp h => (visit_reroot hp h).1, ?_⟩
  intro rootType v store hv hplain hstop result apart
  obtain ⟨ts, hopen, hts⟩ := hv.exists_opening ctx ⟨store, e.cache, .empty⟩
  have hroot : e.visitRoot schema v store = _ := visit_of_opening hopen
  rw [hroot] at hstop
  obtain ⟨hreport, hstops⟩ := visitTasks_apart hts hplain.plain hplain.within.elements
    hplain.spelled.elements
    (fun t opened ht m hm => hplain.writes m ((ht.comesTo hopen).meets hm)) hstop
  have hne : ∀ l, v ≠ .leaf l := fun l h => by
    subst h
    cases hv
  have hresult : result = (gather apart).result := by
    refine (e.result_of_none schema rootType store hne (hroot ▸ hstop)).trans ?_
    rw [hroot, hv.leave_eq, hreport, Report.empty_append]
    rfl
  refine ⟨⟨hresult, hstops⟩, fun types hfam hcache hwithin hmade => ?_⟩
  obtain ⟨hgather, halone⟩ :=
    gather_apart hfam hcache hmade hwithin.elements hcache rfl (Nat.le_refl _) hstops
  exact ⟨hresult.trans (congrArg Report.result hgather.symm), halone⟩

/-! ### A pair of tallies -/

def tallyPair : Value := .sequence [tally, tally]

theorem within_tallyPair {types : String → Prop} (h : types "Tally") :
    tallyPair.Within types fun _ => False := by
  have hslots : ∀ u ∈ [Value.leaf (.text "a"), .leaf (.int 5)], u.Within types fun _ => False :=
    List.forall_mem_cons.mpr ⟨.leaf _, List.forall_mem_singleton.mpr (.leaf _)⟩
  have htally : tally.Within types fun _ => False := .record h hslots
  exact .sequence (List.forall_mem_cons.mpr ⟨htally, List.forall_mem_singleton.mpr htally⟩)

theorem spelled_tallyPair : tallyPair.Spelled (fun _ => True) Path.Plain := by
  have hslots : ∀ u ∈ [Value.leaf (.text "a"), .leaf (.int 5)],
      u.Spelled (fun _ => True) Path.Plain :=
    List.forall_mem_cons.mpr ⟨.leaf _, List.forall_mem_singleton.mpr (.leaf _)⟩
  have htally : tally.Spelled (fun _ => True) Path.Plain := .record trivial hslots
  exact .sequence (List.forall_mem_cons.mpr ⟨htally, List.forall_mem_singleton.mpr htally⟩)

/-- A visit of the pair is plain everywhere: names and counts are leaves. -/
theorem plainVisit_tallyPair (room : Nat) (path : String) (report : Report) :
    PlainVisit ((Engine.new voiceRegistry ⟨8, true⟩).context tallySchema) (fun _ => True) room
      tallyPair path ⟨.empty, .empty, report⟩ := by
  refine plainVisit_of_fields .empty (by decide) (.inr ?_) (within_tallyPair trivial)
    spelled_tallyPair room path
  simp [Engine.context, tallySchema]

/-- Below a log, after an issue, and with just enough levels, the pair is visited as at the root;
and as a root of its own it ends with what its tallies report alone. -/
theorem visits_compose_tallyPair :
    let e := Engine.new voiceRegistry ⟨8, true⟩
    let ctx := e.context tallySchema
    let before : Report := ⟨[⟨"late", "day", .null⟩], []⟩
    let result := (e.validate tallySchema (.seq .vector (.record "Tally")) tallyPair .empty).result
    let alone := e.visitAlone tallySchema tallyPair.elements .empty
    PlainVisit ctx (fun _ => True) 3 tallyPair "log" ⟨.empty, .empty, before⟩ ∧
      (visit ctx 3 tallyPair "" ⟨.empty, .empty, .empty⟩).Rerooted ctx "log" before
        (visit ctx 3 tallyPair "log" ⟨.empty, .empty, before⟩) ∧
      result = (gather alone).result ∧ ∀ a ∈ alone, a.2.stop = none := by
  intro e ctx before result alone
  obtain ⟨hbelow, hroot⟩ := visits_compose e tallySchema fun _ => True
  have hplain := plainVisit_tallyPair 3 "log" before
  have hstop : (e.visitRoot tallySchema tallyPair .empty).stop = none :=
    Option.isNone_iff_eq_none.mp (by decide +kernel)
  obtain ⟨_, halone⟩ := hroot (.seq .vector (.record "Tally")) tallyPair .empty (.sequence _)
    (plainVisit_tallyPair _ _ _) hstop
  exact ⟨hplain, hbelow 3 tallyPair "log" _ (by decide) hplain,
    halone (· = "Tally") family_tally .empty (within_tallyPair rfl) nofun⟩

/-! ### Two addresses of one identity -/

/-- The addresses at home and at work have the same identity, and different annotations. -/
def contactSchema : Schema :=
  ⟨[("Contact", ⟨"Contact", "Contact", "Contact",
      [⟨⟨"home", none, none⟩, "home", .option (.record "Home")⟩,
        ⟨⟨"work", none, none⟩, "work", .option (.record "Work")⟩], 2⟩),
    ("Home", ⟨"Home", "Home", "Address",
      [⟨⟨"street", some ",say=home", none⟩, "street", .scalar .text⟩], 1⟩),
    ("Work", ⟨"Work", "Work", "Address",
      [⟨⟨"street", some ",say=work", none⟩, "street", .scalar .text⟩], 1⟩)]⟩

/-- The validator says its argument. -/
def sayRegistry : Registry := ⟨[], [("say", fun args => .ok fun _ _ => args.head?)]⟩

/-- A contact with an address at home, and one with an address at work. -/
def contacts : Value :=
  .sequence [.record "Contact" [.present (.record "Home" [.leaf (.text "x")]), .absent],
    .record "Contact" [.absent, .present (.record "Work" [.leaf (.text "y")])]]

/-- No address is mapped. -/
theorem unmapped_contact : ∀ r ∈ contactSchema.records, ∀ g ∈ r.2.fields, g.decl.Unmapped := by
  have hnone (name : String) : (FieldDecl.mk name none none).Unmapped := nofun
  have hhome : (FieldDecl.mk "street" (some ",say=home") none).Unmapped := by
    intro text tag htext htag
    obtain rfl := Option.some.inj htext
    have hparse : Tag.parse ",say=home" = .ok ⟨[], [⟨"say", ["home"], 1⟩]⟩ := rfl
    rw [← Except.ok.inj (hparse.symm.trans htag)]
  have hwork : (FieldDecl.mk "street" (some ",say=work") none).Unmapped := by
    intro text tag htext htag
    obtain rfl := Option.some.inj htext
    have hparse : Tag.parse ",say=work" = .ok ⟨[], [⟨"say", ["work"], 1⟩]⟩ := rfl
    rw [← Except.ok.inj (hparse.symm.trans htag)]
  refine List.forall_mem_cons.mpr ⟨?_, List.forall_mem_cons.mpr ⟨?_, ?_⟩⟩
  · exact List.forall_mem_cons.mpr ⟨hnone _, List.forall_mem_singleton.mpr (hnone _)⟩
  · exact List.forall_mem_singleton.mpr hhome
  · exact List.forall_mem_singleton.mpr (List.forall_mem_singleton.mpr hwork)

theorem within_contacts : contacts.Within (fun _ => True) fun _ => False := by
  have haddress (name text : String) : (Value.present (.record name [.leaf (.text text)])).Within
      (fun _ => True) fun _ => False :=
    .present (.record trivial (List.forall_mem_singleton.mpr (.leaf _)))
  refine .sequence (List.forall_mem_cons.mpr ⟨?_, List.forall_mem_singleton.mpr ?_⟩)
  · exact .record trivial (List.forall_mem_cons.mpr ⟨haddress _ _,
      List.forall_mem_singleton.mpr .absent⟩)
  · exact .record trivial (List.forall_mem_cons.mpr ⟨.absent,
      List.forall_mem_singleton.mpr (haddress _ _)⟩)

theorem spelled_contacts : contacts.Spelled (fun _ => True) Path.Plain := by
  have haddress (name text : String) : (Value.present (.record name [.leaf (.text text)])).Spelled
      (fun _ => True) Path.Plain :=
    .present (.record trivial (List.forall_mem_singleton.mpr (.leaf _)))
  refine .sequence (List.forall_mem_cons.mpr ⟨?_, List.forall_mem_singleton.mpr ?_⟩)
  · exact .record trivial (List.forall_mem_cons.mpr ⟨haddress _ _,
      List.forall_mem_singleton.mpr .absent⟩)
  · exact .record trivial (List.forall_mem_cons.mpr ⟨.absent,
      List.forall_mem_singleton.mpr (haddress _ _)⟩)

/-- In a run over the contacts, the plan of the address at home checks both. -/
theorem result_contacts : ((Engine.new sayRegistry ⟨8, true⟩).validate contactSchema
    (.seq .vector (.record "Contact")) contacts .empty).result =
      .ok [⟨"home", "[0].home.street", .str "x"⟩, ⟨"home", "[1].work.street", .str "y"⟩] := rfl

theorem stop_contacts :
    ((Engine.new sayRegistry ⟨8, true⟩).visitRoot contactSchema contacts .empty).stop = none := rfl

/-- Alone, each address is checked by its own plan. -/
theorem result_contacts_alone : (gather ((Engine.new sayRegistry ⟨8, true⟩).visitAlone contactSchema
    contacts.elements .empty)).result =
      .ok [⟨"home", "[0].home.street", .str "x"⟩, ⟨"work", "[1].work.street", .str "y"⟩] := rfl

/-- **Elements of types that share an identity are not independent.** -/
theorem contacts_share_plan :
    let e := Engine.new sayRegistry ⟨8, true⟩
    let ctx := e.context contactSchema
    contacts.Collects ∧
      PlainVisit ctx (fun _ => True) ctx.room contacts "" ⟨.empty, e.cache, .empty⟩ ∧
      (e.visitRoot contactSchema contacts .empty).stop = none ∧
      (e.validate contactSchema (.seq .vector (.record "Contact")) contacts .empty).result ≠
        (gather (e.visitAlone contactSchema contacts.elements .empty)).result := by
  intro e ctx
  refine ⟨.sequence _, ?_, stop_contacts, fun h => ?_⟩
  · exact plainVisit_of_fields .empty (by decide) (.inl unmapped_contact) within_contacts
      spelled_contacts ctx.room ""
  · have hissues := Except.ok.inj (result_contacts.symm.trans (h.trans result_contacts_alone))
    simp at hissues

end FieldRules
