import FieldRules.Proofs.Legible
import FieldRules.Proofs.Ordered
import FieldRules.Proofs.Positions
import FieldRules.Proofs.Rerun
import Mathlib.Data.List.Pairwise

/-!
# Proofs/Whereabouts — paths tell fields apart

Where keys and the names of fields are legible, and no two fields of a record have one name, a path
leads to one field (`FieldAt.eq_of_path`), and a run that goes through the whole value runs no two
rules at one path (`Walk.apart`).  So issues at one path come from one field (`paths_identify`).
-/

namespace FieldRules

/-! ## Steps that part -/

/-- One step each, and not the same. -/
def Step.Parted (a b : List Step) : Prop := ∃ x y, a = [x] ∧ b = [y] ∧ x ≠ y

theorem Step.Parted.symm {a b : List Step} (h : Parted a b) : Parted b a := by
  obtain ⟨x, y, ha, hb, hne⟩ := h
  exact ⟨y, x, hb, ha, hne.symm⟩

/-- What has parted does not meet again. -/
theorem Step.Parted.append_ne {a b : List Step} (h : Parted a b) (r r' : List Step) :
    a ++ r ≠ b ++ r' := by
  obtain ⟨x, y, rfl, rfl, hne⟩ := h
  exact fun heq => hne (List.cons.inj heq).1

/-- Of things that part, those with steps in common are the same. -/
theorem eq_of_pairwise_parted {α : Type} {l : List α} {steps : α → List Step}
    (hl : l.Pairwise fun a b => Step.Parted (steps a) (steps b)) {a b : α} (ha : a ∈ l)
    (hb : b ∈ l) {r r' : List Step} (h : steps a ++ r = steps b ++ r') : a = b := by
  have : Std.Symm fun a b => Step.Parted (steps a) (steps b) := ⟨fun _ _ => Step.Parted.symm⟩
  by_contra hne
  exact (hl.forall ha hb hne).append_ne r r' h

/-- Sites in order part, but for fields, of which several may have one name. -/
theorem Site.Before.parted {site site' : Site} (h : site.Before site')
    (hsite : ∀ name i d, site ≠ .field name i d) (displayNames : Bool) :
    Step.Parted (site.steps displayNames) (site'.steps displayNames) := by
  cases h with
  | item hij => exact ⟨_, _, rfl, rfl, fun heq => hij.ne (Step.index.inj heq)⟩
  | entry hkl =>
    refine ⟨_, _, rfl, rfl, fun heq => ?_⟩
    rw [Step.segment.inj heq] at hkl
    exact String.lt_irrefl _ hkl
  | field => exact absurd rfl (hsite _ _ _)

/-! ## Legible names -/

/-- Names that are legible, each another one. -/
structure Path.Names (names : List String) : Prop where
  legible : ∀ name ∈ names, Legible name
  distinct : names.Nodup

instance : DecidablePred Path.Names := fun names =>
  decidable_of_iff ((∀ name ∈ names, Path.Legible name) ∧ names.Nodup)
    ⟨fun h => ⟨h.1, h.2⟩, fun h => ⟨h.legible, h.distinct⟩⟩

/-- Two names in a row of names are not the same. -/
theorem Path.Names.ne {names : List String} (h : Names names) {i j : Nat} (hij : i < j)
    {a b : String} (ha : names[i]? = some a) (hb : names[j]? = some b) : a ≠ b := by
  rintro rfl
  have hi : i < names.length := (List.getElem?_eq_some_iff.mp ha).1
  exact hij.ne ((List.getElem?_inj hi h.distinct).mp (ha.trans hb.symm))

/-- A record type whose fields have legible names in paths, each another one, also in the plan that
a run gets for it. -/
structure Context.LegibleRecord (ctx : Context) (cache : PlanCache) (name : String) : Prop where
  decl : Path.Names ((ctx.schema.decls name).map (FieldDecl.segment · ctx.settings.displayNames))
  planned : ∀ plan, (ctx.lookup cache name).result = .ok plan →
    Path.Names (plan.fields.map (PlannedField.segment · ctx.settings.displayNames))

/-- Certain record types are legible. -/
def Context.LegiblePlans (ctx : Context) (records : String → Prop) (cache : PlanCache) : Prop :=
  ∀ name, records name → ctx.LegibleRecord cache name

/-- A value with certain records and legible keys, in maps that list their entries by key. -/
structure Value.Legible (records : String → Prop) (v : Value) : Prop where
  spelled : v.Spelled records Path.Legible
  ordered : v.Ordered

/-- All records have legible names, and all cells legible values in them. -/
structure Stage.Legible (ctx : Context) (records : String → Prop) (s : Stage) : Prop where
  plans : ctx.LegiblePlans records s.cache
  cells : s.store.All (Value.Legible records)

variable {ctx : Context} {records : String → Prop}

/-- A record stays legible when a plan is looked up for a legible one. -/
theorem Context.LegibleRecord.lookup {cache : PlanCache} {name m : String}
    (hm : ctx.LegibleRecord cache m) (h : ctx.LegibleRecord cache name) :
    ctx.LegibleRecord (ctx.lookup cache name).cache m := by
  refine ⟨hm.decl, fun plan hplan => ?_⟩
  obtain hlook | hlook := result_lookup_lookup ctx cache name m
  · exact hm.planned plan (hlook.symm.trans hplan)
  · exact h.planned plan (hlook.symm.trans hplan)

/-- With plans of types, it is enough that the declared names of each record are legible, each
another one. -/
theorem Context.legiblePlans_of_comes {cache : PlanCache}
    (hcache : cache.Comes ctx fun _ => True)
    (h : ∀ r ∈ ctx.schema.records,
      Path.Names (r.2.fields.map fun g => g.decl.segment ctx.settings.displayNames)) :
    ctx.LegiblePlans records cache := by
  have hdecls (name : String) : Path.Names ((ctx.schema.decls name).map
      (FieldDecl.segment · ctx.settings.displayNames)) := by
    rw [Schema.decls, Schema.record]
    cases hlook : ctx.schema.records.lookup name with
    | none => exact ⟨List.forall_mem_nil _, .nil⟩
    | some r =>
      obtain ⟨before, after, heq, _⟩ := List.lookup_eq_some_iff.mp hlook
      rw [List.map_map]
      exact h (name, r) (heq ▸ List.mem_append_right _ List.mem_cons_self)
  refine fun name _ => ⟨hdecls name, fun plan hplan => ?_⟩
  obtain ⟨m, _, _, hm⟩ := hcache.of_lookup trivial hplan
  rw [segments_of_plan hm]
  exact hdecls m

namespace Value

variable {v : Value} {store : Store}

/-- The key of an entry of a value is one of its keys. -/
theorem Spelled.key {keys : String → Prop} (h : v.Spelled records keys) {p : Part}
    (hp : p ∈ v.parts ctx.schema store) {k : String} (hsite : p.site = .entry k) : keys k := by
  cases h with
  | map hkeys _ =>
    obtain ⟨e, he, rfl⟩ := List.mem_map.mp hp
    cases hsite
    exact hkeys e he
  | sequence =>
    obtain ⟨_, _, rfl⟩ := List.mem_map.mp hp
    cases hsite
  | record =>
    obtain ⟨_, _, rfl⟩ := List.mem_map.mp hp
    cases hsite
  | leaf | absent => cases hp
  | _ =>
    obtain rfl := List.mem_singleton.mp hp
    cases hsite

/-- The record of a field of a value is one of its records. -/
theorem Spelled.owner {keys : String → Prop} (h : v.Spelled records keys) {p : Part}
    (hp : p ∈ v.parts ctx.schema store) {name : String} {i : Nat} {d : FieldDecl}
    (hsite : p.site = .field name i d) : records name := by
  obtain ⟨slots, rfl⟩ := owner_of_mem_parts hp hsite
  cases h with
  | record hname _ => exact hname

theorem Legible.part (h : v.Legible records) (hs : store.All (Value.Legible records)) {p : Part}
    (hp : p ∈ v.parts ctx.schema store) : p.value.Legible records :=
  ⟨h.spelled.part (fun c _ => (hs c).spelled) hp, h.ordered.part (fun c _ => (hs c).ordered) hp⟩

theorem Legible.refill (h : v.Legible records) {ws : List Value}
    (hws : ∀ w ∈ ws, w.Legible records) : (v.refill ws).Legible records :=
  ⟨h.spelled.refill fun w hw => (hws w hw).spelled, h.ordered.refill fun w hw => (hws w hw).ordered⟩

/-- The parts of a legible value come in document order. -/
theorem Legible.before (h : v.Legible records) :
    (v.parts ctx.schema store).Pairwise fun p q => p.site.Before q.site :=
  pairwise_parts fun entries he => by
    have hordered := h.ordered
    rw [he] at hordered
    cases hordered with
    | map hkeys _ => exact hkeys

end Value

/-! ## Fields of a value -/

/-- The last site is that of a field. -/
def EndsInField (sites : List Site) : Prop := ∃ name i d, sites.getLast? = some (.field name i d)

theorem EndsInField.of_cons {site : Site} {rest : List Site} (h : EndsInField (site :: rest)) :
    rest = [] ∨ EndsInField rest := by
  cases rest with
  | nil => exact .inl rfl
  | cons next rest =>
    obtain ⟨name, i, d, hlast⟩ := h
    exact .inr ⟨name, i, d, List.getLast?_cons_cons.symm.trans hlast⟩

theorem EndsInField.steps_ne {sites : List Site} (h : EndsInField sites) (ctx : Context) :
    ctx.steps sites ≠ [] := by
  obtain ⟨name, i, d, hlast⟩ := h
  obtain ⟨front, rfl⟩ := List.getLast?_eq_some_iff.mp hlast
  rw [Context.steps, List.flatMap_append]
  exact List.append_ne_nil_of_right_ne_nil _ (List.cons_ne_nil _ _)

/-- A route leads to a position, and ends there in a field. -/
def Value.FieldAt (schema : Schema) (store : Store) (v : Value) (q : Position) : Prop :=
  (∃ cells, Route schema store v q.sites cells q.value) ∧ EndsInField q.sites

/-- The path of a position, by the declared names of fields. -/
def Context.path (ctx : Context) (q : Position) : String := Path.spell (ctx.steps q.sites)

section

variable {v : Value} {store : Store} (hdecls : ∀ name, records name →
  Path.Names ((ctx.schema.decls name).map (FieldDecl.segment · ctx.settings.displayNames)))

include hdecls

/-- The site of a part adds legible steps. -/
theorem Value.Legible.site (h : v.Legible records) {p : Part}
    (hp : p ∈ v.parts ctx.schema store) :
    ∀ s ∈ p.site.steps ctx.settings.displayNames, s.Legible := by
  cases hsite : p.site with
  | inner => nofun
  | item i => exact List.forall_mem_singleton.mpr trivial
  | entry k => exact List.forall_mem_singleton.mpr (h.spelled.key hp hsite)
  | field name i d =>
    rw [Site.steps_field]
    refine List.forall_mem_singleton.mpr ((hdecls name (h.spelled.owner hp hsite)).legible _ ?_)
    exact List.mem_map_of_mem (List.mem_of_getElem? (decl_of_mem_parts hp hsite))

/-- **The parts of a legible value part.** -/
theorem Value.Legible.parted (h : v.Legible records) :
    (v.parts ctx.schema store).Pairwise fun p q =>
      Step.Parted (p.site.steps ctx.settings.displayNames)
        (q.site.steps ctx.settings.displayNames) := by
  refine h.before.imp_of_mem fun {p q} hp hq hbefore => ?_
  by_cases hfield : ∃ name i d, p.site = .field name i d
  · obtain ⟨name, i, d, hpsite⟩ := hfield
    rw [hpsite] at hbefore ⊢
    generalize hqsite : q.site = site at hbefore ⊢
    cases hbefore with
    | field hij =>
      have hd := decl_of_mem_parts hp hpsite
      have hd' := decl_of_mem_parts hq hqsite
      have hnames := hdecls name (h.spelled.owner hp hpsite)
      refine ⟨_, _, rfl, rfl, fun heq => hnames.ne hij ?_ ?_ (Step.segment.inj heq)⟩
      · rw [List.getElem?_map, hd]
        rfl
      · rw [List.getElem?_map, hd']
        rfl
  · exact hbefore.parted (fun name i d hsite => hfield ⟨name, i, d, hsite⟩) _

/-- A route through legible values takes legible steps. -/
theorem Route.legible {w : Value} {sites : List Site} {cells : List CellId}
    (hroute : Route ctx.schema store v sites cells w) (h : v.Legible records)
    (hs : store.All (Value.Legible records)) : ∀ s ∈ ctx.steps sites, s.Legible := by
  induction hroute with
  | here v => nofun
  | down hp _ ih =>
    rw [Context.steps, List.flatMap_cons]
    exact List.forall_mem_append.mpr ⟨h.site hdecls hp, ih (h.part hs hp)⟩

/-- Routes to fields that take the same steps are the same. -/
theorem Route.eq_of_steps {w w' : Value} {sites sites' : List Site} {cells cells' : List CellId}
    (hroute : Route ctx.schema store v sites cells w)
    (hroute' : Route ctx.schema store v sites' cells' w') (hends : EndsInField sites)
    (hends' : EndsInField sites') (h : v.Legible records) (hs : store.All (Value.Legible records))
    (hsteps : ctx.steps sites = ctx.steps sites') : sites = sites' ∧ w = w' := by
  induction hroute generalizing sites' cells' with
  | here v => exact absurd rfl (hends.steps_ne ctx)
  | @down v w p rest cells hp hroute ih =>
    cases hroute' with
    | here => exact absurd rfl (hends'.steps_ne ctx)
    | @down _ _ p' rest' cells' hp' hroute' =>
      rw [Context.steps, Context.steps, List.flatMap_cons, List.flatMap_cons] at hsteps
      obtain rfl : p = p' := eq_of_pairwise_parted (h.parted hdecls) hp hp' hsteps
      have hrest : ctx.steps rest = ctx.steps rest' := List.append_cancel_left hsteps
      obtain rfl | hmore := hends.of_cons
      · obtain rfl | hmore' := hends'.of_cons
        · cases hroute
          cases hroute'
          exact ⟨rfl, rfl⟩
        · exact absurd hrest.symm (hmore'.steps_ne ctx)
      · obtain rfl | hmore' := hends'.of_cons
        · exact absurd hrest (hmore.steps_ne ctx)
        · obtain ⟨rfl, rfl⟩ := ih hroute' hmore hmore' (h.part hs hp) hrest
          exact ⟨rfl, rfl⟩

/-- **In a legible value, a path leads to one field.** -/
theorem Value.FieldAt.eq_of_path {q q' : Position} (hq : v.FieldAt ctx.schema store q)
    (hq' : v.FieldAt ctx.schema store q') (h : v.Legible records)
    (hs : store.All (Value.Legible records)) (hpath : ctx.path q = ctx.path q') : q = q' := by
  obtain ⟨sites, w⟩ := q
  obtain ⟨sites', w'⟩ := q'
  obtain ⟨⟨cells, hroute⟩, hends⟩ := hq
  obtain ⟨⟨cells', hroute'⟩, hends'⟩ := hq'
  have hsteps : ctx.steps sites = ctx.steps sites' :=
    (Path.spell_inj (hroute.legible hdecls h hs) (hroute'.legible hdecls h hs)).mp hpath
  obtain ⟨rfl, rfl⟩ := hroute.eq_of_steps hdecls hroute' hends hends' h hs hsteps
  rfl

end

/-! ## Tasks -/

/-- A task with a legible value at legible steps, at the end of which its rule is run. -/
structure Task.Legible (ctx : Context) (records : String → Prop) (path : String) (t : Task) :
    Prop where
  steps : ∀ s ∈ t.steps ctx, s.Legible
  value : t.value.Legible records
  rule : ∀ rule place, t.rule? = some (rule, place) →
    t.steps ctx ≠ [] ∧ place.path = Path.spellFrom path (t.steps ctx)

section

variable {v : Value} {path : String} {run run' : Run} {p p' : Part} {t t' : Task}

theorem Task.Of.legible (h : Task.Of ctx path run.cache p t) (hv : v.Legible records)
    (hs : run.stage.Legible ctx records) (hp : p ∈ v.parts ctx.schema run.store) :
    t.Legible ctx records path := by
  refine ⟨?_, h.value_eq ▸ hv.part hs.cells hp, fun rule place hrule => ⟨?_, h.rule_path hrule⟩⟩
  · cases h with
    | @plain site w hsite =>
      cases site with
      | inner => nofun
      | item i => exact List.forall_mem_singleton.mpr trivial
      | entry k => exact List.forall_mem_singleton.mpr (hv.spelled.key hp rfl)
      | field name i d => exact absurd rfl (hsite name i d)
    | field hplan hf hd =>
      have hnames := (hs.plans _ (hv.spelled.owner hp rfl)).planned _ hplan
      exact List.forall_mem_singleton.mpr
        (hnames.legible _ (List.mem_map_of_mem (List.mem_of_getElem? hf)))
  · cases h with
    | plain => cases hrule
    | field => exact List.cons_ne_nil _ _

/-- Tasks of parts that come one before the other part. -/
theorem Task.Of.parted (h : Task.Of ctx path run.cache p t) (h' : Task.Of ctx path run.cache p' t')
    (hv : v.Legible records) (hs : run.stage.Legible ctx records)
    (hp : p ∈ v.parts ctx.schema run.store) (hbefore : p.site.Before p'.site) :
    Step.Parted (t.steps ctx) (t'.steps ctx) := by
  cases h with
  | plain hsite =>
    cases h' with
    | plain => exact hbefore.parted hsite _
    | field =>
      cases hbefore
      exact absurd rfl (hsite _ _ _)
  | field hplan hf hd =>
    cases h' with
    | plain hsite =>
      cases hbefore
      exact absurd rfl (hsite _ _ _)
    | field hplan' hf' hd' =>
      cases hbefore with
      | field hij =>
        obtain rfl := Except.ok.inj (hplan.symm.trans hplan')
        have hnames := (hs.plans _ (hv.spelled.owner hp rfl)).planned _ hplan
        refine ⟨_, _, rfl, rfl, fun heq => hnames.ne hij ?_ ?_ (Step.segment.inj heq)⟩
        · rw [List.getElem?_map, hf]
          rfl
        · rw [List.getElem?_map, hf']
          rfl

/-- **The tasks of a legible value are legible, and part.** -/
theorem legible_of_opening {ts : List Task} (hopen : v.opening ctx path run = (run', .ok ts))
    (hv : v.Legible records) (hs : run.stage.Legible ctx records) :
    (∀ t ∈ ts, t.Legible ctx records path) ∧
      ts.Pairwise fun t t' => Step.Parted (t.steps ctx) (t'.steps ctx) := by
  obtain ⟨_, _, hparts⟩ := of_opening hopen
  have htasks := (List.forall₂_and_left _ _).mpr ⟨fun p hp => hp, hparts⟩
  refine ⟨fun t ht => ?_, pairwise_of_forall₂ htasks hv.before fun hbefore h h' =>
    h.2.parted h'.2 hv hs h.1 hbefore⟩
  obtain ⟨p, _, hp, hof⟩ := exists_of_mem_forall₂ htasks t ht
  exact hof.legible hv hs hp

/-- A stage stays legible when a legible value is opened… -/
theorem Stage.Legible.opening {ts : List Task} (hs : run.stage.Legible ctx records)
    (hopen : v.opening ctx path run = (run', .ok ts)) (hv : v.Legible records) :
    run'.stage.Legible ctx records := by
  obtain ⟨rfl, _, _⟩ := of_opening hopen
  refine ⟨?_, hs.cells.of_cells (v.cells_heldIn run.store)⟩
  refine v.found_known (fun name slots he m hm => ?_) hs.plans
  have hname : records name := by
    have hspelled := hv.spelled
    rw [he] at hspelled
    cases hspelled with
    | record hname _ => exact hname
  exact (hs.plans m hm).lookup (hs.plans name hname)

/-- …and when it is left with legible parts. -/
theorem Stage.Legible.leave {ws : List Value} (hs : run.stage.Legible ctx records)
    (hws : ∀ w ∈ ws, w.Legible records) (v : Value) :
    (v.leave ws run).stage.Legible ctx records := by
  cases v with
  | shared c =>
    cases ws with
    | nil => exact hs
    | cons w ws =>
      exact ⟨hs.plans, (hs.cells.write (hws w List.mem_cons_self) c).of_cells rfl⟩
  | _ => exact hs

end

/-! ## Where the rules of a run lie -/

/-- What is written is legible if its records and keys are: the maps in it list their entries by
key. -/
theorem FieldVisit.Acts.legible {room : Nat} {f : FieldVisit} {s s' : Store}
    (h : f.Acts ctx room s s') (hbefore : f.before.Legible records)
    (hs : s.All (Value.Legible records))
    (hwrites : Moment.WritesSpelled ctx records Path.Legible
      ⟨room, s, f.rule, f.before, f.place⟩) :
    f.after.Legible records ∧ s'.All (Value.Legible records) := by
  cases h with
  | kept _ _ ha _ => exact ⟨ha ▸ hbefore, hs⟩
  | refused _ _ _ ha _ => exact ⟨ha ▸ hbefore, hs⟩
  | stored hi hattempt hread _ =>
    obtain ⟨hmap, hother⟩ := FieldVisit.attempt?_eq_some.mp hattempt
    obtain ⟨hspelled, hnew⟩ := hwrites _ _ ⟨_, _, _, hi, f.mapped_act.trans hmap, hother, hread⟩
    obtain ⟨hordered, hcells⟩ := ordered_read hread fun c => (hs c).ordered
    refine ⟨⟨hspelled, hordered⟩, fun c => ⟨?_, hcells c⟩⟩
    obtain hlt | hge := Nat.lt_or_ge c s.cells.length
    · rw [Store.cell_of_prefix (made_read hread).grown.cells hlt]
      exact (hs c).spelled
    · exact hnew c hge

/-- The entries of a journal lie below some steps, each at steps of its own. -/
structure LieBelow (above : List Step) (j : List FieldVisit) : Prop where
  path : ∀ f ∈ j, ∃ rest, rest ≠ [] ∧ (∀ s ∈ rest, s.Legible) ∧
    f.place.path = Path.spell (above ++ rest)
  apart : j.Pairwise fun f g => f.place.path ≠ g.place.path

/-- The entries of a journal lie in some tasks, each at steps of its own. -/
structure LieIn (ctx : Context) (above : List Step) (ts : List Task) (j : List FieldVisit) :
    Prop where
  path : ∀ f ∈ j, ∃ t ∈ ts, ∃ rest, t.steps ctx ++ rest ≠ [] ∧
    (∀ s ∈ t.steps ctx ++ rest, s.Legible) ∧
    f.place.path = Path.spell (above ++ (t.steps ctx ++ rest))
  apart : j.Pairwise fun f g => f.place.path ≠ g.place.path

variable {above : List Step} {t : Task} {ts : List Task} {j js : List FieldVisit}

theorem LieIn.below (h : LieIn ctx above ts j) : LieBelow above j := by
  refine ⟨fun f hf => ?_, h.apart⟩
  obtain ⟨t, _, rest, hne, hrest, hpath⟩ := h.path f hf
  exact ⟨t.steps ctx ++ rest, hne, hrest, hpath⟩

theorem LieBelow.task (h : LieBelow (above ++ t.steps ctx) j)
    (ht : ∀ s ∈ t.steps ctx, s.Legible) :
    LieIn ctx above [t] j := by
  refine ⟨fun f hf => ?_, h.apart⟩
  obtain ⟨rest, hne, hrest, hpath⟩ := h.path f hf
  exact ⟨t, List.mem_singleton_self t, rest, List.append_ne_nil_of_right_ne_nil _ hne,
    List.forall_mem_append.mpr ⟨ht, hrest⟩, by rw [hpath, List.append_assoc]⟩

section

variable (habove : ∀ s ∈ above, s.Legible)

include habove

/-- Steps below the same ones are told apart by paths. -/
theorem spell_append_ne {a b : List Step} (ha : ∀ s ∈ a, s.Legible) (hb : ∀ s ∈ b, s.Legible)
    (hne : a ≠ b) : Path.spell (above ++ a) ≠ Path.spell (above ++ b) := fun h =>
  hne (List.append_cancel_left ((Path.spell_inj (List.forall_mem_append.mpr ⟨habove, ha⟩)
    (List.forall_mem_append.mpr ⟨habove, hb⟩)).mp h))

/-- A rule that was run at the end of a task lies above what was run below. -/
theorem LieBelow.ruled {f : FieldVisit} (h : LieBelow (above ++ t.steps ctx) j)
    (ht : ∀ s ∈ t.steps ctx, s.Legible) (hne : t.steps ctx ≠ [])
    (hf : f.place.path = Path.spell (above ++ t.steps ctx)) : LieIn ctx above [t] (f :: j) := by
  obtain ⟨hpath, hapart⟩ := h.task ht
  refine ⟨List.forall_mem_cons.mpr ⟨?_, hpath⟩,
    List.pairwise_cons.mpr ⟨fun g hg => ?_, hapart⟩⟩
  · refine ⟨t, List.mem_singleton_self t, [], ?_, ?_, ?_⟩
    · rwa [List.append_nil]
    · rwa [List.append_nil]
    · rw [List.append_nil, hf]
  · obtain ⟨rest, hrestne, hrest, hg⟩ := h.path g hg
    rw [hf, hg, List.append_assoc]
    exact spell_append_ne habove ht (List.forall_mem_append.mpr ⟨ht, hrest⟩) fun heq =>
      hrestne (List.self_eq_append_right.mp heq)

/-- What lies in tasks that part lies apart. -/
theorem LieIn.cons (h : LieIn ctx above [t] j) (hs : LieIn ctx above ts js)
    (hparted : ∀ u ∈ ts, Step.Parted (t.steps ctx) (u.steps ctx)) :
    LieIn ctx above (t :: ts) (j ++ js) := by
  have hhere : ∀ f ∈ j, ∃ rest, t.steps ctx ++ rest ≠ [] ∧ (∀ s ∈ t.steps ctx ++ rest, s.Legible) ∧
      f.place.path = Path.spell (above ++ (t.steps ctx ++ rest)) := fun f hf => by
    obtain ⟨_, ht, hf⟩ := h.path f hf
    obtain rfl := List.mem_singleton.mp ht
    exact hf
  refine ⟨List.forall_mem_append.mpr ⟨fun f hf => ?_, fun f hf => ?_⟩,
    List.pairwise_append.mpr ⟨h.apart, hs.apart, fun f hf g hg => ?_⟩⟩
  · exact ⟨t, List.mem_cons_self, hhere f hf⟩
  · obtain ⟨u, hu, hf⟩ := hs.path f hf
    exact ⟨u, List.mem_cons_of_mem t hu, hf⟩
  · obtain ⟨rest, _, hsteps, hf⟩ := hhere f hf
    obtain ⟨u, hu, rest', _, hsteps', hg⟩ := hs.path g hg
    rw [hf, hg]
    exact spell_append_ne habove hsteps hsteps' ((hparted u hu).append_ne rest rest')

end

/-- Walks of legible values at legible steps keep them legible, if what is written is, and their
entries lie apart. -/
def WalksApart (ctx : Context) (records : String → Prop) (room : Nat) : Prop :=
  ∀ {v s j w s'} {above : List Step} (report : Report),
    Walk ctx room v (Path.spell above) s j w s' →
    (∀ x ∈ above, x.Legible) → v.Legible records → s.Legible ctx records →
    (∀ m, Meets ctx room v (Path.spell above) (s.run report) m →
      m.WritesSpelled ctx records Path.Legible) →
    LieBelow above j ∧ w.Legible records ∧ s'.Legible ctx records

/-- **The entries of tasks that part lie apart**, if those of the walks below do. -/
theorem WalkTasks.apart {room : Nat} (hbelow : WalksApart ctx records room) {v : Value}
    {run opened : Run} {before : List Task}
    (hopen : v.opening ctx (Path.spell above) run = (opened, .ok (before ++ ts)))
    {s s' : Stage} {report : Report} {us ws : List Value}
    (hbefore : visitTasks ctx room (Path.spell above) before opened = ⟨us, s.run report, none⟩)
    (h : WalkTasks ctx room (Path.spell above) (Walk ctx room) ts s j ws s')
    (habove : ∀ x ∈ above, x.Legible) (hts : ∀ t ∈ ts, t.Legible ctx records (Path.spell above))
    (hparted : ts.Pairwise fun t u => Step.Parted (t.steps ctx) (u.steps ctx))
    (hs : s.Legible ctx records)
    (hwrites : ∀ m, Meets ctx (room + 1) v (Path.spell above) run m →
      m.WritesSpelled ctx records Path.Legible) :
    LieIn ctx above ts j ∧ (∀ w ∈ ws, w.Legible records) ∧ s'.Legible ctx records := by
  have hpath (t : Task) :
      Path.spellFrom (Path.spell above) (t.steps ctx) = Path.spell (above ++ t.steps ctx) :=
    (Path.spellFrom_append "" above (t.steps ctx)).symm
  -- as the tasks are walked, they are put to those before, at which no other moments are met
  induction h generalizing before report us with
  | nil s => exact ⟨⟨nofun, .nil⟩, nofun, hs⟩
  | @plain t ts s s₁ s₂ j js w ws hrule hwalk hrest ih =>
    obtain ⟨ht, hts⟩ := List.forall_mem_cons.mp hts
    obtain ⟨hfirst, hparted⟩ := List.pairwise_cons.mp hparted
    have hcomes : ComesTo ctx room (Path.spell above) v run t (s.run report) := .next hopen hbefore
    have hvisit : t.visit ctx room (Path.spell above) (s.run report)
        = ⟨w, s₁.run (report.add ctx j), none⟩ :=
      (Task.visit_plain hrule _).trans (visit_of_walk hwalk report)
    rw [hpath] at hwalk
    obtain ⟨hlie, hw, hs₁⟩ := hbelow report hwalk (List.forall_mem_append.mpr ⟨habove, ht.steps⟩)
      ht.value hs fun m hm => hwrites m (.plain hcomes hrule ((hpath t).symm ▸ hm))
    obtain ⟨hlies, hws, hs₂⟩ := ih (by rwa [← List.append_cons])
      (visitTasks_concat hbefore hvisit) hts hparted hs₁
    exact ⟨(hlie.task ht.steps).cons habove hlies hfirst, List.forall_mem_cons.mpr ⟨hw, hws⟩, hs₂⟩
  | @field t ts s s₁ s₂ store j js w ws f hrule hvalue hacts hwalk hrest ih =>
    obtain ⟨ht, hts⟩ := List.forall_mem_cons.mp hts
    obtain ⟨hfirst, hparted⟩ := List.pairwise_cons.mp hparted
    have hcomes : ComesTo ctx room (Path.spell above) v run t (s.run report) := .next hopen hbefore
    have happly : apply ctx room f.rule t.value f.place (s.run report) = ⟨f.after, _, none⟩ :=
      hvalue ▸ hacts.apply_eq report
    have hvisit : t.visit ctx room (Path.spell above) (s.run report)
        = ⟨w, s₁.run ((report.add ctx [f]).add ctx j), none⟩ :=
      (Task.visit_ruled hrule happly).trans (visit_of_walk hwalk _)
    obtain ⟨hafter, hcells⟩ := hacts.legible (hvalue ▸ ht.value) hs.cells
      (hvalue ▸ hwrites _ (.own hcomes hrule))
    obtain ⟨hne, hplace⟩ := ht.rule _ _ hrule
    rw [hpath] at hwalk hplace
    obtain ⟨hlie, hw, hs₁⟩ := hbelow _ hwalk (List.forall_mem_append.mpr ⟨habove, ht.steps⟩)
      hafter ⟨hs.plans, hcells⟩ fun m hm => hwrites m
      (.field hcomes hrule happly ((hpath t).symm ▸ hm))
    obtain ⟨hlies, hws, hs₂⟩ := ih (by rwa [← List.append_cons])
      (visitTasks_concat hbefore hvisit) hts hparted hs₁
    exact ⟨(hlie.ruled habove ht.steps hne hplace).cons habove hlies hfirst,
      List.forall_mem_cons.mpr ⟨hw, hws⟩, hs₂⟩

/-- **The entries of a walk lie apart.** -/
theorem Walk.apart (room : Nat) : WalksApart ctx records room := by
  induction room with
  | zero => nofun
  | succ room ih =>
    intro v s j w s' above report h habove hv hs hwrites
    obtain ⟨opened, tasks, ws, left, hopen, htasks, rfl, rfl⟩ := h
    have hopen' : v.opening ctx (Path.spell above) (s.run report) = (_, .ok ([] ++ tasks)) :=
      opening_run hopen report
    have hrun : (s.run report).stage.Legible ctx records := hs
    obtain ⟨hts, hparted⟩ := legible_of_opening hopen' hv hrun
    have hopened : (opened.stage.run report).stage.Legible ctx records := hrun.opening hopen' hv
    obtain ⟨hlie, hws, hleft⟩ :=
      htasks.apart ih hopen' rfl habove hts hparted hopened hwrites
    have hrun' : (left.run .empty).stage.Legible ctx records := hleft
    exact ⟨hlie.below, hv.refill hws, hrun'.leave hws v⟩

/-! ## Whole runs -/

/-- An issue lies at the path of the field whose rule found it. -/
theorem FieldVisit.field_of_mem_issues {f : FieldVisit} {issue : Issue} (h : issue ∈ f.issues) :
    issue.field = f.place.path := by
  obtain ⟨m, _, rfl⟩ := List.mem_map.mp h
  rfl

/-- **Paths tell fields apart.**  Legible steps can be read back from their path.  So where keys and
names are legible, and names distinct within each record, a path leads to one field of a value.  A
complete run, if it writes no other keys and records either, runs each rule at a path of its own,
which the issues of the rule have; so issues at one path come from one field. -/
theorem paths_identify (e : Engine) (schema : Schema) (records : String → Prop) (v : Value)
    (store : Store) (rootType : Typ) :
    let ctx := e.context schema
    let r := e.validate schema rootType v store
    (∀ a b : List Step, (∀ s ∈ a, s.Legible) → (∀ s ∈ b, s.Legible) →
      (Path.spell a = Path.spell b ↔ a = b)) ∧
    (v.Legible records → Stage.Legible ctx records ⟨store, e.cache⟩ →
      (∀ q q', v.FieldAt schema store q → v.FieldAt schema store q' →
        ctx.path q = ctx.path q' → q = q') ∧
      (r.Completes →
        (∀ m, Meets ctx ctx.room v "" ⟨store, e.cache, .empty⟩ m →
          m.WritesSpelled ctx records Path.Legible) →
        ∃ journal, Walk ctx ctx.room v "" ⟨store, e.cache⟩ journal r.value
            ⟨r.store, r.engine.cache⟩ ∧
          r.Accounted ctx journal ∧
          (∀ f ∈ journal, ∃ steps, (∀ s ∈ steps, s.Legible) ∧ f.place.path = Path.spell steps ∧
            ∀ issue ∈ f.issues, issue.field = f.place.path) ∧
          journal.Pairwise fun f g => f.place.path ≠ g.place.path)) := by
  intro ctx r
  refine ⟨fun a b => Path.spell_inj, fun hv hs => ⟨fun q q' hq hq' => ?_, fun hdone hwrites => ?_⟩⟩
  · exact hq.eq_of_path (fun name hname => (hs.plans name hname).decl) hq' hv hs.cells
  · obtain ⟨hne, hstop⟩ := stop_of_completes hdone
    obtain ⟨journal, hwalk, haccounted⟩ := exists_accounted rootType hne hstop
    have hroot : Walk ctx ctx.room v (Path.spell []) _ journal _ _ := hwalk
    obtain ⟨hlie, _, _⟩ := Walk.apart ctx.room .empty hroot nofun hv hs hwrites
    refine ⟨journal, hwalk, haccounted, fun f hf => ?_, hlie.apart⟩
    obtain ⟨steps, _, hsteps, hpath⟩ := hlie.path f hf
    exact ⟨steps, hsteps, hpath, fun issue => FieldVisit.field_of_mem_issues⟩

/-! ### Two notes that share their text -/

/-- The second note lies in a box; both have the text of one cell. -/
def thread : Value := .map [("a", note), ("b", .boxed note)]

theorem legible_note : note.Legible (· = "Note") := by
  have hslots {P : Value → Prop} (hcell : P (.shared 0)) (habsent : P .absent) :
      ∀ u ∈ [Value.shared 0, .absent], P u :=
    List.forall_mem_cons.mpr ⟨hcell, List.forall_mem_singleton.mpr habsent⟩
  exact ⟨.record rfl (hslots (.shared 0) .absent), .record (hslots (.shared 0) .absent)⟩

theorem legible_thread : thread.Legible (· = "Note") := by
  have hentries {P : Value → Prop} (hnote : P note) (hboxed : P (.boxed note)) :
      ∀ e ∈ [("a", note), ("b", .boxed note)], P e.2 :=
    List.forall_mem_cons.mpr ⟨hnote, List.forall_mem_singleton.mpr hboxed⟩
  have hspelled := legible_note.spelled
  have hordered := legible_note.ordered
  have hkeys : ∀ e ∈ [("a", note), ("b", .boxed note)], Path.Legible e.1 :=
    List.forall_mem_cons.mpr ⟨by decide, List.forall_mem_singleton.mpr (by decide)⟩
  refine ⟨.map hkeys (hentries hspelled (.boxed hspelled)),
    .map ?_ (hentries hordered (.boxed hordered))⟩
  exact List.pairwise_cons.mpr
    ⟨List.forall_mem_singleton.mpr (by decide), List.pairwise_singleton _ _⟩

theorem legible_noteStore : Stage.Legible ((Engine.new noteRegistry ⟨8, true⟩).context noteSchema)
    (· = "Note") ⟨noteStore, .empty⟩ := by
  refine ⟨Context.legiblePlans_of_comes .empty (by decide), fun c => ?_⟩
  match c with
  | 0 => exact ⟨.leaf _, .leaf _⟩
  | _ + 1 => exact ⟨.leaf _, .leaf _⟩

/-- Nothing is mapped in a note. -/
theorem writesSpelled_thread (m : Moment)
    (h : Meets ((Engine.new noteRegistry ⟨8, true⟩).context noteSchema) 9 thread ""
      ⟨noteStore, .empty, .empty⟩ m) :
    m.WritesSpelled ((Engine.new noteRegistry ⟨8, true⟩).context noteSchema) (· = "Note")
      Path.Legible := by
  refine h.writesSpelled .empty (.inl fun r hr g hg => ?_) _ _
  obtain rfl := List.mem_singleton.mp hr
  exact unmapped_note "Note" ⟨_, rfl⟩ g.decl (List.mem_map_of_mem hg)

theorem result_thread : ((Engine.new noteRegistry ⟨8, true⟩).validate noteSchema
    (.map .tree .text (.record "Note")) thread noteStore).result =
      .ok [⟨"no", "a.text", .str "a"⟩, ⟨"no", "a.reply", .null⟩,
        ⟨"no", "b.text", .str "a"⟩, ⟨"no", "b.reply", .null⟩] := rfl

/-- The issues of the two notes lie at four paths, though the notes share a cell. -/
theorem paths_identify_thread :
    let e := Engine.new noteRegistry ⟨8, true⟩
    let ctx := e.context noteSchema
    let r := e.validate noteSchema (.map .tree .text (.record "Note")) thread noteStore
    (Path.spell [.segment "1]", .index 0] = Path.spell [.index 1, .index 0] ↔
      [Step.segment "1]", .index 0] = [.index 1, .index 0]) ∧
    thread.Legible (· = "Note") ∧ Stage.Legible ctx (· = "Note") ⟨noteStore, e.cache⟩ ∧
    (∀ q q', thread.FieldAt noteSchema noteStore q → thread.FieldAt noteSchema noteStore q' →
      ctx.path q = ctx.path q' → q = q') ∧
    r.result = .ok [⟨"no", "a.text", .str "a"⟩, ⟨"no", "a.reply", .null⟩,
      ⟨"no", "b.text", .str "a"⟩, ⟨"no", "b.reply", .null⟩] ∧
    ∃ journal, Walk ctx ctx.room thread "" ⟨noteStore, e.cache⟩ journal r.value
        ⟨r.store, r.engine.cache⟩ ∧
      r.Accounted ctx journal ∧
      (∀ f ∈ journal, ∃ steps, (∀ s ∈ steps, s.Legible) ∧ f.place.path = Path.spell steps ∧
        ∀ issue ∈ f.issues, issue.field = f.place.path) ∧
      journal.Pairwise fun f g => f.place.path ≠ g.place.path := by
  intro e ctx r
  obtain ⟨hsteps, hrun⟩ := paths_identify e noteSchema (· = "Note") thread noteStore
    (.map .tree .text (.record "Note"))
  obtain ⟨hfields, hjournal⟩ := hrun legible_thread legible_noteStore
  exact ⟨hsteps _ _ (by decide) (by decide), legible_thread, legible_noteStore, hfields,
    result_thread, hjournal (.inl ⟨_, result_thread⟩) writesSpelled_thread⟩

end FieldRules
