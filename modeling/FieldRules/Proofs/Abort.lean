import FieldRules.Proofs.Frame
import FieldRules.Proofs.Positions
import FieldRules.Proofs.Writes

/-!
# Proofs/Abort — how far a run came that was stopped

A run goes through a value in document order and is stopped by the first node that fails.  Where
mappers are on leaves only, and the value has no cells, this **stop** splits the value in two:
leaves before it are **settled**, that is, they are what their own rules make of them, and from the
stop on everything is as it was (`abort_splits`).
-/

namespace FieldRules

variable {ctx : Context} {types : String → Prop}

/-! ## Settled leaves -/

/-- What a rule makes of a leaf in a field of some type: the mapped value, if it is another one and
the field can hold it. -/
def Rule.settle (rule : Rule) (schema : Schema) (typ : Typ) (l : Leaf) : Value :=
  match l.snapshot with
  | .error _ => .leaf l
  | .ok form =>
    match (rule.map form).filter fun w => !w.same form with
    | none => .leaf l
    | some w =>
      match Value.read schema typ w .empty with
      | .ok (u, _) => u
      | .error _ => .leaf l

/-- What becomes of a leaf at some sites: if these end in a field, the rule of the field runs on
it. -/
def Context.settled (ctx : Context) (sites : List Site) (l : Leaf) : Value :=
  match sites.getLast? with
  | some (.field name i d) =>
    match (ctx.schema.record name).fields[i]?,
      Plan.compileField ctx.registry (ctx.schema.record name).typeName d with
    | some f, .ok planned => planned.rule.settle ctx.schema f.typ l
    | _, _ => .leaf l
  | _ => .leaf l

/-- A leaf of a field is settled by the rule of the field. -/
theorem settled_field {name : String} {i : Nat} {f : RecordField} {planned : PlannedField}
    (hf : (ctx.schema.record name).fields[i]? = some f)
    (hplanned : Plan.compileField ctx.registry (ctx.schema.record name).typeName f.decl
      = .ok planned) (l : Leaf) :
    ctx.settled [.field name i f.decl] l = planned.rule.settle ctx.schema f.typ l := by
  simp only [Context.settled, List.getLast?_singleton, hf, hplanned]

/-- A leaf under a rule without mappers stays. -/
theorem Rule.settle_of_mappers {rule : Rule} (h : rule.mappers = []) (schema : Schema) (typ : Typ)
    (l : Leaf) : rule.settle schema typ l = .leaf l := by
  rw [settle]
  cases l.snapshot with
  | error e => rfl
  | ok form => simp only [Rule.map, h, Rule.mapFrom, Option.filter_none]

/-- A leaf type is read without the cells. -/
theorem read_scalar (schema : Schema) (k : Scalar) (form : Json) (s : Store) :
    Value.read schema (.scalar k) form s = (Leaf.read k form).map fun l => (.leaf l, s) := by
  cases form <;> rfl

/-- What a rule makes of a leaf in a leaf field is a leaf. -/
theorem Rule.exists_settle_eq (rule : Rule) (schema : Schema) (k : Scalar) (l : Leaf) :
    ∃ l', rule.settle schema (.scalar k) l = .leaf l' := by
  rw [settle]
  cases l.snapshot with
  | error e => exact ⟨l, rfl⟩
  | ok form =>
    simp only
    cases (rule.map form).filter fun w => !w.same form with
    | none => exact ⟨l, rfl⟩
    | some w =>
      simp only [read_scalar]
      cases Leaf.read k w with
      | error e => exact ⟨l, rfl⟩
      | ok l' => exact ⟨l', rfl⟩

/-- What is seen of a leaf is its own form, and nothing is known of its type. -/
theorem inspect_leaf {room : Nat} {store : Store} {l : Leaf} {p : Place} {hint : Hint} {form : Json}
    (hi : inspect ctx room store (.leaf l) p = .ok (hint, form)) :
    hint = .unknown ∧ l.snapshot = .ok form := by
  obtain ⟨_, _, h⟩ := bind_eq_ok.mp hi
  obtain ⟨hint', hhint, h⟩ := bind_eq_ok.mp h
  have hv : (Value.leaf l).snapshot ctx.schema store = l.snapshot := rfl
  rw [hv] at h
  cases hs : l.snapshot with
  | ok form' =>
    rw [hs] at h
    obtain ⟨rfl, rfl⟩ := Prod.mk.inj (Except.ok.inj h)
    exact ⟨(Except.ok.inj hhint).symm, rfl⟩
  | error u =>
    rw [hs] at h
    cases h

/-- **A rule that runs on a leaf settles it**, and leaves the cells as they are. -/
theorem apply_leaf {room : Nat} (rule : Rule) {l : Leaf} {p : Place} {run : Run} {hint : Hint}
    {form : Json} (hi : inspect ctx room run.store (.leaf l) p = .ok (hint, form)) {k : Scalar}
    (hp : p.typ = .scalar k) :
    ∃ report, apply ctx room rule (.leaf l) p run
      = ⟨rule.settle ctx.schema p.typ l, { run with report := report }, none⟩ := by
  have hform : l.snapshot = .ok form := (inspect_leaf hi).2
  have happly := FieldVisit.apply_of_inspect (f := ⟨rule, p, hint, form, .leaf l, .leaf l, none⟩) hi
  simp only [FieldVisit.attempt?] at happly
  rw [Rule.settle, hform, happly]
  simp only
  cases (rule.map form).filter fun w => !w.same form with
  | none => exact ⟨_, rfl⟩
  | some w =>
    simp only [FieldRules.store, hp, read_scalar]
    cases Leaf.read k w with
    | error e => exact ⟨_, rfl⟩
    | ok l' => exact ⟨_, rfl⟩

/-- A leaf can be visited where it could be inspected. -/
theorem visit_leaf_of_inspect {room : Nat} {store : Store} {l l' : Leaf} {p : Place}
    {seen : Hint × Json} (h : inspect ctx room store (.leaf l) p = .ok seen) (path : String)
    (run : Run) : visit ctx room (.leaf l') path run = ⟨.leaf l', run, none⟩ := by
  cases room with
  | zero => cases h
  | succ room => rfl

/-! ## Where a walk fails -/

/-- The annotation of a field compiles and names a generator. -/
def FieldDecl.Ruled (registry : Registry) (d : FieldDecl) : Prop :=
  ∃ text rule, d.tag = some text ∧ Rule.compile registry text = .ok rule ∧ rule.isEmpty = false

theorem ruled_iff {registry : Registry} {owner : String} {d : FieldDecl} {planned : PlannedField}
    (h : Plan.compileField registry owner d = .ok planned) :
    d.Ruled registry ↔ planned.rule.isEmpty = false := by
  obtain ⟨_, _, ⟨htag, hempty⟩ | ⟨text, htag, hrule⟩⟩ := of_compileField h
  · rw [hempty]
    exact iff_of_false (fun ⟨_, _, hsome, _⟩ => by cases htag.symm.trans hsome) nofun
  · refine ⟨fun ⟨text', rule, htag', hrule', hempty⟩ => ?_,
      fun hempty => ⟨_, _, htag, hrule, hempty⟩⟩
    obtain rfl := Option.some.inj (htag.symm.trans htag')
    rwa [Except.ok.inj (hrule.symm.trans hrule')]

namespace Site

/-- A field whose annotation names a generator. -/
def Ruled (registry : Registry) : Site → Prop
  | field _ _ d => d.Ruled registry
  | _ => False

/-- A field whose annotation names a generator, and whose value cannot be inspected: its guard, the
hint of its type or its snapshot fails. -/
def Blocked (ctx : Context) (store : Store) (room : Nat) (path : String) (w : Value) (e : Error) :
    Site → Prop
  | field name i d => d.Ruled ctx.registry ∧
      ∃ f, (ctx.schema.record name).fields[i]? = some f ∧ f.decl = d ∧
        inspect ctx room store w ⟨(ctx.schema.record name).typeName, d.name, f.typ, path⟩
          = .error e
  | _ => False

theorem Blocked.ruled {store : Store} {room : Nat} {path : String} {w : Value} {e : Error} :
    ∀ {site : Site}, site.Blocked ctx store room path w e → site.Ruled ctx.registry
  | field _ _ _, h => h.1

end Site

/-- A walk of a value at a path with some room fails at a node below it: a node beyond the room with
no annotated field on the way to it, for the guard of such a field finds it first; a record that has
no plan or shows another number of fields than its plan has; or an annotated field that cannot be
inspected. -/
inductive FailsAt (ctx : Context) (store : Store) (room : Nat) (path : String) :
    List Site → Value → Error → Prop
  | tooDeep {sites : List Site} {w : Value} (h : sites.length = room)
      (hplain : ∀ site ∈ sites, ¬ site.Ruled ctx.registry) :
      FailsAt ctx store room path sites w (ctx.tooDeep (Path.spellFrom path (ctx.steps sites)))
  | plan {sites : List Site} {name : String} {slots : List Value} {e : Error}
      (h : ctx.plan name = .error e) : FailsAt ctx store room path sites (.record name slots) e
  | count {sites : List Site} {name : String} {slots : List Value} {plan : Plan}
      (hplan : ctx.plan name = .ok plan)
      (h : (slots.take (ctx.schema.record name).exposed).length ≠ plan.fields.length) :
      FailsAt ctx store room path sites (.record name slots)
        (.misuse (ctx.schema.record name).typeName (.fieldCount plan.fields.length
          (slots.take (ctx.schema.record name).exposed).length))
  | field {sites : List Site} {site : Site} {w : Value} {e : Error}
      (hlast : sites.getLast? = some site)
      (h : site.Blocked ctx store (room - sites.length) (Path.spellFrom path (ctx.steps sites))
        w e) : FailsAt ctx store room path sites w e

namespace FailsAt

variable {store : Store} {room : Nat} {path : String} {site : Site} {sites : List Site} {w : Value}
  {e : Error}

/-- What fails below a part fails below the value, if the site of the part has no rule, or one whose
guard found all nodes within the room. -/
theorem under (h : FailsAt ctx store room (ctx.sitePath path site) sites w e)
    (hroom : site.Ruled ctx.registry → sites.length < room) :
    FailsAt ctx store (room + 1) path (site :: sites) w e := by
  cases h with
  | tooDeep h hplain =>
    rw [← ctx.spellFrom_cons]
    have hsite : ¬ site.Ruled ctx.registry := fun hruled => Nat.ne_of_lt (hroom hruled) h
    exact .tooDeep (congrArg (· + 1) h) (List.forall_mem_cons.mpr ⟨hsite, hplain⟩)
  | plan h => exact .plan h
  | count hplan h => exact .count hplan h
  | field hlast h =>
    rw [← ctx.spellFrom_cons] at h
    refine .field (by rw [List.getLast?_cons, hlast, Option.getD_some]) ?_
    rwa [List.length_cons, Nat.add_sub_add_right]

/-- What fails below a value fails below one of its parts, or is a part that is blocked. -/
theorem of_cons (h : FailsAt ctx store (room + 1) path (site :: sites) w e) :
    FailsAt ctx store room (ctx.sitePath path site) sites w e ∨
      sites = [] ∧ site.Blocked ctx store room (ctx.sitePath path site) w e := by
  cases h with
  | tooDeep h hplain =>
    rw [ctx.spellFrom_cons]
    exact .inl (.tooDeep (Nat.succ.inj h) (List.forall_mem_cons.mp hplain).2)
  | plan h => exact .inl (.plan h)
  | count hplan h => exact .inl (.count hplan h)
  | field hlast h =>
    rw [ctx.spellFrom_cons, List.length_cons, Nat.add_sub_add_right] at h
    cases sites with
    | nil =>
      obtain rfl := Option.some.inj hlast
      exact .inr ⟨rfl, h⟩
    | cons site' rest =>
      rw [List.getLast?_cons_cons] at hlast
      exact .inl (.field hlast h)

/-- A leaf does not fail where there is room for it. -/
theorem not_leaf {l : Leaf} (hroom : 0 < room) : ¬ FailsAt ctx store room path [] (.leaf l) e := by
  intro h
  cases h with
  | tooDeep h => exact Nat.ne_of_lt hroom h
  | field hlast => cases hlast

end FailsAt

/-! ## Before a stop -/

instance : Std.Irrefl Site.Before := by
  refine ⟨fun site h => ?_⟩
  cases h with
  | item h => exact Nat.lt_irrefl _ h
  | entry h => exact String.lt_irrefl _ h
  | field h => exact Nat.lt_irrefl _ h

theorem Site.Before.asymm {a b : Site} (h : a.Before b) : ¬ b.Before a := by
  intro h'
  cases h with
  | item h => cases h' with | item h' => exact Nat.lt_asymm h h'
  | entry h => cases h' with | entry h' => exact String.lt_asymm h h'
  | field h => cases h' with | field h' => exact Nat.lt_asymm h h'

/-- A node comes before the stop, if there is one. -/
def Passed (stop : Option (List Site)) (sites : List Site) : Prop :=
  ∀ last ∈ stop, List.Lex Site.Before sites last

theorem passed_none (sites : List Site) : Passed none sites := nofun

theorem passed_some {last sites : List Site} :
    Passed (some last) sites ↔ List.Lex Site.Before sites last := by simp [Passed]

theorem passed_cons {site : Site} {sites : List Site} {stop : Option (List Site)} :
    Passed (stop.map (site :: ·)) (site :: sites) ↔ Passed stop sites := by
  cases stop with
  | none => exact iff_of_true (passed_none _) (passed_none _)
  | some last => rw [Option.map_some, passed_some, passed_some, List.lex_cons_iff]

/-- Nothing from the stop on is passed. -/
theorem not_passed_self (last sites : List Site) : ¬ Passed (some last) (last ++ sites) := by
  rw [passed_some]
  induction last with
  | nil => nofun
  | cons site last ih => rwa [List.cons_append, List.lex_cons_iff]

/-- What comes after the site of the stop is not passed. -/
theorem not_passed_of_before {site site' : Site} (h : site.Before site') {rest sites : List Site} :
    ¬ Passed (some (site :: rest)) (site' :: sites) := by
  rw [passed_some]
  intro hlex
  cases hlex with
  | rel h' => exact h.asymm h'
  | cons _ => exact irrefl_of Site.Before site h

/-! ## Ends of walks -/

/-- Of some nodes, none that is passed fails. -/
def Unfailing (ctx : Context) (store : Store) (room : Nat) (path : String)
    (At : List Site → Value → Prop) (stop : Option (List Site)) : Prop :=
  ∀ sites w, At sites w → Passed stop sites → ∀ e, ¬ FailsAt ctx store room path sites w e

/-- Nothing fails in a leaf for which there is room. -/
theorem Unfailing.leaf {store : Store} {room : Nat} {path : String} {l : Leaf} (hroom : 0 < room) :
    Unfailing ctx store room path (fun sites w => Route ctx.schema .empty (.leaf l) sites [] w)
      none := by
  intro sites w hroute _ e hfails
  obtain ⟨rfl, rfl⟩ | ⟨_, hp, _⟩ := hroute.inner_cases
  · exact FailsAt.not_leaf hroom hfails
  · cases hp

/-- How a walk ends: it goes through the whole value, or fails at one of some nodes, the first that
fails. -/
inductive Ends (ctx : Context) (store : Store) (room : Nat) (path : String)
    (At : List Site → Value → Prop) : Option (List Site) → Option Error → Prop
  | whole (hall : Unfailing ctx store room path At none) : Ends ctx store room path At none none
  | failed {sites : List Site} {w : Value} {e : Error} (h : At sites w)
      (hf : FailsAt ctx store room path sites w e)
      (hfirst : Unfailing ctx store room path At (some sites)) :
      Ends ctx store room path At (some sites) (some e)

/-- A walk ends among more nodes as it did, if the new ones that it passed do not fail. -/
theorem Ends.widen {store : Store} {room : Nat} {path : String} {At At' : List Site → Value → Prop}
    {stop : Option (List Site)} {e : Option Error} (h : Ends ctx store room path At stop e)
    (hat : ∀ sites w, At sites w → At' sites w)
    (hnew : ∀ sites w, At' sites w → Passed stop sites →
      At sites w ∨ ∀ e, ¬ FailsAt ctx store room path sites w e) :
    Ends ctx store room path At' stop e := by
  have hwiden (hclear : Unfailing ctx store room path At stop) :
      Unfailing ctx store room path At' stop := fun sites w hw hpass =>
    (hnew sites w hw hpass).elim (fun hold => hclear sites w hold hpass) id
  cases h with
  | whole hall => exact .whole (hwiden hall)
  | failed h hf hfirst => exact .failed (hat _ _ h) hf (hwiden hfirst)

/-! ## Before and after a stop -/

/-- One value comes of another: leaves that are passed are settled, and all that is not passed
stays.  The sites of both begin with `above`. -/
structure Follows (ctx : Context) (above : List Site) (stop : Option (List Site)) (v w : Value) :
    Prop where
  settled : ∀ sites l, Route ctx.schema .empty v sites [] (.leaf l) → Passed stop (above ++ sites) →
    Route ctx.schema .empty w sites [] (ctx.settled (above ++ sites) l)
  ahead : ∀ sites u, Route ctx.schema .empty v sites [] u → ¬ Passed stop (above ++ sites) →
    Route ctx.schema .empty w sites [] u

namespace Follows

variable {above : List Site} {stop : Option (List Site)} {v w : Value}

/-- Where nothing is passed, nothing changes. -/
theorem same (h : ∀ sites, ¬ Passed stop (above ++ sites)) : Follows ctx above stop v v :=
  ⟨fun sites _ _ hp => absurd hp (h sites), fun _ _ hu _ => hu⟩

/-- Where all is passed, a later stop makes no difference. -/
theorem earlier (h : Follows ctx above none v w) (hp : ∀ sites, Passed stop (above ++ sites)) :
    Follows ctx above stop v w :=
  ⟨fun sites l hl _ => h.settled sites l hl (passed_none _),
    fun sites _ _ hno => absurd (hp sites) hno⟩

/-- What comes of a leaf in a field. -/
theorem leaf {site : Site} {l l' : Leaf} (h : ctx.settled [site] l = .leaf l') :
    Follows ctx [site] none (.leaf l) (.leaf l') := by
  refine ⟨fun sites l₁ hl _ => ?_, fun _ _ _ hno => absurd (passed_none _) hno⟩
  obtain ⟨rfl, heq⟩ | ⟨_, hp, _⟩ := hl.inner_cases
  · obtain rfl := Value.leaf.inj heq
    rw [List.append_nil, h]
    exact .here _
  · cases hp

/-- What comes of a part comes of it as a part, unless its own rule makes something of it. -/
theorem under {site : Site} (h : Follows ctx [] stop v w)
    (hsite : ∀ l, v = .leaf l → ctx.settled [site] l = .leaf l) :
    Follows ctx [site] (stop.map (site :: ·)) v w := by
  refine ⟨fun sites l hl hp => ?_, fun sites u hu hp => ?_⟩
  · have hw := h.settled sites l hl (passed_cons.mp hp)
    have heq : ctx.settled ([site] ++ sites) l = ctx.settled ([] ++ sites) l := by
      cases sites with
      | nil =>
        obtain ⟨_, heq⟩ | ⟨_, _, _, _, hnil, _⟩ := hl.inner_cases
        · exact hsite l heq.symm
        · cases hnil
      | cons site' rest =>
        simp only [Context.settled, List.singleton_append, List.nil_append,
          List.getLast?_cons_cons]
    rwa [heq]
  · exact h.ahead sites u hu fun hpass => hp (passed_cons.mpr hpass)

/-- What comes of the parts of a value comes of the value. -/
theorem refill {store : Store} (hv : v.entered = []) (hstop : Passed stop []) {ws : List Value}
    (h : List.Forall₂ (fun p w => Follows ctx [p.site] stop p.value w) (v.parts ctx.schema store)
      ws) : Follows ctx [] stop v (v.refill ws) := by
  -- A route goes on through the part at the same site.
  have hpart {p : Part} (hp : p ∈ v.parts ctx.schema .empty) :
      ∃ w, Follows ctx [p.site] stop p.value w ∧ ∀ {rest u}, Route ctx.schema .empty w rest [] u →
        Route ctx.schema .empty (v.refill ws) (p.site :: rest) [] u := by
    obtain ⟨q, hq, hsite, hfollows⟩ :=
      exists_of_mem_forall₂ (Value.forall₂_parts_refill hv h .empty).flip p hp
    exact ⟨q.value, hfollows, fun hu =>
      hsite ▸ .inner_down ((v.entered_refill ws).trans hv) hq hu⟩
  refine ⟨fun sites l hl hp => ?_, fun sites u hu hp => ?_⟩
  · obtain ⟨rfl, rfl⟩ | ⟨p, hmem, rest, _, rfl, hrest⟩ := hl.inner_cases
    · exact .here _
    · obtain ⟨w, hw, hdown⟩ := hpart hmem
      exact hdown (hw.settled rest l hrest hp)
  · obtain ⟨rfl, rfl⟩ | ⟨p, hmem, rest, _, rfl, hrest⟩ := hu.inner_cases
    · exact absurd hstop hp
    · obtain ⟨w, hw, hdown⟩ := hpart hmem
      exact hdown (hw.ahead rest u hrest hp)

end Follows

/-! ## Values without cells -/

/-- A value without cells, with records of certain types.  Its leaf fields hold leaves, and its maps
list their entries by key. -/
structure Value.Tree (schema : Schema) (types : String → Prop) (v : Value) : Prop where
  within : v.Within types fun _ => False
  leaves : ∀ name slots, Below schema .empty v (.record name slots) → ∀ (i : Nat) f u k,
    (schema.record name).fields[i]? = some f → slots[i]? = some u → f.typ = .scalar k →
    ∃ l, u = .leaf l
  sorted : ∀ entries, Below schema .empty v (.map entries) → Dict.Sorted entries

namespace Value.Tree

variable {schema : Schema} {v : Value}

theorem entered (h : v.Tree schema types) : v.entered = [] := by
  cases v with
  | shared c => cases h.within with | shared hc => exact hc.elim
  | _ => rfl

theorem part (h : v.Tree schema types) {p : Part} (hp : p ∈ v.parts schema .empty) :
    p.value.Tree schema types :=
  ⟨h.within.part (fun _ hc => hc.elim) hp, fun name slots hb => h.leaves name slots (.part hp hb),
    fun entries hb => h.sorted entries (.part hp hb)⟩

/-- A part in a leaf field is a leaf. -/
theorem exists_leaf (h : v.Tree schema types) {p : Part} (hp : p ∈ v.parts schema .empty)
    {name : String} {i : Nat} {d : FieldDecl} (hsite : p.site = .field name i d) {f : RecordField}
    (hf : (schema.record name).fields[i]? = some f) {k : Scalar} (hk : f.typ = .scalar k) :
    ∃ l, p.value = .leaf l := by
  obtain ⟨slots, rfl⟩ := owner_of_mem_parts hp hsite
  obtain ⟨⟨⟨f', u⟩, j⟩, hmem, rfl⟩ := List.mem_map.mp hp
  cases hsite
  have hzip := List.mem_zipIdx_iff_getElem?.mp hmem
  obtain ⟨_, hu⟩ := List.getElem?_zip_eq_some.mp hzip
  rw [List.getElem?_take] at hu
  split at hu
  · exact h.leaves name slots (.refl _) i f u k hf hu hk
  · cases hu

/-- A part with mappers is a leaf, if mappers are on leaf fields only. -/
theorem exists_leaf_of_mapped (h : v.Tree schema types)
    (hscalar : ∀ name, types name → ∀ f ∈ (schema.record name).fields, ¬ f.decl.Unmapped →
      ∃ k, f.typ = .scalar k) {p : Part} (hp : p ∈ v.parts schema .empty) {name : String} {i : Nat}
    {f : RecordField} (hsite : p.site = .field name i f.decl)
    (hf : (schema.record name).fields[i]? = some f) (hun : ¬ f.decl.Unmapped) :
    ∃ k l, f.typ = .scalar k ∧ p.value = .leaf l := by
  obtain ⟨slots, rfl⟩ := owner_of_mem_parts hp hsite
  cases h.within with | record hname =>
  obtain ⟨k, hk⟩ := hscalar name hname f (List.mem_of_getElem? hf) hun
  obtain ⟨l, hl⟩ := h.exists_leaf hp hsite hf hk
  exact ⟨k, l, hk, hl⟩

end Value.Tree

theorem Value.leave_of_entered {v : Value} (hv : v.entered = []) (ws : List Value) (run : Run) :
    v.leave ws run = run := by
  cases v with
  | shared c => cases hv
  | _ => rfl

/-! ## Tasks -/

/-- The task of a part, by the declaration of its field. -/
inductive Task.For (ctx : Context) (path : String) : Part → Task → Prop
  | plain {site : Site} {w : Value} (h : ∀ name i d, site ≠ .field name i d) :
      Task.For ctx path ⟨site, w⟩ ⟨site.turn, none, w⟩
  | field {name : String} {i : Nat} {f : RecordField} {w : Value} {planned : PlannedField}
      (hf : (ctx.schema.record name).fields[i]? = some f)
      (hplanned : Plan.compileField ctx.registry (ctx.schema.record name).typeName f.decl
        = .ok planned) :
      Task.For ctx path ⟨.field name i f.decl, w⟩
        (Slot.task ctx (ctx.schema.record name).typeName path ⟨planned, f.typ, w⟩)

theorem Task.For.value_eq {path : String} {p : Part} {t : Task} (h : Task.For ctx path p t) :
    t.value = p.value := by cases h <;> rfl

/-- The tasks of a record are those of its fields. -/
theorem forall₂_for_record {path name : String} {plan : Plan} (hplan : ctx.plan name = .ok plan)
    {vs : List Value} (hlen : vs.length = plan.fields.length) :
    List.Forall₂ (Task.For ctx path)
      (((ctx.schema.record name).fields.zip vs).zipIdx.map
        fun q => ⟨.field name q.2 q.1.1.decl, q.1.2⟩)
      ((slotsOf plan.fields (ctx.schema.record name).fields vs).map
        (Slot.task ctx (ctx.schema.record name).typeName path)) := by
  have hfields := length_fields_plan hplan
  rw [slotsOf_eq_zipWith]
  refine List.forall₂_iff_get.mpr ⟨by simp [hlen, hfields], fun i hi hi' => ?_⟩
  obtain ⟨hif, _⟩ : i < (ctx.schema.record name).fields.length ∧ i < vs.length := by simpa using hi
  have hf : (ctx.schema.record name).fields[i]? = some (ctx.schema.record name).fields[i] :=
    List.getElem?_eq_getElem hif
  have hplanned := compileField_of_plan hplan (i := i)
    (by rw [Schema.decls, List.getElem?_map, hf]; rfl)
    (List.getElem?_eq_getElem (hfields ▸ hif))
  have hfor : Task.For ctx path ⟨.field name i _, vs[i]⟩ _ := .field hf hplanned
  simpa using hfor

/-- **The tasks of an opened value are those of its parts**, by the declarations of its fields. -/
theorem forall₂_for (hfam : ctx.schema.Family types) {v : Value}
    (hv : ∀ name slots, v = .record name slots → types name) {path : String} {run run' : Run}
    {tasks : List Task} (hcache : run.cache.Comes ctx types)
    (h : v.opening ctx path run = (run', .ok tasks)) :
    List.Forall₂ (Task.For ctx path) (v.parts ctx.schema run.store) tasks := by
  by_cases hrec : ∃ name slots, v = .record name slots
  · obtain ⟨name, slots, rfl⟩ := hrec
    obtain ⟨_, _, hopen⟩ | ⟨plan, hplan, ⟨_, hopen⟩ | ⟨hlen, hopen⟩⟩ :=
      Value.opening_record ctx path name slots run
    · cases hopen.symm.trans h
    · cases hopen.symm.trans h
    · cases hopen.symm.trans h
      rw [result_lookup hfam hcache (hv name slots rfl)] at hplan
      exact forall₂_for_record hplan hlen
  · obtain ⟨_, _, hparts⟩ := of_opening h
    refine ((List.forall₂_and_left _ tasks).mpr ⟨fun p hp => hp, hparts⟩).imp
      fun p t ⟨hmem, hof⟩ => ?_
    cases hof with
    | plain hsite => exact .plain hsite
    | field => exact absurd ⟨_, Value.owner_of_mem_parts hmem rfl⟩ hrec

theorem mappers_of_isEmpty {rule : Rule} (h : rule.isEmpty = true) : rule.mappers = [] := by
  rw [Rule.isEmpty, Bool.and_eq_true, List.isEmpty_iff] at h
  exact h.1

/-- The task of a field runs the rule on it, if there is one, and visits it. -/
theorem visit_slot_task {room : Nat} {path owner name : String} {i : Nat} {f : RecordField}
    {planned : PlannedField} (hplanned : Plan.compileField ctx.registry owner f.decl = .ok planned)
    (w : Value) (run : Run) :
    (Slot.task ctx owner path ⟨planned, f.typ, w⟩).visit ctx room path run =
      if planned.rule.isEmpty then visit ctx room w (ctx.sitePath path (.field name i f.decl)) run
      else (apply ctx room planned.rule w
          ⟨owner, f.decl.name, f.typ, ctx.sitePath path (.field name i f.decl)⟩ run).andThen
        fun u run' => visit ctx room u (ctx.sitePath path (.field name i f.decl)) run' := by
  have hpath : Path.spellFrom path
        ((Turn.field planned.name planned.displayName).steps ctx.settings.displayNames)
      = ctx.sitePath path (.field name i f.decl) := by
    obtain ⟨hname, hshown, _⟩ := of_compileField hplanned
    rw [hname, hshown]
    rfl
  have hplace : (⟨owner, planned.name, f.typ,
        Path.join path (planned.segment ctx.settings.displayNames)⟩ : Place)
      = ⟨owner, f.decl.name, f.typ, ctx.sitePath path (.field name i f.decl)⟩ := by
    rw [← hpath, ← (of_compileField hplanned).1]
    rfl
  cases hempty : planned.rule.isEmpty with
  | true => simp only [Task.visit, Task.steps, Slot.task, hempty, if_true, hpath]
  | false =>
    simp only [Task.visit, Task.steps, Slot.task, hempty, Bool.false_eq_true, if_false, hpath,
      hplace]

/-! ## Visits -/

/-- What a visit has done when it ends: the cells are as they were, the plans come from the types,
and there is a stop, or none, for how it ended and what came of the value. -/
structure Visit.Progress {α : Type} (ctx : Context) (types : String → Prop) (store : Store)
    (o : Visit α) (ends : Option (List Site) → Option Error → Prop)
    (follows : Option (List Site) → α → Prop) : Prop where
  store : o.run.store = store
  known : o.run.cache.Comes ctx types
  stop : ∃ stop, ends stop o.stop ∧ follows stop o.value

/-- A node below a part, seen from the value. -/
def Part.At (schema : Schema) (p : Part) (sites : List Site) (w : Value) : Prop :=
  ∃ rest, sites = p.site :: rest ∧ Route schema .empty p.value rest [] w

/-- A walk goes on below a part: the site of the part has no rule, or one that could inspect the
part, and then all nodes below are within the room. -/
structure Part.Passable (ctx : Context) (store : Store) (room : Nat) (path : String) (p : Part) :
    Prop where
  inspected : ∀ e, ¬ p.site.Blocked ctx store room (ctx.sitePath path p.site) p.value e
  within : p.site.Ruled ctx.registry → ∀ rest w, Route ctx.schema .empty p.value rest [] w →
    rest.length < room

namespace Part.Passable

variable {store : Store} {room : Nat} {path : String} {p : Part}

theorem of_not_ruled (h : ¬ p.site.Ruled ctx.registry) : p.Passable ctx store room path :=
  ⟨fun _ hblocked => h hblocked.ruled, fun hruled => absurd hruled h⟩

/-- The inspection of a field has a guard, and this goes through all that is below. -/
theorem of_inspect {name : String} {i : Nat} {f : RecordField} {w : Value} {seen : Hint × Json}
    (hf : (ctx.schema.record name).fields[i]? = some f)
    (hi : inspect ctx room store w ⟨(ctx.schema.record name).typeName, f.decl.name, f.typ,
      ctx.sitePath path (.field name i f.decl)⟩ = .ok seen) :
    (⟨.field name i f.decl, w⟩ : Part).Passable ctx store room path := by
  refine ⟨fun e hblocked => ?_, fun _ rest u hroute => ?_⟩
  · obtain ⟨_, f', hf', _, hi'⟩ := hblocked
    obtain rfl := Option.some.inj (hf'.symm.trans hf)
    cases hi.symm.trans hi'
  · obtain ⟨_, hguard, _⟩ := bind_eq_ok.mp hi
    exact (guard_eq_ok_iff.mp hguard rest [] u hroute.inner).1

/-- Nothing that is passed below the part fails, if nothing does below its value. -/
theorem unfailing (h : p.Passable ctx store room path) {stop : Option (List Site)}
    (hstop : Unfailing ctx store room (ctx.sitePath path p.site)
      (fun sites w => Route ctx.schema .empty p.value sites [] w) stop) :
    Unfailing ctx store (room + 1) path (p.At ctx.schema) (stop.map (p.site :: ·)) := by
  rintro _ w ⟨rest, rfl, hroute⟩ hpass e hfails
  obtain hbelow | ⟨rfl, hblocked⟩ := hfails.of_cons
  · exact hstop rest w hroute (passed_cons.mp hpass) e hbelow
  · obtain ⟨_, rfl⟩ | ⟨_, _, _, _, hnil, _⟩ := hroute.inner_cases
    · exact h.inspected e hblocked
    · cases hnil

/-- A walk below a part ends there as it ends below the value of the part. -/
theorem ends (h : p.Passable ctx store room path) {stop : Option (List Site)} {e : Option Error}
    (hends : Ends ctx store room (ctx.sitePath path p.site)
      (fun sites w => Route ctx.schema .empty p.value sites [] w) stop e) :
    Ends ctx store (room + 1) path (p.At ctx.schema) (stop.map (p.site :: ·)) e := by
  cases hends with
  | whole hall => exact .whole (h.unfailing hall)
  | failed hat hf hfirst =>
    exact .failed ⟨_, rfl, hat⟩ (hf.under fun hruled => h.within hruled _ _ hat)
      (h.unfailing hfirst)

end Part.Passable

/-- Visits of trees with some room progress. -/
def VisitsProgress (ctx : Context) (types : String → Prop) (store : Store) (room : Nat) : Prop :=
  ∀ (v : Value) (path : String) (run : Run), v.Tree ctx.schema types → run.store = store →
    run.cache.Comes ctx types →
    (visit ctx room v path run).Progress ctx types store
      (Ends ctx store room path fun sites w => Route ctx.schema .empty v sites [] w)
      (fun stop w => Follows ctx [] stop v w)

/-- A visit of a part of a value has progressed. -/
def Part.Progress (ctx : Context) (types : String → Prop) (store : Store) (room : Nat)
    (path : String) (p : Part) (o : Visit Value) : Prop :=
  o.Progress ctx types store (Ends ctx store (room + 1) path (p.At ctx.schema))
    fun stop w => Follows ctx [p.site] stop p.value w

section

variable {store : Store} {room : Nat} {path : String} {p : Part} {run : Run}

/-- A part progresses that is only visited. -/
theorem VisitsProgress.part (hvisit : VisitsProgress ctx types store room)
    (hpass : p.Passable ctx store room path) (htree : p.value.Tree ctx.schema types)
    (hsite : ∀ l, p.value = .leaf l → ctx.settled [p.site] l = .leaf l) (hstore : run.store = store)
    (hcache : run.cache.Comes ctx types) :
    p.Progress ctx types store room path
      (visit ctx room p.value (ctx.sitePath path p.site) run) := by
  obtain ⟨hstore', hknown, stop, hends, hfollows⟩ :=
    hvisit p.value (ctx.sitePath path p.site) run htree hstore hcache
  exact ⟨hstore', hknown, stop.map (p.site :: ·), hpass.ends hends, hfollows.under hsite⟩

section

variable {name : String} {i : Nat} {f : RecordField} {w : Value} {planned : PlannedField}

/-- A field whose rule has no mappers is only visited. -/
theorem progress_of_mappers (hvisit : VisitsProgress ctx types store room)
    (hpass : (⟨.field name i f.decl, w⟩ : Part).Passable ctx store room path)
    (hf : (ctx.schema.record name).fields[i]? = some f)
    (hplanned : Plan.compileField ctx.registry (ctx.schema.record name).typeName f.decl
      = .ok planned) (hmappers : planned.rule.mappers = []) (htree : w.Tree ctx.schema types)
    (hstore : run.store = store) (hcache : run.cache.Comes ctx types) :
    (⟨.field name i f.decl, w⟩ : Part).Progress ctx types store room path
      (visit ctx room w (ctx.sitePath path (.field name i f.decl)) run) :=
  hvisit.part hpass htree
    (fun l _ => by rw [settled_field hf hplanned, Rule.settle_of_mappers hmappers]) hstore hcache

/-- A field with a rule progresses: it is stopped by the inspection of the field, or goes on below
what the rule made of it. -/
theorem progress_of_rule (hvisit : VisitsProgress ctx types store room)
    (hf : (ctx.schema.record name).fields[i]? = some f)
    (hplanned : Plan.compileField ctx.registry (ctx.schema.record name).typeName f.decl
      = .ok planned) (hempty : planned.rule.isEmpty = false) (htree : w.Tree ctx.schema types)
    (hmapped : ¬ f.decl.Unmapped → ∃ k l, f.typ = .scalar k ∧ w = .leaf l)
    (hstore : run.store = store) (hcache : run.cache.Comes ctx types) :
    (⟨.field name i f.decl, w⟩ : Part).Progress ctx types store room path
      ((apply ctx room planned.rule w ⟨(ctx.schema.record name).typeName, f.decl.name, f.typ,
        ctx.sitePath path (.field name i f.decl)⟩ run).andThen fun u run' =>
          visit ctx room u (ctx.sitePath path (.field name i f.decl)) run') := by
  cases hi : inspect ctx room run.store w ⟨(ctx.schema.record name).typeName, f.decl.name,
      f.typ, ctx.sitePath path (.field name i f.decl)⟩ with
  | error e =>
    rw [apply, hi]
    have hblocked : (Site.field name i f.decl).Blocked ctx store room
        (ctx.sitePath path (.field name i f.decl)) w e :=
      ⟨(ruled_iff hplanned).mpr hempty, f, hf, rfl, hstore ▸ hi⟩
    refine ⟨hstore, hcache, some [.field name i f.decl], .failed ⟨[], rfl, .here w⟩
      (.field rfl (by rwa [ctx.spellFrom_cons])) ?_,
      .same (not_passed_self [.field name i f.decl])⟩
    -- Only what is above a part comes before it.
    rintro _ u ⟨rest, rfl, _⟩ hpass
    exact absurd hpass (not_passed_self [.field name i f.decl] rest)
  | ok seen =>
    have hpass : (⟨.field name i f.decl, w⟩ : Part).Passable ctx store room path :=
      .of_inspect hf (hstore ▸ hi)
    by_cases hun : f.decl.Unmapped
    · have hmappers : planned.rule.mappers = [] := hun.mappers_eq hplanned
      rw [apply_unmapped hmappers, hi]
      exact progress_of_mappers hvisit hpass hf hplanned hmappers htree hstore hcache
    · obtain ⟨k, l, hk, rfl⟩ := hmapped hun
      obtain ⟨report, happly⟩ := apply_leaf planned.rule hi hk
      obtain ⟨l', hsettle⟩ := planned.rule.exists_settle_eq ctx.schema k l
      rw [← hk] at hsettle
      simp only [happly, Visit.andThen, hsettle, visit_leaf_of_inspect hi]
      have hroom : 0 < room :=
        hpass.within ((ruled_iff hplanned).mpr hempty) [] _ (.here _)
      exact ⟨hstore, hcache, none, .whole (hpass.unfailing (.leaf hroom)),
        .leaf ((settled_field hf hplanned l).trans hsettle)⟩

end

/-- **A task progresses**, with a rule or without one. -/
theorem Task.For.progress {t : Task} (h : Task.For ctx path p t)
    (hvisit : VisitsProgress ctx types store room) (htree : p.value.Tree ctx.schema types)
    (hmapped : ∀ name i f, p.site = .field name i f.decl →
      (ctx.schema.record name).fields[i]? = some f → ¬ f.decl.Unmapped →
      ∃ k l, f.typ = .scalar k ∧ p.value = .leaf l)
    (hstore : run.store = store) (hcache : run.cache.Comes ctx types) :
    p.Progress ctx types store room path (t.visit ctx room path run) := by
  cases h with
  | @plain site w hsite =>
    cases site with
    | field name i d => exact absurd rfl (hsite name i d)
    | _ => exact hvisit.part (.of_not_ruled id) htree (fun _ _ => rfl) hstore hcache
  | @field name i f w planned hf hplanned =>
    rw [visit_slot_task (i := i) hplanned]
    cases hempty : planned.rule.isEmpty with
    | true =>
      have hplain : ¬ f.decl.Ruled ctx.registry := by simp [ruled_iff hplanned, hempty]
      have hmappers : planned.rule.mappers = [] := mappers_of_isEmpty hempty
      exact progress_of_mappers hvisit (.of_not_ruled hplain) hf hplanned hmappers htree hstore
        hcache
    | false =>
      exact progress_of_rule hvisit hf hplanned hempty htree (hmapped name i f rfl hf) hstore hcache

/-! ## Tasks in turn -/

/-- Nothing changes in the parts after the one where a visit was stopped. -/
theorem forall₂_follows_after {ps : List Part} {ts : List Task}
    (hbefore : ∀ q ∈ ps, p.site.Before q.site) (hfor : List.Forall₂ (Task.For ctx path) ps ts)
    (rest : List Site) :
    List.Forall₂ (fun q w => Follows ctx [q.site] (some (p.site :: rest)) q.value w) ps
      (ts.map Task.value) := by
  rw [List.forall₂_map_right_iff]
  refine ((List.forall₂_and_left ps ts).mpr ⟨hbefore, hfor⟩).imp fun q t ⟨hq, hfor⟩ => ?_
  rw [hfor.value_eq]
  exact .same fun sites hpass => not_passed_of_before hq hpass

/-- What comes before some parts is passed when their visits end. -/
theorem Ends.passed {ps : List Part} {stop : Option (List Site)} {e : Option Error}
    (h : Ends ctx store room path (fun sites w => ∃ p ∈ ps, p.At ctx.schema sites w) stop e)
    {sites : List Site}
    (hbefore : ∀ q ∈ ps, ∀ rest, List.Lex Site.Before sites (q.site :: rest)) :
    Passed stop sites := by
  cases h with
  | whole => exact passed_none _
  | failed hat =>
    obtain ⟨q, hq, rest, rfl, _⟩ := hat
    exact passed_some.mpr (hbefore q hq rest)

/-- A walk of some parts that is stopped in the first one ends there. -/
theorem Ends.head {ps : List Part} {stop : Option (List Site)} {e : Error}
    (h : Ends ctx store room path (p.At ctx.schema) stop (some e))
    (hbefore : ∀ q ∈ ps, p.site.Before q.site) :
    ∃ rest, stop = some (p.site :: rest) ∧
      Ends ctx store room path (fun sites w => ∃ q ∈ p :: ps, q.At ctx.schema sites w) stop
        (some e) := by
  obtain ⟨rest, rfl⟩ : ∃ rest, stop = some (p.site :: rest) := by
    cases h with
    | failed hat =>
      obtain ⟨rest, rfl, _⟩ := hat
      exact ⟨rest, rfl⟩
  refine ⟨rest, rfl, h.widen (fun sites w hat => ⟨p, List.mem_cons_self, hat⟩) ?_⟩
  rintro sites w ⟨q, hq, hat⟩ hpass
  obtain rfl | hq := List.mem_cons.mp hq
  · exact .inl hat
  · obtain ⟨_, rfl, _⟩ := hat
    exact absurd hpass (not_passed_of_before (hbefore q hq))

/-- A walk of some parts that gets through the first one ends as it does in the others. -/
theorem Ends.tail {ps : List Part} {stop : Option (List Site)} {e : Option Error}
    (h : Ends ctx store room path (fun sites w => ∃ q ∈ ps, q.At ctx.schema sites w) stop e)
    (hall : Unfailing ctx store room path (p.At ctx.schema) none) :
    Ends ctx store room path (fun sites w => ∃ q ∈ p :: ps, q.At ctx.schema sites w) stop e := by
  refine h.widen (fun sites w ⟨q, hq, hat⟩ => ⟨q, List.mem_cons_of_mem p hq, hat⟩) ?_
  rintro sites w ⟨q, hq, hat⟩ _
  obtain rfl | hq := List.mem_cons.mp hq
  · exact .inr (hall sites w hat (passed_none sites))
  · exact .inl ⟨q, hq, hat⟩

theorem visitTasks_progress (run : Run) (hvisit : VisitsProgress ctx types store room)
    {ps : List Part} {ts : List Task} (hfor : List.Forall₂ (Task.For ctx path) ps ts)
    (hbefore : ps.Pairwise fun p q => p.site.Before q.site)
    (htree : ∀ p ∈ ps, p.value.Tree ctx.schema types)
    (hmapped : ∀ p ∈ ps, ∀ name i f, p.site = .field name i f.decl →
      (ctx.schema.record name).fields[i]? = some f → ¬ f.decl.Unmapped →
      ∃ k l, f.typ = .scalar k ∧ p.value = .leaf l)
    (hstore : run.store = store) (hcache : run.cache.Comes ctx types) :
    (visitTasks ctx room path ts run).Progress ctx types store
      (Ends ctx store (room + 1) path fun sites w => ∃ p ∈ ps, p.At ctx.schema sites w)
      (fun stop ws => List.Forall₂ (fun p w => Follows ctx [p.site] stop p.value w) ps ws) := by
  induction hfor generalizing run with
  | nil =>
    exact ⟨hstore, hcache, none, .whole fun _ _ ⟨_, hp, _⟩ => absurd hp List.not_mem_nil, .nil⟩
  | @cons p t ps ts hpt hrest ih =>
    rw [List.pairwise_cons] at hbefore
    rw [List.forall_mem_cons] at htree hmapped
    obtain ⟨hstore', hcache', stop, hends, hfollows⟩ :=
      hpt.progress (t := t) hvisit htree.1 hmapped.1 hstore hcache
    cases hstop : (t.visit ctx room path run).stop with
    | some e =>
      rw [hstop] at hends
      obtain ⟨rest, rfl, hends'⟩ := hends.head hbefore.1
      rw [visitTasks_cons_stop hstop]
      exact ⟨hstore', hcache', _, hends',
        .cons hfollows (forall₂_follows_after hbefore.1 hrest rest)⟩
    | none =>
      rw [hstop] at hends
      cases hends with | whole hall =>
      obtain ⟨hstore'', hcache'', stop', hends', hfollows'⟩ :=
        ih _ hbefore.2 htree.2 hmapped.2 hstore' hcache'
      have hahead (sites : List Site) : Passed stop' (p.site :: sites) :=
        hends'.passed fun q hq rest => .rel (hbefore.1 q hq)
      rw [visitTasks_cons hstop]
      exact ⟨hstore'', hcache'', stop', hends'.tail hall,
        .cons (hfollows.earlier hahead) hfollows'⟩

end

/-! ## Values -/

/-- A record that cannot be opened fails itself. -/
theorem fails_of_opening_error (hfam : ctx.schema.Family types) {v : Value}
    (hv : v.Tree ctx.schema types) {path : String} {run run' : Run} {e : Error}
    (hcache : run.cache.Comes ctx types) (h : v.opening ctx path run = (run', .error e))
    {store : Store} {room : Nat} : run'.store = run.store ∧ run'.cache.Comes ctx types ∧
      FailsAt ctx store room path [] v e := by
  cases v with
  | shared c => cases hv.entered
  | record name slots =>
    cases hv.within with | record hname =>
    have hknown : (ctx.lookup run.cache name).cache.Comes ctx types := hcache.lookup hname
    obtain ⟨e', hplan, hopen⟩ | ⟨plan, hplan, ⟨hlen, hopen⟩ | ⟨_, hopen⟩⟩ :=
      Value.opening_record ctx path name slots run
    · cases hopen.symm.trans h
      exact ⟨rfl, hknown, .plan (plan_of_lookup_error hplan)⟩
    · cases hopen.symm.trans h
      rw [result_lookup hfam hcache hname] at hplan
      exact ⟨rfl, hknown, .count hplan hlen⟩
    · cases hopen.symm.trans h
  | _ => cases h

/-- A value that is opened does not fail itself. -/
theorem not_fails_of_opening (hfam : ctx.schema.Family types) {v : Value}
    (hv : ∀ name slots, v = .record name slots → types name) {path : String} {run run' : Run}
    {tasks : List Task} (hcache : run.cache.Comes ctx types)
    (h : v.opening ctx path run = (run', .ok tasks)) {store : Store} {room : Nat} {e : Error} :
    ¬ FailsAt ctx store (room + 1) path [] v e := by
  have hopened (name : String) (slots : List Value) (he : v = .record name slots) :
      ∃ plan, ctx.plan name = .ok plan ∧
        (slots.take (ctx.schema.record name).exposed).length = plan.fields.length := by
    subst he
    obtain ⟨_, _, hopen⟩ | ⟨plan, hplan, ⟨_, hopen⟩ | ⟨hlen, _⟩⟩ :=
      Value.opening_record ctx path name slots run
    · cases hopen.symm.trans h
    · cases hopen.symm.trans h
    · rw [result_lookup hfam hcache (hv name slots rfl)] at hplan
      exact ⟨plan, hplan, hlen⟩
  intro hfails
  cases hfails with
  | tooDeep h => cases h
  | plan hplan =>
    obtain ⟨plan, hplan', _⟩ := hopened _ _ rfl
    cases hplan.symm.trans hplan'
  | count hplan hne =>
    obtain ⟨plan', hplan', hlen⟩ := hopened _ _ rfl
    obtain rfl := Except.ok.inj (hplan.symm.trans hplan')
    exact hne hlen
  | field hlast => cases hlast

/-- Nothing comes before the node where a walk begins. -/
theorem unfailing_nil {store : Store} {room : Nat} {path : String}
    {At : List Site → Value → Prop} : Unfailing ctx store room path At (some []) :=
  fun sites _ _ hpass => absurd hpass (not_passed_self [] sites)

/-- **Visits progress**, if mappers are on leaf fields only. -/
theorem visit_progress (ctx : Context) (hfam : ctx.schema.Family types)
    (hscalar : ∀ name, types name → ∀ f ∈ (ctx.schema.record name).fields, ¬ f.decl.Unmapped →
      ∃ k, f.typ = .scalar k) (store : Store) (room : Nat) :
    VisitsProgress ctx types store room := by
  induction room with
  | zero =>
    exact fun v path run _ hstore hcache =>
      ⟨hstore, hcache, some [], .failed (.here v) (.tooDeep rfl nofun) unfailing_nil,
        .same (not_passed_self [])⟩
  | succ room ih =>
    intro v path run htree hstore hcache
    cases hopen : v.opening ctx path run with | mk run' opened
    cases opened with
    | error e =>
      obtain ⟨hstore', hcache', hfails⟩ := fails_of_opening_error hfam htree hcache hopen
      rw [visit_of_opening_error hopen]
      exact ⟨hstore'.trans hstore, hcache', some [], .failed (.here v) hfails unfailing_nil,
        .same (not_passed_self [])⟩
    | ok tasks =>
      obtain ⟨rfl, _, _⟩ := of_opening hopen
      have hparts : v.parts ctx.schema run.store = v.parts ctx.schema .empty :=
        Value.parts_of_entered htree.entered run.store .empty
      have htypes (name : String) (slots : List Value) (he : v = .record name slots) :
          types name := by cases he ▸ htree.within with | record hname => exact hname
      have hfor := forall₂_for hfam htypes hcache hopen
      rw [hparts] at hfor
      have hknown : (v.found ctx run.cache).Comes ctx types :=
        v.found_known (fun name slots he => hcache.lookup (htypes name slots he)) hcache
      have hheld : v.heldIn run.store = store := (v.heldIn_of_entered htree.entered _).trans hstore
      obtain ⟨hstore', hcache', stop, hends, hfollows⟩ :=
        visitTasks_progress ⟨v.heldIn run.store, v.found ctx run.cache, run.report⟩ ih hfor
          (pairwise_parts fun entries he => htree.sorted entries (he ▸ .refl v))
          (fun p hp => htree.part hp) (fun p hp name i f hsite hf hun =>
            htree.exists_leaf_of_mapped hscalar hp hsite hf hun) hheld hknown
      rw [visit_of_opening hopen, v.leave_of_entered htree.entered]
      refine ⟨hstore', hcache', stop, hends.widen ?_ ?_,
        .refill htree.entered (hends.passed fun _ _ _ => .nil) hfollows⟩
      · rintro _ w ⟨p, hp, rest, rfl, hrest⟩
        exact .inner_down htree.entered hp hrest
      · intro sites w hroute _
        obtain ⟨rfl, rfl⟩ | ⟨p, hp, rest, _, hsites, hrest⟩ := hroute.inner_cases
        · exact .inr fun e => not_fails_of_opening hfam htypes hcache hopen
        · exact .inl ⟨p, hp, rest, hsites, hrest⟩

/-! ## Runs -/

/-- An error that tells of no issues does not come from a report. -/
theorem Report.result_ne_error {report : Report} {err : Error} (h : err.issues? = none) :
    report.result ≠ .error err := by
  rw [result]
  split
  · intro hok
    cases hok
  · intro he
    rw [← Except.error.inj he] at h
    cases h

/-- **A run that ends with an error was stopped**, and what it left follows from what was there. -/
theorem exists_stop (ctx : Context) (hfam : ctx.schema.Family types)
    (hscalar : ∀ name, types name → ∀ f ∈ (ctx.schema.record name).fields, ¬ f.decl.Unmapped →
      ∃ k, f.typ = .scalar k) {e : Engine} (hctx : e.context ctx.schema = ctx)
    (hcache : e.cache.Comes ctx types) {v : Value} (hv : v.Tree ctx.schema types)
    (hne : ∀ l, v ≠ .leaf l) (rootType : Typ) (store : Store) {err : Error}
    (herr : (e.validate ctx.schema rootType v store).result = .error err)
    (hissues : err.issues? = none) :
    ∃ stop w, Route ctx.schema .empty v stop [] w ∧ FailsAt ctx store ctx.room "" stop w err ∧
      Unfailing ctx store ctx.room "" (fun sites w => Route ctx.schema .empty v sites [] w)
        (some stop) ∧
      Follows ctx [] (some stop) v (e.validate ctx.schema rootType v store).value ∧
      (e.validate ctx.schema rootType v store).store = store := by
  obtain ⟨hvalue, hstore⟩ := e.left_validate ctx.schema rootType store hne
  have hprogress := visit_progress ctx hfam hscalar store ctx.room v ""
    ⟨store, e.cache, .empty⟩ hv rfl hcache
  have hroot : e.visitRoot ctx.schema v store
      = visit ctx ctx.room v "" ⟨store, e.cache, .empty⟩ := by
    rw [Engine.visitRoot, hctx]
  rw [← hroot] at hprogress
  obtain ⟨hstore', _, stop, hends, hfollows⟩ := hprogress
  cases hstop : (e.visitRoot ctx.schema v store).stop with
  | none =>
    exact absurd ((e.result_of_none ctx.schema rootType store hne hstop).symm.trans herr)
      (Report.result_ne_error hissues)
  | some err' =>
    obtain rfl : err' = err :=
      Except.error.inj ((e.result_of_stop ctx.schema rootType store hne hstop).symm.trans herr)
    rw [hstop] at hends
    cases hends with
    | @failed last w _ hat hfails hfirst =>
      exact ⟨last, w, hat, hfails, hfirst, hvalue ▸ hfollows, hstore.trans hstore'⟩

/-- **A run that is stopped splits its value in two.**  Take record types with identities of their
own and with mappers on leaf fields only, an engine after any calls about them, and a value of them
without cells.  If a run ends with an error, and not with rejections of a complete run, it was
stopped at the first node of the value, in document order, where the walk fails, and with the error
of that node: at an annotated field that cannot be inspected, at a record that cannot be opened, or
at a node that is too deep and has no annotated field above it.  The leaves before that node are
settled, each as the rule of its own field says; the node itself with all that is below it, and all
that comes after it, is as it was, and so are the cells. -/
theorem abort_splits (registry : Registry) (settings : Settings) (schema : Schema)
    (types : String → Prop) (hfam : schema.Family types)
    (hscalar : ∀ name, types name → ∀ f ∈ (schema.record name).fields, ¬ f.decl.Unmapped →
      ∃ k, f.typ = .scalar k)
    (calls : List Call) (hcalls : ∀ call ∈ calls, call.Over types) (rootType : Typ) (v : Value)
    (hv : v.Tree schema types) (store : Store) (err : Error)
    (herr : (((Engine.new registry settings).after schema calls).validate schema rootType v
      store).result = .error err) (hissues : err.issues? = none) :
    let ctx := (Engine.new registry settings).context schema
    let r := ((Engine.new registry settings).after schema calls).validate schema rootType v store
    ∃ stop w, Route schema store v stop [] w ∧
      (FailsAt ctx store ctx.room "" stop w err ∨
        stop = [] ∧ (∃ l, w = .leaf l) ∧ err = .misuse (rootType.typeName schema) .leafRoot) ∧
      (∀ sites u, Route schema store v sites [] u → List.Lex Site.Before sites stop →
        ∀ e, ¬ FailsAt ctx store ctx.room "" sites u e) ∧
      Route schema r.store r.value stop [] w ∧
      (∀ sites l, Route schema store v sites [] (.leaf l) → List.Lex Site.Before sites stop →
        Route schema r.store r.value sites [] (ctx.settled sites l)) ∧
      (∀ sites u, Route schema store v sites [] u → ¬ List.Lex Site.Before sites stop →
        Route schema r.store r.value sites [] u) ∧
      r.store = store := by
  intro ctx r
  obtain ⟨hctx, hcache⟩ := comes_after_over registry settings hfam hcalls
  by_cases hleaf : ∃ l, v = .leaf l
  · obtain ⟨l, rfl⟩ := hleaf
    exact ⟨[], .leaf l, .here _, .inr ⟨rfl, ⟨l, rfl⟩, (Except.error.inj herr).symm⟩,
      fun _ _ _ hlex => (List.not_lex_nil hlex).elim, .here _,
      fun _ _ _ hlex => (List.not_lex_nil hlex).elim, fun _ _ hu _ => hu, rfl⟩
  · obtain ⟨last, w, hroute, hfails, hfirst, hfollows, hstore⟩ := exists_stop ctx hfam hscalar hctx
      hcache hv (not_exists.mp hleaf) rootType store herr hissues
    have hahead (sites : List Site) (u : Value) (hu : Route schema store v sites [] u)
        (hlex : ¬ List.Lex Site.Before sites last) : Route schema r.store r.value sites [] u :=
      (hfollows.ahead sites u hu.inner fun hpass => hlex (passed_some.mp hpass)).inner
    have hself : ¬ List.Lex Site.Before last last := by
      simpa [passed_some] using not_passed_self last []
    refine ⟨last, w, hroute.inner, .inl hfails, fun sites u hu hlex => ?_,
      hahead last w hroute.inner hself, fun sites l hl hlex => ?_, hahead, hstore⟩
    · exact hfirst sites u hu.inner (passed_some.mpr hlex)
    · exact (hfollows.settled sites l hl.inner (passed_some.mpr hlex)).inner

/-! ### An item with a count that has no form -/

/-- An item has two loud texts, and between them a count that is checked. -/
def itemSchema : Schema :=
  ⟨[("Item", ⟨"Item", "Item", "Item",
    [⟨⟨"name", some "shout,", none⟩, "name", .scalar .text⟩,
      ⟨⟨"count", some "any", none⟩, "count", .scalar (.int .i128)⟩,
      ⟨⟨"note", some "shout,", none⟩, "note", .scalar .text⟩], 3⟩)]⟩

/-- The count is beyond 64 bits. -/
def item : Value :=
  .record "Item" [.leaf (.text "a"), .leaf (.int 100000000000000000000), .leaf (.text "b")]

def itemRegistry : Registry := ⟨voiceRegistry.mappers, ringRegistry.validators⟩

theorem mem_fields_item {f : RecordField} (hf : f ∈ (itemSchema.record "Item").fields) :
    ∃ k, f.typ = .scalar k := by
  obtain rfl | rfl | rfl : f = ⟨⟨"name", some "shout,", none⟩, "name", .scalar .text⟩ ∨
      f = ⟨⟨"count", some "any", none⟩, "count", .scalar (.int .i128)⟩ ∨
      f = ⟨⟨"note", some "shout,", none⟩, "note", .scalar .text⟩ := by
    simpa [itemSchema, Schema.record] using hf
  · exact ⟨_, rfl⟩
  · exact ⟨_, rfl⟩
  · exact ⟨_, rfl⟩

theorem family_item : itemSchema.Family (· = "Item") := by
  refine ⟨fun m n hm hn _ => hm.trans hn.symm, fun name hname f hf => ?_⟩
  obtain rfl := hname
  obtain ⟨k, hk⟩ := mem_fields_item hf
  rw [hk]
  trivial

/-- The slots of the item are leaves. -/
theorem mem_slots_item {slots : List Value} (h : item = .record "Item" slots) {u : Value}
    (hu : u ∈ slots) : ∃ l, u = .leaf l := by
  cases h
  obtain rfl | rfl | rfl : u = .leaf (.text "a") ∨ u = .leaf (.int 100000000000000000000) ∨
      u = .leaf (.text "b") := by simpa using hu
  · exact ⟨_, rfl⟩
  · exact ⟨_, rfl⟩
  · exact ⟨_, rfl⟩

theorem below_item {w : Value} (h : Below itemSchema .empty item w) :
    w = item ∨ ∃ l, w = .leaf l := by
  refine h.of_closed (P := fun w => w = item ∨ ∃ l, w = .leaf l) ?_ (.inl rfl)
  rintro _ (rfl | ⟨l, rfl⟩) p hp
  · have hmem : p.value ∈ (item.parts itemSchema .empty).map Part.value := List.mem_map_of_mem hp
    rw [item, Value.values_parts_record] at hmem
    obtain ⟨q, hq, heq⟩ := List.mem_map.mp hmem
    exact .inr (mem_slots_item rfl (heq ▸ List.mem_of_mem_take (List.of_mem_zip hq).2))
  · cases hp

theorem tree_item : item.Tree itemSchema (· = "Item") := by
  refine ⟨.record rfl fun u hu => ?_, fun name slots hb i f u k _ hu _ => ?_, fun entries hb => ?_⟩
  · obtain ⟨l, rfl⟩ := mem_slots_item rfl hu
    exact .leaf l
  · obtain h | ⟨_, h⟩ := below_item hb
    · cases h
      exact mem_slots_item rfl (List.mem_of_getElem? hu)
    · cases h
  · obtain h | ⟨_, h⟩ := below_item hb <;> cases h

/-- The run is stopped at the count: the text before it is mapped, and the one after it is not. -/
theorem abort_splits_item :
    let ctx := (Engine.new itemRegistry .initial).context itemSchema
    let r := (Engine.new itemRegistry .initial).validate itemSchema (.record "Item") item .empty
    let err := Error.rule "Item.count" (.unreadable "count" "i128" "number out of range")
    r.result = .error err ∧
      r.value = .record "Item"
        [.leaf (.text "A"), .leaf (.int 100000000000000000000), .leaf (.text "b")] ∧
      ∃ stop w, Route itemSchema .empty item stop [] w ∧
        FailsAt ctx .empty ctx.room "" stop w err := by
  intro ctx r err
  obtain ⟨stop, w, hroute, hfails | ⟨_, _, herr⟩, _⟩ := abort_splits itemRegistry .initial
    itemSchema (· = "Item") family_item (fun name hname f hf _ => mem_fields_item (hname ▸ hf)) []
    nofun (.record "Item") item tree_item .empty err rfl rfl
  · exact ⟨rfl, rfl, stop, w, hroute, hfails⟩
  · change Error.rule _ _ = Error.misuse _ _ at herr
    cases herr

end FieldRules
