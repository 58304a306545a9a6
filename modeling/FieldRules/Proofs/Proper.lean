import FieldRules.Proofs.Settling

/-!
# Proofs/Proper — rules that settle leaves, and the values they run on

A rule is **settling** if its mappers change a form once at most, and leaves that take a mapped form
show it.  In a **proper** value, records are of certain types and leaf fields hold leaves.  Where
mappers are on leaf fields only and are settling, proper values are steady (`Proper.steady`), and
what a rule does to a part is to settle it (`Part.Proper.acts`).
-/

namespace FieldRules

variable {ctx : Context} {types : String → Prop}

/-! ## Rules that settle leaves -/

/-- A rule whose mappers change a form once at most, for a leaf type that shows what it was
given. -/
structure Rule.Settling (rule : Rule) (k : Scalar) : Prop where
  idempotent : ∀ form w, rule.map form = some w → (rule.map w).getD w = w
  faithful : ∀ form w l, rule.map form = some w → Leaf.read k w = .ok l → l.snapshot = .ok w

/-- A rule without mappers changes nothing. -/
theorem Rule.Settling.of_mappers {rule : Rule} (h : rule.mappers = []) (k : Scalar) :
    rule.Settling k := by
  have hmap (form w : Json) : rule.map form ≠ some w := by
    rw [Rule.map, h]
    intro hw
    cases hw
  exact ⟨fun form w hw => absurd hw (hmap form w), fun form w _ hw => absurd hw (hmap form w)⟩

/-- Mappers are on leaf fields only, and settle them. -/
def Context.SettlesLeaves (ctx : Context) (types : String → Prop) : Prop :=
  ∀ name, types name → ∀ f ∈ (ctx.schema.record name).fields, ¬ f.decl.Unmapped →
    ∃ k, f.typ = .scalar k ∧ ∀ planned,
      Plan.compileField ctx.registry (ctx.schema.record name).typeName f.decl = .ok planned →
        planned.rule.Settling k

/-- **What a rule makes of a leaf in a leaf field**: the leaf stays if nothing is attempted or the
field refuses it. -/
theorem Rule.settle_scalar (rule : Rule) (schema : Schema) (k : Scalar) {l : Leaf} {form : Json}
    (hform : l.snapshot = .ok form) :
    rule.settle schema (.scalar k) l =
      match (rule.map form).filter fun w => !w.same form with
      | none => .leaf l
      | some w =>
        match Leaf.read k w with
        | .ok l' => .leaf l'
        | .error _ => .leaf l := by
  rw [settle, hform]
  simp only [read_scalar]
  cases (rule.map form).filter fun w => !w.same form with
  | none => rfl
  | some w => cases hread : Leaf.read k w <;> simp only [hread, Except.map]

/-- What is mapped again to something is mapped to itself. -/
theorem Rule.Settling.eq_of_map {rule : Rule} {k : Scalar} (h : rule.Settling k) {form w w' : Json}
    (hw : rule.map form = some w) (hw' : rule.map w = some w') : w' = w := by
  have hsame := h.idempotent form w hw
  rwa [hw', Option.getD_some] at hsame

/-- A leaf that is settled stays, and has a form if it had one before. -/
theorem Rule.Settling.steady {rule : Rule} {k : Scalar} (h : rule.Settling k) (schema : Schema)
    (l : Leaf) : ∃ l', rule.settle schema (.scalar k) l = .leaf l' ∧
      rule.settle schema (.scalar k) l' = .leaf l' ∧
      ∀ form, l.snapshot = .ok form → ∃ form', l'.snapshot = .ok form' := by
  have hstays (hl : rule.settle schema (.scalar k) l = .leaf l) :
      ∃ l', rule.settle schema (.scalar k) l = .leaf l' ∧
        rule.settle schema (.scalar k) l' = .leaf l' ∧
        ∀ form, l.snapshot = .ok form → ∃ form', l'.snapshot = .ok form' :=
    ⟨l, hl, hl, fun form hform => ⟨form, hform⟩⟩
  cases hform : l.snapshot with
  | error e =>
    rw [← hform]
    exact hstays (by rw [settle, hform])
  | ok form =>
    rw [← hform]
    have hsettle := rule.settle_scalar schema k hform
    cases hw : (rule.map form).filter fun w => !w.same form with
    | none =>
      simp only [hw] at hsettle
      exact hstays hsettle
    | some w =>
      simp only [hw] at hsettle
      cases hread : Leaf.read k w with
      | error e =>
        simp only [hread] at hsettle
        exact hstays hsettle
      | ok l' =>
        simp only [hread] at hsettle
        have hmap : rule.map form = some w := (Option.filter_eq_some_iff.mp hw).1
        have hshown : l'.snapshot = .ok w := h.faithful form w l' hmap hread
        refine ⟨l', hsettle, ?_, fun _ _ => ⟨w, hshown⟩⟩
        rw [rule.settle_scalar schema k hshown]
        cases hw' : (rule.map w).filter fun w' => !w'.same w with
        | none => rfl
        | some w' =>
          obtain rfl := h.eq_of_map hmap (Option.filter_eq_some_iff.mp hw').1
          simp only [hread]

/-- **The leaf fields of a record settle.** -/
theorem Context.SettlesLeaves.steadyAt (hset : ctx.SettlesLeaves types) {name : String}
    (hname : types name) {i : Nat} {f : RecordField}
    (hf : (ctx.schema.record name).fields[i]? = some f) : ctx.SteadyAt (.field name i f.decl) := by
  cases hplanned : Plan.compileField ctx.registry (ctx.schema.record name).typeName f.decl with
  | error e =>
    refine ctx.steadyAt_of_settled fun l => ?_
    simp only [Context.settled, List.getLast?_singleton, hf, hplanned]
  | ok planned =>
    by_cases hun : f.decl.Unmapped
    · refine ctx.steadyAt_of_settled fun l => ?_
      rw [settled_field hf hplanned, planned.rule.settle_of_mappers (hun.mappers_eq hplanned)]
    · obtain ⟨k, hk, hrule⟩ := hset name hname f (List.mem_of_getElem? hf) hun
      intro l
      rw [settled_field hf hplanned, hk]
      obtain ⟨l', hl', hagain, hshown⟩ := (hrule planned hplanned).steady ctx.schema l
      refine ⟨l', hl', ?_, hshown⟩
      rw [settled_field hf hplanned, hk, hagain]

/-! ## Values of certain types -/

/-- A value whose records are of certain types, and whose leaf fields hold leaves. -/
structure Value.Proper (schema : Schema) (types : String → Prop) (store : Store) (v : Value) :
    Prop where
  records : ∀ name slots, Below schema store v (.record name slots) → types name
  leaves : ∀ u, Below schema store v u → ∀ p ∈ u.parts schema store, ∀ name i f k,
    p.site = .field name i f.decl → (schema.record name).fields[i]? = some f →
    f.typ = .scalar k → ∃ l, p.value = .leaf l

namespace Value.Proper

variable {schema : Schema} {v w : Value} {s s' : Store}

/-- A record that is proper is of one of the types. -/
theorem type_of_record (h : v.Proper schema types s) {name : String} {slots : List Value}
    (hv : v = .record name slots) : types name :=
  h.records name slots (hv ▸ .refl v)

theorem part (h : v.Proper schema types s) {p : Part} (hp : p ∈ v.parts schema s) :
    p.value.Proper schema types s :=
  ⟨fun name slots hb => h.records name slots (.part hp hb), fun u hb => h.leaves u (.part hp hb)⟩

theorem of_cells (hcells : s'.cells = s.cells) (h : v.Proper schema types s) :
    v.Proper schema types s' := by
  refine ⟨fun name slots hb => h.records name slots (hb.of_cells hcells), fun u hb p hp => ?_⟩
  rw [Value.parts_of_cells hcells] at hp
  exact h.leaves u (hb.of_cells hcells) p hp

theorem of_leaf (l : Leaf) : (Value.leaf l).Proper schema types s := by
  refine ⟨fun name slots hb => ?_, fun u hb p hp => ?_⟩
  · cases hb.eq_of_leaf
  · obtain rfl := hb.eq_of_leaf
    cases hp

/-- A value stays proper when leaves are settled. -/
theorem becomes {site : Site} (hs : s.Becomes ctx s') (h : v.Proper ctx.schema types s)
    (hw : v.Becomes ctx site w) : w.Proper ctx.schema types s' := by
  refine ⟨fun name slots' ⟨sites, cells, hroute'⟩ => ?_,
    fun u' ⟨sites, cells, hroute'⟩ q hq name i f k hsite hf hk => ?_⟩
  · obtain ⟨last, u, hroute, hu⟩ := hw.exists_route hs hroute'
    obtain ⟨slots, rfl, _⟩ := hu.exists_record
    exact h.records name slots ⟨sites, cells, hroute⟩
  · obtain ⟨last, u, hroute, hu⟩ := hw.exists_route hs hroute'
    obtain ⟨p, hp, hsame, hpq⟩ := exists_of_mem_forall₂ (hu.parts hs) q hq
    obtain ⟨l, hl⟩ := h.leaves u ⟨sites, cells, hroute⟩ p hp name i f k (hsame ▸ hsite) hf hk
    rw [hl] at hpq
    exact hpq.of_leaf

/-- The parts of a proper value are at steady sites. -/
theorem steadyAt_part (hset : ctx.SettlesLeaves types) (h : v.Proper ctx.schema types s) {p : Part}
    (hp : p ∈ v.parts ctx.schema s) : ctx.SteadyAt p.site := by
  cases hsite : p.site with
  | field name i d =>
    obtain ⟨slots, rfl⟩ := Value.owner_of_mem_parts hp hsite
    have hd := decl_of_mem_parts hp hsite
    rw [Schema.decls, List.getElem?_map, Option.map_eq_some_iff] at hd
    obtain ⟨f, hf, rfl⟩ := hd
    exact hset.steadyAt (h.type_of_record rfl) hf
  | _ => exact ctx.steadyAt_of_settled fun _ => rfl

/-- **A proper value at a steady site is steady**: all sites in it are. -/
theorem steady (hset : ctx.SettlesLeaves types) {site : Site} (h : v.Proper ctx.schema types s)
    (hsite : ctx.SteadyAt site) : v.Steady ctx site := by
  intro sites cells l hroute
  generalize Value.leaf l = u at hroute
  induction hroute generalizing site with
  | here v =>
    intro last hlast
    obtain rfl := Option.some.inj hlast
    exact hsite
  | @down v u p sites cells hp hroute ih =>
    intro last hlast
    rw [List.getLast?_cons_cons] at hlast
    obtain ⟨l, rfl⟩ | ⟨c, rfl⟩ | ⟨_, hv⟩ := v.shape_cases
    · cases hp
    · -- There are no cells in the value alone, so that this one holds nothing.
      obtain rfl := List.mem_singleton.mp hp
      exact ih (.of_leaf .unit) (ctx.steadyAt_of_settled fun _ => rfl) last hlast
    · rw [Value.parts_of_entered hv .empty s] at hp
      exact ih (h.part hp) (h.steadyAt_part hset hp) last hlast

/-- A proper value becomes its settled form. -/
theorem becomes_settle (hset : ctx.SettlesLeaves types) (h : v.Proper ctx.schema types s) :
    v.Becomes ctx .inner (v.settle ctx .inner) :=
  .settled (h.steady hset (ctx.steadyAt_of_settled fun _ => rfl))

/-- The content of a proper cell is proper. -/
theorem content {c : CellId} (h : (Value.shared c).Proper schema types s) :
    (s.cell c).content.Proper schema types s := h.part (List.mem_singleton_self _)

end Value.Proper

/-! ## Parts and their rules -/

/-- A part of a proper value. -/
structure Part.Proper (ctx : Context) (types : String → Prop) (store : Store) (p : Part) :
    Prop where
  value : p.value.Proper ctx.schema types store
  site : ctx.SteadyAt p.site
  owner : ∀ name i d, p.site = .field name i d → types name
  leaf : ∀ name i f k, p.site = .field name i f.decl →
    (ctx.schema.record name).fields[i]? = some f → f.typ = .scalar k → ∃ l, p.value = .leaf l

theorem Value.Proper.parts (hset : ctx.SettlesLeaves types) {v : Value} {s : Store}
    (h : v.Proper ctx.schema types s) {p : Part} (hp : p ∈ v.parts ctx.schema s) :
    p.Proper ctx types s := by
  refine ⟨h.part hp, h.steadyAt_part hset hp, fun name i d hsite => ?_, h.leaves v (.refl v) p hp⟩
  obtain ⟨slots, rfl⟩ := Value.owner_of_mem_parts hp hsite
  exact h.type_of_record rfl

/-- The value of a part after its own rule was run. -/
def Part.acted (ctx : Context) (p : Part) : Value :=
  match p.value with
  | .leaf l => ctx.settled [p.site] l
  | v => v

theorem Part.acted_leaf {p : Part} {l : Leaf} (h : p.value = .leaf l) :
    p.acted ctx = ctx.settled [p.site] l := by rw [acted, h]

theorem Part.acted_of_ne {p : Part} (h : ∀ l, p.value ≠ .leaf l) : p.acted ctx = p.value := by
  rw [acted]
  split
  · next l hl => exact absurd hl (h l)
  · rfl

/-- A part at a site where leaves stay is the same after its rule. -/
theorem Part.acted_of_settled {p : Part} (h : ∀ l, ctx.settled [p.site] l = .leaf l) :
    p.acted ctx = p.value := by
  by_cases hleaf : ∃ l, p.value = .leaf l
  · obtain ⟨l, hl⟩ := hleaf
    rw [acted_leaf hl, h, hl]
  · exact acted_of_ne (not_exists.mp hleaf)

namespace Part.Proper

variable {p : Part} {s s' : Store}

theorem becomes (h : p.Proper ctx types s) (hs : s.Becomes ctx s') : p.Proper ctx types s' := by
  have hsame : p.value.Becomes ctx .inner p.value := .same _
  exact ⟨h.value.becomes hs hsame, h.site, h.owner, h.leaf⟩

theorem of_cells (hcells : s'.cells = s.cells) (h : p.Proper ctx types s) :
    p.Proper ctx types s' := ⟨h.value.of_cells hcells, h.site, h.owner, h.leaf⟩

theorem becomes_settle (hset : ctx.SettlesLeaves types) (h : p.Proper ctx types s) :
    p.value.Becomes ctx p.site (p.value.settle ctx p.site) :=
  .settled (h.value.steady hset h.site)

theorem becomes_acted (hset : ctx.SettlesLeaves types) (h : p.Proper ctx types s) :
    p.value.Becomes ctx p.site (p.acted ctx) := by
  by_cases hleaf : ∃ l, p.value = .leaf l
  · obtain ⟨l, hl⟩ := hleaf
    have hsettle : p.value.settle ctx p.site = p.acted ctx := by
      rw [acted_leaf hl, hl, Value.settle_leaf]
    exact hsettle ▸ h.becomes_settle hset
  · rw [acted_of_ne (not_exists.mp hleaf)]
    exact .same _

/-- What the rule of a part makes of it is proper. -/
theorem acted (hset : ctx.SettlesLeaves types) (h : p.Proper ctx types s) :
    (p.acted ctx).Proper ctx.schema types s :=
  h.value.becomes (.refl s) (h.becomes_acted hset)

/-- A part is settled by its own rule and by those below it. -/
theorem settle_acted (h : p.Proper ctx types s) :
    (p.acted ctx).settle ctx .inner = p.value.settle ctx p.site := by
  by_cases hleaf : ∃ l, p.value = .leaf l
  · obtain ⟨l, hl⟩ := hleaf
    obtain ⟨l', hl', _⟩ := h.site l
    rw [acted_leaf hl, hl, Value.settle_leaf, hl', Value.settle_leaf]
    rfl
  · rw [acted_of_ne (not_exists.mp hleaf)]
    exact Value.settle_site (not_exists.mp hleaf) _ _

end Part.Proper

/-- A part without a rule stays as it is. -/
theorem Task.For.acted_eq {path : String} {p : Part} {t : Task} (h : Task.For ctx path p t)
    (hrule : t.rule? = none) : p.acted ctx = p.value := by
  refine Part.acted_of_settled fun l => ?_
  cases h with
  | @plain site w hsite =>
    cases site with
    | field name i d => exact absurd rfl (hsite name i d)
    | _ => rfl
  | @field name i f w planned hf hplanned =>
    have hempty : planned.rule.isEmpty = true := by
      by_contra hne
      simp [Slot.task, hne] at hrule
    rw [settled_field hf hplanned, Rule.settle_of_mappers (mappers_of_isEmpty hempty)]

/-- A part with a rule is a field, and the rule is that of its declaration. -/
theorem Task.For.exists_planned {path : String} {p : Part} {t : Task} (h : Task.For ctx path p t)
    {rule : Rule} {place : Place} (hrule : t.rule? = some (rule, place)) :
    ∃ name i f planned, p.site = .field name i f.decl ∧
      (ctx.schema.record name).fields[i]? = some f ∧
      Plan.compileField ctx.registry (ctx.schema.record name).typeName f.decl = .ok planned ∧
      planned.rule = rule ∧ place.typ = f.typ := by
  cases h with
  | plain => cases hrule
  | @field name i f w planned hf hplanned =>
    simp only [Slot.task] at hrule
    split at hrule
    · cases hrule
    · obtain ⟨rfl, rfl⟩ := Prod.mk.inj (Option.some.inj hrule)
      exact ⟨name, i, f, planned, rfl, hf, hplanned, rfl, rfl⟩

/-- The rule of a task settles leaves in a leaf field, and has no mappers in others. -/
theorem Task.For.settling (hset : ctx.SettlesLeaves types) {path : String} {p : Part} {t : Task}
    (h : Task.For ctx path p t) (howner : ∀ name i d, p.site = .field name i d → types name)
    {rule : Rule} {place : Place} (hrule : t.rule? = some (rule, place)) :
    (∀ k, place.typ = .scalar k → rule.Settling k) ∧
      ((∀ k, place.typ ≠ .scalar k) → rule.mappers = []) := by
  obtain ⟨name, i, f, planned, hsite, hf, hplanned, rfl, htyp⟩ := h.exists_planned hrule
  by_cases hun : f.decl.Unmapped
  · have hmappers : planned.rule.mappers = [] := hun.mappers_eq hplanned
    exact ⟨fun k _ => .of_mappers hmappers k, fun _ => hmappers⟩
  · obtain ⟨k, hk, hsettling⟩ :=
      hset name (howner name i _ hsite) f (List.mem_of_getElem? hf) hun
    refine ⟨fun k' hk' => ?_, fun hnone => absurd (htyp.trans hk) (hnone k)⟩
    obtain rfl := Typ.scalar.inj (hk'.symm.trans (htyp.trans hk))
    exact hsettling planned hplanned

/-- A part in a leaf field is a leaf. -/
theorem Part.Proper.exists_leaf {path : String} {p : Part} {t : Task} {s : Store}
    (h : p.Proper ctx types s) (hfor : Task.For ctx path p t) {rule : Rule} {place : Place}
    (hrule : t.rule? = some (rule, place)) {k : Scalar} (hk : place.typ = .scalar k) :
    ∃ l, p.value = .leaf l := by
  obtain ⟨name, i, f, _, hsite, hf, _, _, htyp⟩ := hfor.exists_planned hrule
  exact h.leaf name i f k hsite hf (htyp.symm.trans hk)

theorem FieldVisit.attempt?_of_mappers {f : FieldVisit} (h : f.rule.mappers = []) :
    f.attempt? = none := by
  simp only [attempt?, Rule.map, h, Rule.mapFrom, Option.filter_none]

theorem FieldVisit.rejection?_of_mappers {f : FieldVisit} (h : f.rule.mappers = []) :
    f.rejection? ctx = none := by
  rw [rejection?, attempt?_of_mappers h, Option.bind_none]

/-- What a rule does to a leaf in a leaf field is to settle it. -/
theorem FieldVisit.Acts.after_leaf {f : FieldVisit} {room : Nat} {s s' : Store}
    (h : f.Acts ctx room s s') {k : Scalar} (hk : f.place.typ = .scalar k) {l : Leaf}
    (hl : f.before = .leaf l) :
    s' = s ∧ f.after = f.rule.settle ctx.schema (.scalar k) l := by
  have hform : l.snapshot = .ok f.current := (inspect_leaf (hl ▸ h.inspected)).2
  have hsettle := f.rule.settle_scalar ctx.schema k hform
  cases h with
  | kept hi hw ha hr =>
    rw [attempt?] at hw
    simp only [hw] at hsettle
    exact ⟨rfl, by rw [ha, hl, hsettle]⟩
  | @stored _ w hi hw hread hr =>
    rw [hk, read_scalar, map_eq_ok] at hread
    obtain ⟨l', hl', heq⟩ := hread
    obtain ⟨hafter, rfl⟩ := Prod.mk.inj heq
    rw [attempt?] at hw
    simp only [hw, hl'] at hsettle
    exact ⟨rfl, by rw [← hafter, hsettle]⟩
  | @refused w e hi hw hread ha hr =>
    rw [hk, read_scalar, map_eq_error] at hread
    rw [attempt?] at hw
    simp only [hw, hread] at hsettle
    exact ⟨rfl, by rw [ha, hl, hsettle]⟩

/-- **A rule settles its part and leaves the cells.** -/
theorem Part.Proper.acts (hset : ctx.SettlesLeaves types) {path : String} {p : Part} {t : Task}
    {room : Nat} {s s' : Store} {f : FieldVisit} (hp : p.Proper ctx types s)
    (hfor : Task.For ctx path p t) (hrule : t.rule? = some (f.rule, f.place))
    (hbefore : f.before = p.value) (hacts : f.Acts ctx room s s') :
    s' = s ∧ f.after = p.acted ctx := by
  obtain ⟨name, i, field, planned, hsite, hf, hplanned, hr, htyp⟩ := hfor.exists_planned hrule
  by_cases hun : field.decl.Unmapped
  · have hmappers : planned.rule.mappers = [] := hun.mappers_eq hplanned
    have hacted : p.acted ctx = p.value := Part.acted_of_settled fun l => by
      rw [hsite, settled_field hf hplanned, Rule.settle_of_mappers hmappers]
    have hnone : f.attempt? = none := FieldVisit.attempt?_of_mappers (hr ▸ hmappers)
    cases hacts with
    | kept hi hw ha hr => exact ⟨rfl, by rw [ha, hbefore, hacted]⟩
    | stored hi hw => cases hnone.symm.trans hw
    | refused hi hw => cases hnone.symm.trans hw
  · obtain ⟨k, hk, _⟩ :=
      hset name (hp.owner name i _ hsite) field (List.mem_of_getElem? hf) hun
    obtain ⟨l, hl⟩ := hp.leaf name i field k hsite hf hk
    obtain ⟨hsame, hafter⟩ := hacts.after_leaf (htyp.trans hk) (hbefore.trans hl)
    refine ⟨hsame, ?_⟩
    rw [hafter, Part.acted_leaf hl, hsite, settled_field hf hplanned, hr, hk]

end FieldRules
