import FieldRules.Proofs.Chains
import FieldRules.Proofs.Plans

/-!
# Proofs/Alignment — a plan beside its declarations

A plan has one field for each declaration, at its index: with the names of the declaration, and with
the rule of its annotation (`FieldDecl.PlannedAs`).  It is compiled if every annotation is, and
otherwise the first that is not is reported (`Plan.compile_eq_error_iff`).  So a visit runs on each
slot of a record the rule of its own declaration.  Together: `plan_aligned`.
-/

namespace FieldRules

/-! ## Rules that do nothing -/

namespace Rule

variable {registry : Registry} {text : String} {rule : Rule}

/-- The rule runs as the empty one does: on a value alone, and on a field of a record. -/
structure Idle (rule : Rule) : Prop where
  act : ∀ v hint, rule.act v hint = Rule.empty.act v hint
  task : ∀ ctx owner path name displayName typ v,
    Slot.task ctx owner path ⟨⟨name, displayName, rule⟩, typ, v⟩ =
      Slot.task ctx owner path ⟨⟨name, displayName, .empty⟩, typ, v⟩

theorem isEmpty_iff : rule.isEmpty = true ↔ rule.mappers = [] ∧ rule.validators = [] := by
  rw [isEmpty, Bool.and_eq_true, List.isEmpty_iff, List.isEmpty_iff]

/-- **A rule that neither maps nor checks is idle.** -/
theorem idle_of_isEmpty (h : rule.isEmpty = true) : rule.Idle := by
  obtain ⟨tag, mappers, validators⟩ := rule
  obtain ⟨rfl, rfl⟩ := isEmpty_iff.mp h
  exact ⟨fun _ _ => rfl, fun _ _ _ _ _ _ _ => rfl⟩

/-- **The rule of an annotation does nothing iff that names no generator.** -/
theorem isEmpty_compile_iff (h : compile registry text = .ok rule) :
    rule.isEmpty = true ↔ ∃ tag, Tag.parse text = .ok tag ∧ tag.isEmpty = true := by
  obtain ⟨_, tag, hparse, hmappers, hvalidators⟩ := compile_eq_ok_iff.mp h
  have hempty : rule.isEmpty = true ↔ tag.isEmpty = true := by
    rw [Tag.isEmpty, isEmpty, Bool.and_eq_true, Bool.and_eq_true]
    simp only [List.isEmpty_iff_length_eq_zero, hmappers.length_eq, hvalidators.length_eq]
  simp [hparse, hempty]

/-- An annotation that names no generator is compiled, whatever is registered. -/
theorem exists_compile_of_isEmpty {tag : Tag} (hparse : Tag.parse text = .ok tag)
    (h : tag.isEmpty = true) : ∃ rule, compile registry text = .ok rule ∧ rule.isEmpty = true := by
  obtain ⟨mappers, validators⟩ := tag
  rw [Tag.isEmpty, Bool.and_eq_true, List.isEmpty_iff, List.isEmpty_iff] at h
  obtain ⟨rfl, rfl⟩ := h
  exact ⟨⟨some text, [], []⟩, compile_eq_ok_iff.mpr ⟨rfl, _, hparse, .nil, .nil⟩, rfl⟩

end Rule

/-! ## One declaration -/

namespace FieldDecl

variable {registry : Registry} {owner : String} {d : FieldDecl} {f : PlannedField}

/-- The annotation, if there is one, is compiled. -/
def Compiles (registry : Registry) (d : FieldDecl) : Prop :=
  ∀ text, d.tag = some text → ∃ rule, Rule.compile registry text = .ok rule

/-- The annotation, if there is one, names no generator. -/
def NamesNothing (d : FieldDecl) : Prop :=
  ∀ text, d.tag = some text → ∃ tag, Tag.parse text = .ok tag ∧ tag.isEmpty = true

/-- The field is that of the declaration: it has its names, and the rule of its annotation or, where
there is none, the empty rule. -/
structure PlannedAs (registry : Registry) (d : FieldDecl) (f : PlannedField) : Prop where
  name : f.name = d.name
  displayName : f.displayName = d.displayName
  bare : d.tag = none → f.rule = .empty
  tagged : ∀ text, d.tag = some text → Rule.compile registry text = .ok f.rule

theorem compileField_eq_ok_iff :
    Plan.compileField registry owner d = .ok f ↔ d.PlannedAs registry f := by
  constructor
  · intro h
    obtain ⟨hname, hdisplay, ⟨hbare, hrule⟩ | ⟨text, htag, hrule⟩⟩ := of_compileField h
    · exact ⟨hname, hdisplay, fun _ => hrule, fun _ htag => (nomatch hbare.symm.trans htag)⟩
    · refine ⟨hname, hdisplay, fun hbare => (nomatch htag.symm.trans hbare), fun _ htag' => ?_⟩
      obtain rfl := Option.some.inj (htag.symm.trans htag')
      exact hrule
  · intro h
    obtain ⟨name, displayName, rule⟩ := f
    obtain rfl := h.name
    obtain rfl := h.displayName
    rcases htag : d.tag with _ | text
    · obtain rfl := h.bare htag
      rw [Plan.compileField, htag]
    · rw [Plan.compileField, htag]
      dsimp only
      rw [h.tagged text htag]

theorem exists_compileField_iff :
    (∃ f, Plan.compileField registry owner d = .ok f) ↔ d.Compiles registry := by
  rw [Plan.compileField, Compiles]
  rcases d.tag with _ | text
  · simp
  · rcases hrule : Rule.compile registry text with e | rule <;> simp [hrule]

/-- A field does nothing iff its annotation names no generator. -/
theorem PlannedAs.isEmpty_iff (h : d.PlannedAs registry f) :
    f.rule.isEmpty = true ↔ d.NamesNothing := by
  rw [NamesNothing]
  rcases htag : d.tag with _ | text
  · rw [h.bare htag]
    simp [Rule.isEmpty, Rule.empty]
  · rw [Rule.isEmpty_compile_iff (h.tagged text htag)]
    simp

end FieldDecl

/-! ## All declarations -/

namespace Plan

variable {registry : Registry} {owner : String} {ds : List FieldDecl} {plan : Plan} {e : Error}

/-- **A plan is compiled field by field.** -/
theorem compile_eq_ok_iff : compile registry owner ds = .ok plan ↔
    plan.typeName = owner ∧ List.Forall₂ (FieldDecl.PlannedAs registry) ds plan.fields := by
  rw [compile, bind_eq_ok, compileFields_eq_mapM]
  simp only [mapM_eq_ok_iff, FieldDecl.compileField_eq_ok_iff]
  constructor
  · rintro ⟨fs, hfs, h⟩
    obtain rfl := Except.ok.inj h
    exact ⟨rfl, hfs⟩
  · rintro ⟨rfl, hfs⟩
    exact ⟨plan.fields, hfs, rfl⟩

theorem exists_compile_iff :
    (∃ plan, compile registry owner ds = .ok plan) ↔ ∀ d ∈ ds, d.Compiles registry := by
  simp only [← @FieldDecl.exists_compileField_iff registry owner, ← exists_forall₂_iff,
    FieldDecl.compileField_eq_ok_iff, compile_eq_ok_iff]
  exact ⟨fun ⟨plan, _, hfs⟩ => ⟨plan.fields, hfs⟩, fun ⟨fs, hfs⟩ => ⟨⟨owner, fs⟩, rfl, hfs⟩⟩

/-- **The first annotation that is not compiled is reported.** -/
theorem compile_eq_error_iff : compile registry owner ds = .error e ↔
    ∃ before d after text r, ds = before ++ d :: after ∧ (∀ b ∈ before, b.Compiles registry) ∧
      d.tag = some text ∧ Rule.compile registry text = .error r ∧
        e = .rule (owner ++ "." ++ d.name) r := by
  have hfields : compile registry owner ds = .error e ↔
      ds.mapM (compileField registry owner) = .error e := by
    rw [compile, bind_eq_error, compileFields_eq_mapM]
    exact ⟨fun h => h.resolve_right fun ⟨_, _, h⟩ => (nomatch h), .inl⟩
  rw [hfields, mapM_eq_error_iff]
  simp only [FieldDecl.exists_compileField_iff, compileField_eq_error_iff, exists_and_left]

/-- A plan does nothing iff no annotation names a generator. -/
theorem isPassthrough_iff (h : List.Forall₂ (FieldDecl.PlannedAs registry) ds plan.fields) :
    plan.isPassthrough = true ↔ ∀ d ∈ ds, d.NamesNothing := by
  rw [isPassthrough, List.all_eq_true]
  constructor
  · intro hall d hd
    obtain ⟨f, hf, hplanned⟩ := exists_match_of_mem h hd
    exact hplanned.isEmpty_iff.mp (hall f hf)
  · intro hall f hf
    obtain ⟨d, hd, hplanned⟩ := exists_of_mem_forall₂ h f hf
    exact hplanned.isEmpty_iff.mpr (hall d hd)

end Plan

/-! ## Slots beside declarations -/

/-- There is one slot for each field, in their order: with its value, its type, and what its own
declaration was planned as. -/
structure Slots (registry : Registry) (fields : List RecordField) (values : List Value)
    (slots : List Slot) : Prop where
  length : slots.length = fields.length
  slot : ∀ (i : Nat) f, fields[i]? = some f → ∃ planned v, values[i]? = some v ∧
    slots[i]? = some ⟨planned, f.typ, v⟩ ∧ f.decl.PlannedAs registry planned

/-- **Three lists of one length are paired index by index.** -/
theorem slots_slotsOf {registry : Registry} {fields : List RecordField} {values : List Value}
    {planned : List PlannedField}
    (hplan : List.Forall₂ (FieldDecl.PlannedAs registry) (fields.map RecordField.decl) planned)
    (hlen : values.length = planned.length) :
    Slots registry fields values (slotsOf planned fields values) := by
  have hfields : fields.length = planned.length := by simpa using hplan.length_eq
  rw [slotsOf_eq_zipWith]
  refine ⟨by simp [hfields, hlen], fun i f hf => ?_⟩
  obtain ⟨hi, rfl⟩ := List.getElem?_eq_some_iff.mp hf
  have hp : planned[i]? = some _ := List.getElem?_eq_getElem (hfields ▸ hi)
  have hv : values[i]? = some _ := List.getElem?_eq_getElem (hlen ▸ hfields ▸ hi)
  refine ⟨_, _, hv, ?_, (forall₂_iff_getElem?.mp hplan).2 i _ _ ?_ hp⟩
  · rw [List.getElem?_zipWith_eq_some]
    exact ⟨_, (_, _), hp, List.getElem?_zip_eq_some.mpr ⟨hf, hv⟩, rfl⟩
  · rw [List.getElem?_map, hf, Option.map_some]

/-- **A record with a plan is visited slot by slot.** -/
theorem visit_record_of_plan {ctx : Context} {name : String} {slots : List Value} {plan : Plan}
    {run : Run} (hplan : (ctx.lookup run.cache name).result = .ok plan)
    (hlen : (slots.take (ctx.schema.record name).exposed).length = plan.fields.length)
    (room : Nat) (path : String) :
    visit ctx (room + 1) (.record name slots) path run =
      (visitTasks ctx room path
        ((slotsOf plan.fields (ctx.schema.record name).fields
          (slots.take (ctx.schema.record name).exposed)).map
            (Slot.task ctx (ctx.schema.record name).typeName path))
        { run with cache := (ctx.lookup run.cache name).cache }).map
          fun ws => .record name (ws ++ slots.drop ws.length) := by
  obtain ⟨_, herror, _⟩ | ⟨found, hfound, ⟨hne, _⟩ | ⟨_, hopen⟩⟩ :=
    Value.opening_record ctx path name slots run
  · cases hplan.symm.trans herror
  · obtain rfl := Except.ok.inj (hplan.symm.trans hfound)
    exact absurd hlen hne
  · obtain rfl := Except.ok.inj (hplan.symm.trans hfound)
    rw [visit_of_opening hopen]
    rfl

/-- **Plans lie beside their declarations.**  A plan is compiled iff every annotation is; it has one
field for each declaration, at the same index, with its names and the rule of its annotation or the
empty rule, and it does nothing iff no annotation names a generator.  Otherwise the error is that of
the first annotation that is not compiled, at its type and field.  The rule of an annotation that
names no generator runs as the empty one.  In a visit of a record with as many slots as its plan has
fields, each slot gets the rule of its own declaration. -/
theorem plan_aligned :
    (∀ registry owner ds,
      ((∃ plan, Plan.compile registry owner ds = .ok plan) ↔ ∀ d ∈ ds, d.Compiles registry) ∧
      (∀ plan, Plan.compile registry owner ds = .ok plan ↔ plan.typeName = owner ∧
        ds.length = plan.fields.length ∧ ∀ (i : Nat) d f, ds[i]? = some d →
          plan.fields[i]? = some f → d.PlannedAs registry f) ∧
      (∀ plan, Plan.compile registry owner ds = .ok plan →
        (plan.isPassthrough = true ↔ ∀ d ∈ ds, d.NamesNothing)) ∧
      ∀ e, Plan.compile registry owner ds = .error e ↔
        ∃ before d after text r, ds = before ++ d :: after ∧
          (∀ b ∈ before, b.Compiles registry) ∧ d.tag = some text ∧
          Rule.compile registry text = .error r ∧ e = .rule (owner ++ "." ++ d.name) r) ∧
    (∀ registry text tag, Tag.parse text = .ok tag → tag.isEmpty = true →
      ∃ rule, Rule.compile registry text = .ok rule ∧ rule.Idle) ∧
    ∀ (ctx : Context) name slots plan (run : Run) room path, ctx.plan name = .ok plan →
      (ctx.lookup run.cache name).result = .ok plan →
      (slots.take (ctx.schema.record name).exposed).length = plan.fields.length →
      ∃ paired, Slots ctx.registry (ctx.schema.record name).fields
          (slots.take (ctx.schema.record name).exposed) paired ∧
        visit ctx (room + 1) (.record name slots) path run =
          (visitTasks ctx room path
            (paired.map (Slot.task ctx (ctx.schema.record name).typeName path))
            { run with cache := (ctx.lookup run.cache name).cache }).map
              fun ws => .record name (ws ++ slots.drop ws.length) := by
  refine ⟨fun registry owner ds => ⟨Plan.exists_compile_iff, fun plan => ?_, fun plan h => ?_,
    fun _ => Plan.compile_eq_error_iff⟩, fun registry text tag hparse hempty => ?_,
    fun ctx name slots plan run room path hplan hlook hlen => ?_⟩
  · rw [Plan.compile_eq_ok_iff, forall₂_iff_getElem?]
  · exact Plan.isPassthrough_iff (Plan.compile_eq_ok_iff.mp h).2
  · obtain ⟨rule, hrule, hidle⟩ := Rule.exists_compile_of_isEmpty hparse hempty
    exact ⟨rule, hrule, Rule.idle_of_isEmpty hidle⟩
  · obtain ⟨_, hfields⟩ := Plan.compile_eq_ok_iff.mp hplan
    exact ⟨_, slots_slotsOf hfields hlen, visit_record_of_plan hlook hlen room path⟩

/-- Fields without annotation, with a blank one, and with one that names generators. -/
def accountFields : List RecordField :=
  [⟨⟨"memo", none, none⟩, "memo", .scalar .text⟩,
    ⟨⟨"note", some " ; ", some "remark"⟩, "remark", .scalar .text⟩,
    ⟨⟨"name", some "upper,not_empty", none⟩, "name", .scalar .text⟩]

def accountContext : Context :=
  ⟨⟨[("Account", ⟨"Account", "Account", "Account", accountFields, 3⟩)]⟩, .builtin, .initial⟩

/-- Of two annotations that are not compiled the first is reported; and an account is visited field
by field. -/
theorem plan_aligned_account :
    (∃ plan, Plan.compile .builtin "Plain" [⟨"memo", none, none⟩, ⟨"note", some " ; ", none⟩] =
      .ok plan ∧ plan.isPassthrough = true) ∧
    Plan.compile .builtin "Coupon"
      [⟨"memo", none, none⟩, ⟨"code", some "min_len", none⟩, ⟨"rank", some "first,", none⟩] =
        .error (.rule "Coupon.code" (.arity .validator "min_len" (.exactly 1) 0)) ∧
    (∃ rule, Rule.compile .builtin " ; " = .ok rule ∧ rule.Idle) ∧
    ∃ paired, Slots .builtin accountFields
        [.leaf (.text "m"), .leaf (.text "n"), .leaf (.text "ada")] paired ∧
      visit accountContext 2
        (.record "Account" [.leaf (.text "m"), .leaf (.text "n"), .leaf (.text "ada")]) ""
          ⟨.empty, .empty, .empty⟩ =
        (visitTasks accountContext 1 "" (paired.map (Slot.task accountContext "Account" ""))
          ⟨.empty, (accountContext.lookup .empty "Account").cache, .empty⟩).map
            fun ws => .record "Account" (ws ++ [Value.leaf (.text "m"), .leaf (.text "n"),
              .leaf (.text "ada")].drop ws.length) := by
  obtain ⟨hplans, hidle, hvisit⟩ := plan_aligned
  refine ⟨?_, ((hplans .builtin "Coupon" _).2.2.2 _).mpr ?_, hidle .builtin " ; " ⟨[], []⟩ rfl rfl,
    ?_⟩
  · obtain ⟨plan, hplan⟩ : ∃ plan, Plan.compile .builtin "Plain"
        [⟨"memo", none, none⟩, ⟨"note", some " ; ", none⟩] = .ok plan := ⟨_, rfl⟩
    refine ⟨plan, hplan, ((hplans .builtin "Plain" _).2.2.1 plan hplan).mpr ?_⟩
    rintro d hd text htext
    obtain rfl | rfl := List.mem_pair.mp hd
    · cases htext
    · obtain rfl := Option.some.inj htext
      exact ⟨⟨[], []⟩, rfl, rfl⟩
  · refine ⟨[⟨"memo", none, none⟩], ⟨"code", some "min_len", none⟩,
      [⟨"rank", some "first,", none⟩], "min_len", _, rfl, fun b hb text htext => ?_, rfl, rfl, rfl⟩
    obtain rfl := List.mem_singleton.mp hb
    cases htext
  · obtain ⟨plan, hplan⟩ : ∃ plan, accountContext.plan "Account" = .ok plan := ⟨_, rfl⟩
    have hlook : (accountContext.lookup .empty "Account").result = .ok plan := hplan
    have hcount : 3 = plan.fields.length := (((hplans _ _ _).2.1 plan).mp hplan).2.1
    exact hvisit accountContext "Account" [.leaf (.text "m"), .leaf (.text "n"),
      .leaf (.text "ada")] plan ⟨.empty, .empty, .empty⟩ 1 "" hplan hlook hcount

end FieldRules
