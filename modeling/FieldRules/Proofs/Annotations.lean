import FieldRules.Proofs.Cycle

/-!
# Proofs/Annotations — where a run ends does not depend on what is annotated

A guard does not read annotations (`guard_bare`).  Under rules without mappers a run ends where a
guard of its root fails, so annotations that only check do not change whether, where or how a run
ends (`walks_agree`).
-/

namespace FieldRules

/-! ## Without annotations -/

def FieldDecl.untagged (d : FieldDecl) : FieldDecl := { d with tag := none }

def RecordField.untagged (f : RecordField) : RecordField := { f with decl := f.decl.untagged }

def RecordType.untagged (r : RecordType) : RecordType :=
  { r with fields := r.fields.map RecordField.untagged }

/-- The same record types without annotations. -/
def Schema.untagged (s : Schema) : Schema := ⟨s.records.map fun (n, r) => (n, r.untagged)⟩

/-- What a guard reads of a context: no annotations, and no generators. -/
def Context.bare (ctx : Context) : Context := ⟨ctx.schema.untagged, .empty, ctx.settings⟩

theorem Schema.lookup_untagged (s : Schema) (name : String) :
    s.untagged.records.lookup name = (s.records.lookup name).map RecordType.untagged := by
  rw [untagged]
  induction s.records with
  | nil => rfl
  | cons e l ih =>
    rw [List.map_cons, List.lookup_cons, List.lookup_cons, ih]
    split <;> rfl

theorem Schema.record_untagged (s : Schema) (name : String) :
    s.untagged.record name = (s.record name).untagged := by
  rw [record, record, lookup_untagged]
  cases s.records.lookup name <;> rfl

theorem Typ.typeName_untagged (s : Schema) (t : Typ) : t.typeName s.untagged = t.typeName s := by
  induction t with
  | scalar k => rfl
  | record name =>
    change (s.untagged.record name).typeName = _
    rw [Schema.record_untagged]
    rfl
  | option t ih => exact congrArg (fun n => "core::option::Option<" ++ n ++ ">") ih
  | box t ih => exact congrArg (fun n => "alloc::boxed::Box<" ++ n ++ ">") ih
  | shared t ih =>
    exact congrArg (fun n => "alloc::rc::Rc<core::cell::RefCell<" ++ n ++ ">>") ih
  | seq k t ih =>
    cases k with
    | vector => exact congrArg (fun n => "alloc::vec::Vec<" ++ n ++ ">") ih
    | deque => exact congrArg (fun n => "alloc::collections::vec_deque::VecDeque<" ++ n ++ ">") ih
    | array size => exact congrArg (fun n => "[" ++ n ++ "; " ++ toString size ++ "]") ih
  | map k key t ih =>
    cases k with
    | tree =>
      exact congrArg (fun n =>
        "alloc::collections::btree::map::BTreeMap<" ++ key.typeName ++ ", " ++ n ++ ">") ih
    | hash =>
      exact congrArg (fun n => "std::collections::hash::map::HashMap<" ++ key.typeName ++ ", " ++
        n ++ ">") ih

theorem Context.enter_bare (ctx : Context) (store : Store) (c : CellId) (path : String) :
    ctx.bare.enter store c path = ctx.enter store c path := by
  rw [enter, enter, cycle, cycle, bare, Typ.typeName_untagged]

/-- **A guard reads neither annotations nor generators.** -/
theorem guard_bare (ctx : Context) (room : Nat) (store : Store) (v : Value) (path : String) :
    guard ctx.bare room store v path = guard ctx room store v path := by
  induction room generalizing store v path with
  | zero => rfl
  | succ room ih =>
    cases v with
    | record name slots =>
      have hrecord : ctx.bare.schema.record name = (ctx.schema.record name).untagged :=
        ctx.schema.record_untagged name
      simp only [guard, ih, hrecord]
      rw [List.forM_eq_forM, RecordType.untagged, List.zip_map_left, List.forM_map]
      rfl
    | _ => simp only [guard, ih, Context.enter_bare]

/-! ## Guards and visits under the plans of the types -/

/-- A value whose records expose all fields and have a plan of their own that is kept, without
mappers, and whose leaves have a JSON form. -/
structure Prepared (ctx : Context) (cache : PlanCache) (store : Store) (v : Value) : Prop where
  exposes : ∀ name slots, Below ctx.schema store v (.record name slots) →
    ctx.schema.Exposes name slots
  planned : ∀ name slots, Below ctx.schema store v (.record name slots) →
    ∃ plan, ctx.plan name = .ok plan ∧
      cache.get? (ctx.schema.record name).identity = some plan
  unmapped : ∀ name slots, Below ctx.schema store v (.record name slots) →
    ∀ d ∈ ctx.schema.decls name, d.Unmapped
  leaf : ∀ l, Below ctx.schema store v (.leaf l) → ∃ form, l.snapshot = .ok form

namespace Prepared

variable {ctx : Context} {cache : PlanCache} {store : Store} {v : Value}

theorem readable (h : Prepared ctx cache store v) : Readable ctx.schema store v :=
  ⟨h.leaf, h.exposes⟩

/-- The plans of a prepared value are found, and stay as they are. -/
theorem quiet (h : Prepared ctx cache store v) : Quiet ctx (· = cache) True store v := by
  intro name slots hb
  obtain ⟨plan, hplan, hget⟩ := h.planned name slots hb
  have hlook : ctx.lookup cache name = ⟨.ok plan, false, cache⟩ := by
    rw [Context.lookup, PlanCache.getOrBuild, hget]
  have hserves : Serves ctx (· = cache) True name := by
    refine ⟨⟨?_, ?_⟩, ?_⟩
    · rintro _ rfl
      rw [hlook]
    · rintro _ plan' rfl hplan'
      rw [hlook] at hplan'
      obtain rfl := Except.ok.inj hplan'
      exact mappers_of_plan hplan (h.unmapped name slots hb)
    · rintro _ rfl
      exact ⟨plan, by rw [hlook], length_fields_plan hplan, fun _ => hplan⟩
  exact ⟨hserves, h.exposes name slots hb, fun p hp _ => (h.readable.below hb).part hp⟩

/-- **A visit of a prepared value is stopped by an error iff its guard is.** -/
theorem guard_eq_error_iff {room : Nat} {path : String} (run : Run)
    (h : Prepared ctx run.cache run.store v) (e : Error) :
    guard ctx room run.store v path = .error e ↔ (visit ctx room v path run).stop = some e :=
  h.quiet.guard_eq_error_iff run rfl e

/-- A run over a prepared value that is no leaf fails iff a guard of it fails. -/
theorem result_eq_error_iff {e : Engine} {schema : Schema}
    (h : Prepared (e.context schema) e.cache store v) (hv : ∀ l, v ≠ .leaf l) (rootType : Typ)
    (err : Error) :
    (e.validate schema rootType v store).result = .error err ↔
      guard (e.context schema) (e.context schema).room store v "" = .error err :=
  h.quiet.result_eq_error_iff rfl hv rootType err

end Prepared

/-- **Annotations that only check do not change where a walk ends.**  Of a prepared value, a visit
is stopped iff a guard fails, by the same error, which is a cycle or a level too many; and runs
over two schemas that differ in their annotations only fail with the same errors. -/
theorem walks_agree :
    (∀ (ctx : Context) (room : Nat) (v : Value) (path : String) (run : Run),
      Prepared ctx run.cache run.store v →
        (∀ err, guard ctx room run.store v path = .error err ↔
          (visit ctx room v path run).stop = some err) ∧
        ∀ err, guard ctx room run.store v path = .error err → err.EndsWalk) ∧
    ∀ (e e' : Engine) (schema schema' : Schema) (rootType : Typ) (v : Value) (store : Store),
      e.settings = e'.settings → schema.untagged = schema'.untagged →
      Prepared (e.context schema) e.cache store v →
      Prepared (e'.context schema') e'.cache store v →
        ∀ err, (e.validate schema rootType v store).result = .error err ↔
          (e'.validate schema' rootType v store).result = .error err := by
  refine ⟨fun ctx room v path run h =>
    ⟨Prepared.guard_eq_error_iff run h, fun err => endsWalk_of_guard⟩, ?_⟩
  intro e e' schema schema' rootType v store hsettings hschema h h' err
  by_cases hv : ∃ l, v = .leaf l
  · obtain ⟨l, rfl⟩ := hv
    have htype : rootType.typeName schema = rootType.typeName schema' := by
      rw [← Typ.typeName_untagged schema, hschema, Typ.typeName_untagged schema']
    simp only [Engine.validate, htype]
  · have hv : ∀ l, v ≠ .leaf l := not_exists.mp hv
    have hguard : ∀ room path, guard (e.context schema) room store v path
        = guard (e'.context schema') room store v path := by
      intro room path
      have hbare : (e.context schema).bare = (e'.context schema').bare := by
        rw [Context.bare, Context.bare, Engine.context, Engine.context, hschema, hsettings]
      rw [← guard_bare (e.context schema), ← guard_bare (e'.context schema'), hbare]
    have hroom : (e.context schema).room = (e'.context schema').room := by
      rw [Context.room, Context.room, Engine.context, Engine.context, hsettings]
    rw [h.result_eq_error_iff hv, h'.result_eq_error_iff hv, hroom, hguard]

/-- An engine that has met the record type. -/
def ringEngine (tag : Option String) : Engine :=
  ((Engine.new ringRegistry .initial).precompile (ringSchema tag) "Node").2

theorem prepared_ringNode {tag : Option String} (htag : tag = none ∨ tag = some "any") :
    Prepared ((ringEngine tag).context (ringSchema tag)) (ringEngine tag).cache ringStore
      ringNode := by
  refine ⟨fun name slots hb => ?_, fun name slots hb => ?_, fun name slots hb => ?_,
    fun l hb => absurd hb not_leaf_ringNode⟩
  · obtain ⟨rfl, rfl⟩ := record_ringNode hb
    rfl
  · obtain ⟨rfl, rfl⟩ := record_ringNode hb
    obtain rfl | rfl := htag
    · exact ⟨_, rfl, rfl⟩
    · exact ⟨_, rfl, rfl⟩
  · obtain ⟨rfl, rfl⟩ := record_ringNode hb
    exact unmapped_ringNode htag

/-- The node is a cycle at the annotated field, and is one without the annotation. -/
theorem walks_agree_ringNode :
    (visit ((ringEngine (some "any")).context (ringSchema (some "any"))) 129 ringNode ""
        ⟨ringStore, (ringEngine (some "any")).cache, .empty⟩).stop
        = some (.cycle "next.next" "Node") ∧
      ∀ err, ((ringEngine (some "any")).validate (ringSchema (some "any")) (.record "Node") ringNode
          ringStore).result = .error err ↔
        ((ringEngine none).validate (ringSchema none) (.record "Node") ringNode
          ringStore).result = .error err :=
  ⟨((walks_agree.1 _ 129 ringNode "" ⟨ringStore, (ringEngine (some "any")).cache, .empty⟩
      (prepared_ringNode (.inr rfl))).1 _).mp rfl,
    walks_agree.2 _ _ _ _ _ ringNode ringStore rfl rfl (prepared_ringNode (.inr rfl))
      (prepared_ringNode (.inl rfl))⟩

end FieldRules
