import FieldRules.Proofs.Moments
import FieldRules.Proofs.Reading

/-!
# Proofs/Pairing — how two runs may differ

Two runs over one schema may differ in their settings, in where paths start and how they are
spelled, in the plans that are kept, and in the numbers of the cells and who holds them.  A
**pairing** says how, and that steps down from paired paths lead to paired paths.  Then both runs
see the same when they inspect a field, and tell of it at paired paths (`inspect_paired`).
-/

namespace FieldRules

/-! ## Values with certain records and keys -/

/-- All records of a value are of certain types, and all keys of its maps are certain keys; slots
that are not exposed count as well. -/
inductive Value.Spelled (records keys : String → Prop) : Value → Prop
  | leaf (l : Leaf) : Spelled records keys (.leaf l)
  | absent : Spelled records keys .absent
  | present {v : Value} (h : Spelled records keys v) : Spelled records keys (.present v)
  | boxed {v : Value} (h : Spelled records keys v) : Spelled records keys (.boxed v)
  | shared (c : CellId) : Spelled records keys (.shared c)
  | sequence {items : List Value} (h : ∀ v ∈ items, Spelled records keys v) :
      Spelled records keys (.sequence items)
  | map {entries : List (String × Value)} (hkeys : ∀ e ∈ entries, keys e.1)
      (h : ∀ e ∈ entries, Spelled records keys e.2) : Spelled records keys (.map entries)
  | record {name : String} {slots : List Value} (hname : records name)
      (h : ∀ v ∈ slots, Spelled records keys v) : Spelled records keys (.record name slots)

namespace Value.Spelled

variable {records keys : String → Prop} {schema : Schema} {s : Store} {v : Value}

/-- The parts of a value are spelled as it is, if the cells in it are. -/
theorem part (h : v.Spelled records keys)
    (hs : ∀ c, v = .shared c → (s.cell c).content.Spelled records keys) {p : Part}
    (hp : p ∈ v.parts schema s) : p.value.Spelled records keys := by
  have hmem : p.value ∈ (v.parts schema s).map Part.value := List.mem_map_of_mem hp
  cases h with
  | leaf l => cases hp
  | absent => cases hp
  | present h =>
    obtain rfl := List.mem_singleton.mp hp
    exact h
  | boxed h =>
    obtain rfl := List.mem_singleton.mp hp
    exact h
  | shared c =>
    obtain rfl := List.mem_singleton.mp hp
    exact hs c rfl
  | sequence h =>
    rw [values_parts_sequence] at hmem
    exact h _ hmem
  | map _ h =>
    rw [values_parts_map] at hmem
    obtain ⟨e, he, heq⟩ := List.mem_map.mp hmem
    exact heq ▸ h e he
  | record _ h =>
    rw [values_parts_record] at hmem
    obtain ⟨q, hq, heq⟩ := List.mem_map.mp hmem
    exact heq ▸ h _ (List.mem_of_mem_take (List.of_mem_zip hq).2)

theorem refill {ws : List Value} (h : v.Spelled records keys)
    (hws : ∀ w ∈ ws, w.Spelled records keys) : (v.refill ws).Spelled records keys := by
  cases h with
  | leaf l => exact .leaf l
  | absent => exact .absent
  | present h =>
    cases ws with
    | nil => exact .present h
    | cons w ws => exact .present (hws w List.mem_cons_self)
  | boxed h =>
    cases ws with
    | nil => exact .boxed h
    | cons w ws => exact .boxed (hws w List.mem_cons_self)
  | shared c => exact .shared c
  | sequence h => exact .sequence hws
  | @map entries hkeys h =>
    have hentry : ∀ e ∈ entries.zipWith (fun e w => (e.1, w)) ws,
        keys e.1 ∧ e.2.Spelled records keys := by
      intro e he
      rw [← List.map_uncurry_zip_eq_zipWith] at he
      obtain ⟨q, hq, rfl⟩ := List.mem_map.mp he
      exact ⟨hkeys q.1 (List.of_mem_zip hq).1, hws q.2 (List.of_mem_zip hq).2⟩
    exact .map (fun e he => (hentry e he).1) fun e he => (hentry e he).2
  | record hname h =>
    refine .record hname fun w hw => ?_
    rcases List.mem_append.mp hw with hw | hw
    · exact hws w hw
    · exact h w (List.mem_of_mem_drop hw)

end Value.Spelled

/-- Every value has some records and some keys. -/
theorem Value.spelled_all (v : Value) : v.Spelled (fun _ => True) fun _ => True := by
  have h := v.within_all
  induction h with
  | leaf l => exact .leaf l
  | absent => exact .absent
  | present _ ih => exact .present ih
  | boxed _ ih => exact .boxed ih
  | shared _ => exact .shared _
  | sequence _ ih => exact .sequence ih
  | map _ ih => exact .map (fun _ _ => trivial) ih
  | record _ _ ih => exact .record trivial ih

/-! ## Reports and errors at paired paths -/

/-- Issues with the same message and value, at paired paths. -/
inductive Issue.Paired (paths : String → String → Prop) : Issue → Issue → Prop
  | mk {p q : String} (message : String) (h : paths p q) (value : Json) :
      Issue.Paired paths ⟨message, p, value⟩ ⟨message, q, value⟩

/-- Rejections of the same value for the same reason, at paired paths. -/
inductive RuleError.Paired (paths : String → String → Prop) : RuleError → RuleError → Prop
  | unstorable {p q : String} (h : paths p q) (typeName value reason : String) :
      RuleError.Paired paths (.unstorable p typeName value reason)
        (.unstorable q typeName value reason)

/-- Errors of a stop that differ in their paths, and in the limit if that is another one.  The place
of a value without a JSON form is its field, by the names of the type and the field, or its path if
it was met in a look for zeros.  An annotation that does not compile and a misuse tell no path. -/
inductive Error.Paired (ctx other : Context) (paths : String → String → Prop) :
    Error → Error → Prop
  | plan {name : String} {e : Error} (h : ctx.plan name = .error e) :
      Error.Paired ctx other paths e e
  | misuse (typeName : String) (m : Misuse) :
      Error.Paired ctx other paths (.misuse typeName m) (.misuse typeName m)
  | cycle {p q : String} (h : paths p q) (typeName : String) :
      Error.Paired ctx other paths (.cycle p typeName) (.cycle q typeName)
  | tooDeep {p q : String} (h : paths p q) :
      Error.Paired ctx other paths (ctx.tooDeep p) (other.tooDeep q)
  | unreadable {p q : String} (h : paths p q) (owner name typeName reason : String) :
      Error.Paired ctx other paths (.rule (owner ++ "." ++ name) (.unreadable p typeName reason))
        (.rule (owner ++ "." ++ name) (.unreadable q typeName reason))
  | unreadableBelow {p q : String} (h : paths p q) (typeName reason : String) :
      Error.Paired ctx other paths (.rule p (.unreadable p typeName reason))
        (.rule q (.unreadable q typeName reason))

section

variable {paths paths' : String → String → Prop} (hpaths : ∀ p q, paths p q → paths' p q)

include hpaths

theorem Issue.Paired.imp {i i' : Issue} (h : i.Paired paths i') : i.Paired paths' i' := by
  cases h with
  | mk message h value => exact .mk message (hpaths _ _ h) value

theorem RuleError.Paired.imp {e e' : RuleError} (h : e.Paired paths e') : e.Paired paths' e' := by
  cases h with
  | unstorable h typeName value reason => exact .unstorable (hpaths _ _ h) typeName value reason

theorem Error.Paired.imp {ctx other : Context} {e e' : Error} (h : e.Paired ctx other paths e') :
    e.Paired ctx other paths' e' := by
  cases h with
  | plan h => exact .plan h
  | misuse typeName m => exact .misuse typeName m
  | cycle h typeName => exact .cycle (hpaths _ _ h) typeName
  | tooDeep h => exact .tooDeep (hpaths _ _ h)
  | unreadable h owner name typeName reason =>
    exact .unreadable (hpaths _ _ h) owner name typeName reason
  | unreadableBelow h typeName reason => exact .unreadableBelow (hpaths _ _ h) typeName reason

end

/-! ## Turns from a path -/

/-- The path to which turns lead from another one. -/
def Context.spelled (ctx : Context) (path : String) (turns : List Turn) : String :=
  Path.spellFrom path (turns.flatMap (Turn.steps ctx.settings.displayNames))

theorem Context.spelled_cons (ctx : Context) (path : String) (turn : Turn) (turns : List Turn) :
    ctx.spelled path (turn :: turns) =
      ctx.spelled (Path.spellFrom path (turn.steps ctx.settings.displayNames)) turns :=
  Path.spellFrom_append path _ _

/-! ## Pairings -/

/-- How two runs may differ.  They have different settings, they start with different reports, and
they know the live cells by different numbers.  Paths of the first run are paired with paths of the
second, and so are the plans that are kept; steps down keep paths paired.  Paths that are told are
also walked by both. -/
structure Pairing where
  ctx : Context
  settings : Settings
  before : Report
  before' : Report
  types : String → Prop
  records : String → Prop
  keys : String → Prop
  live : CellId → Prop
  rename : CellId → CellId
  paths : String → String → Prop
  walked : String → String → Prop
  plans : PlanCache → PlanCache → Prop
  closed : ctx.schema.Closed types
  index : ∀ {p q : String} (i : Nat), paths p q → paths (Path.index p i) (Path.index q i)
  key : ∀ {p q k : String}, keys k → paths p q → paths (Path.join p k) (Path.join q k)
  decl : ∀ {p q name : String} {d : FieldDecl}, records name → d ∈ ctx.schema.decls name →
    paths p q → paths (Path.join p (d.segment ctx.settings.displayNames))
      (Path.join q (d.segment settings.displayNames))
  lookup : ∀ {c c' : PlanCache} {name : String}, types name → records name → plans c c' →
    (ctx.lookup c' name).result = (ctx.lookup c name).result ∧
      plans (ctx.lookup c name).cache (ctx.lookup c' name).cache
  slot : ∀ {c c' : PlanCache} {name p q : String} {plan : Plan} {f : PlannedField}, types name →
    records name → plans c c' → (ctx.lookup c name).result = .ok plan → f ∈ plan.fields →
    paths p q → paths (Path.join p (f.segment ctx.settings.displayNames))
      (Path.join q (f.segment settings.displayNames))

/-- All record types are closed. -/
theorem Context.closed_all (ctx : Context) : ctx.schema.Closed fun _ => True :=
  ctx.schema.closed_all

/-- Runs along the same paths, and with the same report at the start. -/
def Context.along (ctx : Context) (settings : Settings)
    (hnames : settings.displayNames = ctx.settings.displayNames) (report : Report)
    {types : String → Prop} (hclosed : ctx.schema.Closed types) (live : CellId → Prop)
    (f : CellId → CellId) (plans : PlanCache → PlanCache → Prop)
    (hplans : ∀ {c c' : PlanCache} {name : String}, types name → plans c c' →
      (ctx.lookup c' name).result = (ctx.lookup c name).result ∧
        plans (ctx.lookup c name).cache (ctx.lookup c' name).cache) : Pairing where
  ctx := ctx
  settings := settings
  before := report
  before' := report
  types := types
  records := fun _ => True
  keys := fun _ => True
  live := live
  rename := f
  paths := Eq
  walked := fun _ _ => True
  plans := plans
  closed := hclosed
  index := fun _ h => h ▸ rfl
  key := fun _ h => h ▸ rfl
  decl := fun _ _ h => by rw [h, hnames]
  lookup := fun hname _ h => hplans hname h
  slot := fun _ _ _ _ _ h => by rw [h, hnames]

namespace Pairing

/-- The context of the second run. -/
def other (P : Pairing) : Context := ⟨P.ctx.schema, P.ctx.registry, P.settings⟩

/-- A value that has only the types, the live cells, the records and the keys of a pairing. -/
structure Good (P : Pairing) (v : Value) : Prop where
  within : v.Within P.types P.live
  spelled : v.Spelled P.records P.keys

/-- What is in the live cells is good. -/
def Sound (P : Pairing) (s : Store) : Prop := ∀ c, P.live c → P.Good (s.cell c).content

/-- A good value of the first run, and the same value in the second one. -/
def Values (P : Pairing) (v v' : Value) : Prop := P.Good v ∧ v' = v.rename P.rename

/-- Good values of the first run, and the same values in the second one. -/
def AllValues (P : Pairing) (vs vs' : List Value) : Prop :=
  (∀ v ∈ vs, P.Good v) ∧ vs' = vs.map (Value.rename P.rename)

/-- The same field, at paired paths. -/
structure Places (P : Pairing) (p p' : Place) : Prop where
  within : p.typ.Within P.types
  owner : p'.owner = p.owner
  name : p'.name = p.name
  typ : p'.typ = p.typ
  path : P.paths p.path p'.path

/-! ### What is told -/

/-- Paths at which both runs tell the same. -/
def Told (P : Pairing) (p q : String) : Prop := P.paths p q ∧ P.walked p q

/-- The paths to which the same turns lead are walked. -/
def Leads (P : Pairing) (p q : String) (turns : List Turn) : Prop :=
  P.walked (P.ctx.spelled p turns) (P.other.spelled q turns)

/-- All paths that a guard comes to are walked. -/
def Guards (P : Pairing) (room : Nat) (s : Store) (v : Value) (p q : String) : Prop :=
  ∀ sites cells w, Route P.ctx.schema s v sites cells w → sites.length ≤ room →
    P.Leads p q (sites.map Site.turn)

/-- Errors that tell the same. -/
abbrev Errors (P : Pairing) : Error → Error → Prop := Error.Paired P.ctx P.other P.Told

/-- Two results that are both good and related, or both errors that are paired. -/
inductive Results (P : Pairing) {α : Type} (R : α → α → Prop) :
    Except Error α → Except Error α → Prop
  | ok {a b : α} (h : R a b) : Results P R (.ok a) (.ok b)
  | error {e e' : Error} (h : P.Errors e e') : Results P R (.error e) (.error e')

variable {P : Pairing}

theorem leads_cons_iff {p q : String} {turn : Turn} {turns : List Turn} :
    P.Leads p q (turn :: turns) ↔
      P.Leads (Path.spellFrom p (turn.steps P.ctx.settings.displayNames))
        (Path.spellFrom q (turn.steps P.settings.displayNames)) turns := by
  rw [Leads, Context.spelled_cons, Context.spelled_cons]
  rfl

namespace Results

variable {α β : Type} {x y : Except Error α}

theorem refl {a : α} : P.Results Eq (.ok a) (.ok a) := .ok rfl

theorem bind {f g : α → Except Error β} (hx : P.Results Eq x y)
    (hf : ∀ a, P.Results Eq (f a) (g a)) : P.Results Eq (x >>= f) (y >>= g) := by
  cases hx with
  | ok h => exact h ▸ hf _
  | error h => exact .error h

theorem map (f : α → β) (hx : P.Results Eq x y) : P.Results Eq (x.map f) (y.map f) := by
  cases hx with
  | ok h => exact .ok (congrArg f h)
  | error h => exact .error h

theorem forM {f g : α → Except Error Unit} :
    ∀ {l : List α}, (∀ a ∈ l, P.Results Eq (f a) (g a)) →
      P.Results Eq (ForM.forM l f) (ForM.forM l g)
  | [], _ => .refl
  | a :: l, h => by
    obtain ⟨ha, hl⟩ := List.forall_mem_cons.mp h
    rw [List.forM_cons, List.forM_cons]
    exact ha.bind fun _ => forM hl

end Results

/-! ### Good values -/

variable {v v' : Value} {vs vs' : List Value} {s s' : Store} {p q : String}

theorem Good.part (h : P.Good v) (hs : P.Sound s) {part : Part}
    (hp : part ∈ v.parts P.ctx.schema s) : P.Good part.value := by
  refine ⟨h.within.part (fun c hc => (hs c hc).within) hp, h.spelled.part (fun c hv => ?_) hp⟩
  subst hv
  cases h.within with
  | shared hc => exact (hs c hc).spelled

theorem Good.refill {ws : List Value} (h : P.Good v) (hws : ∀ w ∈ ws, P.Good w) :
    P.Good (v.refill ws) :=
  ⟨h.within.refill fun w hw => (hws w hw).within, h.spelled.refill fun w hw => (hws w hw).spelled⟩

theorem Sound.of_cells {s s' : Store} (h : P.Sound s) (hcells : s'.cells = s.cells) :
    P.Sound s' := by
  intro c hc
  rw [Store.cell, hcells]
  exact h c hc

theorem Sound.write (h : P.Sound s) {w : Value} (hw : P.Good w) (c : CellId) :
    P.Sound (s.write c w) := by
  intro d hd
  by_cases hdc : d = c
  · subst hdc
    rcases Nat.lt_or_ge d s.cells.length with hlt | hge
    · rw [Store.content_write hlt]
      exact hw
    · rw [Store.write_of_le hge]
      exact h d hd
  · rw [Store.cell_write_of_ne hdc]
    exact h d hd

theorem Values.cons (h : P.Values v v') (hs : P.AllValues vs vs') :
    P.AllValues (v :: vs) (v' :: vs') :=
  ⟨List.forall_mem_cons.mpr ⟨h.1, hs.1⟩, by rw [h.2, hs.2, List.map_cons]⟩

/-- The sites of the parts of a good value keep paths paired. -/
theorem Good.site (h : P.Good v) {part : Part} (hp : part ∈ v.parts P.ctx.schema s)
    (hpath : P.paths p q) :
    P.paths (P.ctx.sitePath p part.site) (P.other.sitePath q part.site) := by
  obtain ⟨_, hspelled⟩ := h
  cases hspelled with
  | leaf l => cases hp
  | absent => cases hp
  | present _ =>
    obtain rfl := List.mem_singleton.mp hp
    exact hpath
  | boxed _ =>
    obtain rfl := List.mem_singleton.mp hp
    exact hpath
  | shared _ =>
    obtain rfl := List.mem_singleton.mp hp
    exact hpath
  | sequence _ =>
    obtain ⟨⟨w, i⟩, _, rfl⟩ := List.mem_map.mp hp
    exact P.index i hpath
  | map hkeys _ =>
    obtain ⟨e, he, rfl⟩ := List.mem_map.mp hp
    exact P.key (hkeys e he) hpath
  | record hname _ =>
    obtain ⟨⟨⟨f, w⟩, i⟩, hf, rfl⟩ := List.mem_map.mp hp
    have hfield : f ∈ (P.ctx.schema.record _).fields :=
      (List.of_mem_zip (List.fst_mem_of_mem_zipIdx hf)).1
    rw [Context.sitePath, Context.sitePath, Site.steps_field, Site.steps_field]
    exact P.decl hname (List.mem_map_of_mem hfield) hpath

/-! ## Inspections -/

variable {room hops : Nat}

theorem Guards.here (h : P.Guards room s v p q) : P.walked p q :=
  h [] [] v (.here v) (Nat.zero_le room)

theorem Guards.part (h : P.Guards (room + 1) s v p q) {part : Part}
    (hp : part ∈ v.parts P.ctx.schema s) :
    P.Guards room (v.heldIn s) part.value (P.ctx.sitePath p part.site)
      (P.other.sitePath q part.site) := by
  intro sites cells w hroute hlen
  have hdown := Route.down hp (hroute.of_cells (v.cells_heldIn s))
  exact leads_cons_iff.mp (h _ _ w hdown (Nat.succ_le_succ hlen))

/-- **A guard looks at paths only to tell them.** -/
theorem guard_paths (hv : P.Good v) (hs : P.Sound s) (h : P.paths p q)
    (hguards : P.Guards room s v p q) :
    P.Results Eq (guard P.ctx room s v p) (guard P.other room s v q) := by
  induction room generalizing s v p q with
  | zero => exact .error (.tooDeep ⟨h, hguards.here⟩)
  | succ room ih =>
    by_cases hbar : v.Barred s
    · obtain ⟨c, rfl, hc⟩ := hbar
      rw [guard_held hc, guard_held hc]
      exact .error (.cycle ⟨h, hguards.here⟩ _)
    · rw [guard_succ hbar, guard_succ hbar]
      exact .forM fun part hp =>
        ih (hv.part hs hp) (hs.of_cells (v.cells_heldIn s)) (hv.site hp h) (hguards.part hp)

theorem enter_paths (h : P.Told p q) (c : CellId) :
    P.Results Eq (P.ctx.enter s c p) (P.other.enter s c q) := by
  rw [Context.enter, Context.enter]
  cases s.isHeld c with
  | true => exact .error (.cycle h _)
  | false => exact .refl

theorem slotZero_paths {view view' : ZeroView} (h : P.Told p q)
    (hview : view'.snapshot = view.snapshot) (f : RecordField) (v : Value) (shape : Option Bool) :
    P.Results Eq (slotZero P.ctx view p f v shape) (slotZero P.other view' q f v shape) := by
  cases shape with
  | some b => exact .refl
  | none =>
    rw [slotZero, slotZero, hview]
    cases view.snapshot v with
    | ok form => exact .refl
    | error u => exact .error (.unreadableBelow h _ _)

mutual

/-- The shape of a value does not depend on paths, if that of the cells in it does not. -/
theorem shapeZero_paths {view view' : ZeroView} (h : P.Told p q)
    (hview : view'.snapshot = view.snapshot)
    (hderef : ∀ c, P.Results Eq (view.deref c) (view'.deref c)) :
    ∀ v : Value, P.Results Eq (shapeZero P.ctx view p v) (shapeZero P.other view' q v)
  | .leaf _ => by rw [shapeZero, shapeZero]; exact .refl
  | .absent => by rw [shapeZero, shapeZero]; exact .refl
  | .present _ => by rw [shapeZero, shapeZero]; exact .refl
  | .boxed v => by
    rw [shapeZero, shapeZero]
    exact shapeZero_paths h hview hderef v
  | .shared c => by
    rw [shapeZero, shapeZero]
    exact hderef c
  | .sequence _ => by rw [shapeZero, shapeZero]; exact .refl
  | .map _ => by rw [shapeZero, shapeZero]; exact .refl
  | .record name slots => by
    rw [shapeZero, shapeZero]
    exact (slotsZero_paths h hview hderef _ _ slots).map some

theorem slotsZero_paths {view view' : ZeroView} (h : P.Told p q)
    (hview : view'.snapshot = view.snapshot)
    (hderef : ∀ c, P.Results Eq (view.deref c) (view'.deref c)) :
    ∀ (exposed : Nat) (fields : List RecordField) (slots : List Value),
      P.Results Eq (slotsZero P.ctx view p exposed fields slots)
        (slotsZero P.other view' q exposed fields slots)
  | exposed + 1, f :: fs, v :: vs => by
    rw [slotsZero_cons, slotsZero_cons]
    have hzero := (shapeZero_paths h hview hderef v).bind (slotZero_paths h hview f v)
    refine hzero.bind fun zero => ?_
    cases zero with
    | true => exact slotsZero_paths h hview hderef exposed fs vs
    | false => exact .refl
  | 0, _, _ => by simp only [slotsZero]; exact .refl
  | _ + 1, [], _ => by simp only [slotsZero]; exact .refl
  | _ + 1, _ :: _, [] => by simp only [slotsZero]; exact .refl

end

theorem shapeZeroWithin_paths (h : P.Told p q) (v : Value) :
    P.Results Eq (shapeZeroWithin P.ctx p hops s v) (shapeZeroWithin P.other q hops s v) := by
  induction hops generalizing s v with
  | zero =>
    rw [shapeZeroWithin, shapeZeroWithin]
    refine shapeZero_paths h ?_ (fun c => ?_) v
    · rfl
    · exact .error (.cycle h _)
  | succ hops ih =>
    rw [shapeZeroWithin, shapeZeroWithin]
    refine shapeZero_paths h ?_ (fun c => ?_) v
    · rfl
    · exact (enter_paths h c).bind fun _ => ih _

theorem hintWith_paths {record record' : Value → Except Error Hint}
    {deref deref' : CellId → Except Error Hint}
    (hrecord : ∀ v, P.Results Eq (record v) (record' v))
    (hderef : ∀ c, P.Results Eq (deref c) (deref' c)) :
    ∀ v : Value, P.Results Eq (hintWith record deref v) (hintWith record' deref' v)
  | .present v => hintWith_paths hrecord hderef v
  | .boxed v => hintWith_paths hrecord hderef v
  | .shared c => hderef c
  | .record _ _ => hrecord _
  | .leaf _ => .refl
  | .absent => .refl
  | .sequence _ => .refl
  | .map _ => .refl

theorem zeroHintWithin_paths (h : P.Told p q) (v : Value) :
    P.Results Eq (zeroHintWithin P.ctx p hops s v) (zeroHintWithin P.other q hops s v) := by
  induction hops generalizing s v with
  | zero =>
    exact hintWith_paths (fun v => (shapeZeroWithin_paths h v).map Hint.mk)
      (fun c => .error (.cycle h _)) v
  | succ hops ih =>
    exact hintWith_paths (fun v => (shapeZeroWithin_paths h v).map Hint.mk)
      (fun c => (enter_paths h c).bind fun _ => ih _) v

/-- **An inspection of a field sees the same in both runs**, and tells it at paths that are
walked. -/
theorem inspect_paired {place place' : Place} (hv : P.Values v v') (hs : P.Sound s)
    (halike : s.Alike P.types P.live P.rename s') (h : P.Places place place')
    (hguards : P.Guards room s v place.path place'.path) :
    P.Results Eq (inspect P.ctx room s v place) (inspect P.other room s' v' place') := by
  obtain ⟨hgood, rfl⟩ := hv
  rw [inspect_rename halike hgood.within]
  have htold : P.Told place.path place'.path := ⟨h.path, hguards.here⟩
  refine (guard_paths hgood hs h.path hguards).bind fun _ =>
    (zeroHintWithin_paths htold v).bind fun hint => ?_
  have hschema : P.other.schema = P.ctx.schema := rfl
  rw [hschema]
  cases v.snapshot P.ctx.schema s with
  | ok form => exact .refl
  | error u =>
    rw [h.owner, h.name, h.typ]
    exact .error (.unreadable htold _ _ _ _)

end Pairing

end FieldRules
