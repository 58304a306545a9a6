import FieldRules.Proofs.Proper
import FieldRules.Proofs.Snapshot

/-!
# Proofs/Rerun — a second run changes nothing

If mappers are on leaf fields only and change a leaf once at most, a complete walk settles all
leaves in the value and in the cells below it (`walk_settles`).  The same walk can then be taken
again: it finds everything settled, leaves everything as it is, and its journal **repeats** that of
the first (`walk_again`).  So a run that follows a complete run is complete, changes nothing and
rejects the same (`second_run_stable`).
-/

namespace FieldRules

variable {ctx : Context} {types : String → Prop}

/-! ## Rules that are run again -/

/-- One entry repeats another: the same rule is run on the same place, rejects the same, and says
the same of a leaf field.  It changes nothing. -/
structure FieldVisit.Repeats (ctx : Context) (f f' : FieldVisit) : Prop where
  rule : f'.rule = f.rule
  place : f'.place = f.place
  unchanged : f'.after = f'.before
  rejection : f'.rejection? ctx = f.rejection? ctx
  issues : ∀ k, f.place.typ = .scalar k → f'.issues = f.issues

namespace FieldVisit.Acts

variable {f f' : FieldVisit} {room room' : Nat} {s s' t t' : Store}

/-- What is said of a leaf depends only on what the validators see. -/
theorem issues_eq {l l' : Leaf} (h : f.Acts ctx room s s') (h' : f'.Acts ctx room' t t')
    (hr : f'.rule = f.rule) (hp : f'.place = f.place) (hl : f.before = .leaf l)
    (hl' : f'.before = .leaf l') (hseen : f'.seen = f.seen) : f'.issues = f.issues := by
  have hhint : f.hint = .unknown := (inspect_leaf (hl ▸ h.inspected)).1
  have hhint' : f'.hint = .unknown := (inspect_leaf (hl' ▸ h'.inspected)).1
  have hknown : f'.known = f.known := by rw [known, known, hhint, hhint', ite_self, ite_self]
  rw [issues, issues, hr, hp, hknown, hseen]

/-- What a leaf field rejects depends only on what is attempted. -/
theorem rejection_eq {k : Scalar} (h : f.Acts ctx room s s') (hk : f.place.typ = .scalar k) :
    f.rejection? ctx = f.attempt?.bind fun w =>
      match Leaf.read k w with
      | .ok _ => none
      | .error e => some
          (.unstorable f.place.path (f.place.typ.typeName ctx.schema) w.display e.message) := by
  cases h with
  | kept hi hw ha hr => rw [rejection?, hw, Option.bind_none, Option.bind_none]
  | stored hi hw hread hr =>
    rw [hk, read_scalar, map_eq_ok] at hread
    obtain ⟨l, hl, _⟩ := hread
    simp only [rejection?, hw, hr, hl, Option.bind_some, Option.map_none]
  | refused hi hw hread ha hr =>
    rw [hk, read_scalar, map_eq_error] at hread
    simp only [rejection?, hw, hr, hread, Option.bind_some, Option.map_some]

/-- **A rule that is run again on the leaf that it left rejects the same and says the same.** -/
theorem repeats_leaf {k : Scalar} {l : Leaf} (h : f.Acts ctx room s s')
    (h' : f'.Acts ctx room' t t') (hrule : f.rule.Settling k) (hr : f'.rule = f.rule)
    (hp : f'.place = f.place) (hk : f.place.typ = .scalar k) (hl : f.before = .leaf l)
    (hbefore : f'.before = f.after) :
    f'.rejection? ctx = f.rejection? ctx ∧ f'.issues = f.issues := by
  have hform : l.snapshot = .ok f.current := (inspect_leaf (hl ▸ h.inspected)).2
  -- A leaf that was kept is seen as before.
  have hkept (hafter : f.after = f.before) :
      f'.rejection? ctx = f.rejection? ctx ∧ f'.issues = f.issues := by
    have hl' : f'.before = .leaf l := by rw [hbefore, hafter, hl]
    have hcurrent : f'.current = f.current :=
      Except.ok.inj ((inspect_leaf (hl' ▸ h'.inspected)).2.symm.trans hform)
    have hattempt : f'.attempt? = f.attempt? := by rw [attempt?, attempt?, hr, hcurrent]
    have hseen : f'.seen = f.seen := by rw [seen, seen, hr, hcurrent]
    refine ⟨?_, h.issues_eq h' hr hp hl hl' hseen⟩
    rw [h.rejection_eq hk, h'.rejection_eq (hp ▸ hk), hattempt, hp]
  cases id h with
  | kept hi hw ha => exact hkept ha
  | refused hi hw hread ha => exact hkept ha
  | @stored _ w hi hw hread hr' =>
    rw [hk, read_scalar, map_eq_ok] at hread
    obtain ⟨l', hread, heq⟩ := hread
    have hl' : f'.before = .leaf l' := hbefore.trans (Prod.mk.inj heq).1.symm
    have hmap : f.rule.map f.current = some w := (attempt?_eq_some.mp hw).1
    have hcurrent : f'.current = w := Except.ok.inj
      ((inspect_leaf (hl' ▸ h'.inspected)).2.symm.trans (hrule.faithful _ w l' hmap hread))
    have hseen : f'.seen = f.seen := by
      rw [seen, seen, hr, hcurrent, hmap, Option.getD_some, hrule.idempotent _ w hmap]
    refine ⟨?_, h.issues_eq h' hr hp hl hl' hseen⟩
    rw [h.rejection_eq hk, h'.rejection_eq (hp ▸ hk), hw, Option.bind_some, hread]
    cases hw' : f'.attempt? with
    | none => rfl
    | some w' =>
      have hmap' : f.rule.map w = some w' := by
        rw [← hcurrent, ← hr]
        exact (attempt?_eq_some.mp hw').1
      rw [hrule.eq_of_map hmap hmap', Option.bind_some, hread]

end FieldVisit.Acts

/-! ## What the rule of a part did -/

/-- The rule of a task was run on a part, if there is one, with these entries. -/
inductive Task.Ran (ctx : Context) (room : Nat) (store : Store) (p : Part) (t : Task) :
    List FieldVisit → Prop
  | plain (hrule : t.rule? = none) : Ran ctx room store p t []
  | field {f : FieldVisit} (hrule : t.rule? = some (f.rule, f.place)) (hbefore : f.before = p.value)
      (hacts : f.Acts ctx room store store) (hafter : f.after = p.acted ctx) :
      Ran ctx room store p t [f]

section

variable {room : Nat} {path : String} {p : Part} {t : Task} {ts : List Task}
  {below : Value → String → Stage → List FieldVisit → Value → Stage → Prop}

/-- **A walk of some tasks runs the rule of the first, goes on below what it made of the part, and
then through the others.** -/
theorem WalkTasks.of_cons (hset : ctx.SettlesLeaves types) (hfor : Task.For ctx path p t)
    {s s'' : Stage} {j : List FieldVisit} {ws : List Value} (hp : p.Proper ctx types s.store)
    (h : WalkTasks ctx room path below (t :: ts) s j ws s'') :
    ∃ own j₁ js w ws' s', j = own ++ (j₁ ++ js) ∧ ws = w :: ws' ∧ t.Ran ctx room s.store p own ∧
      below (p.acted ctx) (Path.spellFrom path (t.steps ctx)) s j₁ w s' ∧
      WalkTasks ctx room path below ts s' js ws' s'' := by
  cases h with
  | @plain _ _ _ s' _ j₁ js w ws' hrule hwalk hrest =>
    rw [hfor.value_eq, ← hfor.acted_eq hrule] at hwalk
    exact ⟨[], j₁, js, w, ws', s', rfl, rfl, .plain hrule, hwalk, hrest⟩
  | @field _ _ _ s' _ store j₁ js w ws' f hrule hvalue hacts hwalk hrest =>
    have hbefore : f.before = p.value := hvalue.trans hfor.value_eq
    obtain ⟨rfl, hafter⟩ := hp.acts hset hfor hrule hbefore hacts
    rw [hafter] at hwalk
    exact ⟨[f], j₁, js, w, ws', s', rfl, rfl, .field hrule hbefore hacts hafter, hwalk, hrest⟩

theorem WalkTasks.cons_of_ran (hfor : Task.For ctx path p t) {s s' s'' : Stage}
    {own j₁ js : List FieldVisit} {w : Value} {ws : List Value}
    (hran : t.Ran ctx room s.store p own)
    (hwalk : below (p.acted ctx) (Path.spellFrom path (t.steps ctx)) s j₁ w s')
    (hrest : WalkTasks ctx room path below ts s' js ws s'') :
    WalkTasks ctx room path below (t :: ts) s (own ++ (j₁ ++ js)) (w :: ws) s'' := by
  cases hran with
  | plain hrule =>
    rw [hfor.acted_eq hrule, ← hfor.value_eq] at hwalk
    exact (WalkTasks.plain hrule hwalk hrest :)
  | field hrule hbefore hacts hafter =>
    rw [← hafter] at hwalk
    exact (WalkTasks.field hrule (hbefore.trans hfor.value_eq.symm) hacts hwalk hrest :)

end

/-! ## A walk settles -/

/-- What a walk does to the cells: it holds none at its end that it did not at the start, it does
not change those held at the start, and settles the contents of others. -/
structure Stage.Settles (ctx : Context) (types : String → Prop) (s s' : Stage) : Prop where
  held : s'.store.held = s.store.held
  frozen : ∀ c, s.store.isHeld c = true → (s'.store.cell c).content = (s.store.cell c).content
  becomes : s.store.Becomes ctx s'.store
  known : s'.cache.Comes ctx types

/-- Walks with some room settle. -/
def WalksSettle (ctx : Context) (types : String → Prop) (room : Nat) : Prop :=
  ∀ {v path s j w s'}, Walk ctx room v path s j w s' → v.Proper ctx.schema types s.store →
    s.cache.Comes ctx types → w = v.settle ctx .inner ∧ s.Settles ctx types s'

/-- A part that is settled. -/
def Part.settle (ctx : Context) (p : Part) : Part := ⟨p.site, p.value.settle ctx p.site⟩

namespace Stage.Settles

variable {s s' s'' : Stage}

theorem refl (h : s.cache.Comes ctx types) : s.Settles ctx types s :=
  ⟨rfl, fun _ _ => rfl, .refl _, h⟩

theorem trans (h : s.Settles ctx types s') (h' : s'.Settles ctx types s'') :
    s.Settles ctx types s'' := by
  refine ⟨h'.held.trans h.held, fun c hc => ?_, h.becomes.trans h'.becomes, h'.known⟩
  have hc' : s'.store.isHeld c = true := by rwa [Store.isHeld, h.held]
  rw [h'.frozen c hc', h.frozen c hc]

end Stage.Settles

section

variable {room : Nat} {path : String} {ps : List Part} {ts : List Task} {s s' : Stage}
  {j : List FieldVisit} {ws : List Value}

/-- **Tasks settle their parts.** -/
theorem walkTasks_settle (hset : ctx.SettlesLeaves types) (hwalks : WalksSettle ctx types room)
    (hfor : List.Forall₂ (Task.For ctx path) ps ts) (hps : ∀ p ∈ ps, p.Proper ctx types s.store)
    (hcache : s.cache.Comes ctx types)
    (h : WalkTasks ctx room path (Walk ctx room) ts s j ws s') :
    ws = ps.map (fun p => (p.settle ctx).value) ∧ s.Settles ctx types s' := by
  induction hfor generalizing s j ws with
  | nil =>
    cases h
    exact ⟨rfl, .refl hcache⟩
  | @cons p t ps ts hpt _ ih =>
    rw [List.forall_mem_cons] at hps
    obtain ⟨own, j₁, js, w, ws', s₁, rfl, rfl, _, hwalk, hrest⟩ := h.of_cons hset hpt hps.1
    obtain ⟨rfl, hs⟩ := hwalks hwalk (hps.1.acted hset) hcache
    obtain ⟨rfl, hs'⟩ := ih (fun q hq => (hps.2 q hq).becomes hs.becomes) hs.known hrest
    refine ⟨?_, hs.trans hs'⟩
    rw [List.map_cons, hps.1.settle_acted, Part.settle]

/-- All parts are walked, each from a stage that comes later. -/
theorem exists_walk_of_mem (hset : ctx.SettlesLeaves types) (hwalks : WalksSettle ctx types room)
    (hfor : List.Forall₂ (Task.For ctx path) ps ts) (hps : ∀ p ∈ ps, p.Proper ctx types s.store)
    (hcache : s.cache.Comes ctx types)
    (h : WalkTasks ctx room path (Walk ctx room) ts s j ws s') {p : Part} (hp : p ∈ ps) :
    ∃ path₁ s₁ j₁ w s₂, Walk ctx room (p.acted ctx) path₁ s₁ j₁ w s₂ ∧
      s.store.Becomes ctx s₁.store ∧ s₁.cache.Comes ctx types := by
  induction hfor generalizing s j ws with
  | nil => cases hp
  | @cons q t ps ts hqt _ ih =>
    rw [List.forall_mem_cons] at hps
    obtain ⟨own, j₁, js, w, ws', s₁, rfl, rfl, _, hwalk, hrest⟩ := h.of_cons hset hqt hps.1
    obtain rfl | hp := List.mem_cons.mp hp
    · exact ⟨_, s, j₁, w, s₁, hwalk, .refl _, hcache⟩
    · obtain ⟨_, hs⟩ := hwalks hwalk (hps.1.acted hset) hcache
      obtain ⟨path₁, s₂, j₂, w₂, s₃, hwalk₂, hbecomes, hknown⟩ :=
        ih (fun q hq => (hps.2 q hq).becomes hs.becomes) hs.known hrest hp
      exact ⟨path₁, s₂, j₂, w₂, s₃, hwalk₂, hs.becomes.trans hbecomes, hknown⟩

end

/-- The parts of a settled value are the settled parts, if the content of a cell is settled. -/
theorem Value.parts_settle (v : Value) {s F : Store} (hcell : ∀ c, v = .shared c →
      (F.cell c).content = (s.cell c).content.settle ctx .inner) :
    (v.settle ctx .inner).parts ctx.schema F = (v.parts ctx.schema s).map (Part.settle ctx) := by
  obtain ⟨l, rfl⟩ | ⟨c, rfl⟩ | ⟨hl, hv⟩ := v.shape_cases
  · rw [settle_leaf]
    rfl
  · rw [settle_shared, parts, parts, hcell c rfl]
    rfl
  · rw [settle_eq hl hv .inner F, parts_refill hv (List.length_map _),
      parts_of_entered hv F s, List.zipWith_map_right, List.zipWith_self]
    rfl

/-- A settled content in a cell; in one that was never made, nothing is written and nothing is to be
settled. -/
theorem Store.content_write_settle (s : Store) (ctx : Context) (c : CellId) :
    ((s.write c ((s.cell c).content.settle ctx .inner)).cell c).content
      = (s.cell c).content.settle ctx .inner := by
  by_cases hlt : c < s.cells.length
  · exact content_write hlt _
  · have hnone : (s.cell c).content = .leaf .unit := by rw [cell_of_le (Nat.le_of_not_lt hlt)]
    rw [write_of_le (Nat.le_of_not_lt hlt), hnone, Value.settle_leaf]
    rfl

/-- **Leaving a cell settles it**, if what was in it is settled. -/
theorem Stage.Settles.leave_cell (hset : ctx.SettlesLeaves types) {c : CellId} {s left : Stage}
    {cache : PlanCache} (hv : (Value.shared c).Proper ctx.schema types s.store)
    (hc : s.store.isHeld c = false) (h : Stage.Settles ctx types ⟨s.store.hold c, cache⟩ left) :
    let w := (s.store.cell c).content.settle ctx .inner
    let s' : Stage := ⟨(left.store.write c w).release c, left.cache⟩
    s.Settles ctx types s' ∧ left.store.Becomes ctx s'.store ∧ (s'.store.cell c).content = w := by
  intro w s'
  have hother (d : CellId) (hd : d ≠ c) : s'.store.cell d = left.store.cell d :=
    Store.cell_write_of_ne hd left.store w
  have hsame : (left.store.cell c).content = (s.store.cell c).content :=
    h.frozen c (by rw [Store.isHeld_hold, decide_eq_true rfl, Bool.or_true])
  have hwritten : (s'.store.cell c).content = w := by
    have hwrite := left.store.content_write_settle ctx c
    rw [hsame] at hwrite
    exact hwrite
  have hcontent : (s.store.cell c).content.Becomes ctx .inner w := hv.content.becomes_settle hset
  have hheld : s'.store.held = s.store.held := by
    change left.store.held.erase c = s.store.held
    rw [h.held]
    exact List.erase_cons_head ..
  have hfrozen (d : CellId) (hd : s.store.isHeld d = true) :
      (s'.store.cell d).content = (s.store.cell d).content := by
    have hne : d ≠ c := by
      rintro rfl
      cases hd.symm.trans hc
    rw [hother d hne, h.frozen d (by rw [Store.isHeld_hold, hd, Bool.true_or])]
    rfl
  have hstart : s.store.Becomes ctx left.store := h.becomes
  refine ⟨⟨hheld, hfrozen, hstart.of_ne hother ?_, h.known⟩, .of_ne (.refl _) hother ?_, hwritten⟩
  · rwa [hwritten]
  · rwa [hwritten, hsame]

/-- **Leaving a value settles its cell**, if its parts are settled. -/
theorem Stage.Settles.leave (hset : ctx.SettlesLeaves types) {v : Value} {s left : Stage}
    {cache : PlanCache} (hv : v.Proper ctx.schema types s.store) (hfree : ¬ v.Barred s.store)
    (h : Stage.Settles ctx types ⟨v.heldIn s.store, cache⟩ left) :
    let ws := (v.parts ctx.schema s.store).map fun p => (p.settle ctx).value
    let s' := (v.leave ws (left.run .empty)).stage
    s.Settles ctx types s' ∧ left.store.Becomes ctx s'.store ∧
      ∀ c, v = .shared c →
        (s'.store.cell c).content = (s.store.cell c).content.settle ctx .inner := by
  intro ws s'
  by_cases hshared : ∃ c, v = .shared c
  · obtain ⟨c, rfl⟩ := hshared
    obtain ⟨hs, hleft, hcell⟩ := h.leave_cell hset hv (Value.not_barred_iff.mp hfree c rfl)
    refine ⟨hs, hleft, fun d hd => ?_⟩
    cases hd
    exact hcell
  · have hv' : v.entered = [] := by
      obtain ⟨l, rfl⟩ | hv' | ⟨_, hv'⟩ := v.shape_cases
      · rfl
      · exact absurd hv' hshared
      · exact hv'
    have hs' : s' = left := by
      change (v.leave ws (left.run .empty)).stage = left
      rw [v.leave_of_entered hv']
      rfl
    rw [v.heldIn_of_entered hv'] at h
    rw [hs']
    exact ⟨⟨h.held, h.frozen, h.becomes, h.known⟩, .refl _, fun c hc => absurd ⟨c, hc⟩ hshared⟩

/-! ## Whole walks -/

theorem Value.refill_settle (v : Value) (store : Store) :
    v.refill ((v.parts ctx.schema store).map fun p => (p.settle ctx).value)
      = v.settle ctx .inner := by
  obtain ⟨l, rfl⟩ | ⟨c, rfl⟩ | ⟨hl, hv⟩ := v.shape_cases
  · rw [settle_leaf]
    rfl
  · rw [settle_shared]
    rfl
  · rw [settle_eq hl hv .inner store]
    rfl

/-- A record that is opened has a plan and exposes all its fields. -/
theorem plan_of_opening (hfam : ctx.schema.Family types) {name : String} (hname : types name)
    {slots : List Value} {path : String} {run run' : Run} {tasks : List Task}
    (hcache : run.cache.Comes ctx types)
    (h : (Value.record name slots).opening ctx path run = (run', .ok tasks)) :
    (∃ plan, ctx.plan name = .ok plan) ∧ ctx.schema.Exposes name slots := by
  obtain ⟨_, _, hopen⟩ | ⟨plan, hplan, ⟨_, hopen⟩ | ⟨hlen, _⟩⟩ :=
    Value.opening_record ctx path name slots run
  · cases hopen.symm.trans h
  · cases hopen.symm.trans h
  · rw [result_lookup hfam hcache hname] at hplan
    exact ⟨⟨plan, hplan⟩, hlen.trans (length_fields_plan hplan)⟩

/-- A free value can be opened, if its record has a plan and exposes all its fields. -/
theorem exists_opening (hfam : ctx.schema.Family types) {v : Value} {run : Run}
    (hcache : run.cache.Comes ctx types) (hfree : ¬ v.Barred run.store)
    (hv : ∀ name slots, v = .record name slots →
      types name ∧ (∃ plan, ctx.plan name = .ok plan) ∧ ctx.schema.Exposes name slots)
    (path : String) : ∃ run' tasks, v.opening ctx path run = (run', .ok tasks) := by
  cases hopen : v.opening ctx path run with | mk run' opened
  cases opened with
  | ok tasks => exact ⟨run', tasks, rfl⟩
  | error e =>
    obtain ⟨_, ⟨c, rfl, hc, _⟩ | ⟨name, slots, rfl, hrec⟩⟩ := of_opening_error hopen
    · exact absurd ⟨c, rfl, hc⟩ hfree
    · obtain ⟨hname, ⟨plan, hplan⟩, hexposes⟩ := hv name slots rfl
      rw [result_lookup hfam hcache hname, hplan] at hrec
      obtain hrec | ⟨plan', hplan', hlen, _⟩ := hrec
      · cases hrec
      · cases hplan'
        exact absurd (hexposes.trans (length_fields_plan hplan).symm) hlen

section

variable {room : Nat} {path : String} {v w : Value} {s s' : Stage} {j : List FieldVisit}

/-- **A walk of a proper value walks its proper parts**, with plans that come from the types. -/
theorem Walk.exists_tasks (hfam : ctx.schema.Family types) (hset : ctx.SettlesLeaves types)
    (hv : v.Proper ctx.schema types s.store) (hcache : s.cache.Comes ctx types)
    (h : Walk ctx (room + 1) v path s j w s') :
    ∃ run tasks ws left, v.opening ctx path (s.run .empty) = (run, .ok tasks) ∧
      ¬ v.Barred s.store ∧ List.Forall₂ (Task.For ctx path) (v.parts ctx.schema s.store) tasks ∧
      (∀ p ∈ v.parts ctx.schema s.store, p.Proper ctx types (v.heldIn s.store)) ∧
      (v.found ctx s.cache).Comes ctx types ∧
      WalkTasks ctx room path (Walk ctx room) tasks ⟨v.heldIn s.store, v.found ctx s.cache⟩ j ws
        left ∧ w = v.refill ws ∧ s' = (v.leave ws (left.run .empty)).stage := by
  obtain ⟨opened, tasks, ws, left, hopen, htasks, hw, hs'⟩ := h
  obtain ⟨rfl, hfree, _⟩ := of_opening hopen
  refine ⟨_, tasks, ws, left, hopen, hfree,
    forall₂_for hfam (fun _ _ => hv.type_of_record) hcache hopen, fun p hp => ?_,
    v.found_known (fun _ _ he => hcache.lookup (hv.type_of_record he)) hcache, htasks, hw, hs'⟩
  exact (hv.parts hset hp).of_cells (v.cells_heldIn s.store)

/-- **A complete walk settles** the value, and the cells below it. -/
theorem walk_settles (hfam : ctx.schema.Family types) (hset : ctx.SettlesLeaves types)
    (room : Nat) : WalksSettle ctx types room := by
  induction room with
  | zero =>
    intro v path s j w s' h
    cases h
  | succ room ih =>
    intro v path s j w s' h hv hcache
    obtain ⟨_, tasks, ws, left, _, hfree, hfor, hparts, hfound, htasks, rfl, rfl⟩ :=
      h.exists_tasks hfam hset hv hcache
    obtain ⟨rfl, hs⟩ := walkTasks_settle hset ih hfor hparts hfound htasks
    exact ⟨v.refill_settle s.store, (hs.leave hset hv hfree).1⟩

/-- **A walk goes through all records below a value**, so that they expose all their fields. -/
theorem exposes_of_walk (hfam : ctx.schema.Family types) (hset : ctx.SettlesLeaves types)
    (hv : v.Proper ctx.schema types s.store) (hcache : s.cache.Comes ctx types)
    (h : Walk ctx room v path s j w s') {name : String} {slots : List Value}
    (hb : Below ctx.schema s.store v (.record name slots)) : ctx.schema.Exposes name slots := by
  induction room generalizing v path s j w s' slots with
  | zero => cases h
  | succ room ih =>
    obtain ⟨run, tasks, ws, left, hopen, _, hfor, hparts, hfound, htasks, _⟩ :=
      h.exists_tasks hfam hset hv hcache
    obtain ⟨sites, cells, hroute⟩ := hb
    cases hroute with
    | here =>
      exact (plan_of_opening hfam (hv.type_of_record rfl) hcache hopen).2
    | @down _ _ p sites cells hp hrest =>
      obtain ⟨path₁, s₁, j₁, w₁, s₂, hwalk, hbecomes, hknown⟩ :=
        exists_walk_of_mem hset (walk_settles hfam hset room) hfor hparts hfound htasks hp
      have hs : s.store.Becomes ctx s₁.store :=
        (Store.Becomes.of_cells (v.cells_heldIn s.store)).trans hbecomes
      obtain ⟨last, u, hroute, hu⟩ := ((hparts p hp).becomes_acted hset).route hs hrest
      obtain ⟨slots', rfl, hlen⟩ := hu.of_record
      have hacted : (p.acted ctx).Becomes ctx .inner (p.acted ctx) := .same _
      have hexposes := ih (((hparts p hp).acted hset).becomes hbecomes hacted) hknown hwalk
        ⟨_, _, hroute⟩
      exact Value.Becomes.exposes hexposes hlen.symm

end

/-! ## A walk is taken again -/

/-- The task of a settled part is that of the part, for the new value. -/
theorem Task.For.again {path : String} {p : Part} {t t' : Task} (h : Task.For ctx path p t)
    (h' : Task.For ctx path (p.settle ctx) t') :
    t'.steps ctx = t.steps ctx ∧ t'.rule? = t.rule? := by
  cases h with
  | @plain site w hsite =>
    cases h' with
    | plain => exact ⟨rfl, rfl⟩
    | field => exact absurd rfl (hsite _ _ _)
  | @field name i f w planned hf hplanned =>
    generalize hq : Part.settle ctx ⟨.field name i f.decl, w⟩ = q at h'
    cases h' with
    | plain hsite => cases hq; exact absurd rfl (hsite _ _ _)
    | @field name' i' f' w' planned' hf' hplanned' =>
      obtain ⟨hsite, _⟩ := Part.mk.inj hq
      obtain ⟨rfl, rfl, _⟩ := Site.field.inj hsite
      obtain rfl := Option.some.inj (hf.symm.trans hf')
      obtain rfl := Except.ok.inj (hplanned.symm.trans hplanned')
      exact ⟨rfl, rfl⟩

namespace Part.Proper

variable {p : Part} {s F : Store}

/-- A settled part is proper. -/
theorem settle (hset : ctx.SettlesLeaves types) (h : p.Proper ctx types s) (hs : s.Becomes ctx F) :
    (p.settle ctx).Proper ctx types F := by
  refine ⟨h.value.becomes hs (h.becomes_settle hset), h.site, h.owner,
    fun name i f k hsite hf hk => ?_⟩
  obtain ⟨l, hl⟩ := h.leaf name i f k hsite hf hk
  have hbecomes := h.becomes_settle hset
  rw [hl] at hbecomes
  obtain ⟨l', hl'⟩ := hbecomes.of_leaf
  exact ⟨l', by rw [Part.settle, hl, hl']⟩

/-- A settled part is left as it is by its rule. -/
theorem acted_settle (hset : ctx.SettlesLeaves types) (h : p.Proper ctx types s) :
    (p.settle ctx).acted ctx = (p.settle ctx).value := by
  by_cases hleaf : ∃ l, (p.settle ctx).value = .leaf l
  · obtain ⟨l, hl⟩ := hleaf
    have hagain : (p.settle ctx).value.settle ctx p.site = (p.settle ctx).value :=
      Value.settle_settle (h.value.steady hset h.site)
    rw [acted_leaf hl, hl]
    rwa [hl, Value.settle_leaf] at hagain
  · exact acted_of_ne (not_exists.mp hleaf)

/-- The records below a part expose all fields if those below what its rule makes of it do. -/
theorem exposes_of_acted {name : String} {slots : List Value}
    (hexposes : ∀ name slots, Below ctx.schema s (p.acted ctx) (.record name slots) →
      ctx.schema.Exposes name slots)
    (hb : Below ctx.schema s p.value (.record name slots)) : ctx.schema.Exposes name slots := by
  by_cases hleaf : ∃ l, p.value = .leaf l
  · obtain ⟨l, hl⟩ := hleaf
    rw [hl] at hb
    cases hb.eq_of_leaf
  · rw [acted_of_ne (not_exists.mp hleaf)] at hexposes
    exact hexposes name slots hb

end Part.Proper

/-- What was seen of a field has no leaf below it that cannot be seen. -/
theorem FieldVisit.Acts.readable {f : FieldVisit} {room : Nat} {s s' : Store}
    (h : f.Acts ctx room s s') (hexposes : ∀ name slots,
      Below ctx.schema s f.before (.record name slots) → ctx.schema.Exposes name slots) :
    guard ctx room s f.before f.place.path = .ok () ∧ Readable ctx.schema s f.before := by
  obtain ⟨⟨⟩, hg, hi⟩ := bind_eq_ok.mp h.inspected
  obtain ⟨hint, _, hi⟩ := bind_eq_ok.mp hi
  refine ⟨hg, ?_⟩
  cases hform : f.before.snapshot ctx.schema s with
  | ok form => exact readable_of_snapshot hform hexposes
  | error u =>
    rw [hform] at hi
    cases hi

/-- **The rule of a part can be run again on what is left of the part**, and then it repeats what it
did before. -/
theorem Task.Ran.again (hset : ctx.SettlesLeaves types) {room : Nat} {path : String} {p : Part}
    {t t' : Task} {s F : Store} {own : List FieldVisit} (hp : p.Proper ctx types s)
    (hfor : Task.For ctx path p t) (hfor' : Task.For ctx path (p.settle ctx) t')
    (hexposes : ∀ name slots, Below ctx.schema s (p.acted ctx) (.record name slots) →
      ctx.schema.Exposes name slots)
    (hs : s.Becomes ctx F) (hheld : F.held = s.held) (h : t.Ran ctx room s p own) :
    ∃ own', t'.Ran ctx room F (p.settle ctx) own' ∧
      List.Forall₂ (FieldVisit.Repeats ctx) own own' := by
  obtain ⟨_, hrule'⟩ := hfor.again hfor'
  cases h with
  | plain hrule => exact ⟨[], .plain (hrule'.trans hrule), .nil⟩
  | @field f hrule hbefore hacts hafter =>
    obtain ⟨hg, hread⟩ := hacts.readable fun name slots hb =>
      Part.Proper.exposes_of_acted hexposes (hbefore ▸ hb)
    rw [hbefore] at hg hread
    obtain ⟨hint, form, hi⟩ := (hp.becomes_settle hset).exists_inspect (p := f.place) hs hheld hg
      hread
    obtain ⟨f', hr, hplace, hbefore', store, hacts'⟩ := exists_acts_of_inspect f.rule hi
    have hrun' : t'.rule? = some (f'.rule, f'.place) := by rw [hrule', hrule, hr, hplace]
    obtain ⟨rfl, hafter'⟩ := (hp.settle hset hs).acts hset hfor' hrun' hbefore' hacts'
    refine ⟨[f'], .field hrun' hbefore' hacts' hafter', .cons ?_ .nil⟩
    have hunchanged : f'.after = f'.before := by
      rw [hafter', hp.acted_settle hset, hbefore']
      rfl
    obtain ⟨hleaf, hother⟩ := hfor.settling hset hp.owner hrule
    by_cases hk : ∃ k, f.place.typ = .scalar k
    · obtain ⟨k, hk⟩ := hk
      obtain ⟨l, hl⟩ := hp.exists_leaf hfor hrule hk
      have hleft : f'.before = f.after := by
        rw [hbefore', hafter, Part.acted_leaf hl, hl, Value.settle_leaf]
      obtain ⟨hrejection, hissues⟩ :=
        hacts.repeats_leaf hacts' (hleaf k hk) hr hplace hk (hbefore.trans hl) hleft
      exact ⟨hr, hplace, hunchanged, hrejection, fun _ _ => hissues⟩
    · have hmappers : f.rule.mappers = [] := hother fun k h => hk ⟨k, h⟩
      have hrejection : f'.rejection? ctx = f.rejection? ctx := by
        rw [FieldVisit.rejection?_of_mappers hmappers,
          FieldVisit.rejection?_of_mappers (hr ▸ hmappers)]
      exact ⟨hr, hplace, hunchanged, hrejection, fun k h => absurd ⟨k, h⟩ hk⟩

/-- Walks with some room can be taken again, on what they left and with any plans. -/
def WalksAgain (ctx : Context) (types : String → Prop) (room : Nat) : Prop :=
  ∀ {v path s j w s' F cache}, Walk ctx room v path s j w s' → v.Proper ctx.schema types s.store →
    s.cache.Comes ctx types → cache.Comes ctx types → F.held = s.store.held →
    s'.store.Becomes ctx F →
    ∃ j' cache', Walk ctx room w path ⟨F, cache⟩ j' w ⟨F, cache'⟩ ∧ cache'.Comes ctx types ∧
      List.Forall₂ (FieldVisit.Repeats ctx) j j'

/-- **Tasks are walked again**, if that holds one level below. -/
theorem walkTasks_again (hfam : ctx.schema.Family types) (hset : ctx.SettlesLeaves types)
    {room : Nat} (hagain : WalksAgain ctx types room) {path : String} {ps : List Part}
    {ts ts' : List Task} {s s' : Stage} {j : List FieldVisit} {ws : List Value} {F : Store}
    {cache : PlanCache} (hfor : List.Forall₂ (Task.For ctx path) ps ts)
    (hfor' : List.Forall₂ (Task.For ctx path) (ps.map (Part.settle ctx)) ts')
    (hps : ∀ p ∈ ps, p.Proper ctx types s.store) (hcache : s.cache.Comes ctx types)
    (hcache' : cache.Comes ctx types) (hheld : F.held = s.store.held)
    (hF : s'.store.Becomes ctx F) (h : WalkTasks ctx room path (Walk ctx room) ts s j ws s') :
    ∃ j' cache', WalkTasks ctx room path (Walk ctx room) ts' ⟨F, cache⟩ j' ws ⟨F, cache'⟩ ∧
      cache'.Comes ctx types ∧ List.Forall₂ (FieldVisit.Repeats ctx) j j' := by
  induction hfor generalizing ts' s j ws cache with
  | nil =>
    cases h
    cases hfor'
    exact ⟨[], cache, .nil _, hcache', .nil⟩
  | @cons p t ps ts hpt hrest ih =>
    cases hfor' with | @cons _ t' _ ts' hpt' hrest' =>
    rw [List.forall_mem_cons] at hps
    obtain ⟨hp, hps⟩ := hps
    obtain ⟨own, j₁, js, w, ws', s₁, rfl, rfl, hran, hwalk, htasks⟩ := h.of_cons hset hpt hp
    have hsettles : WalksSettle ctx types room := walk_settles hfam hset room
    obtain ⟨hw, hs₁⟩ := hsettles hwalk (hp.acted hset) hcache
    have hps₁ (q : Part) (hq : q ∈ ps) : q.Proper ctx types s₁.store :=
      (hps q hq).becomes hs₁.becomes
    have hs' : s₁.store.Becomes ctx F :=
      (walkTasks_settle hset hsettles hrest hps₁ hs₁.known htasks).2.becomes.trans hF
    -- The rule of the first part is run again, then the walk below it, then the other tasks.
    obtain ⟨own', hran', hown⟩ := hran.again hset hp hpt hpt'
      (fun name slots => exposes_of_walk hfam hset (hp.acted hset) hcache hwalk)
      (hs₁.becomes.trans hs') hheld
    obtain ⟨j₁', cache₁, hwalk', hcache₁, hj₁⟩ :=
      hagain hwalk (hp.acted hset) hcache hcache' hheld hs'
    obtain ⟨js', cache₂, htasks', hcache₂, hjs⟩ :=
      ih hrest' hps₁ hs₁.known hcache₁ (hheld.trans hs₁.held.symm) htasks
    have hacted : (p.settle ctx).acted ctx = w := by
      rw [hp.acted_settle hset, hw, hp.settle_acted]
      rfl
    rw [← (hpt.again hpt').1] at hwalk'
    refine ⟨own' ++ (j₁' ++ js'), cache₂, .cons_of_ran hpt' hran' (hacted ▸ hwalk') htasks',
      hcache₂, List.rel_append hown (List.rel_append hj₁ hjs)⟩

section

variable {path : String} {v : Value} {run run' : Run} {tasks : List Task} {F : Store}
  {cache : PlanCache}

/-- **What a walk left can be opened again.** -/
theorem exists_opening_again (hfam : ctx.schema.Family types) {w : Value}
    (hv : v.Proper ctx.schema types run.store) (hw : v.Becomes ctx .inner w)
    (hcache : run.cache.Comes ctx types) (h : v.opening ctx path run = (run', .ok tasks))
    (hcache' : cache.Comes ctx types) (hheld : F.held = run.store.held) :
    ∃ run' tasks', w.opening ctx path ⟨F, cache, .empty⟩ = (run', .ok tasks') := by
  obtain ⟨_, hfree, _⟩ := of_opening h
  refine exists_opening hfam hcache' (Value.not_barred_iff.mpr fun c hc => ?_)
    (fun name slots' hrec => ?_) path
  · rw [Store.isHeld, hheld]
    exact Value.not_barred_iff.mp hfree c (hc ▸ hw).eq_shared
  · obtain ⟨slots, rfl, hlen⟩ := (hrec ▸ hw).exists_record
    have hname : types name := hv.type_of_record rfl
    obtain ⟨hplan, hexposes⟩ := plan_of_opening hfam hname hcache h
    exact ⟨hname, hplan, Value.Becomes.exposes hexposes hlen⟩

/-- …and its tasks are those of the settled parts. -/
theorem opening_again (hfam : ctx.schema.Family types) (hset : ctx.SettlesLeaves types)
    (hv : v.Proper ctx.schema types run.store) (hcache : run.cache.Comes ctx types)
    (h : v.opening ctx path run = (run', .ok tasks)) (hcache' : cache.Comes ctx types)
    (hheld : F.held = run.store.held) (hF : run.store.Becomes ctx F)
    (hcell : ∀ c, v = .shared c →
      (F.cell c).content = (run.store.cell c).content.settle ctx .inner) :
    let w := v.settle ctx .inner
    w.parts ctx.schema F = (v.parts ctx.schema run.store).map (Part.settle ctx) ∧
      (w.found ctx cache).Comes ctx types ∧
      ∃ tasks', w.opening ctx path ⟨F, cache, .empty⟩
          = (⟨w.heldIn F, w.found ctx cache, .empty⟩, .ok tasks') ∧
        List.Forall₂ (Task.For ctx path)
          ((v.parts ctx.schema run.store).map (Part.settle ctx)) tasks' := by
  intro w
  have hw : v.Becomes ctx .inner w := hv.becomes_settle hset
  have hproper : w.Proper ctx.schema types F := hv.becomes hF hw
  have hparts : w.parts ctx.schema F = (v.parts ctx.schema run.store).map (Part.settle ctx) :=
    v.parts_settle hcell
  obtain ⟨_, tasks', hopen⟩ := exists_opening_again hfam hv hw hcache h hcache' hheld
  obtain ⟨rfl, _, _⟩ := of_opening hopen
  refine ⟨hparts, w.found_known (fun _ _ he => hcache'.lookup (hproper.type_of_record he)) hcache',
    tasks', hopen, ?_⟩
  rw [← hparts]
  exact forall₂_for hfam (fun _ _ => hproper.type_of_record) hcache' hopen

end

/-- **A walk can be taken again on what it left**: it changes nothing then, and its journal repeats
that of the first. -/
theorem walk_again (hfam : ctx.schema.Family types) (hset : ctx.SettlesLeaves types) (room : Nat) :
    WalksAgain ctx types room := by
  induction room with
  | zero =>
    intro v path s j w s' F cache h
    cases h
  | succ room ih =>
    intro v path s j w s' F cache h hv hcache hcache' hheld hF
    obtain ⟨run, tasks, ws, left, hopen, hfree, hfor, hproper, hfound, htasks, rfl, rfl⟩ :=
      h.exists_tasks hfam hset hv hcache
    obtain ⟨rfl, hs⟩ :=
      walkTasks_settle hset (walk_settles hfam hset room) hfor hproper hfound htasks
    obtain ⟨hsettles, hleft, hwritten⟩ := hs.leave hset hv hfree
    have hcell (c : CellId) (hc : v = .shared c) :
        (F.cell c).content = (s.store.cell c).content.settle ctx .inner := by
      have hbecomes := hF c
      rw [hwritten c hc] at hbecomes
      exact hbecomes.eq_settle ((hc ▸ hv).content.steady hset
        (ctx.steadyAt_of_settled fun _ => rfl))
    obtain ⟨hparts, hfound', tasks', hopen', hfor'⟩ :=
      opening_again hfam hset hv hcache hopen hcache' hheld (hsettles.becomes.trans hF) hcell
    rw [v.refill_settle s.store]
    let w := v.settle ctx .inner
    have hheld' : (w.heldIn F).held = (v.heldIn s.store).held := by
      rw [w.held_heldIn, v.held_heldIn, (hv.becomes_settle hset).entered_eq, hheld]
    have hF' : left.store.Becomes ctx (w.heldIn F) :=
      (hleft.trans hF).trans (.of_cells (w.cells_heldIn F))
    obtain ⟨j', cache', htasks', hcache'', hj⟩ :=
      walkTasks_again hfam hset ih hfor hfor' hproper hfound hfound' hheld' hF' htasks
    have hws : (v.parts ctx.schema s.store).map (fun p => (p.settle ctx).value)
        = (w.parts ctx.schema F).map Part.value := by
      rw [hparts, List.map_map]
      rfl
    rw [hws] at htasks'
    refine ⟨j', cache', ⟨_, tasks', _, ⟨w.heldIn F, cache'⟩, hopen', htasks',
      (w.refill_self ctx.schema F).symm, ?_⟩, hcache'', hj⟩
    rw [w.leave_parts ctx.schema F rfl]
    rfl

/-! ## Two runs -/

/-- A run that went through the whole value, whatever was rejected on the way. -/
def Engine.Validation.Completes (r : Engine.Validation) : Prop :=
  (∃ issues, r.result = .ok issues) ∨
    ∃ rejected issues, r.result = .error (.rejected rejected issues)

/-- The rejections that a complete run tells of. -/
def Engine.Validation.rejected (r : Engine.Validation) : List RuleError :=
  match r.result with
  | .error (.rejected rejected _) => rejected
  | _ => []

/-- A run that tells of a rejection is complete. -/
theorem Engine.Validation.completes_of_rejected (r : Engine.Validation) (h : r.rejected ≠ []) :
    r.Completes := by
  rw [rejected] at h
  split at h
  · next rejected issues hresult => exact .inr ⟨rejected, issues, hresult⟩
  · exact absurd rfl h

section

variable {e : Engine} {schema : Schema} {v : Value} {store : Store}

/-- A run that completes was not stopped, and its root is no leaf. -/
theorem stop_of_completes {rootType : Typ}
    (h : (e.validate schema rootType v store).Completes) : (∀ l, v ≠ .leaf l) ∧
      (e.visitRoot schema v store).stop = none := by
  have hne (l : Leaf) : v ≠ .leaf l := by
    rintro rfl
    obtain ⟨_, h⟩ | ⟨_, _, h⟩ := h <;> cases h
  refine ⟨hne, ?_⟩
  cases hstop : (e.visitRoot schema v store).stop with
  | none => rfl
  | some err =>
    have hissues : err.issues? = none := (stops_of_visit hstop).issues?_eq_none
    obtain ⟨_, h⟩ | ⟨_, _, h⟩ := h
    · cases h.symm.trans (e.result_of_stop schema rootType store hne hstop)
    · obtain rfl := Except.error.inj
        ((e.result_of_stop schema rootType store hne hstop).symm.trans h)
      cases hissues

/-- A run completes if a walk goes through the value. -/
theorem accounted_of_root (rootType : Typ) {ctx : Context} (hctx : e.context schema = ctx)
    (hne : ∀ l, v ≠ .leaf l) {j : List FieldVisit} {w : Value} {s : Stage}
    (h : Walk ctx ctx.room v "" ⟨store, e.cache⟩ j w s) :
    (e.validate schema rootType v store).value = w ∧
      (e.validate schema rootType v store).store = s.store ∧
      (e.validate schema rootType v store).engine.cache = s.cache ∧
      (e.validate schema rootType v store).Accounted ctx j := by
  have hvisit : e.visitRoot schema v store = ⟨w, s.run (Report.empty.add ctx j), none⟩ := by
    rw [Engine.visitRoot, hctx]
    exact visit_of_walk h .empty
  obtain ⟨hvalue, hstore⟩ := e.left_validate schema rootType store hne
  refine ⟨by rw [hvalue, hvisit], by rw [hstore, hvisit]; rfl,
    by rw [e.cache_validate, hvisit]; rfl, accounted_of_walk h.happened ?_⟩
  rw [e.result_of_none schema rootType store hne (by rw [hvisit]), hvisit]
  rfl

/-- What is accounted for is complete, and its rejections are those of the journal. -/
theorem Engine.Validation.Accounted.completes {ctx : Context} {r : Engine.Validation}
    {j : List FieldVisit} (h : r.Accounted ctx j) :
    r.Completes ∧ r.rejected = j.filterMap (FieldVisit.rejection? ctx) := by
  cases hresult : r.result with
  | ok issues =>
    have hnone : ∀ f ∈ j, f.refusal? = none := h.accepted.mp ⟨issues, hresult⟩
    have hrejection (f : FieldVisit) (hf : f ∈ j) : f.rejection? ctx = none := by
      rw [FieldVisit.rejection?, hnone f hf]
      cases f.attempt? <;> rfl
    refine ⟨.inl ⟨issues, hresult⟩, ?_⟩
    rw [Engine.Validation.rejected, hresult, List.filterMap_eq_nil_iff.mpr hrejection]
  | error err =>
    obtain ⟨herr, _⟩ := h.rejected err hresult
    refine ⟨.inr ⟨_, _, hresult.trans (congrArg _ herr)⟩, ?_⟩
    rw [Engine.Validation.rejected, hresult, herr]

end

theorem filterMap_of_repeats {j j' : List FieldVisit}
    (h : List.Forall₂ (FieldVisit.Repeats ctx) j j') :
    j'.filterMap (FieldVisit.rejection? ctx) = j.filterMap (FieldVisit.rejection? ctx) := by
  induction h with
  | nil => rfl
  | cons hf _ ih => rw [List.filterMap_cons, List.filterMap_cons, hf.rejection, ih]

/-- **A second run is stable.**  Take record types with identities of their own, with mappers on
leaf fields only, where a chain of mappers changes a form once at most and a leaf that takes a
mapped form shows it; an engine after any calls about them; and a value of them, with cells or
without.  If a run goes through the whole value, so does a second run on what the first one left.
It leaves everything as it is, rejects the same in the same order, and runs the same rules at the
same places, with the same issues at leaf fields. -/
theorem second_run_stable (registry : Registry) (settings : Settings) (schema : Schema)
    (types : String → Prop) (hfam : schema.Family types)
    (hset : ((Engine.new registry settings).context schema).SettlesLeaves types)
    (calls : List Call) (hcalls : ∀ call ∈ calls, call.Over types) (rootType : Typ) (v : Value)
    (store : Store) (hv : v.Proper schema types store)
    (hdone : (((Engine.new registry settings).after schema calls).validate schema rootType v
      store).Completes) :
    let ctx := (Engine.new registry settings).context schema
    let e := (Engine.new registry settings).after schema calls
    let first := e.validate schema rootType v store
    let second := first.engine.validate schema rootType first.value first.store
    second.Completes ∧ second.value = first.value ∧ second.store = first.store ∧
      second.rejected = first.rejected ∧
      ∃ j j', Walk ctx ctx.room v "" ⟨store, e.cache⟩ j first.value
          ⟨first.store, first.engine.cache⟩ ∧
        Walk ctx ctx.room first.value "" ⟨first.store, first.engine.cache⟩ j' second.value
          ⟨second.store, second.engine.cache⟩ ∧
        first.Accounted ctx j ∧ second.Accounted ctx j' ∧
        List.Forall₂ (FieldVisit.Repeats ctx) j j' := by
  intro ctx e first second
  obtain ⟨hctx, hcache⟩ := comes_after_over registry settings hfam hcalls
  obtain ⟨hne, hstop⟩ := stop_of_completes hdone
  obtain ⟨j, hwalk, hacc⟩ := exists_accounted rootType hne hstop
  rw [hctx] at hwalk hacc
  obtain ⟨hvalue, hsettles⟩ := walk_settles hfam hset ctx.room hwalk hv hcache
  obtain ⟨j', cache', hwalk', _, hj⟩ := walk_again hfam hset ctx.room hwalk hv hcache hsettles.known
    hsettles.held (.refl _)
  have hne' (l : Leaf) : first.value ≠ .leaf l := hvalue ▸ Value.settle_ne_leaf hne l
  have hctx' : first.engine.context schema = ctx :=
    (e.context_call schema (.validate rootType v store)).trans hctx
  obtain ⟨hvalue', hstore', hcache', hacc'⟩ :=
    accounted_of_root rootType hctx' hne' hwalk'
  obtain ⟨hdone', hrejected'⟩ := hacc'.completes
  refine ⟨hdone', hvalue', hstore', ?_, j, j', hwalk, ?_, hacc, hacc', hj⟩
  · rw [hrejected', hacc.completes.2, filterMap_of_repeats hj]
  · rw [hvalue', hstore', hcache']
    exact hwalk'

/-! ### A tally that is visited twice -/

/-- A tally has a loud name, and a count that is to become a text. -/
def tallySchema : Schema :=
  ⟨[("Tally", ⟨"Tally", "Tally", "Tally",
    [⟨⟨"name", some "shout,", none⟩, "name", .scalar .text⟩,
      ⟨⟨"count", some "shout,", none⟩, "count", .scalar (.int .i64)⟩], 2⟩)]⟩

/-- One tally, in a cell that is met twice. -/
def tallies : Value := .sequence [.shared 0, .shared 0]

def tally : Value := .record "Tally" [.leaf (.text "a"), .leaf (.int 5)]

def tallyStore : Store := ⟨[⟨.record "Tally", tally⟩], []⟩

theorem mem_fields_tally {f : RecordField} (hf : f ∈ (tallySchema.record "Tally").fields) :
    f.decl.tag = some "shout," ∧ (f.typ = .scalar .text ∨ f.typ = .scalar (.int .i64)) := by
  obtain rfl | rfl : f = ⟨⟨"name", some "shout,", none⟩, "name", .scalar .text⟩ ∨
      f = ⟨⟨"count", some "shout,", none⟩, "count", .scalar (.int .i64)⟩ := by
    simpa [tallySchema, Schema.record] using hf
  · exact ⟨rfl, .inl rfl⟩
  · exact ⟨rfl, .inr rfl⟩

theorem family_tally : tallySchema.Family (· = "Tally") := by
  refine ⟨fun m n hm hn _ => hm.trans hn.symm, fun name hname f hf => ?_⟩
  obtain rfl := hname
  obtain ⟨_, hk | hk⟩ := mem_fields_tally hf <;>
  · rw [hk]
    trivial

/-- The rule of a loud field maps all to one text. -/
theorem map_shout {owner : String} {d : FieldDecl} {planned : PlannedField}
    (htag : d.tag = some "shout,")
    (h : Plan.compileField voiceRegistry owner d = .ok planned) (form : Json) :
    planned.rule.map form = some (.str "A") := by
  obtain ⟨_, _, ⟨hnone, _⟩ | ⟨tag, htag', hrule⟩⟩ := of_compileField h
  · cases htag.symm.trans hnone
  · obtain rfl := Option.some.inj (htag.symm.trans htag')
    have hcompile : Rule.compile voiceRegistry "shout,"
        = .ok ⟨some "shout,", [("shout", fun _ => some (.str "A"))], []⟩ := rfl
    rw [← Except.ok.inj (hcompile.symm.trans hrule)]
    rfl

theorem settlesLeaves_tally :
    ((Engine.new voiceRegistry .initial).context tallySchema).SettlesLeaves (· = "Tally") := by
  intro name hname f hf _
  obtain rfl := hname
  obtain ⟨htag, hk⟩ := mem_fields_tally hf
  have hidempotent {planned : PlannedField} (hplanned : Plan.compileField voiceRegistry "Tally"
      f.decl = .ok planned) (form w : Json) (hw : planned.rule.map form = some w) :
      w = .str "A" ∧ (planned.rule.map w).getD w = w := by
    rw [map_shout htag hplanned] at hw
    obtain rfl := Option.some.inj hw
    exact ⟨rfl, by rw [map_shout htag hplanned, Option.getD_some]⟩
  obtain hk | hk := hk
  · refine ⟨_, hk, fun planned hplanned =>
      ⟨fun form w hw => (hidempotent hplanned form w hw).2, fun form w l hw hread => ?_⟩⟩
    obtain rfl := (hidempotent hplanned form w hw).1
    obtain rfl := Except.ok.inj hread
    rfl
  · refine ⟨_, hk, fun planned hplanned =>
      ⟨fun form w hw => (hidempotent hplanned form w hw).2, fun form w l hw hread => ?_⟩⟩
    obtain rfl := (hidempotent hplanned form w hw).1
    cases hread

theorem leaf_of_mem_tally {p : Part} (hp : p ∈ tally.parts tallySchema tallyStore) :
    ∃ l, p.value = .leaf l := by
  have hmem : p.value ∈ (tally.parts tallySchema tallyStore).map Part.value :=
    List.mem_map_of_mem hp
  rw [tally, Value.values_parts_record] at hmem
  obtain ⟨q, hq, heq⟩ := List.mem_map.mp hmem
  have hslot : p.value ∈ [Value.leaf (.text "a"), .leaf (.int 5)] :=
    heq ▸ List.mem_of_mem_take (List.of_mem_zip hq).2
  obtain hp | hp : p.value = .leaf (.text "a") ∨ p.value = .leaf (.int 5) := by simpa using hslot
  · exact ⟨_, hp⟩
  · exact ⟨_, hp⟩

/-- A record below the tallies is the tally. -/
theorem eq_tally_of_below {name : String} {slots : List Value}
    (h : Below tallySchema tallyStore tallies (.record name slots)) :
    .record name slots = tally := by
  have hbelow := h.of_closed
    (P := fun w => w = tallies ∨ w = .shared 0 ∨ w = tally ∨ ∃ l, w = .leaf l) ?_ (.inl rfl)
  · obtain h | h | h | ⟨_, h⟩ := hbelow
    · cases h
    · cases h
    · exact h
    · cases h
  · rintro _ (rfl | rfl | rfl | ⟨l, rfl⟩) p hp
    · have hmem : p.value ∈ (tallies.parts tallySchema tallyStore).map Part.value :=
        List.mem_map_of_mem hp
      rw [tallies, Value.values_parts_sequence] at hmem
      exact .inr (.inl (by simpa using hmem))
    · obtain rfl := List.mem_singleton.mp hp
      exact .inr (.inr (.inl rfl))
    · exact .inr (.inr (.inr (leaf_of_mem_tally hp)))
    · cases hp

theorem proper_tallies : tallies.Proper tallySchema (· = "Tally") tallyStore := by
  refine ⟨fun name slots hb => (Value.record.inj (eq_tally_of_below hb)).1,
    fun u hb p hp name i f k hsite hf hk => ?_⟩
  obtain ⟨slots, rfl⟩ := Value.owner_of_mem_parts hp hsite
  rw [eq_tally_of_below hb] at hp
  exact leaf_of_mem_tally hp

/-- The count is refused at both visits of the tally; a second run refuses it twice again, and
changes nothing. -/
theorem second_run_stable_tallies :
    let first := (Engine.new voiceRegistry .initial).validate tallySchema
      (.seq .vector (.shared (.record "Tally"))) tallies tallyStore
    let second := first.engine.validate tallySchema (.seq .vector (.shared (.record "Tally")))
      first.value first.store
    first.rejected.length = 2 ∧ second.rejected = first.rejected ∧ second.value = first.value ∧
      second.store = first.store := by
  intro first second
  have htwo : first.rejected.length = 2 := by decide +kernel
  have hdone : first.Completes := by
    refine first.completes_of_rejected fun hnone => ?_
    rw [hnone] at htwo
    cases htwo
  obtain ⟨_, hvalue, hstore, hrejected, _⟩ := second_run_stable voiceRegistry .initial tallySchema
    (· = "Tally") family_tally settlesLeaves_tally [] nofun
    (.seq .vector (.shared (.record "Tally"))) tallies tallyStore proper_tallies hdone
  exact ⟨htwo, hrejected, hvalue, hstore⟩

end FieldRules
