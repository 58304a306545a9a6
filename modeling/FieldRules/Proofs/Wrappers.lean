import FieldRules.Proofs.Limit

/-!
# Proofs/Wrappers — options, boxes and cells around a root

A wrapper around a root takes one level and adds no step to paths.  So a run over a value in some
wrappers is the run over the value with that many levels less, and leaves in the wrappers what that
run leaves (`wrappers_transparent`).  The cells among the wrappers are held all the time, which the
value in them does not notice.
-/

namespace FieldRules

/-! ## Wrapped values -/

/-- What can be around a value: an option, a box, or a shared cell. -/
inductive Wrapper where
  | option
  | box
  | cell (c : CellId)

namespace Wrapper

/-- A value in a wrapper; it is the cell's business to have the value in it. -/
def wrap : Wrapper → Value → Value
  | option, v => .present v
  | box, v => .boxed v
  | cell c, _ => .shared c

/-- The cell that a wrapper is. -/
def cell? : Wrapper → Option CellId
  | cell c => some c
  | _ => none

/-- A value in some wrappers, the outermost first. -/
def wrapAll (ws : List Wrapper) (v : Value) : Value := ws.foldr wrap v

/-- The cells among some wrappers, the outermost first. -/
def cells (ws : List Wrapper) : List CellId := ws.filterMap cell?

end Wrapper

namespace Store

/-- The cells among some wrappers around a value have in them what they are to wrap. -/
def Wraps (s : Store) (v : Value) : List Wrapper → Prop
  | [] => True
  | w :: ws => (∀ c, w = .cell c → (s.cell c).content = Wrapper.wrapAll ws v) ∧ s.Wraps v ws

/-- The store with a value, and the wrappers around it, written into the cells among them. -/
def rewrap (s : Store) (v : Value) : List Wrapper → Store
  | [] => s
  | .cell c :: ws => (s.rewrap v ws).write c (Wrapper.wrapAll ws v)
  | _ :: ws => s.rewrap v ws

variable {s : Store} {v : Value}

theorem held_rewrap (s : Store) (v : Value) (ws : List Wrapper) :
    (s.rewrap v ws).held = s.held := by
  induction ws with
  | nil => rfl
  | cons w ws ih => cases w <;> exact ih

theorem length_rewrap (s : Store) (v : Value) (ws : List Wrapper) :
    (s.rewrap v ws).cells.length = s.cells.length := by
  induction ws with
  | nil => rfl
  | cons w ws ih =>
    cases w with
    | cell c => exact (length_write _ c _).trans ih
    | _ => exact ih

/-- What is written into wrappers does not depend on who holds them. -/
theorem rewrap_holdAll (s : Store) (cells : List CellId) (v : Value) (ws : List Wrapper) :
    (s.holdAll cells).rewrap v ws = (s.rewrap v ws).holdAll cells := by
  induction ws with
  | nil => rfl
  | cons w ws ih =>
    cases w with
    | cell c => exact congrArg (write · c _) ih
    | _ => exact ih

theorem Wraps.of_cells {s' : Store} {ws : List Wrapper} (h : s.Wraps v ws)
    (hcells : s'.cells = s.cells) : s'.Wraps v ws := by
  induction ws with
  | nil => trivial
  | cons w ws ih =>
    refine ⟨fun c hc => ?_, ih h.2⟩
    rw [cell, hcells]
    exact h.1 c hc

/-- A cell outside the wrappers can be written without any effect on them. -/
theorem Wraps.write {ws : List Wrapper} (h : s.Wraps v ws) {c : CellId}
    (hc : c ∉ Wrapper.cells ws) (w : Value) : (s.write c w).Wraps v ws := by
  induction ws with
  | nil => trivial
  | cons w' ws ih =>
    refine ⟨fun d hd => ?_, ih h.2 fun hmem => hc ?_⟩
    · subst hd
      have hne : d ≠ c := fun heq => hc (heq ▸ List.mem_cons_self)
      rw [cell_write_of_ne hne]
      exact h.1 d rfl
    · cases w' with
      | cell d => exact List.mem_cons_of_mem d hmem
      | _ => exact hmem

/-- **What was written into wrappers is in them.** -/
theorem wraps_rewrap {ws : List Wrapper} (hnodup : (Wrapper.cells ws).Nodup)
    (hmade : ∀ c ∈ Wrapper.cells ws, c < s.cells.length) : (s.rewrap v ws).Wraps v ws := by
  induction ws with
  | nil => trivial
  | cons w ws ih =>
    cases w with
    | cell c =>
      obtain ⟨hc, hnodup⟩ := List.nodup_cons.mp hnodup
      obtain ⟨hlt, hmade⟩ := List.forall_mem_cons.mp hmade
      refine ⟨fun d hd => ?_, (ih hnodup hmade).write hc _⟩
      cases hd
      rw [rewrap, content_write ((length_rewrap s v ws).symm ▸ hlt)]
    | _ => exact ⟨nofun, ih hnodup hmade⟩

end Store

/-! ## Visits of wrapped values -/

/-- A free cell is visited by a visit of what is in it. -/
theorem visit_shared {ctx : Context} {room : Nat} {path : String} {c : CellId} {run : Run}
    {o : Visit Value} (hfree : run.store.isHeld c = false)
    (ho : visit ctx room (run.store.cell c).content path
      { run with store := run.store.hold c } = o) :
    visit ctx (room + 1) (.shared c) path run =
      ⟨.shared c, { o.run with store := (o.run.store.write c o.value).release c }, o.stop⟩ := by
  rw [← ho]
  simp only [visit, Context.enter, hfree, Bool.false_eq_true, if_false]

/-- A visit with its value in wrappers, where some cells are held. -/
def Visit.wrapAll (o : Visit Value) (ws : List Wrapper) (held : List CellId) : Visit Value :=
  ⟨Wrapper.wrapAll ws o.value,
    { o.run with store := ⟨(o.run.store.rewrap o.value ws).cells, held⟩ }, o.stop⟩

theorem Store.release_write (cells : List Cell) (held : List CellId) (c : CellId) (v : Value) :
    ((⟨cells, c :: held⟩ : Store).write c v).release c =
      ⟨((⟨cells, held⟩ : Store).write c v).cells, held⟩ := by
  simp only [release, write, List.erase_cons_head]

/-- **A visit of a wrapped value visits the value**, with the cells among the wrappers held, and
wraps what it leaves. -/
theorem visit_wrapAll {ctx : Context} (room : Nat) (v : Value) (path : String) (ws : List Wrapper)
    (run : Run) (hwraps : run.store.Wraps v ws)
    (hfree : ∀ c ∈ Wrapper.cells ws, run.store.isHeld c = false)
    (hnodup : (Wrapper.cells ws).Nodup) :
    visit ctx (room + ws.length) (Wrapper.wrapAll ws v) path run =
      (visit ctx room v path
        { run with store := run.store.holdAll (Wrapper.cells ws).reverse }).wrapAll ws
          run.store.held := by
  induction ws generalizing run with
  | nil =>
    have hheld : (visit ctx room v path run).run.store.held = run.store.held :=
      held_visit ctx room v path run
    rw [← hheld]
    rfl
  | cons w ws ih =>
    cases w with
    | option => exact congrArg (Visit.map Value.present) (ih run hwraps.2 hfree hnodup)
    | box => exact congrArg (Visit.map Value.boxed) (ih run hwraps.2 hfree hnodup)
    | cell c =>
      obtain ⟨hc, hnodup⟩ := List.nodup_cons.mp hnodup
      obtain ⟨hcfree, hfree⟩ := List.forall_mem_cons.mp hfree
      have hfree' : ∀ d ∈ Wrapper.cells ws, (run.store.hold c).isHeld d = false := by
        intro d hd
        have hne : d ≠ c := fun heq => hc (heq ▸ hd)
        rw [Store.isHeld_hold, hfree d hd, decide_eq_false hne]
        rfl
      have hheld : (run.store.hold c).holdAll (Wrapper.cells ws).reverse =
          run.store.holdAll (Wrapper.cells (.cell c :: ws)).reverse := by
        simp [Store.holdAll, Store.hold, Wrapper.cells, Wrapper.cell?]
      have hinner := ih { run with store := run.store.hold c } (hwraps.2.of_cells rfl) hfree' hnodup
      rw [← hwraps.1 c rfl, hheld] at hinner
      refine (visit_shared hcfree hinner).trans ?_
      simp only [Visit.wrapAll, Store.hold, Store.release_write]
      rfl

/-- **A visit of a wrapped value is that of the value**, under another limit, if the value does not
refer to the cells among the wrappers. -/
theorem visit_wrapped {ctx : Context} {live : CellId → Prop} {v : Value} {ws : List Wrapper}
    {run : Run} (hlive : run.store.Encloses live) (hv : v.Within (fun _ => True) live)
    (hwraps : run.store.Wraps v ws)
    (hfree : ∀ c ∈ Wrapper.cells ws, run.store.isHeld c = false ∧ ¬ live c)
    (hnodup : (Wrapper.cells ws).Nodup) (maxDepth room : Nat) (path : String) :
    let o := visit ctx room v path run
    visit (ctx.limit maxDepth) (room + ws.length) (Wrapper.wrapAll ws v) path run =
      ⟨Wrapper.wrapAll ws o.value, { o.run with store := o.run.store.rewrap o.value ws },
        o.stop.map (Error.limit maxDepth)⟩ := by
  intro o
  have hout : ∀ c ∈ (Wrapper.cells ws).reverse, ¬ live c := fun c hc =>
    (hfree c (List.mem_reverse.mp hc)).2
  have hstore : (⟨((o.run.store.holdAll (Wrapper.cells ws).reverse).rewrap o.value ws).cells,
      run.store.held⟩ : Store) = o.run.store.rewrap o.value ws := by
    rw [Store.rewrap_holdAll, ← held_visit ctx room v path run,
      ← Store.held_rewrap o.run.store o.value ws]
    rfl
  rw [visit_wrapAll room v path ws run hwraps (fun c hc => (hfree c hc).1) hnodup,
    visit_limit _ hlive hv hout, Visit.wrapAll]
  exact congrArg (fun s => Visit.mk _ (Run.mk s _ _) _) hstore

/-! ## Whole runs -/

theorem Wrapper.wrapAll_ne_leaf {v : Value} (hv : ∀ l, v ≠ .leaf l) :
    ∀ (ws : List Wrapper) (l : Leaf), wrapAll ws v ≠ .leaf l
  | [] => hv
  | .option :: _ => nofun
  | .box :: _ => nofun
  | .cell _ :: _ => nofun

/-- A visit that ends under another limit ends with the same, apart from the limit. -/
theorem Visit.result_limit {α : Type} {o o' : Visit α} {maxDepth : Nat}
    (hstop : o'.stop = o.stop.map (Error.limit maxDepth)) (hreport : o'.run.report = o.run.report) :
    o'.result = o.result.mapError (Error.limit maxDepth) := by
  rw [result, result, hstop, hreport]
  cases o.stop with
  | some e => rfl
  | none =>
    simp only [Option.map_none, Report.result]
    cases o.run.report.rejected.isEmpty <;> rfl

/-- **Wrappers around a root are transparent.**  Take a value that is no leaf and spans some cells,
and wrappers around it: options, boxes, and cells that are free and none of which the value spans.
Under a limit that is higher by the number of wrappers, the wrapped value ends as the value does,
apart from the limit in an error.  The wrappers have in them then what the run over the value
leaves, and all else is the same: the other cells, and the plans. -/
theorem wrappers_transparent (registry : Registry) (displayNames : Bool) (cache : PlanCache)
    (schema : Schema) (rootType rootType' : Typ) (v : Value) (store : Store)
    (cells : CellId → Prop) (ws : List Wrapper) (maxDepth : Nat) (hroot : ∀ l, v ≠ .leaf l)
    (hspans : v.Spans (fun _ => True) store cells) (hwraps : store.Wraps v ws)
    (hfree : ∀ c ∈ Wrapper.cells ws, c < store.cells.length ∧ store.isHeld c = false ∧ ¬ cells c)
    (hnodup : (Wrapper.cells ws).Nodup) :
    let engine (maxDepth : Nat) : Engine := ⟨registry, ⟨maxDepth, displayNames⟩, cache⟩
    let bare := (engine maxDepth).validate schema rootType v store
    let wrapped := (engine (maxDepth + ws.length)).validate schema rootType'
      (Wrapper.wrapAll ws v) store
    wrapped.result = bare.result.mapError (Error.limit (maxDepth + ws.length)) ∧
      wrapped.value = Wrapper.wrapAll ws bare.value ∧
      wrapped.store = bare.store.rewrap bare.value ws ∧ wrapped.store.Wraps bare.value ws ∧
      wrapped.engine.cache = bare.engine.cache := by
  intro engine bare wrapped
  let o := (engine maxDepth).visitRoot schema v store
  let o' := (engine (maxDepth + ws.length)).visitRoot schema (Wrapper.wrapAll ws v) store
  have hencloses : store.Encloses (store.AndNew cells) :=
    ⟨hspans.alike_id.fresh, hspans.alike_id.within⟩
  have hout : ∀ c ∈ Wrapper.cells ws, store.isHeld c = false ∧ ¬ store.AndNew cells c := by
    intro c hc
    obtain ⟨hlt, hheld, hcell⟩ := hfree c hc
    exact ⟨hheld, fun h => h.elim hcell (Nat.not_le_of_lt hlt)⟩
  have hroom : maxDepth + ws.length + 1 = maxDepth + 1 + ws.length := Nat.add_right_comm _ _ _
  have hvisit : o' = ⟨Wrapper.wrapAll ws o.value,
      { o.run with store := o.run.store.rewrap o.value ws },
      o.stop.map (Error.limit (maxDepth + ws.length))⟩ := by
    have h : visit (((engine maxDepth).context schema).limit (maxDepth + ws.length))
        (maxDepth + 1 + ws.length) (Wrapper.wrapAll ws v) "" ⟨store, cache, .empty⟩ = _ :=
      visit_wrapped hencloses hspans.within hwraps hout hnodup _ _ _
    rw [← hroom] at h
    exact h
  have hbare : bare = _ := (engine maxDepth).validate_eq_visitRoot schema rootType store hroot
  have hwrapped : wrapped = _ := (engine (maxDepth + ws.length)).validate_eq_visitRoot schema
    rootType' store (Wrapper.wrapAll_ne_leaf hroot ws)
  have hmade : ∀ c ∈ Wrapper.cells ws, c < o.run.store.cells.length := fun c hc =>
    (hfree c hc).1.trans_le (kept_store.visit _ v "" ⟨store, cache, .empty⟩).2
  rw [hbare, hwrapped]
  change o'.result = o.result.mapError _ ∧ o'.value = Wrapper.wrapAll ws o.value ∧
    o'.run.store = o.run.store.rewrap o.value ws ∧ o'.run.store.Wraps o.value ws ∧
    o'.run.cache = o.run.cache
  rw [hvisit]
  exact ⟨Visit.result_limit rfl rfl, rfl, rfl, Store.wraps_rewrap hnodup hmade, rfl⟩

/-! ### The reply to a note, in three wrappers -/

/-- The cell with the text of the note, and one with the boxed reply. -/
def mailbox : Store :=
  ⟨[⟨.scalar .text, .leaf (.text "a")⟩, ⟨.box (.record "Note"), .boxed noteReplied⟩], []⟩

theorem spans_noteReplied : noteReplied.Spans (fun _ => True) mailbox (· = 0) := by
  have htext : (Value.shared 0).Within (fun _ => True) (· = 0) := .shared rfl
  have hnote : note.Within (fun _ => True) (· = 0) :=
    .record trivial (List.forall_mem_cons.mpr ⟨htext, List.forall_mem_singleton.mpr .absent⟩)
  refine ⟨.record trivial (List.forall_mem_cons.mpr ⟨htext, List.forall_mem_singleton.mpr
    (.present (.boxed hnote))⟩), ?_, ?_⟩
  · rintro _ rfl
    exact Nat.two_pos
  · rintro _ rfl
    exact .leaf _

/-- In an option around a cell with a box, the reply is too deep for three levels more. -/
theorem wrappers_transparent_noteReplied :
    let ws : List Wrapper := [.option, .cell 1, .box]
    let engine (maxDepth : Nat) : Engine := ⟨noteRegistry, ⟨maxDepth, true⟩, .empty⟩
    let bare := (engine 3).validate noteSchema (.record "Note") noteReplied mailbox
    let wrapped := (engine 6).validate noteSchema (.option (.shared (.box (.record "Note"))))
      (Wrapper.wrapAll ws noteReplied) mailbox
    (noteReplied.Spans (fun _ => True) mailbox (· = 0) ∧ mailbox.Wraps noteReplied ws) ∧
      wrapped.result = bare.result.mapError (Error.limit 6) ∧
      wrapped.value = Wrapper.wrapAll ws bare.value ∧
      wrapped.store = bare.store.rewrap bare.value ws ∧ wrapped.store.Wraps bare.value ws ∧
      wrapped.engine.cache = bare.engine.cache := by
  intro ws engine bare wrapped
  have hwraps : mailbox.Wraps noteReplied ws :=
    ⟨nofun, fun c hc => by cases hc; rfl, nofun, trivial⟩
  have hfree : ∀ c ∈ Wrapper.cells ws, c < mailbox.cells.length ∧ mailbox.isHeld c = false ∧
      ¬ c = 0 := by
    intro c hc
    obtain rfl := List.mem_singleton.mp hc
    exact ⟨Nat.one_lt_two, rfl, Nat.one_ne_zero⟩
  exact ⟨⟨spans_noteReplied, hwraps⟩, wrappers_transparent noteRegistry true .empty noteSchema
    (.record "Note") (.option (.shared (.box (.record "Note")))) noteReplied mailbox (· = 0) ws 3
    nofun spans_noteReplied hwraps hfree (List.nodup_singleton 1)⟩

example : ((Engine.mk noteRegistry ⟨6, true⟩ .empty).validate noteSchema
    (.option (.shared (.box (.record "Note"))))
    (Wrapper.wrapAll [.option, .cell 1, .box] noteReplied) mailbox).result
      = .error (.tooDeep "reply.text" 6) := by rfl

end FieldRules
