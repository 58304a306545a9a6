import FieldRules.Proofs.Lockstep

/-!
# Proofs/Transparent — kept plans cannot be seen

Whatever an engine was used for before, a run on it is the run on a new engine, as long as its
record types have identities of their own.  In one store, the runs of two values without common
cells do not see each other either, but for the numbers of new cells (`plans_transparent`).
-/

namespace FieldRules

variable {types : String → Prop} {live : CellId → Prop} {f : CellId → CellId} {schema : Schema}

/-! ## Values and the cells they span -/

/-- The cells that a value spans were made, and the value and their contents refer to no others; all
records in them are of certain types. -/
structure Value.Spans (types : String → Prop) (store : Store) (v : Value) (cells : CellId → Prop) :
    Prop where
  value : v.Within types cells
  made : ∀ c, cells c → c < store.cells.length
  content : ∀ c, cells c → (store.cell c).content.Within types cells

/-- A call about certain types. -/
def Call.Over (types : String → Prop) : Call → Prop
  | validate _ v store => ∃ cells, v.Spans types store cells
  | precompile name => types name

/-- Some cells, and all that are not made yet. -/
def Store.AndNew (s : Store) (cells : CellId → Prop) (c : CellId) : Prop :=
  cells c ∨ s.cells.length ≤ c

/-- Cells that were made before stay, and the new cells of a store come after those of another. -/
def Store.renumber (s s' : Store) (c : Nat) : Nat :=
  if c < s.cells.length then c else s'.cells.length + (c - s.cells.length)

namespace Store

variable {s s' : Store} {c : Nat}

theorem renumber_of_lt (h : c < s.cells.length) (s' : Store) : s.renumber s' c = c := if_pos h

theorem renumber_of_le (h : s.cells.length ≤ c) (s' : Store) :
    s.renumber s' c = s'.cells.length + (c - s.cells.length) := if_neg (Nat.not_lt_of_le h)

theorem renumber_self (s : Store) (c : CellId) : s.renumber s c = c := by
  rcases Nat.lt_or_ge c s.cells.length with h | h
  · exact renumber_of_lt h s
  · rw [renumber_of_le h, Nat.add_sub_cancel' h]

/-- A cell is held under its new number if it was, as long as only cells that were made are held. -/
theorem isHeld_renumber (hheld : s'.held = s.held) (hmade : ∀ c ∈ s.held, c < s.cells.length)
    (hlen : s.cells.length ≤ s'.cells.length) (c : CellId) :
    s'.isHeld (s.renumber s' c) = s.isHeld c := by
  have hfree : ∀ d, s.cells.length ≤ d → s.held.contains d = false := fun d hd => by
    rw [Bool.eq_false_iff, ne_eq, List.contains_iff_mem]
    exact fun hmem => Nat.not_lt_of_le hd (hmade d hmem)
  rw [isHeld, isHeld, hheld]
  rcases Nat.lt_or_ge c s.cells.length with hc | hc
  · rw [renumber_of_lt hc]
  · rw [renumber_of_le hc, hfree c hc, hfree _ (hlen.trans (Nat.le_add_right _ _))]

theorem renumber_inj (h : s.cells.length ≤ s'.cells.length) {d : Nat}
    (heq : s.renumber s' c = s.renumber s' d) : c = d := by
  simp only [renumber] at heq
  split at heq <;> split at heq <;> omega

end Store

namespace Value.Spans

variable {s s' : Store} {v : Value} {cells : CellId → Prop}

theorem within (h : v.Spans types s cells) : v.Within types (s.AndNew cells) :=
  h.value.mono (fun _ => id) fun _ => .inl

/-- The value keeps its cells when new ones get other numbers. -/
theorem rename_eq (h : v.Spans types s cells) : v.rename (s.renumber s') = v :=
  rename_eq_self h.value fun c hc => Store.renumber_of_lt (h.made c hc) s'

/-- **A store is like every other one that has the same in the cells of a value**, seen from the
value. -/
theorem alike (h : v.Spans types s cells) (hlen : s.cells.length ≤ s'.cells.length)
    (hcells : ∀ c, cells c → s'.cell c = s.cell c)
    (hheld : ∀ c, s'.isHeld (s.renumber s' c) = s.isHeld c) :
    s.Alike types (s.AndNew cells) (s.renumber s') s' := by
  refine ⟨fun c hc => .inr hc, fun c hc => ?_, fun c d _ _ heq => Store.renumber_inj hlen heq,
    fun k => ?_, fun c hc hlt => ?_, fun c hc => ?_, fun c _ => hheld c⟩
  · rcases hc with hc | hc
    · exact (h.content c hc).mono (fun _ => id) fun _ => .inl
    · rw [Store.cell_of_le hc]
      exact .leaf _
  · rw [Store.renumber_of_le (Nat.le_add_right _ k), Nat.add_sub_cancel_left]
  · rw [Store.renumber_of_lt hlt]
    exact hlt.trans_le hlen
  · rcases hc with hc | hc
    · have hcontent : (s.cell c).content.rename (s.renumber s') = (s.cell c).content :=
        rename_eq_self (h.content c hc) fun d hd => Store.renumber_of_lt (h.made d hd) s'
      rw [Store.renumber_of_lt (h.made c hc), hcells c hc, Cell.rename, hcontent]
    · rw [Store.renumber_of_le hc, Store.cell_eq_of_le hc (Nat.le_add_right _ _), Cell.rename,
        Store.cell_of_le hc, rename_leaf, ← Store.cell_of_le hc]

/-- A store is like itself. -/
theorem alike_self (h : v.Spans types s cells) :
    s.Alike types (s.AndNew cells) (s.renumber s) s :=
  h.alike (Nat.le_refl _) (fun _ _ => rfl) fun c => by rw [Store.renumber_self]

/-- …without any renaming. -/
theorem alike_id (h : v.Spans types s cells) : s.Alike types (s.AndNew cells) id s := by
  have hid : s.renumber s = id := funext s.renumber_self
  exact hid ▸ h.alike_self

end Value.Spans

/-! ## Runs -/

/-- Two runs with the same result that leave corresponding values in stores that are alike. -/
structure Engine.Validation.Mirrors (types : String → Prop) (live : CellId → Prop)
    (f : CellId → CellId) (r r' : Engine.Validation) : Prop where
  result : r'.result = r.result
  value : Corresponds types live f r.value r'.value
  store : r.store.Alike types live f r'.store

/-- **Runs of corresponding values are alike**, whatever plans are kept; afterwards the plans still
come from the types, and cells that are not live are as they were. -/
theorem validate_alike (ctx : Context) (hfam : ctx.schema.Family types) {e e' : Engine}
    (hctx : e.context ctx.schema = ctx) (hctx' : e'.context ctx.schema = ctx)
    (hcache : e.cache.Comes ctx types) (hcache' : e'.cache.Comes ctx types) {v : Value}
    {s s' : Store} (hv : v.Within types live) (hs : s.Alike types live f s') (rootType : Typ) :
    (e.validate ctx.schema rootType v s).Mirrors types live f
        (e'.validate ctx.schema rootType (v.rename f) s') ∧
      (e.validate ctx.schema rootType v s).engine.cache.Comes ctx types ∧
      ∀ c, ¬ live c → (e.validate ctx.schema rootType v s).store.cell c = s.cell c := by
  by_cases hleaf : ∃ l, v = .leaf l
  · obtain ⟨l, rfl⟩ := hleaf
    exact ⟨⟨rfl, ⟨hv, rfl⟩, hs⟩, hcache, fun _ _ => rfl⟩
  · have hne : ∀ l, v ≠ .leaf l := not_exists.mp hleaf
    have hne' : ∀ l, v.rename f ≠ .leaf l := by
      intro l h
      cases v <;> simp at h
      exact hne _ rfl
    have hvisit : (e.visitRoot ctx.schema v s).Alike ctx types live f (Corresponds types live f) s
        (e'.visitRoot ctx.schema (v.rename f) s') := by
      rw [Engine.visitRoot, Engine.visitRoot, hctx, hctx']
      exact visit_alike hfam _ v "" ⟨s, e.cache, .empty⟩ ⟨s', e'.cache, .empty⟩ hv
        ⟨hs, hcache, hcache', rfl⟩
    obtain ⟨hvalue, hstore⟩ := e.left_validate ctx.schema rootType s hne
    obtain ⟨hvalue', hstore'⟩ := e'.left_validate ctx.schema rootType s' hne'
    refine ⟨⟨?_, ?_, ?_⟩, ?_, ?_⟩
    · cases hstop : (e.visitRoot ctx.schema v s).stop with
      | some err =>
        rw [e.result_of_stop ctx.schema rootType s hne hstop,
          e'.result_of_stop ctx.schema rootType s' hne' (hvisit.stop.trans hstop)]
      | none =>
        rw [e.result_of_none ctx.schema rootType s hne hstop,
          e'.result_of_none ctx.schema rootType s' hne' (hvisit.stop.trans hstop),
          hvisit.run.report]
    · rw [hvalue, hvalue']
      exact hvisit.value
    · rw [hstore, hstore']
      exact hvisit.run.store
    · rw [e.cache_validate]
      exact hvisit.run.known
    · rw [hstore]
      exact hvisit.outside

/-- **The plans of an engine come from the types its calls were about.** -/
theorem comes_after_over (registry : Registry) (settings : Settings) (hfam : schema.Family types)
    {calls : List Call} (hcalls : ∀ call ∈ calls, call.Over types) :
    ((Engine.new registry settings).after schema calls).context schema
        = (Engine.new registry settings).context schema ∧
      ((Engine.new registry settings).after schema calls).cache.Comes
        ((Engine.new registry settings).context schema) types := by
  refine Engine.after_kept (Call.Over types) (fun e he call hcall h => ?_) calls _ rfl hcalls .empty
  cases call with
  | precompile name =>
    rw [← he] at h ⊢
    exact h.lookup hcall
  | validate rootType v store =>
    obtain ⟨cells, hspans⟩ := hcall
    exact (validate_alike ((Engine.new registry settings).context schema) hfam he he h h
      hspans.within hspans.alike_self rootType).2.1

/-! ## The same run on another engine -/

section

variable (ctx : Context) {e e' : Engine} {v : Value} {s : Store} {cells : CellId → Prop}

/-- **Engines that differ in the plans they keep give the same run.** -/
theorem validate_eq (hfam : ctx.schema.Family types) (hctx : e.context ctx.schema = ctx)
    (hctx' : e'.context ctx.schema = ctx) (hcache : e.cache.Comes ctx types)
    (hcache' : e'.cache.Comes ctx types) (hspans : v.Spans types s cells) (rootType : Typ) :
    (e'.validate ctx.schema rootType v s).result = (e.validate ctx.schema rootType v s).result ∧
      (e'.validate ctx.schema rootType v s).value = (e.validate ctx.schema rootType v s).value ∧
      (e'.validate ctx.schema rootType v s).store = (e.validate ctx.schema rootType v s).store := by
  obtain ⟨h, _, hout⟩ :=
    validate_alike ctx hfam hctx hctx' hcache hcache' hspans.within hspans.alike_id rootType
  obtain ⟨_, _, hout'⟩ :=
    validate_alike ctx hfam hctx' hctx hcache' hcache hspans.within hspans.alike_id rootType
  rw [v.rename_id] at h
  refine ⟨h.result, by rw [h.value.2, Value.rename_id], Store.eq_of_cell ?_ ?_ fun c => ?_⟩
  · rw [(e'.kept_validate ctx.schema rootType v s).1, (e.kept_validate ctx.schema rootType v s).1]
  · exact (h.store.shift 0).symm
  · by_cases hc : s.AndNew cells c
    · exact h.store.cell_eq hc
    · rw [hout' c hc, hout c hc]

/-- A run that comes after that of a value without common cells mirrors the run that comes first. -/
theorem mirrors_after (hfam : ctx.schema.Family types) (hctx : e.context ctx.schema = ctx)
    (hcache : e.cache.Comes ctx types) {w : Value} {cells' : CellId → Prop}
    (hv : v.Spans types s cells) (hw : w.Spans types s cells')
    (hdisjoint : ∀ c, cells c → ¬ cells' c) (hheld : ∀ c ∈ s.held, c < s.cells.length)
    (t u : Typ) :
    (e.validate ctx.schema u w s).Mirrors types (s.AndNew cells')
      (s.renumber (e.validate ctx.schema t v s).store)
      ((e.validate ctx.schema t v s).engine.validate ctx.schema u w
        (e.validate ctx.schema t v s).store) := by
  obtain ⟨_, hcache', hout⟩ :=
    validate_alike ctx hfam hctx hctx hcache hcache hv.within hv.alike_self t
  obtain ⟨hheld', hlen⟩ := e.kept_validate ctx.schema t v s
  have hctx' := (e.context_call ctx.schema (.validate t v s)).trans hctx
  let after := (e.validate ctx.schema t v s).store
  have hcells : ∀ c, cells' c → after.cell c = s.cell c := fun c hc => by
    refine hout c fun hreach => ?_
    rcases hreach with hreach | hge
    · exact hdisjoint c hreach hc
    · exact Nat.not_lt_of_le hge (hw.made c hc)
  have hhold : ∀ c, after.isHeld (s.renumber after c) = s.isHeld c :=
    Store.isHeld_renumber hheld' hheld hlen
  obtain ⟨h, _, _⟩ := validate_alike ctx hfam hctx hctx' hcache hcache' hw.within
    (hw.alike hlen hcells hhold) u
  rwa [hw.rename_eq] at h

/-- A record type without a plan stops every run at its records. -/
theorem result_of_plan_error (hfam : ctx.schema.Family types) (hctx : e.context ctx.schema = ctx)
    (hcache : e.cache.Comes ctx types) {name : String} (hname : types name) {err : Error}
    (hplan : ctx.plan name = .error err) (rootType : Typ) (slots : List Value) :
    (e.validate ctx.schema rootType (.record name slots) s).result = .error err := by
  have hlook : (ctx.lookup e.cache name).result = .error err :=
    (result_lookup hfam hcache hname).trans hplan
  have hne : ∀ l, Value.record name slots ≠ .leaf l := nofun
  refine e.result_of_stop ctx.schema rootType s hne ?_
  rw [Engine.visitRoot, hctx]
  rcases Value.opening_record ctx "" name slots ⟨s, e.cache, .empty⟩ with
    ⟨err', herr, hopen⟩ | ⟨plan, hok, _⟩
  · rw [Context.room, visit_of_opening_error hopen, Except.error.inj (herr.symm.trans hlook)]
  · cases hok.symm.trans hlook

end

/-- **Kept plans are transparent.**  Take record types with identities of their own, and an engine
after any calls about them, whatever these ended in.  A run on it has the result of the same run on
a new engine, and leaves the same value and the same cells; asking for a plan gives what it gives
there.  A type that is faulty fails with its own error in every call.  And the runs of two values
that share no cell have the same results in either order: each leaves what it would have left if
it had come first, but for the numbers of cells that were made. -/
theorem plans_transparent (registry : Registry) (settings : Settings) (schema : Schema)
    (types : String → Prop) (hfam : schema.Family types) (calls : List Call)
    (hcalls : ∀ call ∈ calls, call.Over types) :
    let new := Engine.new registry settings
    let e := new.after schema calls
    (∀ rootType v store cells, Value.Spans types store v cells →
      (e.validate schema rootType v store).result = (new.validate schema rootType v store).result ∧
      (e.validate schema rootType v store).value = (new.validate schema rootType v store).value ∧
      (e.validate schema rootType v store).store = (new.validate schema rootType v store).store) ∧
    (∀ name, types name → (e.precompile schema name).1 = (new.precompile schema name).1) ∧
    (∀ name err, types name → (new.precompile schema name).1 = .error err →
      err.isConfiguration = true ∧ (e.precompile schema name).1 = .error err ∧
      ∀ rootType slots store,
        (e.validate schema rootType (.record name slots) store).result = .error err) ∧
    ∀ t v cells u w cells' store, Value.Spans types store v cells →
      Value.Spans types store w cells' → (∀ c, cells c → ¬ cells' c) →
      (∀ c ∈ store.held, c < store.cells.length) →
      let vFirst := e.validate schema t v store
      let wFirst := e.validate schema u w store
      wFirst.Mirrors types (store.AndNew cells') (store.renumber vFirst.store)
        (vFirst.engine.validate schema u w vFirst.store) ∧
      vFirst.Mirrors types (store.AndNew cells) (store.renumber wFirst.store)
        (wFirst.engine.validate schema t v wFirst.store) := by
  intro new e
  let ctx := new.context schema
  obtain ⟨hctx, hcache⟩ := comes_after_over registry settings hfam hcalls
  have hnew : new.cache.Comes ctx types := .empty
  have hplan : ∀ name, types name → (e.precompile schema name).1 = ctx.plan name :=
    fun name hname => by
      change ((e.context schema).lookup e.cache name).result = ctx.plan name
      rw [hctx, result_lookup hfam hcache hname]
  have hplan' : ∀ name, types name → (new.precompile schema name).1 = ctx.plan name :=
    fun name hname => show (ctx.lookup new.cache name).result = ctx.plan name from
      result_lookup hfam hnew hname
  refine ⟨fun rootType v store cells hv => ?_, fun name hname => ?_, fun name err hname herr => ?_,
    fun t v cells u w cells' store hv hw hdisjoint hheld => ⟨?_, ?_⟩⟩
  · exact validate_eq ctx hfam rfl hctx hnew hcache hv rootType
  · rw [hplan name hname, hplan' name hname]
  · rw [hplan' name hname] at herr
    obtain ⟨place, r, rfl⟩ := exists_of_plan_error herr
    refine ⟨rfl, (hplan name hname).trans herr, fun rootType slots store => ?_⟩
    exact result_of_plan_error ctx hfam hctx hcache hname herr rootType slots
  · exact mirrors_after ctx hfam hctx hcache hv hw hdisjoint hheld t u
  · exact mirrors_after ctx hfam hctx hcache hw hv (fun c hc hc' => hdisjoint c hc' hc)
      hheld u t

/-! ### Nodes that refer to themselves -/

/-- Two nodes, each in a cell to which it refers. -/
def twoRings : Store :=
  ⟨[⟨.record "Node", .record "Node" [.shared 0]⟩, ⟨.record "Node", .record "Node" [.shared 1]⟩], []⟩

theorem family_ring (tag : Option String) : (ringSchema tag).Family (· = "Node") := by
  refine ⟨fun m n hm hn _ => hm.trans hn.symm, fun name hname g hg => ?_⟩
  obtain rfl := hname
  obtain rfl := List.mem_singleton.mp hg
  exact rfl

/-- A node in a cell of its own spans that cell. -/
theorem spans_ring {store : Store} {c : CellId} (hc : c < store.cells.length)
    (hcell : (store.cell c).content = .record "Node" [.shared c]) :
    (Value.record "Node" [.shared c]).Spans (· = "Node") store (· = c) := by
  have hnode : (Value.record "Node" [.shared c]).Within (· = "Node") (· = c) := by
    refine .record rfl fun v hv => ?_
    obtain rfl := List.mem_singleton.mp hv
    exact .shared rfl
  refine ⟨hnode, fun d hd => ?_, fun d hd => ?_⟩
  · exact hd ▸ hc
  · rw [hd, hcell]
    exact hnode

/-- A cycle is found again by an engine that has found it before, also in another node; and a name
that no generator has is found in every call. -/
theorem plans_transparent_ringNode :
    (((Engine.new ringRegistry .initial).after (ringSchema (some "any"))
        [.validate (.record "Node") ringNode ringStore, .precompile "Node"]).validate
          (ringSchema (some "any")) (.record "Node") ringNode ringStore).result
      = .error (.cycle "next.next" "Node") ∧
    (let e := Engine.new ringRegistry .initial
      let schema := ringSchema (some "any")
      let first := e.validate schema (.record "Node") (.record "Node" [.shared 0]) twoRings
      (first.engine.validate schema (.record "Node") (.record "Node" [.shared 1])
        first.store).result = .error (.cycle "next.next" "Node")) ∧
    ∀ rootType slots store, (((Engine.new ringRegistry .initial).after (ringSchema (some "none"))
        [.validate (.record "Node") ringNode ringStore]).validate
          (ringSchema (some "none")) rootType (.record "Node" slots) store).result
      = .error (.rule "Node.next" (.unknown .validator "none")) := by
  have hring : ringNode.Spans (· = "Node") ringStore (· = 0) := spans_ring (by decide) rfl
  have hsame := plans_transparent ringRegistry .initial (ringSchema (some "any")) (· = "Node")
    (family_ring _) [.validate (.record "Node") ringNode ringStore, .precompile "Node"]
    (List.forall_mem_cons.mpr ⟨⟨_, hring⟩, List.forall_mem_singleton.mpr rfl⟩)
  have horder := plans_transparent ringRegistry .initial (ringSchema (some "any")) (· = "Node")
    (family_ring _) [] nofun
  have hfaulty := plans_transparent ringRegistry .initial (ringSchema (some "none")) (· = "Node")
    (family_ring _) [.validate (.record "Node") ringNode ringStore]
    (List.forall_mem_singleton.mpr ⟨_, hring⟩)
  refine ⟨(hsame.1 _ _ _ _ hring).1.trans rfl, ?_, (hfaulty.2.2.1 "Node" _ rfl rfl).2.2⟩
  have hzero : (Value.record "Node" [.shared 0]).Spans (· = "Node") twoRings (· = 0) :=
    spans_ring (by decide) rfl
  have hone : (Value.record "Node" [.shared 1]).Spans (· = "Node") twoRings (· = 1) :=
    spans_ring (by decide) rfl
  exact (horder.2.2.2 (.record "Node") _ _ (.record "Node") _ _ _ hzero hone
    (fun c h h' => absurd (h.symm.trans h') (by decide)) nofun).1.result.trans rfl

end FieldRules
