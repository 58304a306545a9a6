import FieldRules.Proofs.Annotations
import FieldRules.Proofs.Issues

/-!
# Proofs/Depth — the depth limit is exact

Where no cell is met again, a guard fails iff a node lies beyond its room, and then at the first of
them in document order (`exists_firstAt_of_guard`).  So a run over an unobstructed value fails iff
a node lies beyond the limit, under the path of the first such node, and annotations do not move
the limit (`depth_exact`).
-/

namespace FieldRules

variable {ctx : Context} {schema : Schema} {store : Store} {v : Value} {depth : Nat}

/-! ## Nodes at a depth -/

/-- The first node in document order that lies at a depth or below it. -/
structure Value.FirstAt (schema : Schema) (store : Store) (depth : Nat) (v : Value) (q : Position) :
    Prop where
  reached : ∃ cells, Route schema store v q.sites cells q.value
  deep : depth ≤ q.sites.length
  first : ∀ (q' : Position) cells, Route schema store v q'.sites cells q'.value →
    depth ≤ q'.sites.length → q'.sites = q.sites ∨ q.Before q'

/-- The root is the first node at depth zero. -/
theorem Value.firstAt_zero (v : Value) : v.FirstAt schema store 0 ⟨[], v⟩ := by
  refine ⟨⟨[], .here v⟩, Nat.le_refl 0, fun q' cells _ _ => ?_⟩
  obtain ⟨sites, w⟩ := q'
  cases sites with
  | nil => exact .inl rfl
  | cons site sites => exact .inr .nil

/-- **The first node at a depth is below the first part that has such nodes.** -/
theorem Value.FirstAt.under {pre post : List Part} {p : Part} {q : Position}
    (hparts : v.parts schema store = pre ++ p :: post)
    (hsorted : ∀ entries, v = .map entries → Dict.Sorted entries)
    (hpre : ∀ p' ∈ pre, ∀ sites cells w, Route schema store p'.value sites cells w →
      sites.length < depth)
    (h : p.value.FirstAt schema store depth q) :
    v.FirstAt schema store (depth + 1) (q.under p.site) := by
  have hp : p ∈ v.parts schema store := hparts ▸ List.mem_append_right pre List.mem_cons_self
  obtain ⟨cells, hroute⟩ := h.reached
  refine ⟨⟨_, .down hp hroute⟩, Nat.succ_le_succ h.deep, fun q' cells' hroute' hdeep => ?_⟩
  obtain ⟨sites', w'⟩ := q'
  cases hroute' with
  | here => cases hdeep
  | @down _ _ p' sites' cells' hp' hroute' =>
    have hdeep : depth ≤ sites'.length := Nat.le_of_succ_le_succ hdeep
    have hafter : (pre ++ p :: post).Pairwise fun p p' => p.site.Before p'.site :=
      hparts ▸ pairwise_parts hsorted
    rw [hparts, List.mem_append, List.mem_cons] at hp'
    obtain hp' | rfl | hp' := hp'
    · exact absurd (hpre p' hp' _ _ _ hroute') (Nat.not_lt.mpr hdeep)
    · obtain hsame | hbefore := h.first ⟨sites', w'⟩ cells' hroute' hdeep
      · exact .inl (congrArg (List.cons _) hsame)
      · exact .inr (.cons hbefore)
    · have hbefore := (List.pairwise_cons.mp (List.pairwise_append.mp hafter).2.1).1 p' hp'
      exact .inr (.rel hbefore)

/-! ## Where a guard fails, if no cell is met again -/

/-- No route meets a cell that is held, or one that it entered before. -/
def Value.MeetsFresh (schema : Schema) (store : Store) (v : Value) : Prop :=
  ∀ sites cells c, Route schema store v sites cells (.shared c) →
    store.isHeld c = false ∧ c ∉ cells

namespace Value.MeetsFresh

theorem not_barred (h : v.MeetsFresh schema store) : ¬ v.Barred store := by
  rintro ⟨c, rfl, hc⟩
  rw [(h [] [] c (.here _)).1] at hc
  cases hc

theorem part (h : v.MeetsFresh schema store) {p : Part} (hp : p ∈ v.parts schema store) :
    p.value.MeetsFresh schema (v.heldIn store) := by
  intro sites cells c hroute
  obtain ⟨hfree, hnot⟩ := h _ _ c (.down hp (hroute.of_cells (v.cells_heldIn store)))
  rw [List.mem_append, not_or] at hnot
  rw [Value.isHeld_heldIn, hfree, Bool.false_or, ← Bool.not_eq_true, List.contains_iff_mem]
  exact hnot

/-- **A guard that fails does so at the first node beyond its room.** -/
theorem exists_firstAt_of_guard {room : Nat} {path : String} {e : Error}
    (hv : v.MeetsFresh ctx.schema store)
    (hsorted : ∀ entries, Below ctx.schema store v (.map entries) → Dict.Sorted entries)
    (h : guard ctx room store v path = .error e) :
    ∃ q, v.FirstAt ctx.schema store room q ∧
      e = ctx.tooDeep (Path.spellFrom path (ctx.steps q.sites)) := by
  induction room generalizing store v path with
  | zero =>
    obtain rfl : ctx.tooDeep path = e := Except.error.inj h
    exact ⟨⟨[], v⟩, v.firstAt_zero, rfl⟩
  | succ room ih =>
    have hcells : (v.heldIn store).cells = store.cells := v.cells_heldIn store
    rw [guard_succ hv.not_barred] at h
    obtain ⟨pre, p, post, hparts, hpre, hpe⟩ := split_of_forM_eq_error h
    have hp : p ∈ v.parts ctx.schema store := hparts ▸ List.mem_append_right pre List.mem_cons_self
    obtain ⟨q, hq, rfl⟩ := ih (hv.part hp)
      (fun entries hb => hsorted entries (.part hp (hb.of_cells hcells))) hpe
    have hshallow : ∀ p' ∈ pre, ∀ sites cells w, Route ctx.schema store p'.value sites cells w →
        sites.length < room := fun p' hp' sites cells w hroute =>
      (guard_eq_ok_iff.mp (hpre p' hp') sites cells w (hroute.of_cells hcells.symm)).1
    have hq : p.value.FirstAt ctx.schema store room q :=
      ⟨hq.reached.imp fun _ => Route.of_cells hcells, hq.deep,
        fun q' cells hroute => hq.first q' cells (hroute.of_cells hcells.symm)⟩
    refine ⟨q.under p.site, hq.under hparts (fun entries he => hsorted entries (he ▸ .refl v))
      hshallow, ?_⟩
    exact congrArg ctx.tooDeep (ctx.spellFrom_cons path p.site q.sites).symm

end Value.MeetsFresh

/-! ## Record types without annotations -/

theorem Schema.decls_untagged (s : Schema) (name : String) :
    s.untagged.decls name = (s.decls name).map FieldDecl.untagged := by
  rw [decls, decls, record_untagged, RecordType.untagged, List.map_map, List.map_map]
  rfl

theorem Schema.tag_of_mem_decls_untagged {s : Schema} {name : String} {d : FieldDecl}
    (hd : d ∈ s.untagged.decls name) : d.tag = none := by
  rw [decls_untagged] at hd
  obtain ⟨d, _, rfl⟩ := List.mem_map.mp hd
  rfl

theorem Schema.declares_untagged {s : Schema} {name : String} :
    s.untagged.Declares name ↔ s.Declares name := by
  rw [Declares, Declares, lookup_untagged]
  simp

/-- The parts of a value are the same under types without annotations, up to their sites. -/
theorem Value.values_parts_untagged (schema : Schema) (store : Store) (v : Value) :
    (v.parts schema.untagged store).map Part.value = (v.parts schema store).map Part.value := by
  cases v with
  | record name slots =>
    rw [values_parts_record, values_parts_record, Schema.record_untagged, RecordType.untagged,
      List.zip_map_left, List.map_map]
    rfl
  | _ => rfl

theorem below_of_untagged {w : Value} (h : Below schema.untagged store v w) :
    Below schema store v w := by
  refine h.of_closed (P := Below schema store v) (fun u hu p hp => ?_) (.refl v)
  have hmem : p.value ∈ (u.parts schema store).map Part.value :=
    u.values_parts_untagged schema store ▸ List.mem_map_of_mem hp
  obtain ⟨p', hp', hvalue⟩ := List.mem_map.mp hmem
  exact hvalue ▸ hu.trans (.part hp' (.refl _))

/-- Types without annotations always have plans. -/
theorem exists_plan_bare (ctx : Context) (name : String) :
    ∃ plan, ctx.bare.plan name = .ok plan := by
  have hfields : ∀ ds : List FieldDecl, (∀ d ∈ ds, d.tag = none) →
      ∃ fs, Plan.compileFields ctx.bare.registry (ctx.bare.schema.record name).typeName ds
        = .ok fs := by
    intro ds
    induction ds with
    | nil => exact fun _ => ⟨[], rfl⟩
    | cons d ds ih =>
      intro h
      obtain ⟨htag, hds⟩ := List.forall_mem_cons.mp h
      obtain ⟨fs, hfs⟩ := ih hds
      refine ⟨⟨d.name, d.displayName, .empty⟩ :: fs, ?_⟩
      rw [Plan.compileFields, Plan.compileField, htag, hfs]
      rfl
  obtain ⟨fs, hfs⟩ := hfields _ fun d => Schema.tag_of_mem_decls_untagged
  exact ⟨_, bind_eq_ok.mpr ⟨fs, hfs, rfl⟩⟩

/-- Without annotations, nothing in an unobstructed value has a rule. -/
theorem Unobstructed.quiet_bare (h : Unobstructed ctx store v) (hids : ctx.schema.Distinct) :
    Quiet ctx.bare (PlanCache.Comes ctx.bare ctx.bare.schema.Declares) True store v := by
  have hids' : ctx.bare.schema.Distinct := by
    intro m n hm hn hid
    rw [Context.bare, Schema.record_untagged, Schema.record_untagged] at hid
    exact hids m n (Schema.declares_untagged.mp hm) (Schema.declares_untagged.mp hn) hid
  have hun : ∀ m, ctx.bare.schema.Declares m → ∀ d ∈ ctx.bare.schema.decls m, d.Unmapped := by
    intro m _ d hd text tag htext
    rw [Schema.tag_of_mem_decls_untagged hd] at htext
    cases htext
  intro name slots hb
  have hb : Below ctx.schema store v (.record name slots) := below_of_untagged hb
  refine ⟨serves_of_distinct (Schema.declares_untagged.mpr (h.declared name slots hb))
    (exists_plan_bare ctx name) hids' hun, ?_, fun p hp hann => ?_⟩
  · rw [Schema.Exposes, Context.bare, Schema.record_untagged, RecordType.untagged, List.length_map]
    exact h.exposes name slots hb
  · cases hsite : p.site with
    | field name' i d =>
      have hd := List.mem_of_getElem? (decl_of_mem_parts hp hsite)
      have htag := hann trivial
      rw [hsite, Site.Annotated, Schema.tag_of_mem_decls_untagged hd] at htag
      cases htag
    | _ => exact absurd (hann trivial) (by rw [hsite]; exact id)

/-! ## Whole runs -/

/-- **The depth limit is exact.**  A run over an unobstructed value fails iff a node lies beyond the
limit; its error names the limit and the first such node in document order.  It fails alike where
no field is annotated. -/
theorem depth_exact (registry : Registry) (settings : Settings) (schema : Schema)
    (calls : List Call) (rootType : Typ) (v : Value) (store : Store)
    (hcalls : ∀ call ∈ calls, call.Declared schema) (hids : schema.Distinct)
    (hun : ∀ name, schema.Declares name → ∀ d ∈ schema.decls name, d.Unmapped)
    (hv : Unobstructed ((Engine.new registry settings).context schema) store v) :
    let result := (((Engine.new registry settings).after schema calls).validate schema rootType v
      store).result
    ((∃ err, result = .error err) ↔
      ∃ sites cells w, Route schema store v sites cells w ∧ settings.maxDepth < sites.length) ∧
    (∀ err, result = .error err →
      ∃ q, v.FirstAt schema store (settings.maxDepth + 1) q ∧
        err = .tooDeep (Path.spell (((Engine.new registry settings).context schema).steps q.sites))
          settings.maxDepth) ∧
    ∀ err, result = .error err ↔
      ((Engine.new .empty settings).validate schema.untagged rootType v store).result
        = .error err := by
  intro result
  let e := (Engine.new registry settings).after schema calls
  obtain ⟨hctx, hcache⟩ := comes_after_declared registry settings hcalls hun
  let ctx := (Engine.new registry settings).context schema
  have hq : Quiet (e.context schema) (PlanCache.Comes ctx schema.Declares) True store v :=
    hctx ▸ hv.quiet hids hun
  have hfails (err : Error) : result = .error err ↔ guard ctx ctx.room store v "" = .error err := by
    rw [hq.result_eq_error_iff hcache hv.not_leaf rootType err, hctx]
  have hfirst (err : Error) (h : result = .error err) :
      ∃ q, v.FirstAt schema store (settings.maxDepth + 1) q ∧
        err = .tooDeep (Path.spell (ctx.steps q.sites)) settings.maxDepth :=
    Value.MeetsFresh.exists_firstAt_of_guard (fun _ _ _ => hv.fresh) hv.sorted ((hfails err).mp h)
  refine ⟨⟨?_, ?_⟩, hfirst, fun err => ?_⟩
  · rintro ⟨err, h⟩
    obtain ⟨q, hq, _⟩ := hfirst err h
    obtain ⟨cells, hroute⟩ := hq.reached
    exact ⟨q.sites, cells, q.value, hroute, hq.deep⟩
  · rintro ⟨sites, cells, w, hroute, hdeep⟩
    cases hg : guard ctx ctx.room store v "" with
    | error err => exact ⟨err, (hfails err).mpr hg⟩
    | ok u =>
      have hclear := (guard_eq_ok_iff.mp hg sites cells w hroute).1
      exact absurd hclear (Nat.not_lt.mpr hdeep)
  · have hbare : Quiet ((Engine.new .empty settings).context schema.untagged)
        (PlanCache.Comes ctx.bare ctx.bare.schema.Declares) True store v := hv.quiet_bare hids
    have hfails' : ((Engine.new .empty settings).validate schema.untagged rootType v store).result
        = .error err ↔ guard ctx.bare ctx.room store v "" = .error err :=
      hbare.result_eq_error_iff PlanCache.Comes.empty hv.not_leaf rootType err
    rw [hfails, hfails', guard_bare]

/-! ### A reply to a note, one level too deep -/

/-- A note with the note as its reply. -/
def noteReplied : Value := .record "Note" [.shared 0, .present (.boxed note)]

theorem below_noteReplied {w : Value} (h : Below noteSchema noteStore noteReplied w) :
    w = noteReplied ∨ w = .present (.boxed note) ∨ w = .boxed note ∨
      Below noteSchema noteStore note w := by
  refine h.of_closed (P := fun w => w = noteReplied ∨ w = .present (.boxed note) ∨
    w = .boxed note ∨ Below noteSchema noteStore note w) ?_ (.inl rfl)
  rintro u (rfl | rfl | rfl | hu) p hp
  · obtain rfl | hp := List.mem_cons.mp hp
    · exact .inr (.inr (.inr (.part List.mem_cons_self (.refl _))))
    · obtain rfl := List.mem_singleton.mp hp
      exact .inr (.inl rfl)
  · obtain rfl := List.mem_singleton.mp hp
    exact .inr (.inr (.inl rfl))
  · obtain rfl := List.mem_singleton.mp hp
    exact .inr (.inr (.inr (.refl note)))
  · exact .inr (.inr (.inr (hu.trans (.part hp (.refl _)))))

/-- What holds of the two notes holds of all records in them. -/
theorem record_noteReplied {P : String → List Value → Prop} (h : P "Note" [.shared 0, .absent])
    (h' : P "Note" [.shared 0, .present (.boxed note)]) (name : String) (slots : List Value)
    (hb : Below noteSchema noteStore noteReplied (.record name slots)) : P name slots := by
  obtain hb | hb | hb | hb := below_noteReplied hb
  · cases hb
    exact h'
  · cases hb
  · cases hb
  · obtain ⟨rfl, rfl⟩ := record_note hb
    exact h

theorem unobstructed_noteReplied :
    Unobstructed ((Engine.new noteRegistry ⟨3, true⟩).context noteSchema) noteStore
      noteReplied := by
  have hnote := passable_note.unobstructed
  refine ⟨nofun, record_noteReplied ⟨_, rfl⟩ ⟨_, rfl⟩, record_noteReplied ⟨_, rfl⟩ ⟨_, rfl⟩,
    record_noteReplied rfl rfl, fun c _ => rfl, fun c hc => ?_, fun q hq => ?_,
    fun entries hb => ?_⟩
  · obtain hc | hc | hc | hc := below_noteReplied hc
    · cases hc
    · cases hc
    · cases hc
    · exact hnote.acyclic c hc
  · obtain ⟨sites, w⟩ := q
    obtain ⟨⟨cells, hroute⟩, _⟩ := hq
    obtain rfl | rfl | rfl | hb := below_noteReplied ⟨_, _, hroute⟩
    · exact ⟨_, rfl⟩
    · exact ⟨_, rfl⟩
    · exact ⟨_, rfl⟩
    · obtain rfl | rfl | rfl | rfl := below_note hb
      · exact ⟨_, rfl⟩
      · exact ⟨_, rfl⟩
      · exact ⟨_, rfl⟩
      · exact ⟨_, rfl⟩
  · obtain hb | hb | hb | hb := below_noteReplied hb
    · cases hb
    · cases hb
    · cases hb
    · exact hnote.sorted entries hb

/-- With three levels, a node of the reply lies too deep, annotated or not. -/
theorem depth_exact_noteReplied :
    Unobstructed ((Engine.new noteRegistry ⟨3, true⟩).context noteSchema) noteStore noteReplied ∧
      let result := (((Engine.new noteRegistry ⟨3, true⟩).after noteSchema
        [.precompile "Note"]).validate noteSchema (.record "Note") noteReplied noteStore).result
      ((∃ err, result = .error err) ↔ ∃ sites cells w,
        Route noteSchema noteStore noteReplied sites cells w ∧ 3 < sites.length) ∧
      (∀ err, result = .error err → ∃ q, noteReplied.FirstAt noteSchema noteStore 4 q ∧
        err = .tooDeep (Path.spell
          (((Engine.new noteRegistry ⟨3, true⟩).context noteSchema).steps q.sites)) 3) ∧
      ∀ err, result = .error err ↔ ((Engine.new .empty ⟨3, true⟩).validate noteSchema.untagged
        (.record "Note") noteReplied noteStore).result = .error err :=
  ⟨unobstructed_noteReplied, depth_exact noteRegistry ⟨3, true⟩ noteSchema [.precompile "Note"]
    (.record "Note") noteReplied noteStore declared_note distinct_note unmapped_note
    unobstructed_noteReplied⟩

example : ((Engine.new noteRegistry ⟨3, true⟩).validate noteSchema (.record "Note") noteReplied
    noteStore).result = .error (.tooDeep "reply.text" 3) := by rfl

end FieldRules
