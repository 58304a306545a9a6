import FieldRules.Proofs.Abort

/-!
# Proofs/Settling — values whose leaves are settled

A complete walk makes of every leaf in a field what the rule of the field makes of it; that is the
value's **settled** form (`Value.settle`).  Where settled leaves stay as they are, a value that is
settled twice is settled once (`settle_settle`).  A store in which some contents are settled has the
same routes as before, so guards and inspections go through as before (`Becomes.exists_inspect`).
-/

namespace FieldRules

variable {ctx : Context}

/-! ## The settled form of a value -/

theorem Value.sizeOf_part_lt {schema : Schema} {store : Store} {v : Value} (hv : v.entered = [])
    {p : Part} (hp : p ∈ v.parts schema store) : sizeOf p.value < sizeOf v := by
  have hmem : p.value ∈ (v.parts schema store).map Part.value := List.mem_map_of_mem hp
  cases v with
  | leaf l => cases hp
  | absent => cases hp
  | present w =>
    obtain rfl := List.mem_singleton.mp hp
    simp
  | boxed w =>
    obtain rfl := List.mem_singleton.mp hp
    simp
  | shared c => cases hv
  | sequence items =>
    rw [values_parts_sequence] at hmem
    have := List.sizeOf_lt_of_mem hmem
    simp only [sequence.sizeOf_spec]
    omega
  | map entries =>
    rw [values_parts_map] at hmem
    obtain ⟨⟨k, w⟩, he, heq⟩ := List.mem_map.mp hmem
    have := List.sizeOf_lt_of_mem he
    rw [← heq]
    simp only [map.sizeOf_spec, Prod.mk.sizeOf_spec] at this ⊢
    omega
  | record name slots =>
    rw [values_parts_record, map_snd_zip_eq_take] at hmem
    have := List.sizeOf_lt_of_mem (List.mem_of_mem_take (List.mem_of_mem_take hmem))
    simp only [record.sizeOf_spec]
    omega

/-- **What a complete walk makes of a value at a site**: leaves in fields are settled by the rules
of the fields.  What is in cells is not part of the value. -/
def Value.settle (ctx : Context) (site : Site) : Value → Value
  | .leaf l => ctx.settled [site] l
  | v =>
    if _ : v.entered = [] then
      v.refill ((v.parts ctx.schema .empty).attach.map fun p => p.1.value.settle ctx p.1.site)
    else v
termination_by v => sizeOf v
decreasing_by exact Value.sizeOf_part_lt ‹_› p.2

namespace Value

variable {site : Site} {v w : Value}

theorem settle_leaf (site : Site) (l : Leaf) :
    (leaf l).settle ctx site = ctx.settled [site] l := by
  rw [settle]

theorem settle_shared (site : Site) (c : CellId) :
    (shared c).settle ctx site = shared c := by
  simp [settle, entered]

/-- A value that is no leaf and no cell is settled part by part. -/
theorem settle_eq (hl : ∀ l, v ≠ leaf l) (hv : v.entered = []) (site : Site) (store : Store) :
    v.settle ctx site
      = v.refill ((v.parts ctx.schema store).map fun p => p.value.settle ctx p.site) := by
  rw [settle, dif_pos hv, parts_of_entered hv .empty store]
  · exact congrArg v.refill (List.attach_map_val (f := fun p : Part => p.value.settle ctx p.site))
  · exact hl

/-- A value is a leaf, a cell, or has its parts in itself. -/
theorem shape_cases (v : Value) : (∃ l, v = leaf l) ∨ (∃ c, v = shared c) ∨
    ((∀ l, v ≠ leaf l) ∧ v.entered = []) := by
  cases v with
  | leaf l => exact .inl ⟨l, rfl⟩
  | shared c => exact .inr (.inl ⟨c, rfl⟩)
  | _ => exact .inr (.inr ⟨nofun, rfl⟩)

theorem refill_ne_leaf (hl : ∀ l, v ≠ leaf l) (ws : List Value) (l : Leaf) :
    v.refill ws ≠ leaf l := by
  cases v with
  | leaf l => exact absurd rfl (hl l)
  | _ => nofun

/-- A record that was refilled is one of as many slots. -/
theorem exists_record_of_refill {ws : List Value}
    (hws : ws.length = (v.parts ctx.schema .empty).length) {name : String}
    {slots' : List Value} (h : v.refill ws = record name slots') :
    ∃ slots, v = record name slots ∧ slots.length = slots'.length := by
  cases v with
  | record n slots =>
    obtain ⟨rfl, rfl⟩ := record.inj h
    refine ⟨slots, rfl, ?_⟩
    have hlen : ((record n slots).parts ctx.schema .empty).length ≤ slots.length := by
      simp only [parts, List.length_map, List.length_zipIdx, List.length_zip, List.length_take]
      omega
    rw [List.length_append, List.length_drop]
    omega
  | _ => cases h

/-- A site makes no difference to a value that is no leaf. -/
theorem settle_site (hl : ∀ l, v ≠ leaf l) (site site' : Site) :
    v.settle ctx site = v.settle ctx site' := by
  obtain ⟨l, rfl⟩ | ⟨c, rfl⟩ | ⟨_, hv⟩ := v.shape_cases
  · exact absurd rfl (hl l)
  · rw [settle_shared, settle_shared]
  · rw [settle_eq hl hv site .empty, settle_eq hl hv site' .empty]

theorem settle_ne_leaf (hl : ∀ l, v ≠ leaf l) (l : Leaf) : v.settle ctx site ≠ leaf l := by
  obtain ⟨l', rfl⟩ | ⟨c, rfl⟩ | ⟨_, hv⟩ := v.shape_cases
  · exact absurd rfl (hl l')
  · rw [settle_shared]
    nofun
  · rw [settle_eq hl hv site .empty]
    exact refill_ne_leaf hl _ l

end Value

/-! ## Leaves that stay when they are settled again -/

/-- At a site, settled leaves stay, and have a JSON form if they had one before. -/
def Context.SteadyAt (ctx : Context) (site : Site) : Prop :=
  ∀ l, ∃ l', ctx.settled [site] l = .leaf l' ∧ ctx.settled [site] l' = .leaf l' ∧
    ∀ form, l.snapshot = .ok form → ∃ form', l'.snapshot = .ok form'

theorem Context.steadyAt_of_settled {site : Site} (h : ∀ l, ctx.settled [site] l = .leaf l) :
    ctx.SteadyAt site := fun l => ⟨l, h l, h l, fun form hform => ⟨form, hform⟩⟩

/-- A value at a site all of whose leaves are at steady sites. -/
def Value.Steady (ctx : Context) (site : Site) (v : Value) : Prop :=
  ∀ sites cells l, Route ctx.schema .empty v sites cells (.leaf l) →
    ∀ last ∈ (site :: sites).getLast?, ctx.SteadyAt last

namespace Value

variable {site : Site} {v w : Value}

theorem Steady.at_leaf {l : Leaf} (h : (leaf l).Steady ctx site) : ctx.SteadyAt site :=
  h [] [] l (.here _) site rfl

theorem Steady.part (h : v.Steady ctx site) (hv : v.entered = []) {store : Store} {p : Part}
    (hp : p ∈ v.parts ctx.schema store) : p.value.Steady ctx p.site := by
  intro sites cells l hroute last hlast
  rw [parts_of_entered hv store .empty] at hp
  refine h _ _ l (.down hp hroute) last ?_
  rwa [List.getLast?_cons_cons]

/-- **What is settled stays when it is settled again.** -/
theorem settle_settle {site : Site} {v : Value} (h : v.Steady ctx site) :
    (v.settle ctx site).settle ctx site = v.settle ctx site := by
  obtain ⟨l, rfl⟩ | ⟨c, rfl⟩ | ⟨hl, hv⟩ := v.shape_cases
  · obtain ⟨l', hl, hl', _⟩ := h.at_leaf l
    rw [settle_leaf, hl, settle_leaf, hl']
  · rw [settle_shared, settle_shared]
  have hstays : List.Forall₂ (fun (p : Part) w => w.settle ctx p.site = w)
      (v.parts ctx.schema .empty)
      ((v.parts ctx.schema .empty).map fun p => p.value.settle ctx p.site) := by
    rw [List.forall₂_map_right_iff, List.forall₂_same]
    intro p hp
    have := sizeOf_part_lt hv hp
    exact settle_settle (h.part hv hp)
  have hagain : ((v.settle ctx site).parts ctx.schema .empty).map
        (fun p => p.value.settle ctx p.site)
      = ((v.settle ctx site).parts ctx.schema .empty).map Part.value := by
    rw [settle_eq hl hv site .empty]
    refine List.map_congr_left fun q hq => ?_
    obtain ⟨p, _, hsite, hq⟩ :=
      exists_of_mem_forall₂ (forall₂_parts_refill hv hstays .empty) q hq
    rw [hsite, hq]
  have hentered : (v.settle ctx site).entered = [] := by
    rw [settle_eq hl hv site .empty, entered_refill, hv]
  rw [settle_eq (settle_ne_leaf hl) hentered site .empty, hagain, refill_self]
termination_by sizeOf v

end Value

/-! ## Values and stores in which some leaves are settled -/

/-- A value stays as it is or is settled for good. -/
inductive Value.Becomes (ctx : Context) (site : Site) : Value → Value → Prop
  | same (v : Value) : Becomes ctx site v v
  | settled {v : Value} (h : v.Steady ctx site) : Becomes ctx site v (v.settle ctx site)

/-- The contents of some cells are settled. -/
def Store.Becomes (ctx : Context) (s s' : Store) : Prop :=
  ∀ c, (s.cell c).content.Becomes ctx .inner (s'.cell c).content

namespace Value.Becomes

variable {site : Site} {u v w : Value} {s s' : Store}

theorem trans (h : u.Becomes ctx site v) (h' : v.Becomes ctx site w) : u.Becomes ctx site w := by
  cases h with
  | same => exact h'
  | settled h =>
    cases h' with
    | same => exact .settled h
    | settled _ =>
      rw [settle_settle h]
      exact .settled h

/-- A leaf comes of a leaf, which has a form only if the new one has. -/
theorem exists_leaf {l' : Leaf} (h : v.Becomes ctx site (.leaf l')) :
    ∃ l, v = .leaf l ∧ ∀ form, l.snapshot = .ok form → ∃ form', l'.snapshot = .ok form' := by
  generalize hw : Value.leaf l' = w at h
  cases h with
  | same => exact ⟨l', hw.symm, fun form hform => ⟨form, hform⟩⟩
  | settled h =>
    by_cases hleaf : ∃ l, v = leaf l
    · obtain ⟨l, rfl⟩ := hleaf
      obtain ⟨l₁, hl₁, _, hshown⟩ := h.at_leaf l
      rw [settle_leaf, hl₁] at hw
      obtain rfl := leaf.inj hw
      exact ⟨l, rfl, hshown⟩
    · exact absurd hw.symm (settle_ne_leaf (not_exists.mp hleaf) l')

theorem of_leaf {l : Leaf} (h : (leaf l).Becomes ctx site w) : ∃ l', w = .leaf l' := by
  cases h with
  | same => exact ⟨l, rfl⟩
  | settled h =>
    obtain ⟨l', hl', _⟩ := h.at_leaf l
    exact ⟨l', (settle_leaf site l).trans hl'⟩

theorem entered_eq (h : v.Becomes ctx site w) : w.entered = v.entered := by
  cases h with
  | same => rfl
  | settled h =>
    obtain ⟨l, rfl⟩ | ⟨c, rfl⟩ | ⟨hl, hv⟩ := v.shape_cases
    · obtain ⟨l', hl', _⟩ := h.at_leaf l
      rw [settle_leaf, hl']
      rfl
    · rw [settle_shared]
    · rw [settle_eq hl hv site .empty, entered_refill]

/-- A cell comes of that cell. -/
theorem eq_shared {c : CellId} (h : v.Becomes ctx site (.shared c)) : v = .shared c := by
  have hentered : v.entered = [c] := h.entered_eq.symm
  cases v with
  | shared d => rw [(List.cons.inj hentered).1]
  | _ => cases hentered

/-- What is settled becomes nothing else. -/
theorem eq_settle (hv : v.Steady ctx site) (h : (v.settle ctx site).Becomes ctx site w) :
    w = v.settle ctx site := by
  generalize hu : v.settle ctx site = u at h
  cases h with
  | same => rfl
  | settled => rw [← hu, settle_settle hv]

/-- A record comes of a record with as many slots. -/
theorem exists_record {name : String} {slots' : List Value}
    (h : v.Becomes ctx site (.record name slots')) :
    ∃ slots, v = .record name slots ∧ slots.length = slots'.length := by
  generalize hw : Value.record name slots' = w at h
  cases h with
  | same => exact ⟨slots', hw.symm, rfl⟩
  | settled h =>
    obtain ⟨l, rfl⟩ | ⟨c, rfl⟩ | ⟨hl, hv⟩ := v.shape_cases
    · obtain ⟨l', hl', _⟩ := h.at_leaf l
      rw [settle_leaf, hl'] at hw
      cases hw
    · rw [settle_shared] at hw
      cases hw
    · rw [settle_eq hl hv site .empty] at hw
      exact exists_record_of_refill (List.length_map _) hw.symm

/-- …and becomes such a record. -/
theorem of_record {name : String} {slots : List Value}
    (h : (record name slots).Becomes ctx site w) :
    ∃ slots', w = .record name slots' ∧ slots.length = slots'.length := by
  have hrecord : ∃ slots', w = .record name slots' := by
    cases h with
    | same => exact ⟨slots, rfl⟩
    | settled h =>
      rw [settle_eq (v := record name slots) nofun rfl site .empty]
      exact ⟨_, rfl⟩
  obtain ⟨slots', rfl⟩ := hrecord
  obtain ⟨slots₀, heq, hlen⟩ := h.exists_record
  cases heq
  exact ⟨slots', rfl, hlen⟩

end Value.Becomes

theorem Store.Becomes.refl (s : Store) : s.Becomes ctx s := fun _ => .same _

theorem Store.Becomes.trans {s s' s'' : Store} (h : s.Becomes ctx s') (h' : s'.Becomes ctx s'') :
    s.Becomes ctx s'' := fun c => (h c).trans (h' c)

theorem Store.Becomes.of_cells {s s' : Store} (h : s'.cells = s.cells) : s.Becomes ctx s' :=
  fun c => by
    rw [Store.cell, Store.cell, h]
    exact .same _

/-- Cells that become others still do when the content of one of them is replaced. -/
theorem Store.Becomes.of_ne {s t t' : Store} {c : CellId} (h : s.Becomes ctx t)
    (hother : ∀ d, d ≠ c → t'.cell d = t.cell d)
    (hc : (s.cell c).content.Becomes ctx .inner (t'.cell c).content) : s.Becomes ctx t' := by
  intro d
  by_cases hd : d = c
  · rwa [hd]
  · rw [hother d hd]
    exact h d

namespace Value.Becomes

variable {site : Site} {u v w : Value} {s s' : Store}

/-- **The parts become the parts**, one by one and at the same sites. -/
theorem parts (h : v.Becomes ctx site w) (hs : s.Becomes ctx s') :
    List.Forall₂ (fun p q => q.site = p.site ∧ p.value.Becomes ctx p.site q.value)
      (v.parts ctx.schema s) (w.parts ctx.schema s') := by
  have hsame (hv : v.entered = []) : List.Forall₂ (fun p q => q.site = p.site ∧
      p.value.Becomes ctx p.site q.value) (v.parts ctx.schema s) (v.parts ctx.schema s') := by
    rw [parts_of_entered hv s s', List.forall₂_same]
    exact fun p _ => ⟨rfl, .same _⟩
  obtain ⟨l, rfl⟩ | ⟨c, rfl⟩ | ⟨hl, hv⟩ := v.shape_cases
  · obtain ⟨l', rfl⟩ := h.of_leaf
    exact .nil
  · obtain rfl : w = shared c := by
      cases h with
      | same => rfl
      | settled h => rw [settle_shared]
    exact .cons ⟨rfl, hs c⟩ .nil
  · cases h with
    | same => exact hsame hv
    | settled h =>
      have hparts : List.Forall₂ (fun (p : Part) w => p.value.Becomes ctx p.site w)
          (v.parts ctx.schema s')
          ((v.parts ctx.schema s').map fun p => p.value.settle ctx p.site) := by
        rw [List.forall₂_map_right_iff, List.forall₂_same]
        exact fun p hp => .settled (h.part hv hp)
      rw [settle_eq hl hv site s', parts_of_entered hv s s']
      exact forall₂_parts_refill hv hparts s'

/-- A route goes on where some leaves are settled. -/
theorem route (hs : s.Becomes ctx s') {sites : List Site} {cells : List CellId}
    (hroute : Route ctx.schema s v sites cells u) (h : v.Becomes ctx site w) :
    ∃ last u', Route ctx.schema s' w sites cells u' ∧ u.Becomes ctx last u' := by
  induction hroute generalizing w site with
  | here v => exact ⟨site, w, .here w, h⟩
  | @down v u p sites cells hp _ ih =>
    obtain ⟨q, hq, hsite, hpq⟩ := exists_of_mem_forall₂ (h.parts hs).flip p hp
    obtain ⟨last, u', hroute', hu⟩ := ih hpq
    refine ⟨last, u', ?_, hu⟩
    rw [← hsite, ← h.entered_eq]
    exact .down hq hroute'

/-- …and comes from one of before. -/
theorem exists_route (hs : s.Becomes ctx s') {u' : Value} {sites : List Site} {cells : List CellId}
    (hroute : Route ctx.schema s' w sites cells u') (h : v.Becomes ctx site w) :
    ∃ last u, Route ctx.schema s v sites cells u ∧ u.Becomes ctx last u' := by
  induction hroute generalizing v site with
  | here w => exact ⟨site, v, .here v, h⟩
  | @down w u' q sites cells hq _ ih =>
    obtain ⟨p, hp, hsite, hpq⟩ := exists_of_mem_forall₂ (h.parts hs) q hq
    obtain ⟨last, u, hroute, hu⟩ := ih hpq
    refine ⟨last, u, ?_, hu⟩
    rw [hsite, h.entered_eq]
    exact .down hp hroute

/-! ## Guards and inspections -/

/-- **A guard lets a value through in which some leaves are settled.** -/
theorem guard {room : Nat} {path path' : String} (h : v.Becomes ctx site w)
    (hs : s.Becomes ctx s') (hheld : s'.held = s.held)
    (hg : FieldRules.guard ctx room s v path = .ok ()) :
    FieldRules.guard ctx room s' w path' = .ok () := by
  refine guard_eq_ok_iff.mpr fun sites cells u' hroute' => ?_
  obtain ⟨last, u, hroute, hu⟩ := exists_route hs hroute' h
  obtain ⟨hroom, hfree⟩ := guard_eq_ok_iff.mp hg sites cells u hroute
  refine ⟨hroom, fun c hc => ?_⟩
  rw [Store.isHeld, hheld]
  exact hfree c (hc ▸ hu).eq_shared

/-- Records expose all fields as before. -/
theorem exposes {name : String} {slots slots' : List Value} (h : ctx.schema.Exposes name slots)
    (hlen : slots.length = slots'.length) : ctx.schema.Exposes name slots' := by
  rw [Schema.Exposes, List.length_take, ← hlen, ← List.length_take]
  exact h

theorem readable (h : v.Becomes ctx site w) (hs : s.Becomes ctx s')
    (hread : Readable ctx.schema s v) : Readable ctx.schema s' w := by
  refine ⟨fun l' ⟨sites, cells, hroute'⟩ => ?_, fun name slots' ⟨sites, cells, hroute'⟩ => ?_⟩
  · obtain ⟨last, u, hroute, hu⟩ := exists_route hs hroute' h
    obtain ⟨l, rfl, hshown⟩ := hu.exists_leaf
    obtain ⟨form, hform⟩ := hread.leaf l ⟨sites, cells, hroute⟩
    exact hshown form hform
  · obtain ⟨last, u, hroute, hu⟩ := exists_route hs hroute' h
    obtain ⟨slots, rfl, hlen⟩ := hu.exists_record
    exact exposes (hread.exposes name slots ⟨sites, cells, hroute⟩) hlen

/-- **A field that was inspected can be inspected again** when some leaves are settled. -/
theorem exists_inspect {room : Nat} {p : Place} (h : v.Becomes ctx site w)
    (hs : s.Becomes ctx s') (hheld : s'.held = s.held)
    (hg : FieldRules.guard ctx room s v p.path = .ok ()) (hread : Readable ctx.schema s v) :
    ∃ hint form, inspect ctx room s' w p = .ok (hint, form) := by
  obtain ⟨hint, form, hi, _⟩ := exists_inspect_of_guard (h.guard hs hheld hg) (h.readable hs hread)
  exact ⟨hint, form, hi⟩

end Value.Becomes

end FieldRules
