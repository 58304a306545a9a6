import FieldRules.Proofs.Frame
import FieldRules.Proofs.Rerun

/-!
# Proofs/Sharing — which cells are still shared after a run

A mapped value that a field accepts is made of new cells (`made_read`), also where the field held a
cell: the field lets go of the cell, and nobody writes into it.  So after a complete run a position
holds the cell that it held, or lies in a field that was **renewed**: one that reaches new cells
only (`cells_still_held`).
-/

namespace FieldRules

variable {schema : Schema} {n : Nat} {J : List FieldVisit}

/-! ## New values -/

/-- The value refers to new cells only: the first `n` are the old ones. -/
def Value.New (schema : Schema) (n : Nat) (v : Value) : Prop := ∀ d, Refers schema v d → n ≤ d

/-- New cells hold new values. -/
def Store.New (schema : Schema) (n : Nat) (s : Store) : Prop :=
  ∀ c, n ≤ c → (s.cell c).content.New schema n

theorem Value.New.part {v : Value} (h : v.New schema n) {s : Store} (hs : s.New schema n) :
    ∀ p ∈ v.parts schema s, p.value.New schema n := by
  intro p hp
  cases v with
  | shared c =>
    obtain rfl := List.mem_singleton.mp hp
    exact hs c (h c (.here c))
  | _ => exact fun d hd => h d ((refers_iff rfl s).mpr ⟨p, hp, hd⟩)

/-- **From new values, new cells only are reached.** -/
theorem Value.New.le_of_below {v : Value} (h : v.New schema n) {s : Store} (hs : s.New schema n)
    {d : CellId} (hd : Below schema s v (.shared d)) : n ≤ d :=
  Below.of_closed (P := Value.New schema n) (fun _ hu => hu.part hs) h hd d (.here d)

/-- In a store where all cells are old there is no new cell to be new. -/
theorem Store.new_self (s : Store) : s.New schema s.cells.length := by
  intro c hc d hd
  rw [Store.cell_of_le hc] at hd
  exact absurd hd not_refers_leaf

/-! ## Renewed fields -/

def Site.IsField : Site → Prop
  | field _ _ _ => True
  | _ => False

/-- The sites pass a field that holds a new value. -/
inductive Value.Renewed (schema : Schema) (n : Nat) (store : Store) : Value → List Site → Prop
  | field {v : Value} {p : Part} (hp : p ∈ v.parts schema store) (hfield : p.site.IsField)
      (hnew : p.value.New schema n) (rest : List Site) :
      Renewed schema n store v (p.site :: rest)
  | down {v : Value} {p : Part} {rest : List Site} (hp : p ∈ v.parts schema store)
      (h : Renewed schema n store p.value rest) : Renewed schema n store v (p.site :: rest)

namespace Value.Renewed

variable {store : Store} {v w : Value} {sites : List Site}

theorem append (h : v.Renewed schema n store sites) (rest : List Site) :
    v.Renewed schema n store (sites ++ rest) := by
  induction h with
  | field hp hfield hnew inner => exact .field hp hfield hnew (inner ++ rest)
  | down hp _ ih => exact .down hp ih

theorem of_route {cells : List CellId} (h : Route schema store v sites cells w)
    {rest : List Site} (hw : w.Renewed schema n store rest) :
    v.Renewed schema n store (sites ++ rest) := by
  induction h with
  | here => exact hw
  | down hp _ ih => exact .down hp (ih hw)

/-- In an empty store nothing is renewed below a cell. -/
theorem entered (h : v.Renewed schema n .empty sites) : v.entered = [] := by
  cases v with
  | shared c =>
    cases h with
    | field hp hfield =>
      obtain rfl := List.mem_singleton.mp hp
      exact hfield.elim
    | down hp h =>
      obtain rfl := List.mem_singleton.mp hp
      cases h with
      | field hp => cases hp
      | down hp => cases hp
  | _ => rfl

/-- What is renewed in an empty store is so in every store. -/
theorem inner (h : v.Renewed schema n .empty sites) (store : Store) :
    v.Renewed schema n store sites := by
  induction h with
  | field hp hfield hnew rest =>
    have hv := entered (.field hp hfield hnew rest)
    exact .field (parts_of_entered hv .empty store ▸ hp) hfield hnew rest
  | down hp h ih =>
    have hv := entered (.down hp h)
    exact .down (parts_of_entered hv .empty store ▸ hp) ih

end Value.Renewed

/-! ## What a value retains -/

/-- The field accepted a mapped value. -/
def FieldVisit.Accepted (f : FieldVisit) : Prop := f.attempt? ≠ none ∧ f.refusal? = none

/-- A field that referred to the cell accepted a mapped value. -/
def Replaced (schema : Schema) (J : List FieldVisit) (c : CellId) : Prop :=
  ∃ f ∈ J, f.Accepted ∧ Refers schema f.before c

/-- What a value retains through a run, whose journal is `J`: it gets references to new cells only,
renewed fields stay renewed, and positions hold their cells or lie in renewed fields. -/
structure Value.Retained (schema : Schema) (n : Nat) (J : List FieldVisit) (v w : Value) :
    Prop where
  refers : ∀ d, Refers schema w d → Refers schema v d ∨ n ≤ d
  renewed : ∀ sites, v.Renewed schema n .empty sites → w.Renewed schema n .empty sites
  held : ∀ sites c, Route schema .empty v sites [] (.shared c) →
    Route schema .empty w sites [] (.shared c) ∨
      w.Renewed schema n .empty sites ∧ Replaced schema J c

namespace Value.Retained

theorem refl (v : Value) : v.Retained schema n J v :=
  ⟨fun _ => .inl, fun _ => id, fun _ _ => .inl⟩

theorem trans {u v w : Value} (h : u.Retained schema n J v) (h' : v.Retained schema n J w) :
    u.Retained schema n J w := by
  refine ⟨fun d hd => ?_, fun sites hs => h'.renewed sites (h.renewed sites hs),
    fun sites c hc => ?_⟩
  · exact (h'.refers d hd).elim (h.refers d) .inr
  · obtain hv | ⟨hv, hreplaced⟩ := h.held sites c hc
    · exact h'.held sites c hv
    · exact .inr ⟨h'.renewed sites hv, hreplaced⟩

theorem new {v w : Value} (h : v.Retained schema n J w) (hv : v.New schema n) :
    w.New schema n := fun d hd => (h.refers d hd).elim (hv d) id

end Value.Retained

/-- A part is retained, or it is a field that accepted a mapped value. -/
def Part.Retained (schema : Schema) (n : Nat) (J : List FieldVisit) (p : Part) (w : Value) : Prop :=
  p.value.Retained schema n J w ∨
    p.site.IsField ∧ w.New schema n ∧ ∀ c, Refers schema p.value c → Replaced schema J c

/-- **A value is retained if its parts are.** -/
theorem Value.Retained.refill {store : Store} {v : Value} (hv : v.entered = []) {ws : List Value}
    (h : List.Forall₂ (Part.Retained schema n J) (v.parts schema store) ws) :
    v.Retained schema n J (v.refill ws) := by
  have hparts := forall₂_parts_refill hv h .empty
  have hw : (v.refill ws).entered = [] := (v.entered_refill ws).trans hv
  refine ⟨fun d hd => ?_, fun sites hs => ?_, fun sites c hc => ?_⟩
  · obtain ⟨q, hq, hd⟩ := (refers_iff hw .empty).mp hd
    obtain ⟨p, hp, _, hretained | ⟨_, hnew, _⟩⟩ := exists_of_mem_forall₂ hparts q hq
    · exact (hretained.refers d hd).imp_left fun hd => (refers_iff hv .empty).mpr ⟨p, hp, hd⟩
    · exact .inr (hnew d hd)
  · cases hs with
    | @field _ p hp hfield hnew rest =>
      obtain ⟨q, hq, hsite, hretained⟩ := exists_match_of_mem hparts hp
      have hqnew : q.value.New schema n :=
        hretained.elim (fun hretained => hretained.new hnew) fun hfield => hfield.2.1
      exact hsite ▸ .field hq (hsite ▸ hfield) hqnew rest
    | @down _ p rest hp hs =>
      obtain ⟨q, hq, hsite, hretained | ⟨hfield, hnew, _⟩⟩ := exists_match_of_mem hparts hp
      · exact hsite ▸ .down hq (hretained.renewed rest hs)
      · exact hsite ▸ .field hq (hsite ▸ hfield) hnew rest
  · obtain ⟨_, heq⟩ | ⟨p, hp, rest, _, rfl, hrest⟩ := hc.inner_cases
    · rw [← heq] at hv
      cases hv
    · obtain ⟨q, hq, hsite, hretained | ⟨hfield, hnew, hreplaced⟩⟩ :=
        exists_match_of_mem hparts hp
      · obtain hroute | ⟨hs, hreplaced⟩ := hretained.held rest c hrest
        · exact .inl (hsite ▸ .inner_down hw hq hroute)
        · exact .inr ⟨hsite ▸ .down hq hs, hreplaced⟩
      · exact .inr ⟨hsite ▸ .field hq (hsite ▸ hfield) hnew rest,
          hreplaced c (refers_of_inner hrest)⟩

/-! ## What a store retains -/

/-- What a store retains through a run: it grows, old cells retain what they hold, and new cells
hold new values. -/
structure Store.Retained (schema : Schema) (n : Nat) (J : List FieldVisit) (s s' : Store) :
    Prop where
  length : s.cells.length ≤ s'.cells.length
  content : ∀ c, c < n → (s.cell c).content.Retained schema n J (s'.cell c).content
  new : s.New schema n → s'.New schema n

namespace Store.Retained

variable {s s' s'' : Store}

theorem refl (s : Store) : s.Retained schema n J s := ⟨Nat.le_refl _, fun _ _ => .refl _, id⟩

theorem trans (h : s.Retained schema n J s') (h' : s'.Retained schema n J s'') :
    s.Retained schema n J s'' :=
  ⟨h.length.trans h'.length, fun c hc => (h.content c hc).trans (h'.content c hc),
    fun hs => h'.new (h.new hs)⟩

/-- Who holds which cells makes no difference. -/
theorem of_cells (h : s.cells = s'.cells) : s.Retained schema n J s' := by
  have hcell : ∀ c, s'.cell c = s.cell c := fun c => by rw [Store.cell, Store.cell, h]
  exact ⟨h ▸ Nat.le_refl _, fun c _ => hcell c ▸ .refl _, fun hs c hc => hcell c ▸ hs c hc⟩

/-- Reading adds cells that hold new values. -/
theorem of_made {w : Value} (h : Made schema s [w] s') (hn : n ≤ s.cells.length) :
    s.Retained schema n J s' := by
  have hcell : ∀ c, c < s.cells.length → s'.cell c = s.cell c := fun c =>
    Store.cell_of_prefix h.grown.cells
  refine ⟨h.grown.length_le, fun c hc => hcell c (hc.trans_le hn) ▸ .refl _, fun hs c hc d hd => ?_⟩
  rcases Nat.lt_or_ge c s.cells.length with hlt | hge
  · exact hs c hc d (hcell c hlt ▸ hd)
  · rcases Nat.lt_or_ge c s'.cells.length with hlt' | hge'
    · exact hn.trans (h.grown.fresh c hge hlt' d hd).1
    · rw [Store.cell_of_le hge'] at hd
      exact absurd hd not_refers_leaf

/-- A cell gets back what it retains. -/
theorem write (h : s.Retained schema n J s') {c : CellId} {w : Value}
    (hw : (s.cell c).content.Retained schema n J w) : s.Retained schema n J (s'.write c w) := by
  rcases Nat.lt_or_ge c s'.cells.length with hlt | hge
  · refine ⟨(s'.length_write c w).symm ▸ h.length, fun d hd => ?_, fun hs d hd => ?_⟩
    · by_cases hdc : d = c
      · rw [hdc, Store.content_write hlt]
        exact hw
      · rw [Store.cell_write_of_ne hdc]
        exact h.content d hd
    · by_cases hdc : d = c
      · rw [hdc, Store.content_write hlt]
        exact hw.new (hs c (hdc ▸ hd))
      · rw [Store.cell_write_of_ne hdc]
        exact h.new hs d hd
  · rwa [Store.write_of_le hge]

end Store.Retained

/-! ## Walks -/

variable {ctx : Context} {room : Nat} {path : String}

/-- A rule changes a field only if that accepts a mapped value, which is read then. -/
theorem FieldVisit.Acts.read_or_eq {f : FieldVisit} {s s' : Store} (h : f.Acts ctx room s s') :
    (f.Accepted ∧ ∃ w, Value.read ctx.schema f.place.typ w s = .ok (f.after, s')) ∨
      (¬ f.Accepted ∧ f.after = f.before ∧ s' = s) := by
  cases h with
  | kept hi hw ha hr => exact .inr ⟨fun h => h.1 hw, ha, rfl⟩
  | stored hi hw hread hr => exact .inl ⟨⟨by simp [hw], hr⟩, _, hread⟩
  | refused hi hw hread ha hr => exact .inr ⟨fun h => (nomatch hr.symm.trans h.2), ha, rfl⟩

/-- Only fields have rules. -/
theorem Task.Of.isField {cache : PlanCache} {p : Part} {t : Task} (h : Task.Of ctx path cache p t)
    {rp : Rule × Place} (hrule : t.rule? = some rp) : p.site.IsField := by
  cases h with
  | plain => cases hrule
  | field => trivial

/-- What a walk with a journal retains of the store, and that the values it has written are new. -/
structure Stage.Retained (schema : Schema) (n : Nat) (J journal : List FieldVisit) (s s' : Stage) :
    Prop where
  store : s.store.Retained schema n J s'.store
  written : ∀ f ∈ journal, f.Accepted → f.after.New schema n

namespace Stage.Retained

variable {s s' s'' : Stage} {j js : List FieldVisit}

theorem refl (s : Stage) : s.Retained schema n J [] s := ⟨.refl _, nofun⟩

theorem append (h : s.Retained schema n J j s') (h' : s'.Retained schema n J js s'') :
    s.Retained schema n J (j ++ js) s'' :=
  ⟨h.store.trans h'.store, List.forall_mem_append.mpr ⟨h.written, h'.written⟩⟩

end Stage.Retained

/-- **A rule leaves a field its value, or gives it a new one** that was accepted. -/
theorem FieldVisit.Acts.retained {f : FieldVisit} {s : Stage} {store : Store}
    (h : f.Acts ctx room s.store store) (J : List FieldVisit) (hn : n ≤ s.store.cells.length) :
    s.Retained ctx.schema n J [f] ⟨store, s.cache⟩ ∧
      (f.after = f.before ∨ f.Accepted ∧ f.after.New ctx.schema n) := by
  obtain ⟨haccepted, _, hread⟩ | ⟨hnot, hafter, rfl⟩ := h.read_or_eq
  · have hmade := made_read hread
    have hnew : f.after.New ctx.schema n := fun d hd =>
      hn.trans (hmade.refers _ (List.mem_singleton_self _) d hd).1
    have hwritten : ∀ g ∈ [f], g.Accepted → g.after.New ctx.schema n :=
      List.forall_mem_singleton.mpr fun _ => hnew
    exact ⟨⟨.of_made hmade hn, hwritten⟩, .inr ⟨haccepted, hnew⟩⟩
  · have hwritten : ∀ g ∈ [f], g.Accepted → g.after.New ctx.schema n :=
      List.forall_mem_singleton.mpr fun haccepted => absurd haccepted hnot
    exact ⟨⟨.refl _, hwritten⟩, .inl hafter⟩

/-- Tasks that are walked retain the parts, if walks one level below retain values. -/
theorem WalkTasks.retained
    {below : Value → String → Stage → List FieldVisit → Value → Stage → Prop}
    (hbelow : ∀ {v p s j w s'}, below v p s j w s' → (∀ f ∈ j, f ∈ J) → n ≤ s.store.cells.length →
      v.Retained ctx.schema n J w ∧ s.Retained ctx.schema n J j s')
    {cache : PlanCache} {ps : List Part} {ts : List Task} {s s' : Stage} {j : List FieldVisit}
    {ws : List Value} (h : WalkTasks ctx room path below ts s j ws s')
    (hts : List.Forall₂ (Task.Of ctx path cache) ps ts) (hj : ∀ f ∈ j, f ∈ J)
    (hn : n ≤ s.store.cells.length) :
    List.Forall₂ (Part.Retained ctx.schema n J) ps ws ∧ s.Retained ctx.schema n J j s' := by
  induction h generalizing ps with
  | nil s =>
    cases hts
    exact ⟨.nil, .refl s⟩
  | @plain t ts s s' s'' j js w ws hrule hwalk hrest ih =>
    cases hts with
    | @cons p _ _ _ hpt hts =>
      rw [List.forall_mem_append] at hj
      obtain ⟨hvalue, hstage⟩ := hbelow hwalk hj.1 hn
      obtain ⟨hvalues, hstages⟩ := ih hts hj.2 (hn.trans hstage.store.length)
      rw [hpt.value_eq] at hvalue
      exact ⟨.cons (.inl hvalue) hvalues, hstage.append hstages⟩
  | @field t ts s s' s'' store j js w ws f hrule htask hacts hwalk hrest ih =>
    cases hts with
    | @cons p _ _ _ hpt hts =>
      rw [List.forall_mem_cons, List.forall_mem_append] at hj
      obtain ⟨hf, hj, hjs⟩ := hj
      have hbefore : f.before = p.value := htask.trans hpt.value_eq
      obtain ⟨hacted, hafter⟩ := hacts.retained J hn
      have hn' : n ≤ store.cells.length := hn.trans hacted.store.length
      obtain ⟨hvalue, hstage⟩ := hbelow hwalk hj hn'
      obtain ⟨hvalues, hstages⟩ := ih hts hjs (hn'.trans hstage.store.length)
      refine ⟨.cons ?_ hvalues, hacted.append (hstage.append hstages)⟩
      obtain hsame | ⟨haccepted, hnew⟩ := hafter
      · rw [hsame, hbefore] at hvalue
        exact .inl hvalue
      · exact .inr ⟨hpt.isField hrule, hvalue.new hnew, fun c hc =>
          ⟨f, hf, haccepted, hbefore ▸ hc⟩⟩

/-- **A walk retains what it goes through.** -/
theorem Walk.retained {v w : Value} {s s' : Stage} {j : List FieldVisit}
    (h : Walk ctx room v path s j w s') (hj : ∀ f ∈ j, f ∈ J) (hn : n ≤ s.store.cells.length) :
    v.Retained ctx.schema n J w ∧ s.Retained ctx.schema n J j s' := by
  induction room generalizing v path s j w s' with
  | zero => cases h
  | succ room ih =>
    obtain ⟨opened, tasks, ws, left, hopen, htasks, rfl, rfl⟩ := h
    obtain ⟨rfl, _, hparts⟩ := of_opening hopen
    have hheld : s.store.Retained ctx.schema n J (v.heldIn s.store) :=
      .of_cells (v.cells_heldIn s.store).symm
    obtain ⟨hvalues, hstage⟩ := htasks.retained ih hparts hj (hn.trans hheld.length)
    have hstore := hheld.trans hstage.store
    cases v with
    | shared c =>
      cases hvalues with
      | @cons _ w _ _ hw hnil =>
        cases hnil
        have hw : (s.store.cell c).content.Retained ctx.schema n J w :=
          hw.resolve_right fun hfield => hfield.1
        exact ⟨.refl _, (hstore.write hw).trans (.of_cells rfl), hstage.written⟩
    | _ => exact ⟨.refill rfl hvalues, hstore, hstage.written⟩

/-! ## Positions -/

/-- The position at some sites below a value holds a cell. -/
def Value.HoldsAt (schema : Schema) (store : Store) (v : Value) (sites : List Site) (c : CellId) :
    Prop :=
  ∃ cells, Route schema store v sites cells (.shared c)

/-- A cell in which a position holds a cell is in the store. -/
theorem lt_of_route {s : Store} {b c : CellId} {sites : List Site} {cells : List CellId}
    (h : Route schema s (s.cell b).content sites cells (.shared c)) : b < s.cells.length := by
  refine Nat.lt_of_not_le fun hge => ?_
  rw [Store.cell_of_le hge] at h
  cases Below.eq_of_leaf ⟨_, _, h⟩

/-- **A position still holds its cell, or lies in a renewed field**: some cell on the way to it was
let go of by a field that accepted a mapped value. -/
theorem holdsAt_or_renewed {s s' : Store}
    (hs : ∀ c, c < n → (s.cell c).content.Retained schema n J (s'.cell c).content)
    (hn : s.cells.length ≤ n) {u v v' : Value} {above sites : List Site} {cells : List CellId}
    {c : CellId} (hv : v.Retained schema n J v') (habove : Route schema .empty v above [] u)
    (h : Route schema s u sites cells (.shared c)) :
    v'.HoldsAt schema s' (above ++ sites) c ∨ v'.Renewed schema n s' (above ++ sites) ∧
      ∃ d ∈ c :: cells, Replaced schema J d := by
  generalize hw : Value.shared c = w at h
  induction h generalizing v v' above with
  | here =>
    subst hw
    rw [List.append_nil]
    obtain hheld | ⟨hrenewed, hreplaced⟩ := hv.held above c habove
    · exact .inl ⟨[], hheld.inner⟩
    · exact .inr ⟨hrenewed.inner s', c, List.mem_cons_self, hreplaced⟩
  | @down u w p sites cells hp hrest ih =>
    subst hw
    by_cases hu : u.entered = []
    · have hp' : p ∈ u.parts schema .empty := u.parts_of_entered hu s .empty ▸ hp
      have hroute : Route schema .empty v (above ++ [p.site]) ([] ++ []) p.value :=
        habove.append (.inner_down hu hp' (.here p.value))
      have hstep := ih hv hroute rfl
      rw [List.append_assoc] at hstep
      rw [hu]
      exact hstep
    · cases u with
      | shared b =>
        obtain rfl := List.mem_singleton.mp hp
        obtain hheld | ⟨hrenewed, hreplaced⟩ := hv.held above b habove
        · -- The walk enters the cell, and goes on from what that retains.
          have hb : b < n := (lt_of_route hrest).trans_le hn
          have hroute : Route schema s' v' (above ++ [Site.inner]) ([] ++ ([b] ++ []))
              (s'.cell b).content :=
            hheld.inner.append (.part (p := ⟨.inner, (s'.cell b).content⟩)
              (List.mem_singleton_self _))
          obtain ⟨cells', hholds⟩ | ⟨hrenewed, d, hd, hreplaced⟩ := ih (hs b hb) (.here _) rfl
          · have happend := hroute.append hholds
            rw [List.append_assoc] at happend
            exact .inl ⟨_, happend⟩
          · have happend := hrenewed.of_route hroute
            rw [List.append_assoc] at happend
            refine .inr ⟨happend, d, ?_, hreplaced⟩
            exact (List.mem_cons.mp hd).elim (fun hd => hd ▸ List.mem_cons_self) fun hd =>
              List.mem_cons_of_mem c (List.mem_append_right [b] hd)
        · exact .inr ⟨(hrenewed.inner s').append _, b,
            List.mem_cons_of_mem c (List.mem_append_left cells (List.mem_singleton_self b)),
            hreplaced⟩
      | _ => exact absurd rfl hu

/-! ## Sites that tell parts apart -/

theorem Site.not_before_self (site : Site) : ¬ site.Before site := by
  rintro (h | h | h)
  · exact Nat.lt_irrefl _ h
  · exact String.lt_irrefl _ h
  · exact Nat.lt_irrefl _ h

/-- Parts at one site are one part, if maps list their entries by key. -/
theorem eq_of_site_eq {store : Store} {v : Value}
    (hv : ∀ entries, Below schema store v (.map entries) → Dict.Sorted entries) {p q : Part}
    (hp : p ∈ v.parts schema store) (hq : q ∈ v.parts schema store) (h : p.site = q.site) :
    p = q := by
  have hbefore : (v.parts schema store).Pairwise fun p q => p.site.Before q.site :=
    pairwise_parts fun entries he => hv entries (he ▸ .refl v)
  have hsites : ((v.parts schema store).map Part.site).Nodup := by
    refine List.pairwise_map.mpr (hbefore.imp fun {p q} hpq heq => ?_)
    exact q.site.not_before_self (heq ▸ hpq)
  exact List.inj_on_of_nodup_map hsites hp hq h

namespace Value.HoldsAt

variable {store : Store} {v : Value} {site : Site} {sites : List Site} {c d : CellId}

theorem nil_iff : v.HoldsAt schema store [] c ↔ v = .shared c := by
  constructor
  · rintro ⟨cells, h⟩
    cases h
    rfl
  · rintro rfl
    exact ⟨[], .here _⟩

theorem cons_iff : v.HoldsAt schema store (site :: sites) c ↔
    ∃ p ∈ v.parts schema store, p.site = site ∧ p.value.HoldsAt schema store sites c := by
  constructor
  · rintro ⟨cells, h⟩
    cases h with
    | down hp h => exact ⟨_, hp, rfl, _, h⟩
  · rintro ⟨p, hp, rfl, cells, h⟩
    exact ⟨_, .down hp h⟩

/-- The part at a site is what holds the cells below it. -/
theorem of_cons (hv : ∀ entries, Below schema store v (.map entries) → Dict.Sorted entries)
    {p : Part} (hp : p ∈ v.parts schema store) (h : v.HoldsAt schema store (p.site :: sites) c) :
    p.value.HoldsAt schema store sites c := by
  obtain ⟨q, hq, hsite, hholds⟩ := cons_iff.mp h
  obtain rfl := eq_of_site_eq hv hq hp hsite
  exact hholds

/-- A position holds one cell. -/
theorem unique (hv : ∀ entries, Below schema store v (.map entries) → Dict.Sorted entries)
    (hc : v.HoldsAt schema store sites c) (hd : v.HoldsAt schema store sites d) : c = d := by
  induction sites generalizing v with
  | nil => exact Value.shared.inj ((nil_iff.mp hc).symm.trans (nil_iff.mp hd))
  | cons site sites ih =>
    obtain ⟨p, hp, rfl, hholds⟩ := cons_iff.mp hc
    exact ih (fun entries hb => hv entries (.part hp hb)) hholds (of_cons hv hp hd)

/-- **A position in a renewed field holds a new cell.** -/
theorem le_of_renewed (hs : store.New schema n)
    (hv : ∀ entries, Below schema store v (.map entries) → Dict.Sorted entries)
    (hrenewed : v.Renewed schema n store sites) (hc : v.HoldsAt schema store sites c) : n ≤ c := by
  induction hrenewed with
  | @field v p hp _ hnew rest =>
    obtain ⟨cells, hroute⟩ := of_cons hv hp hc
    exact hnew.le_of_below hs ⟨_, _, hroute⟩
  | @down v p rest hp _ ih =>
    exact ih (fun entries hb => hv entries (.part hp hb)) (of_cons hv hp hc)

end Value.HoldsAt

/-! ## Runs -/

/-- A shared value is read as a new cell. -/
theorem exists_shared_of_read {t : Typ} {form : Json} {s s' : Store} {v : Value}
    (h : Value.read schema (.shared t) form s = .ok (v, s')) : ∃ d, v = .shared d := by
  have hnode {kids : Children} (h : readNode schema form kids (.shared t) s = .ok (v, s')) :
      ∃ d, v = .shared d := by
    rw [readNode, map_eq_ok] at h
    obtain ⟨_, _, h⟩ := h
    exact ⟨_, (Prod.mk.inj h).1.symm⟩
  cases form <;> exact hnode h

/-- **Which cells are still shared after a run.**  In a complete run every field that accepts a
mapped value gets one that is made of new cells, and so does a field of a shared type: its cell is
not written.  A position still holds the cell that it held, or it lies in a field that was renewed
so, and then reaches new cells only.  Hence two positions that held one cell still hold it iff
neither lies in a renewed field, and if only one does, they hold no cell in common. -/
theorem cells_still_held (e : Engine) (schema : Schema) (rootType : Typ) (v : Value)
    (store : Store) (hcomplete : (e.validate schema rootType v store).Completes) :
    let r := e.validate schema rootType v store
    let ctx := e.context schema
    let n := store.cells.length
    ∃ journal,
      Walk ctx ctx.room v "" ⟨store, e.cache⟩ journal r.value ⟨r.store, r.engine.cache⟩ ∧
      r.Accounted ctx journal ∧
      (∀ f ∈ journal, f.Accepted → f.after.New schema n ∧
        ∀ t, f.place.typ = .shared t → ∃ d, n ≤ d ∧ f.after = .shared d) ∧
      (∀ w d, w.New schema n → Below schema r.store w (.shared d) → n ≤ d) ∧
      (∀ sites cells c, Route schema store v sites cells (.shared c) →
        r.value.HoldsAt schema r.store sites c ∨ r.value.Renewed schema n r.store sites ∧
          ∃ d ∈ c :: cells, Replaced schema journal d) ∧
      ((∀ entries, Below schema r.store r.value (.map entries) → Dict.Sorted entries) →
        ∀ sites sites' c, c < n → v.HoldsAt schema store sites c →
          v.HoldsAt schema store sites' c →
          (r.value.HoldsAt schema r.store sites c ∧ r.value.HoldsAt schema r.store sites' c ↔
            ¬ r.value.Renewed schema n r.store sites ∧
              ¬ r.value.Renewed schema n r.store sites') ∧
          (r.value.Renewed schema n r.store sites → ¬ r.value.Renewed schema n r.store sites' →
            ∀ d, ¬ (r.value.HoldsAt schema r.store sites d ∧
              r.value.HoldsAt schema r.store sites' d))) := by
  intro r ctx n
  obtain ⟨hne, hstop⟩ := stop_of_completes hcomplete
  obtain ⟨journal, hwalk, haccounted⟩ := exists_accounted rootType hne hstop
  obtain ⟨hvalue, hstage⟩ := hwalk.retained (J := journal) (n := n) (fun _ hf => hf) (Nat.le_refl n)
  have hnew : r.store.New schema n := hstage.store.new store.new_self
  have hposition (sites : List Site) (cells : List CellId) (c : CellId)
      (h : Route schema store v sites cells (.shared c)) :=
    holdsAt_or_renewed hstage.store.content (Nat.le_refl n) hvalue (.here v) h
  refine ⟨journal, hwalk, haccounted, fun f hf haccepted => ?_, fun w d hw hd =>
    hw.le_of_below hnew hd, hposition, fun hsorted sites sites' c hc hs hs' => ?_⟩
  · refine ⟨hstage.written f hf haccepted, fun t ht => ?_⟩
    obtain ⟨room, s, s', hacts⟩ := hwalk.happened f hf
    obtain ⟨_, w, hread⟩ | ⟨hnot, _⟩ := hacts.read_or_eq
    · rw [ht] at hread
      obtain ⟨d, hd⟩ := exists_shared_of_read hread
      exact ⟨d, hstage.written f hf haccepted d (hd ▸ .here d), hd⟩
    · exact absurd haccepted hnot
  · have hiff (sites : List Site) (h : v.HoldsAt schema store sites c) :
        r.value.HoldsAt schema r.store sites c ↔ ¬ r.value.Renewed schema n r.store sites := by
      obtain ⟨cells, hroute⟩ := h
      refine ⟨fun hheld hrenewed => ?_, fun hnot => ?_⟩
      · exact Nat.not_le_of_lt hc (hheld.le_of_renewed hnew hsorted hrenewed)
      · exact (hposition sites cells c hroute).resolve_right fun hrenewed => hnot hrenewed.1
    refine ⟨and_congr (hiff sites hs) (hiff sites' hs'), fun hrenewed hnot d hd => ?_⟩
    obtain rfl := hd.2.unique hsorted ((hiff sites' hs').mpr hnot)
    exact Nat.not_le_of_lt hc (hd.1.le_of_renewed hnew hsorted hrenewed)

/-! ### A cell with two holders -/

/-- The field that is mapped. -/
def leftField : FieldDecl := ⟨"left", some "upper,", none⟩

def rightField : FieldDecl := ⟨"right", none, none⟩

/-- Two fields of a shared type. -/
def holdersSchema : Schema :=
  ⟨[("Holders", ⟨"Holders", "Holders", "Holders",
    [⟨leftField, "left", .shared (.scalar .text)⟩, ⟨rightField, "right", .shared (.scalar .text)⟩],
    2⟩)]⟩

/-- Both fields hold the one cell. -/
def holders : Value := .record "Holders" [.shared 0, .shared 0]

def holdersStore : Store := ⟨[⟨.scalar .text, .leaf (.text "x")⟩], []⟩

def leftSite : Site := .field "Holders" 0 leftField

def rightSite : Site := .field "Holders" 1 rightField

/-- The run maps the left field, and leaves it with a new cell. -/
theorem validate_holders :
    let r := Engine.initial.validate holdersSchema (.record "Holders") holders holdersStore
    r.result = .ok [] ∧ r.value = .record "Holders" [.shared 1, .shared 0] ∧
      r.store.cells.map Cell.content = [.leaf (.text "x"), .leaf (.text "X")] := ⟨rfl, rfl, rfl⟩

theorem mem_parts_holders {left right : Value} {store : Store} {p : Part} :
    p ∈ (Value.record "Holders" [left, right]).parts holdersSchema store ↔
      p = ⟨leftSite, left⟩ ∨ p = ⟨rightSite, right⟩ := by
  simp [Value.parts, holdersSchema, Schema.record, leftSite, rightSite]

theorem holdsAt_left {c d : CellId} {right : Value} {store : Store} :
    (Value.record "Holders" [.shared c, right]).HoldsAt holdersSchema store [leftSite] d ↔
      d = c := by
  simp [Value.HoldsAt.cons_iff, Value.HoldsAt.nil_iff, mem_parts_holders, leftSite, rightSite,
    eq_comm]

theorem holdsAt_right {c d : CellId} {left : Value} {store : Store} :
    (Value.record "Holders" [left, .shared c]).HoldsAt holdersSchema store [rightSite] d ↔
      d = c := by
  simp [Value.HoldsAt.cons_iff, Value.HoldsAt.nil_iff, mem_parts_holders, leftSite, rightSite,
    eq_comm]

/-- The left field has accepted a mapped value when it held the cell; the right field holds it
still. -/
theorem cells_still_held_holders :
    let r := Engine.initial.validate holdersSchema (.record "Holders") holders holdersStore
    r.Completes ∧ (∃ f : FieldVisit, f.Accepted ∧ Refers holdersSchema f.before 0) ∧
      r.value.HoldsAt holdersSchema r.store [rightSite] 0 := by
  intro r
  have hcomplete : r.Completes := .inl ⟨[], validate_holders.1⟩
  have hvalue : r.value = .record "Holders" [.shared 1, .shared 0] := validate_holders.2.1
  have hroute : Route holdersSchema holdersStore holders [leftSite] [] (.shared 0) :=
    .part (p := ⟨leftSite, .shared 0⟩) (mem_parts_holders.mpr (.inl rfl))
  obtain ⟨journal, _, _, _, _, hposition, _⟩ :=
    cells_still_held Engine.initial holdersSchema (.record "Holders") holders holdersStore hcomplete
  refine ⟨hcomplete, ?_, hvalue ▸ holdsAt_right.mpr rfl⟩
  obtain hheld | ⟨_, d, hd, f, _, haccepted, hrefers⟩ := hposition [leftSite] [] 0 hroute
  · rw [hvalue, holdsAt_left] at hheld
    contradiction
  · obtain rfl := List.mem_singleton.mp hd
    exact ⟨f, haccepted, hrefers⟩

/-- **Two fields that held one cell hold two cells after a run**: the mapped value is in the new
one, and who holds the old one does not see it. -/
theorem holders_parted :
    let r := Engine.initial.validate holdersSchema (.record "Holders") holders holdersStore
    holders.HoldsAt holdersSchema holdersStore [leftSite] 0 ∧
      holders.HoldsAt holdersSchema holdersStore [rightSite] 0 ∧ r.result = .ok [] ∧
      (¬ ∃ c, r.value.HoldsAt holdersSchema r.store [leftSite] c ∧
        r.value.HoldsAt holdersSchema r.store [rightSite] c) ∧
      (r.store.cell 0).content = .leaf (.text "x") ∧
      (r.store.cell 1).content = .leaf (.text "X") := by
  intro r
  have hvalue : r.value = .record "Holders" [.shared 1, .shared 0] := validate_holders.2.1
  refine ⟨holdsAt_left.mpr rfl, holdsAt_right.mpr rfl, validate_holders.1, ?_, rfl, rfl⟩
  rw [hvalue]
  rintro ⟨c, hleft, hright⟩
  exact absurd ((holdsAt_left.mp hleft).symm.trans (holdsAt_right.mp hright)) (by decide)

end FieldRules
