import Mathlib.Data.List.Basic
import Mathlib.Data.List.Forall2

/-!
# Proofs/Sequence — results one after the other

A sequence of results is good if all of them are, and otherwise its error is that of one of them.
-/

namespace FieldRules

variable {ε α β : Type}

theorem bind_eq_ok {x : Except ε α} {f : α → Except ε β} {b : β} :
    (x >>= f) = .ok b ↔ ∃ a, x = .ok a ∧ f a = .ok b := by
  cases x <;> simp [bind, Except.bind]

theorem bind_eq_error {x : Except ε α} {f : α → Except ε β} {e : ε} :
    (x >>= f) = .error e ↔ x = .error e ∨ ∃ a, x = .ok a ∧ f a = .error e := by
  cases x <;> simp [bind, Except.bind]

theorem map_eq_ok {x : Except ε α} {f : α → β} {b : β} :
    x.map f = .ok b ↔ ∃ a, x = .ok a ∧ f a = b := by
  cases x <;> simp [Except.map]

theorem map_eq_error {x : Except ε α} {f : α → β} {e : ε} : x.map f = .error e ↔ x = .error e := by
  cases x <;> simp [Except.map]

theorem forM_eq_ok {f : α → Except ε Unit} :
    ∀ {l : List α}, forM l f = .ok () ↔ ∀ a ∈ l, f a = .ok ()
  | [] => by simp [pure, Except.pure]
  | a :: l => by
    rw [List.forM_cons, bind_eq_ok, List.forall_mem_cons, ← forM_eq_ok (l := l)]
    exact ⟨fun ⟨_, ha, hl⟩ => ⟨ha, hl⟩, fun ⟨ha, hl⟩ => ⟨(), ha, hl⟩⟩

theorem forM_congr {f g : α → Except ε Unit} :
    ∀ {l : List α}, (∀ a ∈ l, f a = g a) → forM l f = forM l g
  | [], _ => rfl
  | a :: l, h => by
    rw [List.forM_cons, List.forM_cons, h a List.mem_cons_self,
      forM_congr fun b hb => h b (List.mem_cons_of_mem a hb)]

/-- **A sequence fails at the first element that is not good.** -/
theorem split_of_forM_eq_error {f : α → Except ε Unit} {e : ε} :
    ∀ {l : List α}, forM l f = .error e →
      ∃ pre a post, l = pre ++ a :: post ∧ (∀ b ∈ pre, f b = .ok ()) ∧ f a = .error e
  | [], h => by cases h
  | a :: l, h => by
    rw [List.forM_cons, bind_eq_error] at h
    obtain ha | ⟨_, ha, hl⟩ := h
    · exact ⟨[], a, l, rfl, nofun, ha⟩
    · obtain ⟨pre, b, post, rfl, hpre, hb⟩ := split_of_forM_eq_error hl
      exact ⟨a :: pre, b, post, rfl, List.forall_mem_cons.mpr ⟨ha, hpre⟩, hb⟩

theorem exists_of_forM_eq_error {f : α → Except ε Unit} {e : ε} {l : List α}
    (h : forM l f = .error e) : ∃ a ∈ l, f a = .error e := by
  obtain ⟨pre, a, post, rfl, _, ha⟩ := split_of_forM_eq_error h
  exact ⟨a, List.mem_append_right pre List.mem_cons_self, ha⟩

/-- What is in the second of two matching lists has a match in the first. -/
theorem exists_of_mem_forall₂ {R : α → β → Prop} :
    ∀ {as : List α} {bs : List β}, List.Forall₂ R as bs → ∀ b ∈ bs, ∃ a ∈ as, R a b
  | _, _, .cons hab hrest, b, hb => by
    obtain rfl | hb := List.mem_cons.mp hb
    · exact ⟨_, List.mem_cons_self, hab⟩
    · obtain ⟨a, ha, hab⟩ := exists_of_mem_forall₂ hrest b hb
      exact ⟨a, List.mem_cons_of_mem _ ha, hab⟩

/-- What is in the first of two matching lists has a match in the second. -/
theorem exists_match_of_mem {R : α → β → Prop} {as : List α} {bs : List β}
    (h : List.Forall₂ R as bs) {a : α} (ha : a ∈ as) : ∃ b ∈ bs, R a b :=
  have hflip : List.Forall₂ (flip R) bs as := List.Forall₂.flip h
  exists_of_mem_forall₂ hflip a ha

/-- Lists match if they do so at every index. -/
theorem forall₂_iff_getElem? {R : α → β → Prop} {as : List α} {bs : List β} :
    List.Forall₂ R as bs ↔ as.length = bs.length ∧
      ∀ (i : Nat) a b, as[i]? = some a → bs[i]? = some b → R a b := by
  refine List.forall₂_iff_get.trans (and_congr_right fun _ => ?_)
  refine ⟨fun h i a b ha hb => ?_, fun h => ?_⟩
  · obtain ⟨hi, rfl⟩ := List.getElem?_eq_some_iff.mp ha
    obtain ⟨hi', rfl⟩ := List.getElem?_eq_some_iff.mp hb
    exact h i hi hi'
  · exact fun i hi hi' => h i _ _ (List.getElem?_eq_getElem hi) (List.getElem?_eq_getElem hi')

/-- A relation of the elements of a list passes on to a list that matches it. -/
theorem pairwise_of_forall₂ {R : α → α → Prop} {S : α → β → Prop} {T : β → β → Prop}
    {as : List α} {bs : List β} (h : List.Forall₂ S as bs) (has : as.Pairwise R)
    (hT : ∀ {a a' b b'}, R a a' → S a b → S a' b' → T b b') : bs.Pairwise T := by
  induction h with
  | nil => exact .nil
  | cons hab hrest ih =>
    obtain ⟨hfirst, has⟩ := List.pairwise_cons.mp has
    refine List.pairwise_cons.mpr ⟨fun b' hb' => ?_, ih has⟩
    obtain ⟨a', ha', hab'⟩ := exists_of_mem_forall₂ hrest b' hb'
    exact hT (hfirst a' ha') hab hab'

/-- A match of two lists one after the other is two matches. -/
theorem forall₂_append_iff {R : α → β → Prop} : ∀ {as as' : List α} {bs : List β},
    List.Forall₂ R (as ++ as') bs ↔
      ∃ cs cs', List.Forall₂ R as cs ∧ List.Forall₂ R as' cs' ∧ bs = cs ++ cs'
  | [], as', bs => by simp
  | a :: as, as', bs => by
    rw [List.cons_append, List.forall₂_cons_left_iff]
    constructor
    · rintro ⟨b, rest, hab, hrest, rfl⟩
      obtain ⟨cs, cs', hcs, hcs', rfl⟩ := forall₂_append_iff.mp hrest
      exact ⟨b :: cs, cs', .cons hab hcs, hcs', rfl⟩
    · rintro ⟨_, cs', h, hcs', rfl⟩
      obtain ⟨b, cs, hab, hcs, rfl⟩ := List.forall₂_cons_left_iff.mp h
      exact ⟨b, cs ++ cs', hab, forall₂_append_iff.mpr ⟨cs, cs', hcs, hcs', rfl⟩, rfl⟩

theorem mapM_congr {f g : α → Except ε β} :
    ∀ {l : List α}, (∀ a ∈ l, f a = g a) → l.mapM f = l.mapM g
  | [], _ => rfl
  | a :: l, h => by
    rw [List.mapM_cons, List.mapM_cons, h a List.mem_cons_self,
      mapM_congr fun b hb => h b (List.mem_cons_of_mem a hb)]

/-- Every element of a list has a match iff the list matches some list. -/
theorem exists_forall₂_iff {R : α → β → Prop} :
    ∀ {as : List α}, (∃ bs, List.Forall₂ R as bs) ↔ ∀ a ∈ as, ∃ b, R a b
  | [] => ⟨fun _ => nofun, fun _ => ⟨[], .nil⟩⟩
  | a :: as => by
    rw [List.forall_mem_cons]
    constructor
    · rintro ⟨_, h⟩
      obtain ⟨b, bs, hab, hrest, _⟩ := List.forall₂_cons_left_iff.mp h
      exact ⟨⟨b, hab⟩, exists_forall₂_iff.mp ⟨bs, hrest⟩⟩
    · rintro ⟨⟨b, hab⟩, h⟩
      obtain ⟨bs, hrest⟩ := exists_forall₂_iff.mpr h
      exact ⟨b :: bs, .cons hab hrest⟩

/-- **A list is mapped element by element.** -/
theorem mapM_eq_ok_iff {f : α → Except ε β} : ∀ {l : List α} {bs : List β},
    l.mapM f = .ok bs ↔ List.Forall₂ (fun a b => f a = .ok b) l bs
  | [], bs => by
    rw [List.forall₂_nil_left_iff, List.mapM_nil, eq_comm]
    exact ⟨fun h => Except.ok.inj h, congrArg Except.ok⟩
  | a :: l, bs => by
    rw [List.mapM_cons, bind_eq_ok, List.forall₂_cons_left_iff]
    constructor
    · rintro ⟨b, hb, h⟩
      obtain ⟨rest, hrest, h⟩ := bind_eq_ok.mp h
      exact ⟨b, rest, hb, mapM_eq_ok_iff.mp hrest, (Except.ok.inj h).symm⟩
    · rintro ⟨b, rest, hb, hrest, rfl⟩
      exact ⟨b, hb, bind_eq_ok.mpr ⟨rest, mapM_eq_ok_iff.mpr hrest, rfl⟩⟩

/-- **Mapping a list fails at the first element that has no result.** -/
theorem mapM_eq_error_iff {f : α → Except ε β} {e : ε} : ∀ {l : List α},
    l.mapM f = .error e ↔ ∃ before a after, l = before ++ a :: after ∧
      (∀ b ∈ before, ∃ c, f b = .ok c) ∧ f a = .error e
  | [] => by simp [pure, Except.pure]
  | a :: l => by
    rw [List.mapM_cons, bind_eq_error]
    constructor
    · rintro (ha | ⟨b, hb, h⟩)
      · exact ⟨[], a, l, rfl, nofun, ha⟩
      · obtain hl | ⟨_, _, h⟩ := bind_eq_error.mp h
        · obtain ⟨before, c, after, rfl, hbefore, hc⟩ := mapM_eq_error_iff.mp hl
          exact ⟨a :: before, c, after, rfl, List.forall_mem_cons.mpr ⟨⟨b, hb⟩, hbefore⟩, hc⟩
        · cases h
    · rintro ⟨_ | ⟨b, before⟩, c, after, hl, hbefore, hc⟩
      · obtain ⟨rfl, rfl⟩ := List.cons.inj hl
        exact .inl hc
      · obtain ⟨rfl, rfl⟩ := List.cons.inj hl
        obtain ⟨⟨d, hd⟩, hbefore⟩ := List.forall_mem_cons.mp hbefore
        have hrest := mapM_eq_error_iff.mpr ⟨before, c, after, rfl, hbefore, hc⟩
        exact .inr ⟨d, hd, bind_eq_error.mpr (.inl hrest)⟩

theorem exists_of_mapM_eq_ok {f : α → Except ε β} {l : List α} {bs : List β}
    (h : l.mapM f = .ok bs) : ∀ a ∈ l, ∃ b, f a = .ok b :=
  exists_forall₂_iff.mp ⟨bs, mapM_eq_ok_iff.mp h⟩

theorem exists_of_mapM_eq_error {f : α → Except ε β} {e : ε} {l : List α}
    (h : l.mapM f = .error e) : ∃ a ∈ l, f a = .error e := by
  obtain ⟨before, a, after, rfl, _, ha⟩ := mapM_eq_error_iff.mp h
  exact ⟨a, List.mem_append_right before List.mem_cons_self, ha⟩

/-- If every element has a result that is the same for all `f` of a kind, so has the list. -/
theorem exists_mapM_eq_ok {P : (α → Except ε β) → Prop} :
    ∀ {l : List α}, (∀ a ∈ l, ∃ b, ∀ f, P f → f a = .ok b) →
      ∃ bs, ∀ f, P f → l.mapM f = .ok bs
  | [], _ => ⟨[], fun _ _ => rfl⟩
  | a :: l, h => by
    obtain ⟨b, hb⟩ := h a List.mem_cons_self
    obtain ⟨bs, hbs⟩ := exists_mapM_eq_ok (l := l) fun a' ha' => h a' (List.mem_cons_of_mem a ha')
    refine ⟨b :: bs, fun f hf => ?_⟩
    rw [List.mapM_cons, hb f hf, hbs f hf]
    rfl

end FieldRules
