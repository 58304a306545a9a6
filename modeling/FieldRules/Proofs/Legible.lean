import FieldRules.Proofs.Rerooting

/-!
# Proofs/Legible — paths that can be read back

The first name of a path stands bare, later ones follow a point, and numbers stand in brackets.  So
a step can begin at a point or an opening bracket only, and where no name has one of these in it, or
is empty, a path tells its steps (`spell_inj`).
-/

namespace FieldRules

namespace Path

/-- A name in which no step can begin, and that is not empty. -/
def Legible (name : String) : Prop :=
  name ≠ "" ∧ '.' ∉ name.toList ∧ '[' ∉ name.toList

instance (name : String) : Decidable (Legible name) := inferInstanceAs (Decidable (_ ∧ _))

theorem Legible.plain {name : String} (h : Legible name) : Plain name :=
  ⟨h.1, fun hhead => h.2.2 (List.mem_of_mem_head? hhead)⟩

end Path

namespace Step

/-- A number, or a legible name. -/
def Legible : Step → Prop
  | segment name => Path.Legible name
  | index _ => True

instance : DecidablePred Legible
  | segment name => inferInstanceAs (Decidable (Path.Legible name))
  | index _ => isTrue trivial

/-- What a step adds to a path that is not the root. -/
def mark : Step → List Char
  | segment name => '.' :: name.toList
  | index i => '[' :: ((toString i).toList ++ [']'])

/-- A mark begins with a point or an opening bracket. -/
theorem exists_mark_eq_cons (s : Step) : ∃ c cs, s.mark = c :: cs ∧ (c = '.' ∨ c = '[') := by
  cases s with
  | segment name => exact ⟨_, _, rfl, .inl rfl⟩
  | index i => exact ⟨_, _, rfl, .inr rfl⟩

theorem mark_index_append (i : Nat) (r : List Char) :
    (index i).mark ++ r = '[' :: (Nat.toDigits 10 i ++ ']' :: r) := by
  rw [mark, Nat.toString_eq_ofList_toDigits, String.toList_ofList, List.cons_append,
    List.append_assoc]
  rfl

end Step

namespace Path

variable {p f : String}

theorem toList_step (hp : p ≠ "") (s : Step) : (step p s).toList = p.toList ++ s.mark := by
  cases s with
  | segment name =>
    rw [step, join_of_ne hp, String.toList_append, String.toList_append]
    rfl
  | index i =>
    rw [step, index_eq_append]
    simp only [String.toList_append]
    rfl

theorem step_ne (hp : p ≠ "") (s : Step) : step p s ≠ "" := fun h => by
  have hnil := congrArg String.toList h
  rw [toList_step hp] at hnil
  exact hp (String.toList_eq_nil_iff.mp (List.append_eq_nil_iff.mp hnil).1)

/-- Below a path that is not the root, every step adds its mark. -/
theorem toList_spellFrom (hp : p ≠ "") (steps : List Step) :
    (spellFrom p steps).toList = p.toList ++ steps.flatMap Step.mark := by
  induction steps generalizing p with
  | nil => exact (List.append_nil _).symm
  | cons s steps ih =>
    rw [List.flatMap_cons, ← List.append_assoc, ← toList_step hp]
    exact ih (step_ne hp s)

/-- Legible steps follow a rerooted path. -/
theorem spellFrom_reroot (hp : p ≠ "") {steps : List Step} (h : ∀ s ∈ steps, s.Legible) :
    spellFrom (reroot p f) steps = reroot p (spellFrom f steps) := by
  induction steps generalizing f with
  | nil => rfl
  | cons s steps ih =>
    obtain ⟨hs, hsteps⟩ := List.forall_mem_cons.mp h
    have hstep : step (reroot p f) s = reroot p (step f s) := by
      cases s with
      | segment name => exact join_reroot hp hs.plain f
      | index i => exact index_reroot p f i
    rw [spellFrom, List.foldl_cons, hstep]
    exact ih hsteps

end Path

/-! ## Reading marks back -/

/-- Of two lists with one beginning, each is cut where a property first fails. -/
theorem append_inj_of_stop {α : Type} {p : α → Bool} {a b r r' : List α} (ha : ∀ x ∈ a, p x = true)
    (hb : ∀ x ∈ b, p x = true) (hr : ∀ x ∈ r.head?, p x = false) (hr' : ∀ x ∈ r'.head?, p x = false)
    (h : a ++ r = b ++ r') : a = b ∧ r = r' := by
  have hstop {l : List α} (hl : ∀ x ∈ l.head?, p x = false) : l.takeWhile p = [] := by
    cases l with
    | nil => rfl
    | cons x l => exact List.takeWhile_cons_of_neg (Bool.eq_false_iff.mp (hl x rfl))
  have hcut := congrArg (List.takeWhile p) h
  rw [List.takeWhile_append_of_pos ha, List.takeWhile_append_of_pos hb, hstop hr, hstop hr',
    List.append_nil, List.append_nil] at hcut
  exact ⟨hcut, List.append_cancel_left (hcut ▸ h)⟩

namespace Step

variable {s t : Step} {r r' : List Char}

/-- **A legible step can be read back from its mark**, if another mark follows or nothing. -/
theorem mark_append_inj (hs : s.Legible) (ht : t.Legible)
    (hr : ∀ c ∈ r.head?, c = '.' ∨ c = '[') (hr' : ∀ c ∈ r'.head?, c = '.' ∨ c = '[')
    (h : s.mark ++ r = t.mark ++ r') : s = t ∧ r = r' := by
  cases s with
  | segment name =>
    cases t with
    | index j => cases (List.cons.inj h).1
    | segment name' =>
      -- a name ends where the next mark begins
      let inside (c : Char) : Bool := !(c == '.' || c == '[')
      have hinside {n : String} (hn : Path.Legible n) : ∀ c ∈ n.toList, inside c = true := by
        intro c hc
        have hdot : c ≠ '.' := fun heq => hn.2.1 (heq ▸ hc)
        have hbracket : c ≠ '[' := fun heq => hn.2.2 (heq ▸ hc)
        simp [inside, hdot, hbracket]
      have houtside {l : List Char} (hl : ∀ c ∈ l.head?, c = '.' ∨ c = '[') :
          ∀ c ∈ l.head?, inside c = false := by
        intro c hc
        obtain rfl | rfl := hl c hc <;> rfl
      obtain ⟨hname, hrest⟩ := append_inj_of_stop (hinside hs) (hinside ht) (houtside hr)
        (houtside hr') (List.cons.inj h).2
      exact ⟨congrArg segment (String.toList_inj.mp hname), hrest⟩
  | index i =>
    cases t with
    | segment name => cases (List.cons.inj h).1
    | index j =>
      -- a number ends at its closing bracket
      have hdigits (n : Nat) : ∀ c ∈ Nat.toDigits 10 n, c.isDigit = true :=
        fun c hc => Nat.isDigit_of_mem_toDigits (by decide) (by decide) hc
      have hclosing {l : List Char} : ∀ c ∈ (']' :: l).head?, c.isDigit = false := by
        rintro c ⟨⟩
        rfl
      rw [mark_index_append, mark_index_append] at h
      obtain ⟨hnumber, hrest⟩ :=
        append_inj_of_stop (hdigits i) (hdigits j) hclosing hclosing (List.cons.inj h).2
      have hvalue := congrArg (Nat.ofDigitChars 10 · 0) hnumber
      simp only [Nat.ofDigitChars_ten_toDigits] at hvalue
      exact ⟨congrArg index hvalue, (List.cons.inj hrest).2⟩

/-- Legible steps can be read back from their marks. -/
theorem flatMap_mark_inj {a b : List Step} (ha : ∀ s ∈ a, s.Legible) (hb : ∀ s ∈ b, s.Legible)
    (h : a.flatMap mark = b.flatMap mark) : a = b := by
  have hhead (steps : List Step) : ∀ c ∈ (steps.flatMap mark).head?, c = '.' ∨ c = '[' := by
    cases steps with
    | nil => nofun
    | cons s steps =>
      obtain ⟨c, cs, hmark, hc⟩ := s.exists_mark_eq_cons
      rw [List.flatMap_cons, hmark]
      rintro d ⟨⟩
      exact hc
  have hne (s : Step) (steps : List Step) : (s :: steps).flatMap mark ≠ [] := by
    obtain ⟨c, cs, hmark, _⟩ := s.exists_mark_eq_cons
    rw [List.flatMap_cons, hmark]
    exact List.cons_ne_nil _ _
  induction a generalizing b with
  | nil =>
    cases b with
    | nil => rfl
    | cons t b => exact absurd h.symm (hne t b)
  | cons s a ih =>
    cases b with
    | nil => exact absurd h (hne s a)
    | cons t b =>
      obtain ⟨hs, hsteps⟩ := List.forall_mem_cons.mp ha
      obtain ⟨ht, hsteps'⟩ := List.forall_mem_cons.mp hb
      rw [List.flatMap_cons, List.flatMap_cons] at h
      obtain ⟨rfl, hrest⟩ := mark_append_inj hs ht (hhead a) (hhead b) h
      rw [ih hsteps hsteps' hrest]

end Step

/-- **A path of legible steps tells its steps.**  Below a point every step adds its mark, also the
first one. -/
theorem Path.spell_inj {a b : List Step} (ha : ∀ s ∈ a, s.Legible) (hb : ∀ s ∈ b, s.Legible) :
    spell a = spell b ↔ a = b := by
  refine ⟨fun h => ?_, congrArg spell⟩
  have hdot : spellFrom "." a = spellFrom "." b := by
    have hreroot {steps : List Step} (hsteps : ∀ s ∈ steps, s.Legible) :
        spellFrom "." steps = reroot "." (spell steps) :=
      spellFrom_reroot (f := "") (by decide) hsteps
    rw [hreroot ha, hreroot hb, h]
  have hmarks := congrArg String.toList hdot
  rw [toList_spellFrom (by decide), toList_spellFrom (by decide)] at hmarks
  exact Step.flatMap_mark_inj ha hb (List.append_cancel_left hmarks)

end FieldRules
