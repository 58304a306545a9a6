import FieldRules.Text.Blank
import FieldRules.Text.Pieces
import Mathlib.Data.List.DropRight

/-!
# Proofs/Pieces — cutting and joining, trimming

`pieces` undoes joining with a separator that none of the words has (`pieces_intercalate`), and its
pieces have no separator (`mem_of_mem_pieces`).  `cut?` takes a text apart at the first
separator (`cut?_eq_some_iff`).  `trim` leaves a text alone iff there are no blanks at its ends.
-/

namespace FieldRules.Text

/-! ## Bytes -/

/-- A text has as many bytes as its characters have. -/
theorem utf8ByteSize_eq_width (s : String) : s.utf8ByteSize = width s.toList := by
  have hlist : ∀ cs, (String.ofList cs).utf8ByteSize = width cs := by
    intro cs
    induction cs with
    | nil => rfl
    | cons c cs ih =>
      rw [String.ofList_cons, String.utf8ByteSize_append, String.utf8ByteSize_singleton, ih, width]
  rw [← hlist, String.ofList_toList]

/-! ## Pieces -/

variable {sep : Char} {cs : List Char}

theorem pieces_eq_splitOn (sep : Char) : ∀ cs, pieces sep cs = cs.splitOn sep
  | [] => by simp [pieces]
  | c :: cs => by
    rw [pieces, pieces_eq_splitOn sep cs, List.splitOn_cons_eq_if_modifyHead]
    by_cases h : c = sep
    · simp [h]
    · have hne := pieces_ne_nil sep cs
      rw [pieces_eq_splitOn sep cs] at hne
      rcases hsplit : cs.splitOn sep with _ | ⟨p, ps⟩
      · exact absurd hsplit hne
      · simp [h]

/-- **Words without the separator are the pieces of what they are joined to.** -/
theorem pieces_intercalate {words : List (List Char)} (hne : words ≠ [])
    (h : ∀ w ∈ words, sep ∉ w) : pieces sep ([sep].intercalate words) = words := by
  rw [pieces_eq_splitOn, List.splitOn_intercalate sep h hne]

/-- A text without the separator is its only piece. -/
theorem pieces_of_not_mem (h : sep ∉ cs) : pieces sep cs = [cs] := by
  simpa using pieces_intercalate (List.cons_ne_nil cs []) (by simpa using h)

/-- **Joining the pieces gives the text back.** -/
theorem intercalate_pieces (sep : Char) (cs : List Char) :
    [sep].intercalate (pieces sep cs) = cs := by
  rw [pieces_eq_splitOn, List.intercalate_splitOn]

/-- The first piece of a text that does not begin with the separator begins like the text. -/
theorem pieces_cons {c : Char} (h : c ≠ sep) (cs : List Char) :
    ∃ p ps, pieces sep cs = p :: ps ∧ pieces sep (c :: cs) = (c :: p) :: ps := by
  rcases hpieces : pieces sep cs with _ | ⟨p, ps⟩
  · exact absurd hpieces (pieces_ne_nil sep cs)
  · exact ⟨p, ps, rfl, by simp only [pieces, h, if_false, hpieces]⟩

/-- A piece has no separator, and its characters are those of the text. -/
theorem mem_of_mem_pieces : ∀ {cs p : List Char}, p ∈ pieces sep cs → sep ∉ p ∧ p ⊆ cs
  | [], p, hp => by
    obtain rfl := List.mem_singleton.mp hp
    simp
  | c :: cs, p, hp => by
    by_cases h : c = sep
    · rw [pieces, if_pos h] at hp
      rcases List.mem_cons.mp hp with rfl | hp
      · simp
      · obtain ⟨hsep, hsub⟩ := mem_of_mem_pieces hp
        exact ⟨hsep, fun d hd => List.mem_cons_of_mem c (hsub hd)⟩
    · obtain ⟨q, qs, hqs, hcons⟩ := pieces_cons h cs
      have hmem : ∀ p ∈ q :: qs, sep ∉ p ∧ p ⊆ cs := fun p hp => mem_of_mem_pieces (hqs ▸ hp)
      rw [hcons] at hp
      rcases List.mem_cons.mp hp with rfl | hp
      · obtain ⟨hsep, hsub⟩ := hmem q List.mem_cons_self
        refine ⟨?_, List.cons_subset_cons c hsub⟩
        simp [hsep, Ne.symm h]
      · obtain ⟨hsep, hsub⟩ := hmem p (List.mem_cons_of_mem q hp)
        exact ⟨hsep, fun d hd => List.mem_cons_of_mem c (hsub hd)⟩

/-- The last piece ends the text. -/
theorem suffix_of_getLast?_pieces :
    ∀ {cs p : List Char}, (pieces sep cs).getLast? = some p → p <:+ cs
  | [], p, h => by
    obtain rfl : [] = p := by simpa [pieces] using h
    exact List.nil_suffix
  | c :: cs, p, h => by
    by_cases hc : c = sep
    · rw [pieces, if_pos hc] at h
      rcases hpieces : pieces sep cs with _ | ⟨q, qs⟩
      · exact absurd hpieces (pieces_ne_nil sep cs)
      · rw [hpieces, List.getLast?_cons_cons, ← hpieces] at h
        exact (suffix_of_getLast?_pieces h).trans (List.suffix_cons c cs)
    · obtain ⟨q, qs, hqs, hcons⟩ := pieces_cons hc cs
      rw [hcons] at h
      cases qs with
      | nil =>
        -- There is one piece, so it is the whole text.
        have hcs : q = cs := by simpa [hqs] using intercalate_pieces sep cs
        obtain rfl : c :: q = p := by simpa using h
        exact hcs ▸ List.suffix_rfl
      | cons r rs =>
        rw [List.getLast?_cons_cons] at h
        have hlast : (pieces sep cs).getLast? = some p := by rwa [hqs, List.getLast?_cons_cons]
        exact (suffix_of_getLast?_pieces hlast).trans (List.suffix_cons c cs)

/-! ## The first separator -/

theorem cut?_eq_none_iff : ∀ {cs : List Char}, cut? sep cs = none ↔ sep ∉ cs
  | [] => by simp [cut?]
  | c :: cs => by
    by_cases h : c = sep
    · simp [cut?, h]
    · simp [cut?, h, Ne.symm h, cut?_eq_none_iff]

/-- **A cut takes the text apart at the first separator.** -/
theorem cut?_eq_some_iff : ∀ {cs before after : List Char},
    cut? sep cs = some (before, after) ↔ cs = before ++ sep :: after ∧ sep ∉ before
  | [], before, after => by simp [cut?]
  | c :: cs, before, after => by
    by_cases h : c = sep
    · cases before with
      | nil => simp [cut?, h]
      | cons d before =>
        have hne : c :: cs = d :: before ++ sep :: after → sep ∈ d :: before := by
          intro heq
          obtain ⟨rfl, _⟩ := List.cons.inj heq
          simp [h]
        simp only [cut?, h, if_true, Option.some.injEq, Prod.mk.injEq, List.nil_eq, reduceCtorEq,
          false_and, false_iff, not_and, not_not]
        exact h ▸ hne
    · cases before with
      | nil => simp [cut?, h]
      | cons d before =>
        have hrest : cut? sep cs = some (before, after) ↔ _ := cut?_eq_some_iff
        simp only [cut?, h, if_false, Option.map_eq_some_iff, Prod.mk.injEq, List.cons.injEq,
          List.cons_append, List.mem_cons, not_or, Prod.exists]
        constructor
        · rintro ⟨b, a, hcut, ⟨rfl, rfl⟩, rfl⟩
          obtain ⟨heq, hsep⟩ := hrest.mp hcut
          exact ⟨⟨rfl, heq⟩, Ne.symm h, hsep⟩
        · rintro ⟨⟨rfl, heq⟩, _, hsep⟩
          exact ⟨before, after, hrest.mpr ⟨heq, hsep⟩, ⟨rfl, rfl⟩, rfl⟩

/-! ## Trimming -/

theorem trimRight_eq_rdropWhile (cs : List Char) : trimRight cs = cs.rdropWhile isBlank := rfl

theorem trim_subset (cs : List Char) : trim cs ⊆ cs := by
  intro c hc
  rw [trim, trimRight_eq_rdropWhile] at hc
  exact (List.dropWhile_sublist _).subset ((List.rdropWhile_prefix _ _).subset hc)

/-- **A text without blanks at its ends is left alone.** -/
theorem trim_eq_self (hhead : ∀ c, cs.head? = some c → isBlank c = false)
    (hlast : ∀ c, cs.getLast? = some c → isBlank c = false) : trim cs = cs := by
  have hleft : trimLeft cs = cs := by
    cases cs with
    | nil => rfl
    | cons c cs => simp [trimLeft, hhead c rfl]
  rw [trim, hleft, trimRight_eq_rdropWhile, List.rdropWhile_eq_self_iff]
  intro hne
  simp [hlast _ (List.getLast?_eq_some_getLast hne)]

theorem trim_of_no_blank (h : ∀ c ∈ cs, isBlank c = false) : trim cs = cs :=
  trim_eq_self (fun c hc => h c (List.mem_of_mem_head? hc)) fun c hc =>
    h c (List.mem_of_getLast? hc)

/-- A trimmed text does not end with a blank. -/
theorem isBlank_of_getLast?_trim {c : Char} (h : (trim cs).getLast? = some c) :
    isBlank c = false := by
  have hne : trim cs ≠ [] := by
    rintro heq
    simp [heq] at h
  have hlast := List.rdropWhile_last_not isBlank (trimLeft cs) hne
  have hc : (trim cs).getLast hne = c := by
    rwa [List.getLast?_eq_some_getLast hne, Option.some.injEq] at h
  rw [← hc]
  exact Bool.eq_false_iff.mpr hlast

end FieldRules.Text
