import FieldRules.Proofs.Stretches

/-!
# Proofs/Faults — which annotations are malformed, and where

A stretch is **faulty** if its piece has no name, or a name with a blank in it.  A tag is refused
iff some stretch is faulty, and the leftmost one is reported, at the byte where its fault shows
(`parse_refuses`).
-/

namespace FieldRules

open Text

namespace Tag

variable {before raw : List Char}

/-! ## Faulty stretches -/

/-- The piece of the stretch has no name, or a blank in its name. -/
def Faulty (raw : List Char) : Prop :=
  trim raw ≠ [] ∧ (nameIn raw = [] ∨ ∃ c ∈ nameIn raw, isBlank c = true)

/-- The fault of a stretch shows at the character `c` after `lead`: at the equals sign that begins
the piece, or at the first blank in the name. -/
inductive Shows (raw : List Char) : List Char → Char → TagFault → Prop
  | missingName {lead rest : List Char} (hname : nameIn raw = [])
      (hlead : ∀ b ∈ lead, isBlank b = true) (hraw : raw = lead ++ '=' :: rest) :
      Shows raw lead '=' (.missingName (String.ofList (trim raw)))
  | blankInName {lead start name rest : List Char} {c : Char}
      (hlead : ∀ b ∈ lead, isBlank b = true) (hraw : raw = lead ++ nameIn raw ++ rest)
      (hname : nameIn raw = start ++ c :: name) (hstart : ∀ b ∈ start, isBlank b = false)
      (hc : isBlank c = true) :
      Shows raw (lead ++ start) c (.blankInName (String.ofList (nameIn raw)))

/-- What a fault shows at stands in the stretch. -/
theorem Shows.exists_eq {lead : List Char} {c : Char} {fault : TagFault}
    (h : Shows raw lead c fault) : ∃ rest, raw = lead ++ c :: rest := by
  cases h with
  | missingName _ _ hraw => exact ⟨_, hraw⟩
  | @blankInName lead start name rest c _ hraw hname =>
    refine ⟨name ++ rest, hraw.trans ?_⟩
    rw [hname]
    simp

/-- A name without the part before its first blank begins with that. -/
theorem exists_blank {name : List Char} (h : ∃ c ∈ name, isBlank c = true) :
    ∃ c rest, name = name.takeWhile (!isBlank ·) ++ c :: rest ∧ isBlank c = true := by
  obtain ⟨b, hb, hblank⟩ := h
  rcases hrest : name.dropWhile (!isBlank ·) with _ | ⟨c, rest⟩
  · have hall := List.dropWhile_eq_nil_iff.mp hrest b hb
    simp [hblank] at hall
  · have hc := List.head?_dropWhile_not (!isBlank ·) name
    rw [hrest] at hc
    refine ⟨c, rest, ?_, by simpa using hc⟩
    rw [← hrest, List.takeWhile_append_dropWhile]

/-- **A fault that is found in a stretch shows there.** -/
theorem exists_shows_of_faultIn? {position : Nat} {fault : TagFault}
    (h : faultIn? (before, raw) = some (position, fault)) :
    Faulty raw ∧ ∃ lead c, Shows raw lead c fault ∧ position = width (before ++ lead) := by
  obtain ⟨p, hp, hfault⟩ := Option.bind_eq_some_iff.mp h
  obtain ⟨hne, rfl⟩ := Piece.ofStretch?_eq_some_iff.mp hp
  obtain ⟨trail, hraw, _⟩ := exists_trim raw
  have hlead : ∀ b ∈ raw.takeWhile isBlank, isBlank b = true := fun b => List.mem_takeWhile_imp
  simp only [Piece.fault?, split_eq_nameIn] at hfault
  split at hfault
  · next hempty =>
    obtain ⟨rfl, rfl⟩ := Prod.mk.inj (Option.some.inj hfault)
    have hname : nameIn raw = [] := List.isEmpty_iff.mp hempty
    obtain ⟨rest, hrest⟩ := exists_of_nameIn_eq_nil hne hname
    have htext : raw = raw.takeWhile isBlank ++ '=' :: (rest ++ trail) := by
      simpa [hrest] using hraw
    exact ⟨⟨hne, .inl hname⟩, _, _, .missingName hname hlead htext, rfl⟩
  · split at hfault
    · next hblank =>
      obtain ⟨rfl, rfl⟩ := Prod.mk.inj (Option.some.inj hfault)
      have hany : ∃ c ∈ nameIn raw, isBlank c = true := List.any_eq_true.mp hblank
      obtain ⟨c, name, hname, hc⟩ := exists_blank hany
      obtain ⟨rest, hrest⟩ := nameIn_prefix raw
      have htext : raw = raw.takeWhile isBlank ++ nameIn raw ++ (rest ++ trail) := by
        rw [List.append_assoc, ← List.append_assoc (nameIn raw), hrest, ← List.append_assoc]
        exact hraw
      refine ⟨⟨hne, .inr hany⟩, _, c, .blankInName hlead htext hname
        (fun b hb => by simpa using List.mem_takeWhile_imp hb) hc, ?_⟩
      rw [width_append, width_append, width_append, Nat.add_assoc]
    · contradiction

theorem faultIn?_eq_none_iff : faultIn? (before, raw) = none ↔ ¬ Faulty raw := by
  constructor
  · rintro h ⟨hne, hname⟩
    have hp := Piece.ofStretch?_eq_some_iff (s := (before, raw)).mpr ⟨hne, rfl⟩
    simp only [faultIn?, hp, Option.bind_some, Piece.fault?, split_eq_nameIn] at h
    split at h
    · contradiction
    · next hempty =>
      split at h
      · contradiction
      · next hblank =>
        rcases hname with hnil | hany
        · exact hempty (List.isEmpty_iff.mpr hnil)
        · exact hblank (List.any_eq_true.mpr hany)
  · intro h
    rcases hfault : faultIn? (before, raw) with _ | ⟨position, fault⟩
    · rfl
    · exact absurd (exists_shows_of_faultIn? hfault).1 h

/-! ## Malformed annotations -/

/-- A byte between two parts of a text is a character boundary, and inside if the second part is not
empty. -/
theorem isValid_of_append {text : String} {lead rest : List Char} {c : Char}
    (h : text.toList = lead ++ c :: rest) :
    (⟨width lead⟩ : String.Pos.Raw).IsValid text ∧ width lead < text.utf8ByteSize := by
  constructor
  · refine String.Pos.Raw.isValid_iff_exists_append.mpr
      ⟨String.ofList lead, String.ofList (c :: rest), ?_, ?_⟩
    · rw [← String.ofList_append, ← h, String.ofList_toList]
    · rw [String.rawEndPos, utf8ByteSize_eq_width, String.toList_ofList]
  · rw [utf8ByteSize_eq_width, h, width_append, width]
    have hc := c.utf8Size_pos
    omega

/-- Reading finds a fault iff some stretch is faulty. -/
theorem findSome?_eq_none_iff {tag : List Char} : (stretches tag).findSome? faultIn? = none ↔
    ∀ before raw, Stretch tag before raw → ¬ Faulty raw := by
  simp only [List.findSome?_eq_none_iff, Prod.forall, mem_stretches_iff, faultIn?_eq_none_iff]

/-- **The fault that is found is that of the leftmost faulty stretch**: the faulty stretches are
those after it in the list, and they begin further right. -/
theorem exists_leftmost {tag : List Char} {position : Nat} {fault : TagFault}
    (h : (stretches tag).findSome? faultIn? = some (position, fault)) :
    ∃ before raw lead c rest, Stretch tag before raw ∧ Faulty raw ∧
      (∀ b r, Stretch tag b r → Faulty r → before.length ≤ b.length) ∧
      Shows raw lead c fault ∧ tag = before ++ lead ++ c :: rest ∧
      position = width (before ++ lead) := by
  obtain ⟨earlier, ⟨before, raw⟩, later, hlist, hfault, hclean⟩ := List.findSome?_eq_some_iff.mp h
  obtain ⟨hfaulty, lead, c, hshows, rfl⟩ := exists_shows_of_faultIn? hfault
  have hstretch : Stretch tag before raw := mem_stretches_iff.mp (by simp [hlist])
  obtain ⟨rest, hraw⟩ := hshows.exists_eq
  obtain ⟨after, htag⟩ := hstretch.exists_eq
  refine ⟨before, raw, lead, c, rest ++ after, hstretch, hfaulty, fun b r hb hr => ?_, hshows, ?_,
    rfl⟩
  · have hmem : (b, r) ∈ earlier ++ (before, raw) :: later := hlist ▸ mem_stretches_iff.mpr hb
    rcases List.mem_append.mp hmem with hearlier | hlater
    · exact absurd hr (faultIn?_eq_none_iff.mp (hclean _ hearlier))
    · rcases List.mem_cons.mp hlater with heq | hlater
      · rw [(Prod.mk.inj heq).1]
      · have hpairs := pairwise_stretches tag
        rw [hlist, List.pairwise_append] at hpairs
        obtain ⟨d, hd⟩ := List.rel_of_pairwise_cons hpairs.2.1 hlater
        have hlen := hd.length_le
        simp only [List.length_append] at hlen
        omega
  · rw [htag, hraw]
    simp

/-- **Which annotations are malformed, and where.**  A text is read as an annotation iff no stretch
of it is faulty, and refused iff some is.  It is refused with the leftmost faulty stretch, at a
character boundary inside the text, where the fault shows. -/
theorem parse_refuses (text : String) :
    ((∃ t, parse text = .ok t) ↔
      ∀ before raw, Stretch text.toList before raw → ¬ Faulty raw) ∧
    ((∃ e, parse text = .error e) ↔
      ∃ before raw, Stretch text.toList before raw ∧ Faulty raw) ∧
    ∀ e, parse text = .error e → ∃ before raw lead c rest fault,
      Stretch text.toList before raw ∧ Faulty raw ∧
      (∀ b r, Stretch text.toList b r → Faulty r → before.length ≤ b.length) ∧
      Shows raw lead c fault ∧ text.toList = before ++ lead ++ c :: rest ∧
      e = .malformed text (width (before ++ lead)) fault ∧
      (⟨width (before ++ lead)⟩ : String.Pos.Raw).IsValid text ∧
      width (before ++ lead) < text.utf8ByteSize := by
  have hparse := parse_eq text
  rw [← findSome?_eq_none_iff]
  cases hfind : (stretches text.toList).findSome? faultIn? with
  | none =>
    rw [hfind] at hparse
    have hclean := findSome?_eq_none_iff.mp hfind
    refine ⟨⟨fun _ => rfl, fun _ => ⟨_, hparse⟩⟩, ⟨?_, ?_⟩, fun e he => ?_⟩
    · rintro ⟨e, he⟩
      exact nomatch hparse.symm.trans he
    · rintro ⟨before, raw, hstretch, hfaulty⟩
      exact absurd hfaulty (hclean before raw hstretch)
    · exact nomatch hparse.symm.trans he
  | some found =>
    obtain ⟨position, fault⟩ := found
    rw [hfind] at hparse
    obtain ⟨before, raw, lead, c, rest, hstretch, hfaulty, hleftmost, hshows, htext, rfl⟩ :=
      exists_leftmost hfind
    refine ⟨⟨?_, fun h => nomatch h⟩, ⟨fun _ => ⟨before, raw, hstretch, hfaulty⟩,
      fun _ => ⟨_, hparse⟩⟩, fun e he => ?_⟩
    · rintro ⟨t, ht⟩
      exact nomatch hparse.symm.trans ht
    · obtain rfl := Except.error.inj (he.symm.trans hparse)
      exact ⟨before, raw, lead, c, rest, fault, hstretch, hfaulty, hleftmost, hshows, htext, rfl,
        isValid_of_append htext⟩

/-- Blank pieces are passed over, and bytes count, not characters. -/
theorem parse_refuses_blank :
    parse " größer;\u3000; é e=1"
      = .error (.malformed " größer;\u3000; é e=1" 17 (.blankInName "é e")) ∧
    (⟨17⟩ : String.Pos.Raw).IsValid " größer;\u3000; é e=1" := by
  have hread : parse " größer;\u3000; é e=1"
      = .error (.malformed " größer;\u3000; é e=1" 17 (.blankInName "é e")) := by
    decide +kernel
  obtain ⟨before, raw, lead, c, rest, fault, _, _, _, _, _, he, hvalid, _⟩ :=
    (parse_refuses _).2.2 _ hread
  obtain ⟨_, hposition, _⟩ := RuleError.malformed.inj he
  exact ⟨hread, hposition ▸ hvalid⟩

end Tag

end FieldRules
