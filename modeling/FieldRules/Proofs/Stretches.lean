import FieldRules.Proofs.Pieces
import FieldRules.Proofs.Sequence
import FieldRules.Tag.Parser

/-!
# Proofs/Stretches — where the pieces of an annotation stand

A tag falls into parts at its first comma, and each part into **stretches** at its semicolons.  The
reader takes the stretches from left to right (`mem_stretches_iff`, `pairwise_stretches`), and takes
a **piece** from each that is not blank.  So reading ends in the tokens of all pieces, or in the
fault of the first faulty one (`parse_eq`).
-/

namespace FieldRules

namespace Text

variable {sep : Char} {cs : List Char}

/-! ## Trimming -/

/-- **A text is its trimmed form between blanks.** -/
theorem exists_trim (cs : List Char) : ∃ trail, cs = cs.takeWhile isBlank ++ trim cs ++ trail ∧
    ∀ c ∈ trail, isBlank c = true := by
  refine ⟨(trimLeft cs).rtakeWhile isBlank, ?_, fun c hc => List.mem_rtakeWhile_imp hc⟩
  rw [trim, trimRight_eq_rdropWhile, List.append_assoc, List.rdropWhile, List.rtakeWhile,
    ← List.reverse_append, List.takeWhile_append_dropWhile, List.reverse_reverse, trimLeft,
    List.takeWhile_append_dropWhile]

/-- A trimmed text does not begin with a blank. -/
theorem isBlank_of_head?_trim {c : Char} (h : (trim cs).head? = some c) : isBlank c = false := by
  have hprefix : trim cs <+: trimLeft cs := List.rdropWhile_prefix isBlank _
  have hhead : (trimLeft cs).head? = some c := by
    obtain ⟨rest, hrest⟩ := hprefix
    rw [← hrest, List.head?_append, h]
    rfl
  have hfirst := List.head?_dropWhile_not isBlank cs
  rw [← trimLeft, hhead] at hfirst
  exact hfirst

/-- Trimming twice is trimming once. -/
theorem trim_trim (cs : List Char) : trim (trim cs) = trim cs :=
  trim_eq_self (fun _ => isBlank_of_head?_trim) fun _ => isBlank_of_getLast?_trim

/-- Nothing is left of blanks alone. -/
theorem trim_eq_nil_iff : trim cs = [] ↔ ∀ c ∈ cs, isBlank c = true := by
  constructor
  · intro h
    obtain ⟨trail, hcs, htrail⟩ := exists_trim cs
    rw [h, List.append_nil] at hcs
    intro c hc
    rw [hcs] at hc
    exact (List.mem_append.mp hc).elim List.mem_takeWhile_imp (htrail c)
  · intro h
    rcases htrim : trim cs with _ | ⟨c, rest⟩
    · rfl
    · have hhead : (trim cs).head? = some c := by rw [htrim, List.head?_cons]
      have hc := isBlank_of_head?_trim hhead
      rw [h c (trim_subset cs (htrim ▸ List.mem_cons_self))] at hc
      contradiction

/-- What a trimmed text begins with has blanks at its end only. -/
theorem exists_trim_of_prefix {text : List Char} (h : text <+: trim cs) :
    ∃ trail, text = trim text ++ trail ∧ ∀ c ∈ trail, isBlank c = true := by
  have hlead : text.takeWhile isBlank = [] := by
    rcases text with _ | ⟨c, rest⟩
    · rfl
    · obtain ⟨after, hafter⟩ := h
      have hhead : (trim cs).head? = some c := by rw [← hafter, List.cons_append, List.head?_cons]
      simp [isBlank_of_head?_trim hhead]
  obtain ⟨trail, htext, htrail⟩ := exists_trim text
  rw [hlead, List.nil_append] at htext
  exact ⟨trail, htext, htrail⟩

/-! ## Pieces in their places -/

/-- `raw` stands in a text after `before`, between separators or the ends, and has none. -/
structure PieceAt (sep : Char) (cs before raw : List Char) : Prop where
  text : ∃ after, cs = before ++ raw ++ after ∧ (after = [] ∨ ∃ rest, after = sep :: rest)
  opens : before = [] ∨ ∃ lead, before = lead ++ [sep]
  no_sep : sep ∉ raw

/-- Words with separators between them, each with all that stands before it. -/
def standing (sep : Char) (before : List Char) : List (List Char) → List (List Char × List Char)
  | [] => []
  | w :: ws => (before, w) :: standing sep (before ++ w ++ [sep]) ws

theorem mem_standing_iff {before b w : List Char} :
    ∀ {words : List (List Char)}, (b, w) ∈ standing sep before words ↔
      ∃ xs ys, words = xs ++ w :: ys ∧ b = before ++ xs.flatMap (· ++ [sep])
  | [] => by simp [standing]
  | u :: us => by
    rw [standing, List.mem_cons, mem_standing_iff]
    constructor
    · rintro (h | ⟨xs, ys, rfl, rfl⟩)
      · obtain ⟨rfl, rfl⟩ := Prod.mk.inj h
        exact ⟨[], us, rfl, by simp⟩
      · exact ⟨u :: xs, ys, rfl, by simp⟩
    · rintro ⟨_ | ⟨x, xs⟩, ys, h, rfl⟩
      · obtain ⟨rfl, rfl⟩ := List.cons.inj h
        exact .inl (by simp)
      · obtain ⟨rfl, rfl⟩ := List.cons.inj h
        exact .inr ⟨xs, ys, rfl, by simp⟩

/-- Each word begins after the separator that ends the one before. -/
theorem pairwise_standing : ∀ (before : List Char) (words : List (List Char)),
    (standing sep before words).Pairwise fun s t => s.1 ++ s.2 ++ [sep] <+: t.1
  | _, [] => .nil
  | before, w :: ws => by
    refine .cons (fun (b, u) h => ?_) (pairwise_standing _ ws)
    obtain ⟨xs, _, _, rfl⟩ := mem_standing_iff.mp h
    exact List.prefix_append _ _

theorem pieces_append (a b : List Char) :
    pieces sep (a ++ sep :: b) = pieces sep a ++ pieces sep b := by
  induction a with
  | nil => simp [pieces]
  | cons c a ih =>
    by_cases h : c = sep
    · simp [pieces, h, ih]
    · obtain ⟨p, ps, hps, hcons⟩ := pieces_cons h a
      rw [hps] at ih
      simp only [List.cons_append, pieces, h, if_false, ih, hps]

theorem intercalate_cons (w : List Char) (ys : List (List Char)) :
    [sep].intercalate (w :: ys) = w ++ ys.flatMap (sep :: ·) := by
  induction ys generalizing w with
  | nil => simp
  | cons y ys ih =>
    rw [List.intercalate_cons_cons, ih y]
    simp

theorem intercalate_append_cons (w : List Char) (ys : List (List Char)) :
    ∀ xs : List (List Char), [sep].intercalate (xs ++ w :: ys) =
      xs.flatMap (· ++ [sep]) ++ w ++ ys.flatMap (sep :: ·)
  | [] => intercalate_cons w ys
  | x :: xs => by
    obtain ⟨u, us, hus⟩ := List.exists_cons_of_ne_nil (List.append_ne_nil_of_right_ne_nil xs
      (List.cons_ne_nil w ys))
    rw [List.cons_append, hus, List.intercalate_cons_cons, ← hus, intercalate_append_cons w ys xs]
    simp

/-- What stands before the piece after a separator. -/
theorem flatMap_pieces (sep : Char) (cs : List Char) :
    (pieces sep cs).flatMap (· ++ [sep]) = cs ++ [sep] := by
  have hpieces : pieces sep (cs ++ [sep]) = pieces sep cs ++ [[]] := pieces_append cs []
  have hjoin := intercalate_pieces sep (cs ++ [sep])
  rw [hpieces, intercalate_append_cons] at hjoin
  simpa using hjoin

/-- The first separator of a text is where it is. -/
theorem eq_of_first_sep {a b a' b' : List Char} (h : cs = a ++ sep :: b) (ha : sep ∉ a)
    (h' : cs = a' ++ sep :: b') (ha' : sep ∉ a') : a = a' ∧ b = b' := by
  have hcut : some (a, b) = some (a', b') :=
    (cut?_eq_some_iff.mpr ⟨h, ha⟩).symm.trans (cut?_eq_some_iff.mpr ⟨h', ha'⟩)
  exact Prod.mk.inj (Option.some.inj hcut)

/-- **The pieces of a text stand where they were cut out.** -/
theorem mem_standing_pieces_iff {before b raw : List Char} :
    (b, raw) ∈ standing sep before (pieces sep cs) ↔
      ∃ lead, b = before ++ lead ∧ PieceAt sep cs lead raw := by
  rw [mem_standing_iff]
  constructor
  · rintro ⟨xs, ys, hwords, rfl⟩
    have hraw : raw ∈ pieces sep cs := hwords ▸ List.mem_append_right xs List.mem_cons_self
    have hcs := intercalate_pieces sep cs
    rw [hwords, intercalate_append_cons] at hcs
    refine ⟨_, rfl, ⟨_, hcs.symm, ?_⟩, ?_, (mem_of_mem_pieces hraw).1⟩
    · cases ys with
      | nil => exact .inl rfl
      | cons y ys => exact .inr ⟨_, rfl⟩
    · rcases List.eq_nil_or_concat xs with rfl | ⟨xs, x, rfl⟩
      · exact .inl rfl
      · exact .inr ⟨xs.flatMap (· ++ [sep]) ++ x, by simp⟩
  · rintro ⟨lead, rfl, ⟨after, rfl, hafter⟩, hopens, hsep⟩
    have hraw : pieces sep raw = [raw] := pieces_of_not_mem hsep
    have hrest : ∃ ys, pieces sep (raw ++ after) = raw :: ys := by
      rcases hafter with rfl | ⟨rest, rfl⟩
      · exact ⟨[], by rw [List.append_nil, hraw]⟩
      · exact ⟨pieces sep rest, by rw [pieces_append, hraw]; rfl⟩
    obtain ⟨ys, hys⟩ := hrest
    rcases hopens with rfl | ⟨lead, rfl⟩
    · exact ⟨[], ys, by simpa using hys, by simp⟩
    · refine ⟨pieces sep lead, ys, ?_, by rw [flatMap_pieces]⟩
      rw [List.append_assoc, List.append_assoc, List.singleton_append, pieces_append, hys]

end Text

open Text

namespace Tag

variable {tag before raw : List Char}

/-! ## Stretches -/

/-- A part of a tag, and what stands before it: the mappers stand before the first comma and the
validators after it; a tag without a comma holds validators only. -/
inductive IsPart (tag : List Char) : List Char → List Char → Prop
  | mappers {part rest : List Char} (h : tag = part ++ ',' :: rest) (hfirst : ',' ∉ part) :
      IsPart tag [] part
  | validators {before part : List Char} (h : tag = before ++ ',' :: part)
      (hfirst : ',' ∉ before) : IsPart tag (before ++ [',']) part
  | whole (h : ',' ∉ tag) : IsPart tag [] tag

/-- `raw` stands in a tag after `before`, as a piece of one of its parts between semicolons. -/
def Stretch (tag before raw : List Char) : Prop :=
  ∃ lead part inner, IsPart tag lead part ∧ before = lead ++ inner ∧ PieceAt ';' part inner raw

/-- A stretch is a stretch of the tag's text. -/
theorem Stretch.exists_eq (h : Stretch tag before raw) : ∃ after, tag = before ++ raw ++ after := by
  obtain ⟨lead, part, inner, hpart, rfl, ⟨after, rfl, _⟩, _, _⟩ := h
  cases hpart with
  | @mappers _ rest h => exact ⟨after ++ ',' :: rest, by simp [h]⟩
  | validators h => exact ⟨after, by simp [h]⟩
  | whole => exact ⟨after, rfl⟩

/-- The stretches before the first comma, from left to right. -/
def mapperStretches (tag : List Char) : List (List Char × List Char) :=
  match cut? ',' tag with
  | none => []
  | some (mappers, _) => standing ';' [] (pieces ';' mappers)

/-- The stretches after the first comma, or all of them. -/
def validatorStretches (tag : List Char) : List (List Char × List Char) :=
  match cut? ',' tag with
  | none => standing ';' [] (pieces ';' tag)
  | some (mappers, validators) => standing ';' (mappers ++ [',']) (pieces ';' validators)

def stretches (tag : List Char) : List (List Char × List Char) :=
  mapperStretches tag ++ validatorStretches tag

theorem stretches_of_comma {mappers validators : List Char}
    (h : tag = mappers ++ ',' :: validators) (hfirst : ',' ∉ mappers) :
    mapperStretches tag = standing ';' [] (pieces ';' mappers) ∧
      validatorStretches tag = standing ';' (mappers ++ [',']) (pieces ';' validators) := by
  have hcut : cut? ',' tag = some (mappers, validators) := cut?_eq_some_iff.mpr ⟨h, hfirst⟩
  simp only [mapperStretches, validatorStretches, hcut, and_self]

theorem stretches_of_no_comma (h : ',' ∉ tag) :
    mapperStretches tag = [] ∧ validatorStretches tag = standing ';' [] (pieces ';' tag) := by
  have hcut : cut? ',' tag = none := cut?_eq_none_iff.mpr h
  simp only [mapperStretches, validatorStretches, hcut, and_self]

/-- A tag has a first comma, or none. -/
theorem comma_cases (tag : List Char) : ',' ∉ tag ∨
    ∃ mappers validators, tag = mappers ++ ',' :: validators ∧ ',' ∉ mappers := by
  rcases hcut : cut? ',' tag with _ | ⟨mappers, validators⟩
  · exact .inl (cut?_eq_none_iff.mp hcut)
  · exact .inr ⟨mappers, validators, cut?_eq_some_iff.mp hcut⟩

theorem parts_of_comma {mappers validators : List Char}
    (h : tag = mappers ++ ',' :: validators) (hfirst : ',' ∉ mappers) :
    parts tag = (mappers, validators, width mappers + 1) := by
  rw [parts, cut?_eq_some_iff.mpr ⟨h, hfirst⟩]

theorem parts_of_no_comma (h : ',' ∉ tag) : parts tag = ([], tag, 0) := by
  rw [parts, cut?_eq_none_iff.mpr h]

/-- **The stretches of a tag are listed.** -/
theorem mem_stretches_iff : (before, raw) ∈ stretches tag ↔ Stretch tag before raw := by
  rw [stretches, List.mem_append]
  rcases comma_cases tag with hcomma | ⟨mappers, validators, htag, hfirst⟩
  · obtain ⟨hmappers, hvalidators⟩ := stretches_of_no_comma hcomma
    rw [hmappers, hvalidators, mem_standing_pieces_iff]
    constructor
    · rintro (h | ⟨inner, hbefore, hpiece⟩)
      · contradiction
      · exact ⟨_, _, inner, .whole hcomma, hbefore, hpiece⟩
    · rintro ⟨_, _, inner, hpart, hbefore, hpiece⟩
      cases hpart with
      | mappers h => exact absurd (by simp [h]) hcomma
      | validators h => exact absurd (by simp [h]) hcomma
      | whole => exact .inr ⟨inner, hbefore, hpiece⟩
  · obtain ⟨hmappers, hvalidators⟩ := stretches_of_comma htag hfirst
    rw [hmappers, hvalidators, mem_standing_pieces_iff, mem_standing_pieces_iff]
    constructor
    · rintro (⟨inner, hbefore, hpiece⟩ | ⟨inner, hbefore, hpiece⟩)
      · exact ⟨_, _, inner, .mappers htag hfirst, hbefore, hpiece⟩
      · exact ⟨_, _, inner, .validators htag hfirst, hbefore, hpiece⟩
    · rintro ⟨_, _, inner, hpart, hbefore, hpiece⟩
      cases hpart with
      | mappers h hm =>
        obtain ⟨rfl, rfl⟩ := eq_of_first_sep h hm htag hfirst
        exact .inl ⟨inner, hbefore, hpiece⟩
      | validators h hm =>
        obtain ⟨rfl, rfl⟩ := eq_of_first_sep h hm htag hfirst
        exact .inr ⟨inner, hbefore, hpiece⟩
      | whole h => exact absurd (by simp [htag]) h

/-- Stretches before the comma end before it. -/
theorem prefix_of_mem_mapperStretches {mappers validators : List Char}
    (h : tag = mappers ++ ',' :: validators) (hfirst : ',' ∉ mappers)
    (hs : (before, raw) ∈ mapperStretches tag) :
    before ++ raw <+: mappers ∧ ∃ c, before ++ raw ++ [c] <+: mappers ++ [','] := by
  rw [(stretches_of_comma h hfirst).1, mem_standing_pieces_iff] at hs
  obtain ⟨inner, rfl, ⟨after, rfl, hafter⟩, _, _⟩ := hs
  refine ⟨⟨after, by simp⟩, ?_⟩
  rcases hafter with rfl | ⟨rest, rfl⟩
  · exact ⟨',', [], by simp⟩
  · exact ⟨';', rest ++ [','], by simp⟩

/-- Stretches after the comma begin after it. -/
theorem prefix_of_mem_validatorStretches {mappers validators : List Char}
    (h : tag = mappers ++ ',' :: validators) (hfirst : ',' ∉ mappers)
    (hs : (before, raw) ∈ validatorStretches tag) : mappers ++ [','] <+: before := by
  rw [(stretches_of_comma h hfirst).2, mem_standing_pieces_iff] at hs
  obtain ⟨inner, rfl, _⟩ := hs
  exact List.prefix_append _ _

/-- **A stretch begins after the separator that ends the one before.** -/
theorem pairwise_stretches (tag : List Char) :
    (stretches tag).Pairwise fun s t => ∃ c, s.1 ++ s.2 ++ [c] <+: t.1 := by
  have hstanding (before : List Char) (words : List (List Char)) :
      (standing ';' before words).Pairwise fun s t => ∃ c, s.1 ++ s.2 ++ [c] <+: t.1 :=
    (pairwise_standing before words).imp fun h => ⟨';', h⟩
  rcases comma_cases tag with hcomma | ⟨mappers, validators, htag, hfirst⟩
  · obtain ⟨hmappers, hvalidators⟩ := stretches_of_no_comma hcomma
    rw [stretches, hmappers, hvalidators]
    exact hstanding _ _
  · obtain ⟨hmappers, hvalidators⟩ := stretches_of_comma htag hfirst
    refine List.pairwise_append.mpr ⟨hmappers ▸ hstanding _ _, hvalidators ▸ hstanding _ _, ?_⟩
    intro s hs t ht
    obtain ⟨_, c, hc⟩ := prefix_of_mem_mapperStretches htag hfirst hs
    exact ⟨c, hc.trans (prefix_of_mem_validatorStretches htag hfirst ht)⟩

end Tag

/-! ## Pieces of stretches -/

namespace Piece

/-- What is left of a stretch without the blanks at its ends, if anything is. -/
def ofStretch? (s : List Char × List Char) : Option Piece :=
  match trim s.2 with
  | [] => none
  | text => some ⟨width (s.1 ++ s.2.takeWhile isBlank), text⟩

theorem ofStretch?_eq_some_iff {s : List Char × List Char} {p : Piece} :
    ofStretch? s = some p ↔
      trim s.2 ≠ [] ∧ p = ⟨width (s.1 ++ s.2.takeWhile isBlank), trim s.2⟩ := by
  rw [ofStretch?]
  cases trim s.2 with
  | nil => simp
  | cons c cs => simp [eq_comm]

/-- Pieces are located in the stretches of a part. -/
theorem locate_eq : ∀ (before : List Char) (raws : List (List Char)),
    locate (width before) raws = (standing ';' before raws).filterMap ofStretch?
  | _, [] => rfl
  | before, raw :: raws => by
    have hwidth : width (before ++ raw ++ [';']) = width before + width raw + 1 := by
      rw [width_append, width_append]
      rfl
    have hrest := locate_eq (before ++ raw ++ [';']) raws
    rw [hwidth] at hrest
    rw [locate, standing, List.filterMap_cons, hrest, ofStretch?, width_append]
    cases trim raw <;> rfl

end Piece

namespace Tag

/-- The tokens of pieces, or the fault of the first one that has a fault. -/
theorem tokens_eq (tag : String) : ∀ ps : List Piece,
    tokens tag ps = match ps.findSome? Piece.fault? with
      | some (position, fault) => .error (.malformed tag position fault)
      | none => .ok (ps.map Piece.token)
  | [] => rfl
  | p :: ps => by
    rw [tokens, List.findSome?_cons, tokens_eq tag ps]
    cases hfault : p.fault? with
    | some fault => rfl
    | none =>
      cases ps.findSome? Piece.fault? with
      | some fault => rfl
      | none => rfl

/-- The fault of the piece in a stretch. -/
def faultIn? (s : List Char × List Char) : Option (Nat × TagFault) :=
  (Piece.ofStretch? s).bind Piece.fault?

theorem findSome?_fault (ss : List (List Char × List Char)) :
    (ss.filterMap Piece.ofStretch?).findSome? Piece.fault? = ss.findSome? faultIn? := by
  induction ss with
  | nil => rfl
  | cons s ss ih =>
    rw [List.filterMap_cons, List.findSome?_cons, faultIn?]
    cases hp : Piece.ofStretch? s with
    | none => exact ih
    | some p => rw [List.findSome?_cons, ih]; rfl

/-- The pieces of the mappers and those of the validators. -/
theorem locate_parts (tag : List Char) :
    Piece.locate 0 (pieces ';' (parts tag).1) = (mapperStretches tag).filterMap Piece.ofStretch? ∧
      Piece.locate (parts tag).2.2 (pieces ';' (parts tag).2.1)
        = (validatorStretches tag).filterMap Piece.ofStretch? := by
  rcases comma_cases tag with hcomma | ⟨mappers, validators, htag, hfirst⟩
  · obtain ⟨hmappers, hvalidators⟩ := stretches_of_no_comma hcomma
    rw [hmappers, hvalidators, parts_of_no_comma hcomma]
    exact ⟨rfl, Piece.locate_eq [] _⟩
  · obtain ⟨hmappers, hvalidators⟩ := stretches_of_comma htag hfirst
    rw [hmappers, hvalidators, parts_of_comma htag hfirst]
    refine ⟨Piece.locate_eq [] _, ?_⟩
    rw [← Piece.locate_eq, width_append]
    rfl

/-- **A tag is read as the tokens of its pieces**, or the first faulty one is reported. -/
theorem parse_eq (text : String) :
    parse text = match (stretches text.toList).findSome? faultIn? with
      | some (position, fault) => .error (.malformed text position fault)
      | none => .ok
        ⟨((mapperStretches text.toList).filterMap Piece.ofStretch?).map Piece.token,
          ((validatorStretches text.toList).filterMap Piece.ofStretch?).map Piece.token⟩ := by
  obtain ⟨hmappers, hvalidators⟩ := locate_parts text.toList
  change (tokens text (Piece.locate 0 (pieces ';' (parts text.toList).1)) >>= fun mappers =>
    tokens text (Piece.locate (parts text.toList).2.2 (pieces ';' (parts text.toList).2.1)) >>=
      fun validators => pure (Tag.mk mappers validators)) = _
  rw [hmappers, hvalidators, tokens_eq, tokens_eq, findSome?_fault, findSome?_fault, stretches,
    List.findSome?_append]
  cases (mapperStretches text.toList).findSome? faultIn? with
  | some fault => rfl
  | none =>
    cases (validatorStretches text.toList).findSome? faultIn? with
    | some fault => rfl
    | none => rfl

end Tag

/-! ## Names -/

namespace Tag

/-- The name in a stretch: the trimmed text before the first equals sign of its piece. -/
def nameIn (raw : List Char) : List Char := trim ((trim raw).takeWhile (· != '='))

/-- The name that is split from a trimmed piece. -/
theorem split_eq_nameIn (raw : List Char) (position : Nat) :
    (Piece.mk position (trim raw)).split.1 = nameIn raw := by
  rw [nameIn]
  rcases hcut : cut? '=' (trim raw) with _ | ⟨name, args⟩
  · have hname : (trim raw).takeWhile (· != '=') = trim raw := by
      have hmem := cut?_eq_none_iff.mp hcut
      refine List.takeWhile_eq_self_iff.mpr fun c hc => ?_
      simp only [bne_iff_ne, ne_eq]
      rintro rfl
      exact hmem hc
    simp only [Piece.split, hcut, hname, trim_trim]
  · obtain ⟨htext, hmem⟩ := cut?_eq_some_iff.mp hcut
    have hname : (trim raw).takeWhile (· != '=') = name := by
      have hpos : ∀ c ∈ name, (c != '=') = true := by
        intro c hc
        simp only [bne_iff_ne, ne_eq]
        rintro rfl
        exact hmem hc
      rw [htext, List.takeWhile_append_of_pos hpos]
      simp
    simp only [Piece.split, hcut, hname]

/-- **A name stands where its piece begins.** -/
theorem nameIn_prefix (raw : List Char) : nameIn raw <+: trim raw := by
  have hprefix : (trim raw).takeWhile (· != '=') <+: trim raw := List.takeWhile_prefix _
  obtain ⟨trail, htext, _⟩ := exists_trim_of_prefix hprefix
  exact List.IsPrefix.trans ⟨trail, htext.symm⟩ hprefix

/-- Without a name, a piece begins with the equals sign. -/
theorem exists_of_nameIn_eq_nil {raw : List Char} (hne : trim raw ≠ []) (h : nameIn raw = []) :
    ∃ rest, trim raw = '=' :: rest := by
  obtain ⟨c, cs, hcs⟩ := List.exists_cons_of_ne_nil hne
  have hhead : (trim raw).head? = some c := by rw [hcs, List.head?_cons]
  have hc := isBlank_of_head?_trim hhead
  by_cases heq : c = '='
  · exact ⟨cs, heq ▸ hcs⟩
  · -- The first character is no blank, so it would be in the name.
    have hmem : c ∈ (trim raw).takeWhile (· != '=') := by simp [hcs, heq]
    have hblank : isBlank c = true := trim_eq_nil_iff.mp h c hmem
    rw [hc] at hblank
    contradiction

end Tag

end FieldRules
