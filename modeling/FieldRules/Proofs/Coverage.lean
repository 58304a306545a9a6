import FieldRules.Proofs.Faults
import FieldRules.Proofs.RoundTrip

/-!
# Proofs/Coverage — nothing in an annotation is lost

The pieces of a text can be cut out of it, and what remains are the gaps between them (`Cuts`).  The
gaps of a part are blanks and semicolons (`exists_cuts_locate`), so those of a tag are blanks,
semicolons and one comma at most.  Every piece is read as one token, whose text is that of the piece
but for blanks after the name (`Token.Reads`).  Together: `parse_covers`.
-/

namespace FieldRules

open Text

/-! ## Cutting pieces out of a text -/

/-- The pieces stand in a text that begins at `offset`, one after the other, and `rest` is left when
they are cut out of it. -/
inductive Cuts : Nat → List Char → List Piece → List Char → Prop
  | rest {offset : Nat} {cs : List Char} : Cuts offset cs [] cs
  | piece {offset : Nat} {cs rest : List Char} {p : Piece} {ps : List Piece} (gap : List Char)
      (hposition : p.position = offset + width gap)
      (h : Cuts (offset + width gap + width p.text) cs ps rest) :
      Cuts offset (gap ++ p.text ++ cs) (p :: ps) (gap ++ rest)

namespace Cuts

variable {offset : Nat} {cs ds rest : List Char} {p : Piece} {ps qs : List Piece}

/-- Nothing is cut out of a text that is put in front. -/
theorem prepend (gap : List Char) (h : Cuts (offset + width gap) cs ps rest) :
    Cuts offset (gap ++ cs) ps (gap ++ rest) := by
  cases h with
  | rest => exact .rest
  | piece inner hposition h =>
    have hwidth : offset + width gap + width inner = offset + width (gap ++ inner) := by
      rw [width_append, Nat.add_assoc]
    rw [hwidth] at hposition h
    have hcuts := Cuts.piece (gap ++ inner) hposition h
    simpa only [List.append_assoc] using hcuts

/-- Texts one after the other are cut one after the other. -/
theorem append {gaps : List Char} (h : Cuts offset cs ps gaps)
    (hs : Cuts (offset + width cs) ds qs rest) :
    Cuts offset (cs ++ ds) (ps ++ qs) (gaps ++ rest) := by
  induction h with
  | rest => exact hs.prepend _
  | @piece offset cs _ p _ gap hposition _ ih =>
    have hwidth : offset + width (gap ++ p.text ++ cs)
        = offset + width gap + width p.text + width cs := by
      rw [width_append, width_append, Nat.add_assoc, Nat.add_assoc, Nat.add_assoc]
    rw [hwidth] at hs
    have hcuts := Cuts.piece gap hposition (ih hs)
    simpa only [List.append_assoc, List.cons_append] using hcuts

/-- **A piece stands at its position.** -/
theorem exists_eq (h : Cuts offset cs ps rest) (hp : p ∈ ps) :
    ∃ before after, cs = before ++ p.text ++ after ∧ p.position = offset + width before := by
  induction h with
  | rest => contradiction
  | @piece offset cs _ q _ gap hposition _ ih =>
    rcases List.mem_cons.mp hp with rfl | hp
    · exact ⟨gap, cs, rfl, hposition⟩
    · obtain ⟨before, after, rfl, hp⟩ := ih hp
      refine ⟨gap ++ q.text ++ before, after, by simp only [List.append_assoc], ?_⟩
      rw [hp, width_append, width_append]
      omega

/-- **A piece ends before the next one begins.** -/
theorem pairwise (h : Cuts offset cs ps rest) :
    ps.Pairwise fun p q => p.position + width p.text ≤ q.position := by
  induction h with
  | rest => exact .nil
  | piece _ hposition h ih =>
    refine .cons (fun q hq => ?_) ih
    obtain ⟨before, _, _, hq⟩ := h.exists_eq hq
    rw [hposition, hq]
    exact Nat.le_add_right _ _

end Cuts

/-! ## The pieces of a part -/

/-- The characters between pieces. -/
def IsGap (c : Char) : Prop := isBlank c = true ∨ c = ';'

/-- What stands between the semicolons of a part, without the blanks at its ends, if anything
does. -/
def Text.trimmedPieces (part : List Char) : List (List Char) :=
  ((pieces ';' part).map trim).filter (· ≠ [])

namespace Piece

variable {offset : Nat} {raw : List Char} {raws : List (List Char)}

theorem locate_of_blank (h : trim raw = []) :
    locate offset (raw :: raws) = locate (offset + width raw + 1) raws := by
  rw [locate, h]

theorem locate_of_ne (h : trim raw ≠ []) :
    locate offset (raw :: raws) = ⟨offset + width (raw.takeWhile isBlank), trim raw⟩ ::
      locate (offset + width raw + 1) raws := by
  rw [locate]
  split
  · contradiction
  · rfl

/-- **There is one piece for each text that is not blank**, in their order. -/
theorem map_text_locate : ∀ (offset : Nat) (raws : List (List Char)),
    (locate offset raws).map Piece.text = (raws.map trim).filter (· ≠ [])
  | _, [] => rfl
  | offset, raw :: raws => by
    have hrest := map_text_locate (offset + width raw + 1) raws
    by_cases h : trim raw = []
    · rw [locate_of_blank h, hrest]
      simp [h]
    · rw [locate_of_ne h, List.map_cons, hrest]
      simp [h]

/-- The piece in a stretch is cut out between the blanks. -/
theorem exists_cuts_cons {cs gaps : List Char} (raw : List Char)
    (h : Cuts (offset + width raw) cs (locate (offset + width raw + 1) raws) gaps)
    (hgaps : ∀ c ∈ gaps, IsGap c) : ∃ rest,
      Cuts offset (raw ++ cs) (locate offset (raw :: raws)) rest ∧ ∀ c ∈ rest, IsGap c := by
  by_cases hraw : trim raw = []
  · refine ⟨raw ++ gaps, locate_of_blank hraw ▸ h.prepend raw, ?_⟩
    intro c hc
    exact (List.mem_append.mp hc).elim (fun hc => .inl (trim_eq_nil_iff.mp hraw c hc)) (hgaps c)
  · obtain ⟨trail, htext, htrail⟩ := exists_trim raw
    have hwidth : offset + width raw
        = offset + width (raw.takeWhile isBlank) + width (trim raw) + width trail := by
      conv_lhs => rw [htext, width_append, width_append, ← Nat.add_assoc, ← Nat.add_assoc]
    refine ⟨raw.takeWhile isBlank ++ (trail ++ gaps), ?_, ?_⟩
    · rw [hwidth] at h
      have hcuts := Cuts.piece (p := ⟨offset + width (raw.takeWhile isBlank), trim raw⟩)
        (raw.takeWhile isBlank) rfl (h.prepend trail)
      have hcs : raw.takeWhile isBlank ++ trim raw ++ (trail ++ cs) = raw ++ cs := by
        rw [← List.append_assoc, ← htext]
      rw [hcs, ← hwidth] at hcuts
      rwa [locate_of_ne hraw]
    · simp only [List.forall_mem_append]
      exact ⟨fun c hc => .inl (List.mem_takeWhile_imp hc), fun c hc => .inl (htrail c hc), hgaps⟩

/-- The pieces of a part are cut out of it between blanks and semicolons. -/
theorem exists_cuts_locate : ∀ (offset : Nat) (raws : List (List Char)), ∃ gaps,
    Cuts offset ([';'].intercalate raws) (locate offset raws) gaps ∧ ∀ c ∈ gaps, IsGap c
  | _, [] => ⟨[], .rest, by simp⟩
  | offset, [raw] => by
    have hrest : Cuts (offset + width raw) [] (locate (offset + width raw + 1) []) [] := .rest
    simpa using exists_cuts_cons raw hrest (by simp)
  | offset, raw :: next :: raws => by
    obtain ⟨gaps, hcuts, hgaps⟩ := exists_cuts_locate (offset + width raw + 1) (next :: raws)
    have hgaps' : ∀ c ∈ ';' :: gaps, IsGap c := List.forall_mem_cons.mpr ⟨.inr rfl, hgaps⟩
    rw [List.intercalate_cons_cons, List.append_assoc]
    exact exists_cuts_cons raw (hcuts.prepend [';']) hgaps'

end Piece

/-! ## What a token reads -/

/-- The token stands where the piece begins, and its text is that of the piece, but for blanks after
the name: it has arguments iff there is an equals sign. -/
structure Token.Reads (k : Token) (p : Piece) : Prop where
  position : k.position = p.position
  name_ne : k.name ≠ ""
  text : ∃ blanks, (∀ b ∈ blanks, isBlank b = true) ∧
    p.text = k.name.toList ++ blanks ++ if k.args = [] then [] else '=' :: k.argText
  args : k.args ≠ [] ↔ '=' ∈ p.text

namespace Token

variable {k : Token} {p : Piece}

theorem Reads.toList_name_ne (h : k.Reads p) : k.name.toList ≠ [] := by
  intro hnil
  exact h.name_ne (String.toList_inj.mp (hnil.trans String.toList_empty.symm))

theorem Reads.name_prefix (h : k.Reads p) : k.name.toList <+: p.text := by
  obtain ⟨blanks, _, htext⟩ := h.text
  rw [htext, List.append_assoc]
  exact List.prefix_append _ _

theorem Reads.width_pos (h : k.Reads p) : 0 < width p.text := by
  obtain ⟨c, cs, hname⟩ := List.exists_cons_of_ne_nil h.toList_name_ne
  obtain ⟨rest, htext⟩ := h.name_prefix
  have hc := c.utf8Size_pos
  rw [← htext, hname, width_append, width]
  omega

theorem map_position_eq {ks : List Token} {ps : List Piece} (h : List.Forall₂ Reads ks ps) :
    ks.map position = ps.map Piece.position := by
  induction h with
  | nil => rfl
  | cons hreads _ ih => rw [List.map_cons, List.map_cons, hreads.position, ih]

end Token

/-- A piece has no fault iff it has a name and no blank in it. -/
theorem Piece.fault?_eq_none_iff (p : Piece) :
    p.fault? = none ↔ p.split.1.isEmpty = false ∧ p.split.1.any isBlank = false := by
  simp only [Piece.fault?]
  cases p.split.1.isEmpty <;> cases p.split.1.any isBlank <;> simp

/-- **A piece without faults is read.** -/
theorem Piece.reads_token {p : Piece} {raw : List Char} (htext : p.text = trim raw)
    (hfault : p.fault? = none) : p.token.Reads p := by
  have hne : p.token.name ≠ "" := by
    intro hempty
    exact (name_of_fault? hfault).1 (by simpa [token] using congrArg String.toList hempty)
  rcases hcut : cut? '=' p.text with _ | ⟨name, args⟩
  · have hsplit : p.split = (p.text, []) := by simp only [split, hcut]
    have htoken : p.token = ⟨String.ofList p.text, [], p.position⟩ := by simp [token, hsplit]
    refine ⟨rfl, hne, ⟨[], by simp, by simp [htoken]⟩, ?_⟩
    simpa [htoken] using cut?_eq_none_iff.mp hcut
  · obtain ⟨hcs, _⟩ := cut?_eq_some_iff.mp hcut
    have hsplit : p.split = (trim name, pieces '&' args) := by simp only [split, hcut]
    have htoken : p.token
        = ⟨String.ofList (trim name), (pieces '&' args).map String.ofList, p.position⟩ := by
      simp [token, hsplit]
    have hargs : p.token.args ≠ [] := by simpa [htoken] using pieces_ne_nil '&' args
    have hargText : p.token.argText = args := by
      rw [Token.argText, htoken, List.map_map]
      simpa [Function.comp_def] using intercalate_pieces '&' args
    have hprefix : name <+: trim raw := ⟨'=' :: args, by rw [← htext, hcs]⟩
    obtain ⟨trail, hname, htrail⟩ := exists_trim_of_prefix hprefix
    refine ⟨rfl, hne, ⟨trail, htrail, ?_⟩, ?_⟩
    · rw [if_neg hargs, hargText, htoken, String.toList_ofList, ← hname, hcs]
    · simp [hargs, hcs]

/-- The tokens that are read from pieces are those of the pieces, and none of these is faulty. -/
theorem Tag.tokens_eq_ok_iff {tag : String} {ps : List Piece} {ts : List Token} :
    tokens tag ps = .ok ts ↔ ts = ps.map Piece.token ∧ ∀ p ∈ ps, p.fault? = none := by
  rw [tokens_eq, ← List.findSome?_eq_none_iff]
  cases ps.findSome? Piece.fault? with
  | none => simp [eq_comm]
  | some fault => simp

/-! ## The pieces of an annotation -/

/-- Pieces of a part of a tag: all that are not blank, cut out between gaps, and read in turn. -/
structure Tag.PartRead (offset : Nat) (part : List Char) (ts : List Token) (ps : List Piece)
    (gaps : List Char) : Prop where
  reads : List.Forall₂ Token.Reads ts ps
  texts : ps.map Piece.text = trimmedPieces part
  cut : Cuts offset part ps gaps
  gaps : ∀ c ∈ gaps, IsGap c

/-- **A part is read piece by piece.** -/
theorem Tag.exists_partRead {tag : String} {offset : Nat} {part : List Char} {ts : List Token}
    (h : tokens tag (Piece.locate offset (pieces ';' part)) = .ok ts) :
    ∃ ps gaps, PartRead offset part ts ps gaps := by
  obtain ⟨rfl, hfault⟩ := tokens_eq_ok_iff.mp h
  obtain ⟨gaps, hcut, hgaps⟩ := Piece.exists_cuts_locate offset (pieces ';' part)
  rw [intercalate_pieces] at hcut
  refine ⟨_, gaps, ?_, Piece.map_text_locate offset _, hcut, hgaps⟩
  refine List.forall₂_map_left_iff.mpr (List.forall₂_same.mpr fun p hp => ?_)
  obtain ⟨raw, _, htext⟩ := Piece.exists_of_mem_locate hp
  exact Piece.reads_token htext (hfault p hp)

/-- Both parts of an annotation are read. -/
theorem Tag.exists_partRead_of_parse {text : String} {t : Tag} (h : parse text = .ok t) :
    ∃ ms vs mgaps vgaps, PartRead 0 (parts text.toList).1 t.mappers ms mgaps ∧
      PartRead (parts text.toList).2.2 (parts text.toList).2.1 t.validators vs vgaps := by
  obtain ⟨mappers, hmappers, h⟩ := bind_eq_ok.mp h
  obtain ⟨validators, hvalidators, h⟩ := bind_eq_ok.mp h
  obtain rfl : Tag.mk mappers validators = t := Except.ok.inj h
  obtain ⟨ms, mgaps, hms⟩ := exists_partRead hmappers
  obtain ⟨vs, vgaps, hvs⟩ := exists_partRead hvalidators
  exact ⟨ms, vs, mgaps, vgaps, hms, hvs⟩

/-- **The pieces that an annotation reads cover its text.**  There is a token for each piece that is
not blank, in their order; the mappers' end before the first comma and the validators' begin after
it, and there are no mappers without a comma.  When the pieces are cut out, blanks, semicolons and
one comma at most remain. -/
structure Tag.Covers (t : Tag) (text : List Char) (ms vs : List Piece) (rest : List Char) :
    Prop where
  mappers : List.Forall₂ Token.Reads t.mappers ms
  validators : List.Forall₂ Token.Reads t.validators vs
  comma : ∀ m v, text = m ++ ',' :: v → ',' ∉ m →
    ms.map Piece.text = trimmedPieces m ∧ vs.map Piece.text = trimmedPieces v ∧
      (∀ p ∈ ms, p.position + width p.text ≤ width m) ∧ ∀ p ∈ vs, width m < p.position
  no_comma : ',' ∉ text → t.mappers = [] ∧ vs.map Piece.text = trimmedPieces text
  cut : Cuts 0 text (ms ++ vs) rest
  remains : ∀ c ∈ rest, isBlank c = true ∨ c = ';' ∨ c = ','
  one_comma : rest.count ',' ≤ 1

namespace Tag

variable {t : Tag} {tag ms_gaps vs_gaps m v : List Char} {ms vs : List Piece}

theorem PartRead.count_comma {offset : Nat} {part gaps : List Char} {ts : List Token}
    {ps : List Piece} (h : PartRead offset part ts ps gaps) : gaps.count ',' = 0 := by
  refine List.count_eq_zero.mpr fun hc => ?_
  rcases h.gaps _ hc with hblank | hsemicolon
  · exact absurd hblank (by decide)
  · exact absurd hsemicolon (by decide)

/-- A text without a comma holds validators only. -/
theorem covers_of_no_comma (hcomma : ',' ∉ tag) (hms : PartRead 0 [] t.mappers ms ms_gaps)
    (hvs : PartRead 0 tag t.validators vs vs_gaps) : t.Covers tag ms vs vs_gaps := by
  obtain rfl : ms = [] := List.map_eq_nil_iff.mp hms.texts
  refine ⟨hms.reads, hvs.reads, fun m v htag _ => absurd (by simp [htag]) hcomma,
    fun _ => ⟨List.forall₂_nil_right_iff.mp hms.reads, hvs.texts⟩, hvs.cut, fun c hc => ?_, ?_⟩
  · exact (hvs.gaps c hc).imp_right .inl
  · rw [hvs.count_comma]
    exact Nat.zero_le 1

/-- Otherwise the parts stand before the first comma and after it. -/
theorem covers_of_comma (htag : tag = m ++ ',' :: v) (hfirst : ',' ∉ m)
    (hms : PartRead 0 m t.mappers ms ms_gaps)
    (hvs : PartRead (width m + 1) v t.validators vs vs_gaps) :
    t.Covers tag ms vs (ms_gaps ++ ',' :: vs_gaps) := by
  have hcut : Cuts 0 tag (ms ++ vs) (ms_gaps ++ ',' :: vs_gaps) := by
    have hafter : Cuts (0 + width m) (',' :: v) vs (',' :: vs_gaps) :=
      Cuts.prepend [','] (by rw [Nat.zero_add]; exact hvs.cut)
    exact htag ▸ hms.cut.append hafter
  refine ⟨hms.reads, hvs.reads, fun m' v' htag' hfirst' => ?_, fun h => absurd (by simp [htag]) h,
    hcut, fun c hc => ?_, ?_⟩
  · obtain ⟨rfl, rfl⟩ := eq_of_first_sep htag hfirst htag' hfirst'
    refine ⟨hms.texts, hvs.texts, fun p hp => ?_, fun p hp => ?_⟩
    · obtain ⟨before, after, rfl, hposition⟩ := hms.cut.exists_eq hp
      rw [hposition, width_append, width_append]
      omega
    · obtain ⟨before, _, _, hposition⟩ := hvs.cut.exists_eq hp
      omega
  · rcases List.mem_append.mp hc with hc | hc
    · exact (hms.gaps c hc).imp_right .inl
    · rcases List.mem_cons.mp hc with rfl | hc
      · exact .inr (.inr rfl)
      · exact (hvs.gaps c hc).imp_right .inl
  · rw [List.count_append, List.count_cons_self, hms.count_comma, hvs.count_comma]

theorem exists_covers {text : String} (h : parse text = .ok t) :
    ∃ ms vs rest, t.Covers text.toList ms vs rest := by
  obtain ⟨ms, vs, mgaps, vgaps, hms, hvs⟩ := exists_partRead_of_parse h
  rcases comma_cases text.toList with hcomma | ⟨m, v, htag, hfirst⟩
  · rw [parts_of_no_comma hcomma] at hms hvs
    exact ⟨ms, vs, _, covers_of_no_comma hcomma hms hvs⟩
  · rw [parts_of_comma htag hfirst] at hms hvs
    exact ⟨ms, vs, _, covers_of_comma htag hfirst hms hvs⟩

/-! ## Where the tokens stand -/

variable {text rest : List Char}

theorem Covers.reads (h : t.Covers text ms vs rest) :
    List.Forall₂ Token.Reads (t.mappers ++ t.validators) (ms ++ vs) :=
  List.rel_append h.mappers h.validators

/-- **Tokens stand one after the other.** -/
theorem Covers.pairwise_position (h : t.Covers text ms vs rest) :
    (t.mappers ++ t.validators).Pairwise fun k l => k.position < l.position := by
  have hpieces : (ms ++ vs).Pairwise fun p q => p.position < q.position := by
    refine h.cut.pairwise.imp_of_mem fun hp _ hle => ?_
    obtain ⟨k, _, hreads⟩ := exists_of_mem_forall₂ h.reads _ hp
    have hpos := hreads.width_pos
    omega
  rw [← List.pairwise_map, Token.map_position_eq h.reads, List.pairwise_map]
  exact hpieces

/-- **A token's name stands at its position.** -/
theorem Covers.exists_name (h : t.Covers text ms vs rest) {k : Token}
    (hk : k ∈ t.mappers ++ t.validators) : ∃ before after,
      text = before ++ k.name.toList ++ after ∧ k.name.toList ≠ [] ∧ k.position = width before := by
  obtain ⟨p, hp, hreads⟩ := exists_match_of_mem h.reads hk
  obtain ⟨before, after, htext, hposition⟩ := h.cut.exists_eq hp
  obtain ⟨rest, hpiece⟩ := hreads.name_prefix
  refine ⟨before, rest ++ after, ?_, hreads.toList_name_ne, ?_⟩
  · rw [htext, ← hpiece]
    simp only [List.append_assoc]
  · rw [hreads.position, hposition, Nat.zero_add]

/-- **Nothing in an annotation is lost.**  The pieces that are read cover the text, each read as one
token; tokens stand one after the other, each at a character boundary where its name stands. -/
theorem parse_covers {text : String} {t : Tag} (h : parse text = .ok t) :
    (∃ ms vs rest, t.Covers text.toList ms vs rest) ∧
    (t.mappers ++ t.validators).Pairwise (fun k l => k.position < l.position) ∧
    ∀ k ∈ t.mappers ++ t.validators, (⟨k.position⟩ : String.Pos.Raw).IsValid text ∧
      ∃ before after, text.toList = before ++ k.name.toList ++ after ∧
        k.position = width before := by
  obtain ⟨ms, vs, rest, hcovers⟩ := exists_covers h
  refine ⟨⟨ms, vs, rest, hcovers⟩, hcovers.pairwise_position, fun k hk => ?_⟩
  obtain ⟨before, after, htext, hname, hposition⟩ := hcovers.exists_name hk
  obtain ⟨c, cs, hcs⟩ := List.exists_cons_of_ne_nil hname
  have hstands : text.toList = before ++ c :: (cs ++ after) := by
    rw [htext, hcs, List.append_assoc, List.cons_append]
  exact ⟨hposition ▸ (isValid_of_append hstands).1, before, after, htext, hposition⟩

/-- Bytes count and not characters, and later commas belong to the arguments. -/
theorem parse_covers_blanks :
    parse " größer ;; pad = 0 &,\u3000; min=1,2 ;" = .ok
      ⟨[⟨"größer", [], 1⟩, ⟨"pad", [" 0 ", ""], 13⟩], [⟨"min", ["1,2"], 28⟩]⟩
    ∧ ∃ ms vs rest, Covers
      ⟨[⟨"größer", [], 1⟩, ⟨"pad", [" 0 ", ""], 13⟩], [⟨"min", ["1,2"], 28⟩]⟩
      " größer ;; pad = 0 &,\u3000; min=1,2 ;".toList ms vs rest := by
  have hread : parse " größer ;; pad = 0 &,\u3000; min=1,2 ;" = .ok
      ⟨[⟨"größer", [], 1⟩, ⟨"pad", [" 0 ", ""], 13⟩], [⟨"min", ["1,2"], 28⟩]⟩ := by
    decide +kernel
  exact ⟨hread, (parse_covers hread).1⟩

end Tag

end FieldRules
