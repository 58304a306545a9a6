import FieldRules.Proofs.Pieces
import FieldRules.Proofs.Sequence
import FieldRules.Tag.Parser

/-!
# Proofs/RoundTrip — annotations are read as they are written

A token is **printable** if its text shows where it ends and where its arguments begin.  Printable
tokens are read back from their text, each at the byte where it was written (`tokens_renderAll`),
and what is read from any text is printable (`printable_of_parse`).  Hence `parse_render`: reading
undoes writing.
-/

namespace FieldRules

open Text

/-! ## Printable tokens -/

/-- A name without blanks and separators, and arguments without separators; no blank at the end. -/
@[mk_iff] structure Token.Printable (t : Token) : Prop where
  name_ne : t.name ≠ ""
  name : ∀ c ∈ t.name.toList, isBlank c = false ∧ c ≠ ';' ∧ c ≠ '='
  args : ∀ a ∈ t.args, ∀ c ∈ a.toList, c ≠ ';' ∧ c ≠ '&'
  last : ∀ a ∈ t.args.getLast?, ∀ c ∈ a.toList.getLast?, isBlank c = false

/-- Looks for blanks and separators where a printable token has none. -/
def Token.isPrintable (t : Token) : Bool :=
  t.name != "" && t.name.toList.all (fun c => !isBlank c && c != ';' && c != '=') &&
    t.args.all (fun a => a.toList.all fun c => c != ';' && c != '&') &&
    t.args.getLast?.all fun a => a.toList.getLast?.all fun c => !isBlank c

theorem Token.isPrintable_iff (t : Token) : t.isPrintable = true ↔ t.Printable := by
  simp [isPrintable, printable_iff, Option.all_eq_true, and_assoc]

instance (t : Token) : Decidable t.Printable := decidable_of_iff _ t.isPrintable_iff

/-- A token whose text has no comma. -/
def Token.Commaless (t : Token) : Prop :=
  ',' ∉ t.name.toList ∧ ∀ a ∈ t.args, ',' ∉ a.toList

instance (t : Token) : Decidable t.Commaless := inferInstanceAs (Decidable (_ ∧ _))

/-- Printable tokens; those before the comma have none themselves. -/
structure Tag.Printable (t : Tag) : Prop where
  mappers : ∀ m ∈ t.mappers, m.Printable ∧ m.Commaless
  validators : ∀ v ∈ t.validators, v.Printable

/-! ## The text of a token -/

theorem toList_joined (sep : Char) (words : List String) :
    (joined (String.singleton sep) words).toList = [sep].intercalate (words.map String.toList) := by
  simp [joined]

/-- The arguments as they stand after the equals sign. -/
def Token.argText (t : Token) : List Char := ['&'].intercalate (t.args.map String.toList)

theorem Token.toList_render (t : Token) :
    t.render.toList = if t.args = [] then t.name.toList else t.name.toList ++ '=' :: t.argText := by
  rw [render, argText, ← toList_joined]
  cases t.args with
  | nil => rfl
  | cons a as => simp

theorem mem_intercalate {α : Type} {sep a : α} :
    ∀ {words : List (List α)}, a ∈ [sep].intercalate words → a = sep ∨ ∃ w ∈ words, a ∈ w
  | [], h => by simp at h
  | [w], h => .inr ⟨w, List.mem_singleton_self w, by simpa using h⟩
  | w :: w' :: ws, h => by
    rw [List.intercalate_cons_cons] at h
    simp only [List.append_assoc, List.mem_append, List.mem_singleton] at h
    rcases h with h | h | h
    · exact .inr ⟨w, List.mem_cons_self, h⟩
    · exact .inl h
    · rcases mem_intercalate h with h | ⟨u, hu, h⟩
      · exact .inl h
      · exact .inr ⟨u, List.mem_cons_of_mem w hu, h⟩

/-- The last character of joined words is that of the last word, or a separator. -/
theorem getLast?_intercalate {α : Type} {sep a : α} :
    ∀ {words : List (List α)}, ([sep].intercalate words).getLast? = some a →
      a = sep ∨ ∃ w, words.getLast? = some w ∧ w.getLast? = some a
  | [], h => by simp at h
  | [w], h => .inr ⟨w, rfl, by simpa using h⟩
  | w :: w' :: ws, h => by
    rw [List.intercalate_cons_cons, List.append_assoc, List.getLast?_append,
      List.singleton_append, List.getLast?_cons] at h
    rcases hlast : ([sep].intercalate (w' :: ws)).getLast? with _ | b
    · rw [hlast] at h
      exact .inl (by simpa using h.symm)
    · rw [hlast] at h
      obtain rfl : b = a := by simpa using h
      rcases getLast?_intercalate hlast with hsep | ⟨u, hu, ha⟩
      · exact .inl hsep
      · exact .inr ⟨u, by rwa [List.getLast?_cons_cons], ha⟩

namespace Token.Printable

variable {t : Token}

theorem toList_name_ne (h : t.Printable) : t.name.toList ≠ [] := by
  intro hnil
  exact h.name_ne (String.toList_inj.mp (hnil.trans String.toList_empty.symm))

theorem not_semicolon (h : t.Printable) : ';' ∉ t.render.toList := by
  have hname : ';' ∉ t.name.toList := fun hc => (h.name _ hc).2.1 rfl
  rw [toList_render]
  split
  · exact hname
  · intro hc
    rcases List.mem_append.mp hc with hc | hc
    · exact hname hc
    · rcases List.mem_cons.mp hc with hc | hc
      · exact absurd hc (by decide)
      · rcases mem_intercalate hc with hc | ⟨w, hw, hc⟩
        · exact absurd hc (by decide)
        · obtain ⟨a, ha, rfl⟩ := List.mem_map.mp hw
          exact (h.args a ha _ hc).1 rfl

/-- The text of a printable token begins with its name. -/
theorem head?_render (h : t.Printable) {c : Char} (hc : t.render.toList.head? = some c) :
    isBlank c = false := by
  have hmem : c ∈ t.name.toList := by
    rw [toList_render] at hc
    split at hc
    · exact List.mem_of_mem_head? hc
    · rw [List.head?_append_of_ne_nil _ h.toList_name_ne] at hc
      exact List.mem_of_mem_head? hc
  exact (h.name c hmem).1

/-- It ends with its last argument, with a separator, or with its name. -/
theorem getLast?_render (h : t.Printable) {c : Char} (hc : t.render.toList.getLast? = some c) :
    isBlank c = false := by
  rw [toList_render] at hc
  split at hc
  · exact (h.name c (List.mem_of_getLast? hc)).1
  · rw [List.getLast?_append_of_ne_nil _ (List.cons_ne_nil _ _), List.getLast?_cons] at hc
    rcases hlast : t.argText.getLast? with _ | d
    · rw [hlast] at hc
      obtain rfl : '=' = c := by simpa using hc
      decide
    · rw [hlast] at hc
      obtain rfl : d = c := by simpa using hc
      rcases getLast?_intercalate hlast with rfl | ⟨w, hw, hd⟩
      · decide
      · rw [List.getLast?_map, Option.map_eq_some_iff] at hw
        obtain ⟨a, ha, rfl⟩ := hw
        exact h.last a ha d hd

theorem render_ne_nil (h : t.Printable) : t.render.toList ≠ [] := by
  rw [toList_render]
  split
  · exact h.toList_name_ne
  · simp

/-! ## Reading the text of a token -/

/-- The text of a token is taken apart into its name and its arguments. -/
theorem split_render (h : t.Printable) (position : Nat) :
    Piece.split ⟨position, t.render.toList⟩ = (t.name.toList, t.args.map String.toList) := by
  have hname : '=' ∉ t.name.toList := fun hc => (h.name _ hc).2.2 rfl
  by_cases hargs : t.args = []
  · have hcut : cut? '=' t.name.toList = none := cut?_eq_none_iff.mpr hname
    simp only [Piece.split, toList_render, hargs, if_true, hcut, List.map_nil]
  · have hcut : cut? '=' (t.name.toList ++ '=' :: t.argText) = some (t.name.toList, t.argText) :=
      cut?_eq_some_iff.mpr ⟨rfl, hname⟩
    have hpieces : pieces '&' t.argText = t.args.map String.toList := by
      refine pieces_intercalate (by simpa using hargs) fun w hw hc => ?_
      obtain ⟨a, ha, rfl⟩ := List.mem_map.mp hw
      exact (h.args a ha _ hc).2 rfl
    have htrim : trim t.name.toList = t.name.toList :=
      trim_of_no_blank fun c hc => (h.name c hc).1
    simp only [Piece.split, toList_render, hargs, if_false, hcut, hpieces, htrim]

theorem fault?_render (h : t.Printable) (position : Nat) :
    Piece.fault? ⟨position, t.render.toList⟩ = none := by
  have hany : t.name.toList.any isBlank = false :=
    List.any_eq_false.mpr fun c hc => by simp [(h.name c hc).1]
  simp only [Piece.fault?, h.split_render, hany, List.isEmpty_iff, h.toList_name_ne, if_false,
    Bool.false_eq_true]

theorem token_render (h : t.Printable) (position : Nat) :
    Piece.token ⟨position, t.render.toList⟩ = { t with position := position } := by
  have hargs : (t.args.map String.toList).map String.ofList = t.args := by simp
  simp only [Piece.token, h.split_render, hargs, String.ofList_toList]

/-- A printable text between semicolons is one piece, which begins where the text does. -/
theorem locate_render (h : t.Printable) (offset : Nat) (rest : List (List Char)) :
    Piece.locate offset (t.render.toList :: rest) =
      ⟨offset, t.render.toList⟩ :: Piece.locate (offset + t.render.utf8ByteSize + 1) rest := by
  have htrim : trim t.render.toList = t.render.toList :=
    trim_eq_self (fun _ => h.head?_render) fun _ => h.getLast?_render
  have hblank : t.render.toList.takeWhile isBlank = [] := by
    rcases hlist : t.render.toList with _ | ⟨c, cs⟩
    · rfl
    · simp [h.head?_render (c := c) (by rw [hlist]; rfl)]
  rw [Piece.locate, htrim, hblank, utf8ByteSize_eq_width]
  rcases hlist : t.render.toList with _ | ⟨c, cs⟩
  · exact absurd hlist h.render_ne_nil
  · rfl

end Token.Printable

/-! ## Reading the text of an annotation -/

/-- **Printable tokens are read back from their texts**, where these stand. -/
theorem tokens_texts (tag : String) :
    ∀ {ts : List Token} (offset : Nat), (∀ t ∈ ts, t.Printable) →
      Tag.tokens tag (Piece.locate offset (ts.map fun t => t.render.toList))
        = .ok (Token.placed offset ts)
  | [], _, _ => rfl
  | t :: ts, offset, h => by
    have ht : t.Printable := h t List.mem_cons_self
    have hrest := tokens_texts tag (offset + t.render.utf8ByteSize + 1)
      fun t' ht' => h t' (List.mem_cons_of_mem t ht')
    rw [List.map_cons, ht.locate_render, Tag.tokens, ht.fault?_render]
    simp only [hrest, ht.token_render, Token.placed]
    rfl

theorem toList_renderAll (ts : List Token) :
    (Token.renderAll ts).toList = [';'].intercalate (ts.map fun t => t.render.toList) := by
  have h := toList_joined ';' (ts.map Token.render)
  rwa [List.map_map] at h

/-- **Tokens are read back from the text with semicolons between them.** -/
theorem tokens_renderAll (tag : String) {ts : List Token} (offset : Nat)
    (h : ∀ t ∈ ts, t.Printable) :
    Tag.tokens tag (Piece.locate offset (pieces ';' (Token.renderAll ts).toList))
      = .ok (Token.placed offset ts) := by
  rw [toList_renderAll]
  cases ts with
  | nil => rfl
  | cons t ts =>
    rw [pieces_intercalate (by simp), tokens_texts tag offset h]
    intro w hw
    obtain ⟨t', ht', rfl⟩ := List.mem_map.mp hw
    exact (h t' ht').not_semicolon

theorem Token.Commaless.not_mem {t : Token} (h : t.Commaless) : ',' ∉ t.render.toList := by
  rw [toList_render]
  split
  · exact h.1
  · intro hc
    rcases List.mem_append.mp hc with hc | hc
    · exact h.1 hc
    · rcases List.mem_cons.mp hc with hc | hc
      · exact absurd hc (by decide)
      · rcases mem_intercalate hc with hc | ⟨w, hw, hc⟩
        · exact absurd hc (by decide)
        · obtain ⟨a, ha, rfl⟩ := List.mem_map.mp hw
          exact h.2 a ha hc

/-- The text of a printable annotation is cut at the comma after its mappers. -/
theorem cut?_render {t : Tag} (h : t.Printable) :
    cut? ',' t.render.toList
      = some ((Token.renderAll t.mappers).toList, (Token.renderAll t.validators).toList) := by
  refine cut?_eq_some_iff.mpr ⟨by simp [Tag.render], fun hc => ?_⟩
  rw [toList_renderAll] at hc
  rcases mem_intercalate hc with hc | ⟨w, hw, hc⟩
  · exact absurd hc (by decide)
  · obtain ⟨m, hm, rfl⟩ := List.mem_map.mp hw
    exact (h.mappers m hm).2.not_mem hc

/-- **A printable annotation is read back from its text.** -/
theorem parse_of_printable {t : Tag} (h : t.Printable) : Tag.parse t.render = .ok t.placed := by
  have hmappers := tokens_renderAll t.render 0 fun m hm => (h.mappers m hm).1
  have hvalidators := tokens_renderAll t.render ((Token.renderAll t.mappers).utf8ByteSize + 1)
    h.validators
  rw [utf8ByteSize_eq_width] at hvalidators
  simp only [Tag.parse, Tag.parts, cut?_render h, hmappers, hvalidators, Tag.placed,
    utf8ByteSize_eq_width]
  rfl

/-- Validators alone are read back from their text if it has no comma. -/
theorem parse_renderAll {ts : List Token} (h : ∀ t ∈ ts, t.Printable)
    (hcomma : ',' ∉ (Token.renderAll ts).toList) :
    Tag.parse (Token.renderAll ts) = .ok ⟨[], Token.placed 0 ts⟩ := by
  have hvalidators := tokens_renderAll (Token.renderAll ts) 0 h
  simp only [Tag.parse, Tag.parts, cut?_eq_none_iff.mpr hcomma, hvalidators]
  rfl

/-! ## What is read is printable -/

namespace Piece

variable {p : Piece}

/-- Name and arguments are parts of the text, and no argument has an ampersand. -/
theorem split_subset (p : Piece) :
    p.split.1 ⊆ p.text ∧ ∀ a ∈ p.split.2, a ⊆ p.text ∧ '&' ∉ a := by
  rcases hcut : cut? '=' p.text with _ | ⟨before, after⟩
  · simp [split, hcut]
  · obtain ⟨htext, _⟩ := cut?_eq_some_iff.mp hcut
    have hsplit : p.split = (trim before, pieces '&' after) := by simp only [split, hcut]
    have hbefore : before ⊆ p.text := htext ▸ List.subset_append_left ..
    have hafter : after ⊆ p.text := fun c hc =>
      htext ▸ List.mem_append_right before (List.mem_cons_of_mem '=' hc)
    rw [hsplit]
    refine ⟨fun c hc => hbefore (trim_subset before hc), fun a ha => ?_⟩
    obtain ⟨hsep, hsub⟩ := mem_of_mem_pieces ha
    exact ⟨fun c hc => hafter (hsub hc), hsep⟩

theorem equals_not_mem_split (p : Piece) : '=' ∉ p.split.1 := by
  rcases hcut : cut? '=' p.text with _ | ⟨before, after⟩
  · simpa only [split, hcut] using cut?_eq_none_iff.mp hcut
  · obtain ⟨_, hbefore⟩ := cut?_eq_some_iff.mp hcut
    have hsplit : p.split.1 = trim before := by simp only [split, hcut]
    exact hsplit ▸ fun hc => hbefore (trim_subset before hc)

/-- The last argument ends the text. -/
theorem suffix_of_getLast?_split {a : List Char} (h : p.split.2.getLast? = some a) :
    a <:+ p.text := by
  rcases hcut : cut? '=' p.text with _ | ⟨before, after⟩
  · simp [split, hcut] at h
  · obtain ⟨htext, _⟩ := cut?_eq_some_iff.mp hcut
    have hlast : (pieces '&' after).getLast? = some a := by simpa only [split, hcut] using h
    rw [htext]
    exact (suffix_of_getLast?_pieces hlast).trans
      ((List.suffix_cons '=' after).trans (List.suffix_append before _))

/-- A piece without faults has a name, and no blank in it. -/
theorem name_of_fault? (h : p.fault? = none) :
    p.split.1 ≠ [] ∧ ∀ c ∈ p.split.1, isBlank c = false := by
  simp only [fault?] at h
  split at h
  · contradiction
  · next hempty =>
    split at h
    · contradiction
    · next hblank =>
      refine ⟨fun hnil => hempty (by rw [hnil]; rfl), fun c hc => ?_⟩
      simpa using fun hc' => hblank (List.any_eq_true.mpr ⟨c, hc, hc'⟩)

/-- **The token of a piece is printable** if the piece stands between semicolons and is trimmed. -/
theorem printable_token (hfault : p.fault? = none) (hsemicolon : ';' ∉ p.text)
    (hlast : ∀ c, p.text.getLast? = some c → isBlank c = false) : p.token.Printable := by
  obtain ⟨hne, hblank⟩ := name_of_fault? hfault
  obtain ⟨hname, hargs⟩ := split_subset p
  refine ⟨?_, ?_, ?_, ?_⟩
  · intro hempty
    exact hne (by simpa [token] using congrArg String.toList hempty)
  · intro c hc
    have hmem : c ∈ p.split.1 := by simpa [token] using hc
    refine ⟨hblank c hmem, ?_, ?_⟩
    · rintro rfl
      exact hsemicolon (hname hmem)
    · rintro rfl
      exact equals_not_mem_split p hmem
  · intro s hs c hc
    obtain ⟨a, ha, rfl⟩ := List.mem_map.mp hs
    rw [String.toList_ofList] at hc
    obtain ⟨hsub, hsep⟩ := hargs a ha
    refine ⟨?_, ?_⟩
    · rintro rfl
      exact hsemicolon (hsub hc)
    · rintro rfl
      exact hsep hc
  · intro s hs c hc
    have hmap : p.token.args.getLast? = p.split.2.getLast?.map String.ofList := List.getLast?_map ..
    rw [hmap] at hs
    obtain ⟨a, ha, rfl⟩ := Option.map_eq_some_iff.mp hs
    rw [String.toList_ofList] at hc
    obtain ⟨before, htext⟩ := suffix_of_getLast?_split ha
    exact hlast c (by rw [← htext, List.getLast?_append, hc]; rfl)

theorem commaless_token (h : ',' ∉ p.text) : p.token.Commaless := by
  obtain ⟨hname, hargs⟩ := split_subset p
  refine ⟨fun hc => ?_, fun s hs hc => ?_⟩
  · exact h (hname (by simpa [token] using hc))
  · obtain ⟨a, ha, rfl⟩ := List.mem_map.mp hs
    rw [String.toList_ofList] at hc
    exact h ((hargs a ha).1 hc)

/-- The located pieces are trimmed pieces of the text. -/
theorem exists_of_mem_locate :
    ∀ {raws : List (List Char)} {offset : Nat}, p ∈ locate offset raws →
      ∃ raw ∈ raws, p.text = trim raw
  | raw :: raws, offset, h => by
    have hrest : p ∈ locate (offset + width raw + 1) raws → ∃ r ∈ raw :: raws, p.text = trim r := by
      intro hp
      obtain ⟨r, hr, htext⟩ := exists_of_mem_locate hp
      exact ⟨r, List.mem_cons_of_mem raw hr, htext⟩
    rw [locate] at h
    split at h
    · exact hrest h
    · rcases List.mem_cons.mp h with rfl | h
      · exact ⟨raw, List.mem_cons_self, rfl⟩
      · exact hrest h

end Piece

/-- The tokens that are read are those of pieces without faults. -/
theorem exists_of_mem_tokens {tag : String} :
    ∀ {ps : List Piece} {ts : List Token}, Tag.tokens tag ps = .ok ts →
      ∀ t ∈ ts, ∃ p ∈ ps, p.fault? = none ∧ t = p.token
  | [], ts, h, t, ht => by
    obtain rfl : [] = ts := by simpa [Tag.tokens] using h
    contradiction
  | p :: ps, ts, h, t, ht => by
    rw [Tag.tokens] at h
    rcases hfault : p.fault? with _ | ⟨position, fault⟩
    · rw [hfault] at h
      obtain ⟨rest, hrest, hts⟩ := bind_eq_ok.mp h
      obtain rfl : p.token :: rest = ts := Except.ok.inj hts
      rcases List.mem_cons.mp ht with rfl | ht
      · exact ⟨p, List.mem_cons_self, hfault, rfl⟩
      · obtain ⟨q, hq, hread⟩ := exists_of_mem_tokens hrest t ht
        exact ⟨q, List.mem_cons_of_mem p hq, hread⟩
    · rw [hfault] at h
      contradiction

/-- **What is read from a part is printable**, and has no character that the part has not. -/
theorem printable_of_tokens {tag : String} {part : List Char} {offset : Nat} {ts : List Token}
    (h : Tag.tokens tag (Piece.locate offset (pieces ';' part)) = .ok ts) :
    ∀ t ∈ ts, t.Printable ∧ (',' ∉ part → t.Commaless) := by
  intro t ht
  obtain ⟨p, hp, hfault, rfl⟩ := exists_of_mem_tokens h t ht
  obtain ⟨raw, hraw, htext⟩ := Piece.exists_of_mem_locate hp
  obtain ⟨hsemicolon, hpart⟩ := mem_of_mem_pieces hraw
  have hsub : p.text ⊆ raw := htext ▸ trim_subset raw
  refine ⟨Piece.printable_token hfault (fun hc => hsemicolon (hsub hc)) ?_, fun hcomma => ?_⟩
  · intro c hc
    rw [htext] at hc
    exact isBlank_of_getLast?_trim hc
  · exact Piece.commaless_token fun hc => hcomma (hpart (hsub hc))

/-- There is no comma before the first comma. -/
theorem comma_not_mem_parts (cs : List Char) : ',' ∉ (Tag.parts cs).1 := by
  rcases hcut : cut? ',' cs with _ | ⟨before, after⟩
  · simp [Tag.parts, hcut]
  · simpa only [Tag.parts, hcut] using (cut?_eq_some_iff.mp hcut).2

/-- **Whatever is read is printable.** -/
theorem printable_of_parse {text : String} {t : Tag} (h : Tag.parse text = .ok t) :
    t.Printable := by
  obtain ⟨mappers, hmappers, h⟩ := bind_eq_ok.mp h
  obtain ⟨validators, hvalidators, h⟩ := bind_eq_ok.mp h
  obtain rfl : Tag.mk mappers validators = t := Except.ok.inj h
  refine ⟨fun m hm => ?_, fun v hv => (printable_of_tokens hvalidators v hv).1⟩
  obtain ⟨hprintable, hcommaless⟩ := printable_of_tokens hmappers m hm
  exact ⟨hprintable, hcommaless (comma_not_mem_parts text.toList)⟩

/-! ## The round trip -/

/-- **Reading undoes writing.**  The text of a printable annotation is read as that annotation,
each token at the byte where it was written, and so is the text of printable validators alone if it
has no comma; whatever is read from any text is printable, and is read again from its own text. -/
theorem parse_render :
    (∀ t : Tag, t.Printable → Tag.parse t.render = .ok t.placed)
    ∧ (∀ ts : List Token, (∀ t ∈ ts, t.Printable) → ',' ∉ (Token.renderAll ts).toList →
        Tag.parse (Token.renderAll ts) = .ok ⟨[], Token.placed 0 ts⟩)
    ∧ ∀ (text : String) (t : Tag), Tag.parse text = .ok t →
        t.Printable ∧ Tag.parse t.render = .ok t.placed :=
  ⟨fun _ h => parse_of_printable h, fun _ h hcomma => parse_renderAll h hcomma,
    fun _ _ h => ⟨printable_of_parse h, parse_of_printable (printable_of_parse h)⟩⟩

/-- The arguments of a validator may have commas, and the last one may be empty; an annotation with
blanks around its tokens is written without them. -/
theorem parse_render_choice :
    Tag.parse "upper;pad=,choice=a,b&" = .ok
      ⟨[⟨"upper", [], 0⟩, ⟨"pad", [""], 6⟩], [⟨"choice", ["a,b", ""], 11⟩]⟩
    ∧ Tag.parse "choice=b&;set" = .ok ⟨[], [⟨"choice", ["b", ""], 0⟩, ⟨"set", [], 10⟩]⟩
    ∧ Tag.parse "upper,set" = .ok ⟨[⟨"upper", [], 0⟩], [⟨"set", [], 6⟩]⟩ := by
  have hread : Tag.parse " upper ;, ; set" = .ok ⟨[⟨"upper", [], 1⟩], [⟨"set", [], 12⟩]⟩ := by
    decide +kernel
  refine ⟨?_, ?_, (parse_render.2.2 " upper ;, ; set" _ hread).2⟩
  · exact parse_render.1
      ⟨[⟨"upper", [], 0⟩, ⟨"pad", [""], 0⟩], [⟨"choice", ["a,b", ""], 0⟩]⟩
      ⟨by decide +kernel, by decide +kernel⟩
  · exact parse_render.2.1 [⟨"choice", ["b", ""], 0⟩, ⟨"set", [], 0⟩]
      (by decide +kernel) (by decide +kernel)

end FieldRules
