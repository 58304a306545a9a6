import FieldRules.Proofs.Bounds
import FieldRules.Proofs.Chains

/-!
# Proofs/Intervals — two bounds together

A field with both bounds is checked for being outside on either side, not for being inside.  That is
the same for numbers; but not-a-number is outside on neither side, and passes (`bounds_admit`).  It
is written by one name only, in any case and after any sign (`double?_eq_nan_iff`).
-/

namespace FieldRules

namespace Text

variable {cs : List Char}

/-! ## Names with an argument -/

/-- Only what follows a character that is no blank is trimmed at the end. -/
theorem trimRight_append_cons {c : Char} (hc : isBlank c = false) (xs ys : List Char) :
    trimRight (xs ++ c :: ys) = xs ++ c :: trimRight ys := by
  have hreverse : (xs ++ c :: ys).reverse = ys.reverse ++ (c :: xs.reverse) := by simp
  rw [trimRight, trimRight, trimLeft, trimLeft, hreverse, List.dropWhile_append]
  split
  · next h =>
    rw [List.isEmpty_iff.mp h, List.dropWhile_cons_of_neg (by simp [hc])]
    simp
  · simp

/-- What is trimmed at the end is not seen by trimming. -/
theorem trim_trimRight (cs : List Char) : trim (trimRight cs) = trim cs := by
  cases hrest : trimLeft cs with
  | nil =>
    have hblank : ∀ c ∈ cs, isBlank c = true := List.dropWhile_eq_nil_iff.mp hrest
    have hsubset : trimRight cs ⊆ cs := (List.rdropWhile_prefix isBlank cs).subset
    rw [trim_eq_nil_iff.mpr hblank, trim_eq_nil_iff.mpr fun c hc => hblank c (hsubset hc)]
  | cons c ys =>
    have hcs : cs = cs.takeWhile isBlank ++ c :: ys := by
      rw [← hrest, trimLeft, List.takeWhile_append_dropWhile]
    have hc : isBlank c = false := by
      have hhead := List.head?_dropWhile_not isBlank cs
      rwa [← trimLeft, hrest] at hhead
    have hlead : ∀ d ∈ cs.takeWhile isBlank, isBlank d = true := fun d => List.mem_takeWhile_imp
    have hright : trimRight cs = cs.takeWhile isBlank ++ c :: trimRight ys := by
      rw [← trimRight_append_cons hc, ← hcs]
    have hleft : trimLeft (trimRight cs) = c :: trimRight ys := by
      rw [hright, trimLeft, List.dropWhile_append_of_pos hlead,
        List.dropWhile_cons_of_neg (by simp [hc])]
    have htwice : trimRight (trimRight ys) = trimRight ys := List.rdropWhile_idempotent isBlank ys
    have hcons := trimRight_append_cons hc []
    rw [trim, trim, hleft, hrest]
    simp only [List.nil_append] at hcons
    rw [hcons, hcons, htwice]

end Text

namespace Numeric

/-! ## Not-a-number -/

namespace Double

variable {x y : Double}

/-- Numeric order, with not-a-number on neither side. -/
def AtMost (x y : Double) : Prop := ∃ a b, x.units? = some a ∧ y.units? = some b ∧ a ≤ b

theorem eq_nan_or_exists_units (x : Double) : x = .nan ∨ ∃ a, x.units? = some a := by
  cases x with
  | nan => exact .inl rfl
  | signed negative u => cases negative <;> exact .inr ⟨_, rfl⟩

/-- **What is not less is at least as great, or not a number.** -/
theorem less_eq_false_iff : x.less y = false ↔ x = .nan ∨ y = .nan ∨ y.AtMost x := by
  obtain rfl | ⟨a, ha⟩ := x.eq_nan_or_exists_units
  · simp [less, units?]
  · obtain rfl | ⟨b, hb⟩ := y.eq_nan_or_exists_units
    · simp [less, units?]
    · have hx : x ≠ .nan := by
        rintro rfl
        cases ha
      have hy : y ≠ .nan := by
        rintro rfl
        cases hb
      simp [less, AtMost, ha, hb, hx, hy]

theorem ofDecimal_ne_nan (negative : Bool) (c : Nat) (e : Int) : ofDecimal negative c e ≠ .nan := by
  rw [ofDecimal]
  split_ifs <;> exact Double.noConfusion

end Double

/-- The name of not-a-number in any case, after a sign if one likes. -/
def SpellsNaN (cs : List Char) : Prop :=
  ∃ sign name, IsSign sign ∧ cs = sign ++ name ∧ name.map Char.toLower = "nan".toList

theorem toLower_of_isDigit {c : Char} (h : isDigit c = true) : c.toLower = c := by
  rw [isDigit, digit?] at h
  split at h
  · next hdigit =>
    have hhigh : c.toNat ≤ 57 := hdigit.2
    refine dif_neg ?_
    rintro ⟨hlow, _⟩
    have hlow : 65 ≤ c.toNat := hlow
    omega
  · cases h

/-- A name has no digits. -/
theorem decimal?_of_name {cs : List Char} (h : cs.map Char.toLower ∈ names) :
    decimal? cs = none := by
  obtain ⟨c, rest, rfl⟩ : ∃ c rest, cs = c :: rest := by
    rcases cs with _ | ⟨c, rest⟩
    · simp [names] at h
    · exact ⟨c, rest, rfl⟩
  have hletter : c.toLower = 'i' ∨ c.toLower = 'n' := by
    simp only [names, List.map_cons, List.mem_cons] at h
    rcases h with h | h | h | h
    · exact .inl (List.cons.inj h).1
    · exact .inl (List.cons.inj h).1
    · exact .inr (List.cons.inj h).1
    · cases h
  have hdigit : isDigit c = false := by
    by_contra hdigit
    rw [Bool.not_eq_false] at hdigit
    rw [toLower_of_isDigit hdigit] at hletter
    obtain rfl | rfl := hletter <;> exact absurd hdigit (by decide)
  have hpoint : c ≠ '.' := by
    rintro rfl
    exact absurd hletter (by decide)
  rw [decimal?]
  simp [hdigit, hpoint]

/-- **One name is read as not-a-number**, and nothing else is. -/
theorem double?_eq_nan_iff {cs : List Char} : double? cs = .ok .nan ↔ SpellsNaN cs := by
  constructor
  · intro h
    obtain ⟨sign, hsign, hcs⟩ := exists_sign cs
    refine ⟨sign, _, hsign, hcs, ?_⟩
    rw [double?] at h
    generalize signed cs = text at h ⊢
    obtain ⟨negative, rest⟩ := text
    dsimp only at h ⊢
    split at h
    · cases h
    · split at h
      · exact absurd (Except.ok.inj h) (Double.ofDecimal_ne_nan _ _ _)
      · split at h
        · next x hx =>
          obtain rfl := Except.ok.inj h
          rw [named?] at hx
          split_ifs at hx with _ hname
          · cases hx
          · rw [← hname, String.toList_ofList]
        · cases h
  · rintro ⟨sign, name, hsign, rfl, hname⟩
    have hmem : name.map Char.toLower ∈ names := by simp [names, hname]
    have hne : (sign ++ name).isEmpty = false := by
      rcases name with _ | ⟨c, rest⟩
      · cases hname
      · simp
    simp only [double?, hne, signed_append_eq hsign (unsigned_of_name hmem), decimal?_of_name hmem]
    simp [named?, hname]

end Numeric

open Text Numeric

/-- The values that read as not-a-number. -/
theorem Json.double?_eq_nan_iff {v : Json} : v.double? = some .nan ↔
    v = .num (.float .nan) ∨ ∃ s, v = .str s ∧ Numeric.SpellsNaN (Text.trim s.toList) := by
  rcases v with _ | _ | (n | x) | s | _ | _
  · simp [double?]
  · simp [double?]
  · have hunits := Numeric.units?_ofInt n
    have hne : Double.ofInt n ≠ .nan := by
      intro h
      rw [h] at hunits
      cases hunits
    simpa [double?, Number.toDouble] using hne
  · simp [double?, Number.toDouble]
  · rw [double?]
    simp only [reduceCtorEq, false_or, str.injEq, exists_eq_left', ← Numeric.double?_eq_nan_iff]
    cases Numeric.double? (Text.trim s.toList) with
    | error e => simp [Except.toOption]
    | ok x => simp [Except.toOption]
  · simp [double?]
  · simp [double?]

/-! ## Annotations with one argument text -/

/-- A name without blanks and separators. -/
def PlainName (name : String) : Prop :=
  name.toList ≠ [] ∧ ∀ c ∈ name.toList, isBlank c = false ∧ c ≠ '=' ∧ c ≠ ';' ∧ c ≠ ','

-- The instance names the search of a list: there is one of all characters too, and it is long.
instance (name : String) : Decidable (PlainName name) :=
  @instDecidableAnd _ _ _ (List.decidableBAll _ _)

section

variable {name arg : String} {cs : List Char}

/-- A name and an argument are one piece. -/
theorem trimmedPieces_named (hname : PlainName name) (hcs : ';' ∉ cs) :
    trimmedPieces (name.toList ++ '=' :: cs) = [name.toList ++ '=' :: trimRight cs] := by
  obtain ⟨hne, hplain⟩ := hname
  have hsep : ';' ∉ name.toList ++ '=' :: cs := by
    simp only [List.mem_append, List.mem_cons, not_or]
    exact ⟨fun h => (hplain _ h).2.2.1 rfl, by decide, hcs⟩
  have hleft : trimLeft (name.toList ++ '=' :: cs) = name.toList ++ '=' :: cs := by
    obtain ⟨c, rest, hc⟩ := List.exists_cons_of_ne_nil hne
    have hblank := (hplain c (hc ▸ List.mem_cons_self)).1
    rw [hc, List.cons_append, trimLeft, List.dropWhile_cons_of_neg (by simp [hblank])]
  have htrim : trim (name.toList ++ '=' :: cs) = name.toList ++ '=' :: trimRight cs := by
    rw [trim, hleft, trimRight_append_cons (by decide)]
  rw [trimmedPieces, pieces_of_not_mem hsep]
  simp [htrim]

/-- The piece is split into the name and the arguments. -/
theorem split_named (hname : PlainName name) (position : Nat) :
    (Piece.mk position (name.toList ++ '=' :: cs)).split = (name.toList, pieces '&' cs) := by
  have hcut : cut? '=' (name.toList ++ '=' :: cs) = some (name.toList, cs) :=
    cut?_eq_some_iff.mpr ⟨rfl, fun h => (hname.2 _ h).2.1 rfl⟩
  have htrim : trim name.toList = name.toList := trim_of_no_blank fun c hc => (hname.2 c hc).1
  simp only [Piece.split, hcut, htrim]

/-- What the piece binds: the function that the generator of its name makes of the arguments. -/
theorem binds_of_pieceBinds {α : Type} {generators : Dict (Generator α)} {f : String × α}
    (hname : PlainName name) (h : Rule.PieceBinds generators (name.toList ++ '=' :: cs) f) :
    f.1 = name ∧ ∃ g, generators.get? name = some g ∧
      g ((pieces '&' cs).map String.ofList) = .ok f.2 := by
  obtain ⟨_, hbinds⟩ := h
  simpa only [Token.Binds, Token.Makes, Piece.token, split_named hname, String.ofList_toList]
    using hbinds

end

namespace Registry

variable {registry : Registry} {name arg comparison : String}
  {broken : (bound x : Double) → Bool} {rule : Rule}

/-- **The rule of an annotation with one bound.**  The name is that of no mapper, so the annotation
has no comma, and the argument is a bound. -/
theorem exists_of_compile_bound (hname : PlainName name) (hsemicolon : ';' ∉ arg.toList)
    (hmapper : registry.mappers.get? name = none)
    (hvalidator : registry.validators.get? name = some (boundValidator name comparison broken))
    (h : Rule.compile registry (name ++ "=" ++ arg) = .ok rule) :
    ',' ∉ (name ++ "=" ++ arg).toList ∧ rule.mappers = [] ∧
      ∃ bound, double? (trim arg.toList) = .ok bound ∧
        rule.validators = [(name, boundCheck comparison broken bound (trimmed arg))] := by
  have htext : (name ++ "=" ++ arg).toList = name.toList ++ '=' :: arg.toList := by simp
  have hplain : ',' ∉ name.toList := fun hc => (hname.2 _ hc).2.2.2 rfl
  obtain ⟨_, hmappers, hvalidators⟩ := Rule.compile_eq_ok_iff_pieces.mp h
  rcases Tag.comma_cases arg.toList with hcomma | ⟨before, after, harg, hfirst⟩
  · have hno : ',' ∉ name.toList ++ '=' :: arg.toList := by simp [hplain, hcomma]
    rw [htext, Tag.parts_of_no_comma hno] at hmappers hvalidators
    rw [trimmedPieces_named hname hsemicolon] at hvalidators
    obtain ⟨f, _, hf, hnil, hrule⟩ := List.forall₂_cons_left_iff.mp hvalidators
    obtain rfl := List.forall₂_nil_left_iff.mp hnil
    obtain ⟨hf, g, hg, hmade⟩ := binds_of_pieceBinds hname hf
    obtain rfl := Option.some.inj (hvalidator.symm.trans hg)
    obtain ⟨a, bound, hargs, hbound, hcheck⟩ := exists_of_boundValidator_eq_ok hmade
    -- The only piece between ampersands is all of them together.
    have ha : a.toList = trimRight arg.toList := by
      have hpieces := congrArg (List.map String.toList) hargs
      rw [List.map_map, Function.comp_def] at hpieces
      simp only [String.toList_ofList, List.map_id', List.map_cons, List.map_nil] at hpieces
      rw [← intercalate_pieces '&' (trimRight arg.toList), hpieces]
      simp
    rw [ha, trim_trimRight] at hbound
    rw [trimmed, ha, trim_trimRight, ← trimmed] at hcheck
    refine ⟨htext ▸ hno, List.forall₂_nil_left_iff.mp hmappers, bound, hbound, ?_⟩
    rw [hrule, ← hcheck, ← hf]
  · have hcomma : name.toList ++ '=' :: arg.toList =
        (name.toList ++ '=' :: before) ++ ',' :: after := by simp [harg]
    have hno : ',' ∉ name.toList ++ '=' :: before := by simp [hplain, hfirst]
    have hbefore : ';' ∉ before := fun hc => hsemicolon (by simp [harg, hc])
    rw [htext, Tag.parts_of_comma hcomma hno] at hmappers
    rw [trimmedPieces_named hname hbefore] at hmappers
    obtain ⟨f, _, hf, _, _⟩ := List.forall₂_cons_left_iff.mp hmappers
    obtain ⟨_, g, hg, _⟩ := binds_of_pieceBinds hname hf
    rw [hmapper] at hg
    cases hg

/-- A rule with one bound says nothing iff that bound is not broken. -/
theorem check_boundCheck_eq_nil_iff {bound x : Double} {shown : String} {v : Json}
    (hx : v.double? = some x) (hint : Hint)
    (hrule : rule.validators = [(name, boundCheck comparison broken bound shown)]) :
    rule.check v hint = [] ↔ broken bound x = false := by
  rw [Rule.check, hrule]
  cases hbroken : broken bound x with
  | false => simp [boundCheck, hx, hbroken, issueIf]
  | true => simp [boundCheck, hx, hbroken, issueIf]

end Registry

open Registry (boundCheck builtin)

/-! ## Two bounds -/

namespace Rule.Joins

variable {r s joined : Rule}

/-- Two rules that do not map are not joined to one that does. -/
theorem map_eq_none (h : Joins r s joined) (hr : r.mappers = []) (hs : s.mappers = []) (v : Json) :
    joined.map v = none := by
  rw [map, h.mappers, hr, hs]
  rfl

theorem mapped_eq_none (h : Joins r s joined) (hr : r.mappers = []) (hs : s.mappers = []) (v : Json)
    (hint : Hint) : (joined.act v hint).mapped = none := by
  rw [mapped_act, h.map_eq_none hr hs]

/-- **Rules that do not map are silent together iff each is silent.** -/
theorem messages_eq_nil_iff (h : Joins r s joined) (hr : r.mappers = []) (hs : s.mappers = [])
    (v : Json) (hint : Hint) :
    (joined.act v hint).messages = [] ↔ r.check v hint = [] ∧ s.check v hint = [] := by
  rw [act, h.map_eq_none hr hs]
  dsimp only
  rw [h.check_eq, List.append_eq_nil_iff]

end Rule.Joins

/-- **Two bounds let through what is outside on neither side.**  For every two bounds that compile,
the annotation with both of them does, and never maps.  It says nothing of a value that reads as a
number iff that is neither less than the lower bound nor more than the upper one; if none of the
three is not-a-number, that is iff the number lies between the bounds.  Not-a-number is read from
its name only. -/
theorem bounds_admit {lo hi : String} {r s : Rule} (hlo : ';' ∉ lo.toList) (hhi : ';' ∉ hi.toList)
    (hmin : Rule.compile builtin ("min=" ++ lo) = .ok r)
    (hmax : Rule.compile builtin ("max=" ++ hi) = .ok s) :
    ∃ low high rule, double? (trim lo.toList) = .ok low ∧ double? (trim hi.toList) = .ok high ∧
      Rule.compile builtin ("min=" ++ lo ++ ";max=" ++ hi) = .ok rule ∧
      (∀ v hint x, v.double? = some x →
        (rule.act v hint).mapped = none ∧
        ((rule.act v hint).messages = [] ↔
          (low = .nan ∨ x = .nan ∨ low.AtMost x) ∧ (high = .nan ∨ x = .nan ∨ x.AtMost high)) ∧
        (low ≠ .nan → high ≠ .nan → x ≠ .nan →
          ((rule.act v hint).messages = [] ↔ low.AtMost x ∧ x.AtMost high))) ∧
      (low = .nan ↔ SpellsNaN (trim lo.toList)) ∧ (high = .nan ↔ SpellsNaN (trim hi.toList)) ∧
      ∀ v : Json, v.double? = some .nan ↔
        v = .num (.float .nan) ∨ ∃ s, v = .str s ∧ SpellsNaN (trim s.toList) := by
  have hminentry : builtin.validators.get? "min" =
      some (Registry.boundValidator "min" "less" fun bound x => x.less bound) := rfl
  have hmaxentry : builtin.validators.get? "max" =
      some (Registry.boundValidator "max" "more" fun bound x => bound.less x) := rfl
  have hmintext : "min=" ++ lo = "min" ++ "=" ++ lo := rfl
  have hmaxtext : "max=" ++ hi = "max" ++ "=" ++ hi := rfl
  obtain ⟨hlocomma, hrmappers, low, hlow, hrvalidators⟩ :=
    Registry.exists_of_compile_bound (by decide) hlo rfl hminentry (hmintext ▸ hmin)
  obtain ⟨hhicomma, hsmappers, high, hhigh, hsvalidators⟩ :=
    Registry.exists_of_compile_bound (by decide) hhi rfl hmaxentry (hmaxtext ▸ hmax)
  have htext : "min=" ++ lo ++ ";max=" ++ hi = "min=" ++ lo ++ ";" ++ ("max=" ++ hi) := by
    have hsplit : ";max=" = ";" ++ "max=" := rfl
    rw [hsplit, String.append_assoc, String.append_assoc, String.append_assoc,
      String.append_assoc, String.append_assoc]
  obtain ⟨rule, hcompile, hjoins⟩ : ∃ rule,
      Rule.compile builtin ("min=" ++ lo ++ ";max=" ++ hi) = .ok rule ∧ Rule.Joins r s rule := by
    rw [htext]
    exact ⟨⟨_, r.mappers ++ s.mappers, r.validators ++ s.validators⟩,
      (Rule.compile_joined_of_no_comma hlocomma hhicomma).mpr
        ⟨rfl, r, s, hmintext ▸ hmin, hmaxtext ▸ hmax, ⟨rfl, rfl⟩⟩, ⟨rfl, rfl⟩⟩
  refine ⟨low, high, rule, hlow, hhigh, hcompile, fun v hint x hx => ?_, ?_, ?_,
    fun v => Json.double?_eq_nan_iff⟩
  · have hsilent := hjoins.messages_eq_nil_iff hrmappers hsmappers v hint
    rw [Registry.check_boundCheck_eq_nil_iff hx hint hrvalidators,
      Registry.check_boundCheck_eq_nil_iff hx hint hsvalidators, Double.less_eq_false_iff,
      Double.less_eq_false_iff, or_left_comm] at hsilent
    refine ⟨hjoins.mapped_eq_none hrmappers hsmappers v hint, hsilent, fun hlow hhigh hx => ?_⟩
    simpa only [hlow, hhigh, hx, false_or] using hsilent
  · rw [← double?_eq_nan_iff, hlow, Except.ok.injEq]
  · rw [← double?_eq_nan_iff, hhigh, Except.ok.injEq]

/-- A blank stands before the lower bound; the upper one is not-a-number, and bounds nothing. -/
theorem bounds_admit_unbounded :
    ∃ rule, Rule.compile builtin "min= -1e1;max=+NaN" = .ok rule ∧
      (rule.act (.int 3) .unknown).messages = [] := by
  have hmin : ∃ r, Rule.compile builtin ("min=" ++ " -1e1") = .ok r := ⟨_, rfl⟩
  have hmax : ∃ s, Rule.compile builtin ("max=" ++ "+NaN") = .ok s := ⟨_, rfl⟩
  obtain ⟨r, hmin⟩ := hmin
  obtain ⟨s, hmax⟩ := hmax
  obtain ⟨low, high, rule, hlow, _, hrule, hact, _, hhigh, _⟩ :=
    bounds_admit (by decide) (by decide) hmin hmax
  have hten : double? (trim " -1e1".toList) = .ok (Double.ofInt (-10)) := by decide +kernel
  obtain rfl := Except.ok.inj (hten.symm.trans hlow)
  have hnan : high = .nan :=
    hhigh.mpr ⟨['+'], "NaN".toList, .inr (.inl rfl), by decide +kernel, by decide +kernel⟩
  obtain ⟨_, hsilent, _⟩ := hact (.int 3) .unknown (.ofInt 3) rfl
  have hthree : (Double.ofInt (-10)).AtMost (.ofInt 3) :=
    ⟨_, _, units?_ofInt _, units?_ofInt _, unitsOf_mono (by decide)⟩
  exact ⟨rule, hrule, hsilent.mpr ⟨.inr (.inr hthree), .inl hnan⟩⟩

/-- **Not-a-number passes both bounds**, though it does not lie between them. -/
theorem bounds_admit_nan :
    ∃ rule, Rule.compile builtin "min=0;max=10" = .ok rule ∧
      (Json.str "nan").double? = some .nan ∧ ¬ (Double.ofInt 0).AtMost .nan ∧
      (rule.act (.str "nan") .unknown).messages = [] := by
  refine ⟨_, rfl, rfl, ?_, by decide +kernel⟩
  rintro ⟨_, _, _, hnan, _⟩
  cases hnan

end FieldRules
