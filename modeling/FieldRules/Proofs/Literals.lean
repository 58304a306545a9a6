import FieldRules.Numeric.Literal
import Mathlib.Data.List.Basic
import Mathlib.Data.List.TakeWhile
import Mathlib.Data.Option.Basic

/-!
# Proofs/Literals — which texts are numbers

The grammars of the two kinds of number that arguments are read as.  A text is read as a natural
number iff it is a run of digits, after a plus sign if one likes, whose value fits 64 bits
(`natural?_eq_ok_iff`).  It is read as a floating-point number iff it is a sign if one likes, then
either digits with a point and an exponent where one likes, or one of three names
(`exists_double?_iff`).
-/

namespace FieldRules.Numeric

/-- A run of decimal digits, perhaps an empty one. -/
def AllDigits (cs : List Char) : Prop := ∀ c ∈ cs, isDigit c = true

instance (cs : List Char) : Decidable (AllDigits cs) :=
  List.decidableBAll (fun c => isDigit c = true) cs

/-! ## Natural numbers -/

/-- The text is a run of digits with the value `n` of at most 64 bits, after a plus sign if one
likes. -/
def WritesNatural (cs : List Char) (n : Nat) : Prop :=
  ∃ digits, (cs = digits ∨ cs = '+' :: digits) ∧ digits ≠ [] ∧ AllDigits digits ∧
    ofDigits digits = n ∧ n < pow2 64

/-- The value of some digits after the number `n`. -/
def ofDigitsFrom (n : Nat) (cs : List Char) : Nat :=
  cs.foldl (fun n c => 10 * n + (digit? c).getD 0) n

theorem le_ofDigitsFrom (n : Nat) (cs : List Char) : n ≤ ofDigitsFrom n cs := by
  induction cs generalizing n with
  | nil => exact Nat.le_refl n
  | cons c cs ih =>
    have h := ih (10 * n + (digit? c).getD 0)
    simp only [ofDigitsFrom, List.foldl_cons] at h ⊢
    omega

theorem lt_pow2_iff {n : Nat} : n < pow2 64 ↔ n ≤ maxNatural := by
  have := pow2_pos 64
  rw [maxNatural]
  omega

/-- Digits are appended to a number as long as it fits 64 bits. -/
theorem naturalFrom_eq_ok_iff {n m : Nat} (hn : n ≤ maxNatural) {cs : List Char} :
    naturalFrom n cs = .ok m ↔ AllDigits cs ∧ ofDigitsFrom n cs = m ∧ m ≤ maxNatural := by
  induction cs generalizing n with
  | nil =>
    simp only [naturalFrom, ofDigitsFrom, AllDigits, List.foldl_nil, Except.ok.injEq]
    refine ⟨?_, fun h => h.2.1⟩
    rintro rfl
    exact ⟨by simp, rfl, hn⟩
  | cons c cs ih =>
    rw [naturalFrom]
    rcases hd : digit? c with _ | d
    · simp [AllDigits, isDigit, hd]
    · have hvalue : ofDigitsFrom n (c :: cs) = ofDigitsFrom (10 * n + d) cs := by
        simp [ofDigitsFrom, hd]
      have hall : AllDigits (c :: cs) ↔ AllDigits cs := by simp [AllDigits, isDigit, hd]
      have hle := le_ofDigitsFrom (10 * n + d) cs
      rw [hvalue, hall]
      dsimp only
      split_ifs with hlarge
      · simp only [false_iff, not_and, Nat.not_le]
        omega
      · exact ih (Nat.le_of_not_lt hlarge)

theorem not_sign_of_isDigit {c : Char} (h : isDigit c = true) : c ≠ '+' ∧ c ≠ '-' :=
  ⟨by rintro rfl; exact absurd h (by decide), by rintro rfl; exact absurd h (by decide)⟩

/-- **A text is read as a natural number iff it writes one of at most 64 bits.** -/
theorem natural?_eq_ok_iff {cs : List Char} {n : Nat} :
    natural? cs = .ok n ↔ WritesNatural cs n := by
  have hfrom (cs : List Char) : naturalFrom 0 cs = .ok n ↔
      AllDigits cs ∧ ofDigits cs = n ∧ n < pow2 64 := by
    rw [lt_pow2_iff]
    exact naturalFrom_eq_ok_iff (Nat.zero_le _)
  constructor
  · intro h
    rw [natural?.eq_def] at h
    split at h
    · cases h
    · cases h
    · next rest hrest => exact ⟨rest, .inr rfl, fun hnil => hrest (by rw [hnil]), (hfrom rest).mp h⟩
    · next hnil _ _ => exact ⟨cs, .inl rfl, fun h => hnil h, (hfrom cs).mp h⟩
  · rintro ⟨digits, rfl | rfl, hne, hdigits⟩
    · obtain ⟨c, rest, rfl⟩ := List.exists_cons_of_ne_nil hne
      have hc := (not_sign_of_isDigit (hdigits.1 c List.mem_cons_self)).1
      rw [natural?.eq_4 _ (by simp) (by simp [hc]) (by simp [hc])]
      exact (hfrom _).mpr hdigits
    · rw [natural?.eq_3 _ hne]
      exact (hfrom _).mpr hdigits

/-! ## Floating-point numbers -/

/-- A sign, or none. -/
def IsSign (cs : List Char) : Prop := cs = [] ∨ cs = ['+'] ∨ cs = ['-']

/-- Digits, with a point among them or at either end if one likes. -/
inductive IsMantissa : List Char → Prop
  | whole {digits : List Char} (hne : digits ≠ []) (h : AllDigits digits) : IsMantissa digits
  | pointed {whole fraction : List Char} (hne : whole ++ fraction ≠ []) (hwhole : AllDigits whole)
      (hfraction : AllDigits fraction) : IsMantissa (whole ++ '.' :: fraction)

/-- Nothing, or a mark with digits that may have a sign. -/
inductive IsExponent : List Char → Prop
  | none : IsExponent []
  | marked {mark : Char} {sign digits : List Char} (hmark : mark = 'e' ∨ mark = 'E')
      (hsign : IsSign sign) (hne : digits ≠ []) (h : AllDigits digits) :
      IsExponent (mark :: (sign ++ digits))

/-- The names of the values that have no digits. -/
def names : List (List Char) := ["inf".toList, "infinity".toList, "nan".toList]

/-- The texts that write floating-point numbers: names are written in any case. -/
inductive IsDouble : List Char → Prop
  | number {sign mantissa exponent : List Char} (hsign : IsSign sign)
      (hmantissa : IsMantissa mantissa) (hexponent : IsExponent exponent) :
      IsDouble (sign ++ (mantissa ++ exponent))
  | named {sign name : List Char} (hsign : IsSign sign)
      (hname : name.map Char.toLower ∈ names) : IsDouble (sign ++ name)

/-- What does not begin with a sign. -/
def Unsigned (cs : List Char) : Prop := ∀ c ∈ cs.head?, c ≠ '+' ∧ c ≠ '-'

theorem signed_append {sign rest : List Char} (hsign : IsSign sign) (hrest : Unsigned rest) :
    (signed (sign ++ rest)).2 = rest := by
  obtain rfl | rfl | rfl := hsign
  · rcases rest with _ | ⟨c, rest⟩
    · rfl
    · have hc := hrest c rfl
      rw [List.nil_append, signed.eq_3 _ (by simp [hc]) (by simp [hc])]
  · rfl
  · rfl

theorem exists_sign (cs : List Char) : ∃ sign, IsSign sign ∧ cs = sign ++ (signed cs).2 := by
  rw [signed.eq_def]
  split
  · exact ⟨['-'], .inr (.inr rfl), rfl⟩
  · exact ⟨['+'], .inr (.inl rfl), rfl⟩
  · exact ⟨[], .inl rfl, rfl⟩

theorem unsigned_of_digits {digits : List Char} (hne : digits ≠ []) (h : AllDigits digits)
    (rest : List Char) : Unsigned (digits ++ rest) := by
  obtain ⟨c, digits, rfl⟩ := List.exists_cons_of_ne_nil hne
  rintro _ ⟨⟩
  exact not_sign_of_isDigit (h c List.mem_cons_self)

theorem isSome_exponent?_iff {cs : List Char} : (exponent? cs).isSome = true ↔ IsExponent cs := by
  constructor
  · intro h
    rcases cs with _ | ⟨c, cs⟩
    · exact .none
    · obtain ⟨sign, hsign, hcs⟩ := exists_sign cs
      rw [exponent?] at h
      split at h
      · next hmark =>
        simp only [Option.isSome_ite', Bool.or_eq_true, List.isEmpty_iff, Bool.not_eq_true', not_or,
          Bool.not_eq_false, List.all_eq_true] at h
        rw [hcs]
        exact .marked hmark hsign h.1 h.2
      · cases h
  · rintro (_ | ⟨hmark, hsign, hne, h⟩)
    · rfl
    · have hall := List.all_eq_true.mpr h
      have hdigits := signed_append hsign (by simpa using unsigned_of_digits hne h [])
      simp [exponent?, hmark, hdigits, hne, hall]

/-! A mantissa ends where no digit follows. -/

/-- What does not begin with a digit. -/
def Undigited (cs : List Char) : Prop := ∀ c ∈ cs.head?, isDigit c = false

theorem takeWhile_digits {digits rest : List Char} (h : AllDigits digits) (hrest : Undigited rest) :
    (digits ++ rest).takeWhile isDigit = digits := by
  rw [List.takeWhile_append_of_pos h]
  rcases rest with _ | ⟨c, rest⟩
  · simp
  · simp [hrest c rfl]

theorem dropWhile_digits {digits rest : List Char} (h : AllDigits digits) (hrest : Undigited rest) :
    (digits ++ rest).dropWhile isDigit = rest := by
  rw [List.dropWhile_append_of_pos h]
  rcases rest with _ | ⟨c, rest⟩
  · rfl
  · simp [hrest c rfl]

/-- An exponent begins neither with a digit nor with a point. -/
theorem IsExponent.head {cs : List Char} (h : IsExponent cs) :
    Undigited cs ∧ ∀ rest, cs ≠ '.' :: rest := by
  rcases h with _ | ⟨rfl | rfl, _, _, _⟩
  · simp [Undigited]
  · exact ⟨by rintro _ ⟨⟩; decide, by simp⟩
  · exact ⟨by rintro _ ⟨⟩; decide, by simp⟩

theorem isSome_decimal?_of_mantissa {mantissa exponent : List Char} (hm : IsMantissa mantissa)
    (he : IsExponent exponent) : (decimal? (mantissa ++ exponent)).isSome = true := by
  have hsome := isSome_exponent?_iff.mpr he
  rcases hm with ⟨hne, hdigits⟩ | @⟨whole, fraction, hne, hwhole, hfraction⟩
  · rw [decimal?]
    simp only [takeWhile_digits hdigits he.head.1, dropWhile_digits hdigits he.head.1]
    split
    · exact absurd rfl (he.head.2 _)
    · simp [hne, hsome]
  · have hpoint : Undigited ('.' :: (fraction ++ exponent)) := by
      rintro _ ⟨⟩
      decide
    have hempty : ¬ (whole = [] ∧ fraction = []) := by simpa using hne
    simp [decimal?, takeWhile_digits hwhole hpoint, dropWhile_digits hwhole hpoint,
      takeWhile_digits hfraction he.head.1, dropWhile_digits hfraction he.head.1, hempty, hsome]

theorem exists_mantissa_of_decimal? {cs : List Char} (h : (decimal? cs).isSome = true) :
    ∃ mantissa exponent, cs = mantissa ++ exponent ∧ IsMantissa mantissa ∧ IsExponent exponent := by
  have hwhole : AllDigits (cs.takeWhile isDigit) := fun c hc => List.mem_takeWhile_imp hc
  rw [decimal?] at h
  dsimp only at h
  split at h
  next more hmore =>
    have hfraction : AllDigits (more.takeWhile isDigit) := fun c hc => List.mem_takeWhile_imp hc
    split_ifs at h with hempty
    · cases h
    · rw [Option.isSome_map, isSome_exponent?_iff] at h
      refine ⟨_, _, ?_, .pointed (by simpa using hempty) hwhole hfraction, h⟩
      rw [List.append_assoc, List.cons_append, List.takeWhile_append_dropWhile, ← hmore,
        List.takeWhile_append_dropWhile]
  next =>
    split_ifs at h with hempty
    · cases h
    · rw [Option.isSome_map, isSome_exponent?_iff] at h
      exact ⟨_, _, List.takeWhile_append_dropWhile.symm, .whole (by simpa using hempty) hwhole, h⟩

theorem isSome_named?_iff {cs : List Char} (negative : Bool) :
    (named? cs negative).isSome = true ↔ cs.map Char.toLower ∈ names := by
  have hname (name : String) : String.ofList (cs.map Char.toLower) = name ↔
      cs.map Char.toLower = name.toList :=
    ⟨fun h => by rw [← h, String.toList_ofList], fun h => by rw [h, String.ofList_toList]⟩
  simp only [named?, hname, names, List.mem_cons, List.not_mem_nil, or_false]
  split_ifs <;> simp <;> tauto

/-- A name begins with a letter. -/
theorem unsigned_of_name {cs : List Char} (h : cs.map Char.toLower ∈ names) : Unsigned cs := by
  rintro c hc
  obtain ⟨cs, rfl⟩ : ∃ rest, cs = c :: rest := by
    rcases cs with _ | ⟨_, cs⟩ <;> simp_all
  constructor <;> rintro rfl <;> simp [names] at h

theorem IsMantissa.unsigned {cs : List Char} (h : IsMantissa cs) (rest : List Char) :
    Unsigned (cs ++ rest) := by
  rcases h with ⟨hne, hdigits⟩ | @⟨whole, fraction, _, hwhole, _⟩
  · exact unsigned_of_digits hne hdigits rest
  · rcases whole with _ | ⟨c, whole⟩
    · rintro _ ⟨⟩
      decide
    · simpa using unsigned_of_digits (List.cons_ne_nil c whole) hwhole ('.' :: fraction ++ rest)

/-- What is read after the sign decides. -/
theorem exists_double?_iff_reads {cs : List Char} : (∃ x, double? cs = .ok x) ↔
    cs ≠ [] ∧
      ((decimal? (signed cs).2).isSome = true ∨ (signed cs).2.map Char.toLower ∈ names) := by
  rw [double?, ← isSome_named?_iff (signed cs).1]
  rcases cs with _ | ⟨c, cs⟩
  · simp
  · generalize signed (c :: cs) = text
    obtain ⟨negative, rest⟩ := text
    dsimp only
    rcases decimal? rest with _ | d
    · rcases named? rest negative with _ | x <;> simp
    · simp

/-- **A text is read as a floating-point number iff it writes one.** -/
theorem exists_double?_iff {cs : List Char} : (∃ x, double? cs = .ok x) ↔ IsDouble cs := by
  rw [exists_double?_iff_reads]
  constructor
  · rintro ⟨_, hreads⟩
    obtain ⟨sign, hsign, hcs⟩ := exists_sign cs
    rw [hcs]
    obtain hdecimal | hname := hreads
    · obtain ⟨mantissa, exponent, hsplit, hm, he⟩ := exists_mantissa_of_decimal? hdecimal
      rw [hsplit]
      exact .number hsign hm he
    · exact .named hsign hname
  · rintro (@⟨sign, mantissa, exponent, hsign, hm, he⟩ | @⟨sign, name, hsign, hname⟩)
    · rw [signed_append hsign (hm.unsigned exponent)]
      refine ⟨?_, .inl (isSome_decimal?_of_mantissa hm he)⟩
      rcases hm with ⟨hne, _⟩ | _ <;> simp_all
    · rw [signed_append hsign (unsigned_of_name hname)]
      refine ⟨?_, .inr hname⟩
      rintro hnil
      obtain ⟨-, rfl⟩ := List.append_eq_nil_iff.mp hnil
      simp [names] at hname

end FieldRules.Numeric
