import FieldRules.Proofs.Literals
import FieldRules.Proofs.Pieces
import FieldRules.Proofs.Rounding
import FieldRules.Registry.Builtin

/-!
# Proofs/Bounds — integers against bounds

A bound and a checked number are both doubles.  The decimal form of an integer is read as the double
nearest to it (`units?_of_writesInteger`), and so is an integer that is checked.  So a bound is
never found broken wrongly, and it goes unnoticed only where rounding takes both to one double
(`integer_bounds`).
-/

namespace FieldRules

namespace Numeric

/-! ## Texts that write integers -/

/-- A run of digits, after a sign if one likes, with the value `b`. -/
def WritesInteger (cs : List Char) (b : Int) : Prop :=
  ∃ sign digits, IsSign sign ∧ cs = sign ++ digits ∧ digits ≠ [] ∧ AllDigits digits ∧
    b = if sign = ['-'] then -(ofDigits digits : Int) else ofDigits digits

theorem isDigit_of_isDigit {c : Char} (h : c.isDigit = true) : isDigit c = true := by
  simp only [Char.isDigit, ge_iff_le, Bool.and_eq_true, decide_eq_true_eq] at h
  have hdigit : '0' ≤ c ∧ c ≤ '9' := h
  rw [isDigit, digit?, if_pos hdigit, Option.isSome_some]

theorem ofDigitChars_eq : ∀ {cs : List Char} (n : Nat), AllDigits cs →
    Nat.ofDigitChars 10 cs n = ofDigitsFrom n cs
  | [], _, _ => rfl
  | c :: cs, n, h => by
    have hc : isDigit c = true := h c List.mem_cons_self
    have hrest : AllDigits cs := fun d hd => h d (List.mem_cons_of_mem c hd)
    rw [isDigit, digit?] at hc
    split at hc
    · next hdigit =>
      have hvalue : (digit? c).getD 0 = c.toNat - '0'.toNat := by
        rw [digit?, if_pos hdigit, Option.getD_some]
      rw [Nat.ofDigitChars_cons, ofDigitChars_eq _ hrest, ofDigitsFrom, ofDigitsFrom,
        List.foldl_cons, hvalue]
    · cases hc

theorem allDigits_toDigits (n : Nat) : AllDigits (Nat.toDigits 10 n) := fun _ hc =>
  isDigit_of_isDigit (Nat.isDigit_of_mem_toDigits (by decide) (by decide) hc)

/-- The digits of a number have its value. -/
theorem ofDigits_toDigits (n : Nat) : ofDigits (Nat.toDigits 10 n) = n := by
  have hvalue := ofDigitChars_eq 0 (allDigits_toDigits n)
  rw [Nat.ofDigitChars_ten_toDigits] at hvalue
  exact hvalue.symm

/-- **The decimal form of an integer writes it.** -/
theorem writesInteger_toString (b : Int) : WritesInteger (toString b).toList b := by
  have htext (n : Nat) : (toString n).toList = Nat.toDigits 10 n := by
    rw [Nat.toString_eq_ofList_toDigits, String.toList_ofList]
  cases b with
  | ofNat n =>
    have hn : toString (Int.ofNat n) = toString n := rfl
    refine ⟨[], _, .inl rfl, ?_, Nat.toDigits_ne_nil, allDigits_toDigits n, ?_⟩
    · rw [hn, htext, List.nil_append]
    · rw [ofDigits_toDigits]
      rfl
  | negSucc n =>
    have hn : toString (Int.negSucc n) = "-" ++ toString (n + 1) := rfl
    refine ⟨['-'], _, .inr (.inr rfl), ?_, Nat.toDigits_ne_nil, allDigits_toDigits (n + 1), ?_⟩
    · rw [hn, String.toList_append, htext]
      rfl
    · rw [if_pos rfl, ofDigits_toDigits]
      rfl

theorem signed_append_eq {sign rest : List Char} (hsign : IsSign sign) (hrest : Unsigned rest) :
    signed (sign ++ rest) = (decide (sign = ['-']), rest) := by
  refine Prod.ext ?_ (signed_append hsign hrest)
  obtain rfl | rfl | rfl := hsign
  · rcases rest with _ | ⟨c, rest⟩
    · rfl
    · have hc := hrest c rfl
      rw [List.nil_append, signed.eq_3 _ (by simp [hc]) (by simp [hc])]
      rfl
  · rfl
  · rfl

theorem decimal?_of_digits {digits : List Char} (hne : digits ≠ []) (h : AllDigits digits) :
    decimal? digits = some (ofDigits digits, 0) := by
  have hnil : Undigited [] := nofun
  have htake := takeWhile_digits h hnil
  have hdrop := dropWhile_digits h hnil
  rw [List.append_nil] at htake hdrop
  simp [decimal?, htake, hdrop, hne, exponent?]

/-- A number of 64 bits has few digits. -/
theorem ofDecimal_zero (negative : Bool) {c : Nat} (h : c < pow2 64) :
    Double.ofDecimal negative c 0 = .signed negative (Format.double.round c 1) := by
  have hlength : (Nat.toDigits 10 c).length ≤ 20 :=
    (Nat.length_toDigits_le_iff (by decide) (by decide)).mpr (h.trans (by decide))
  rw [Double.ofDecimal]
  split_ifs with hzero hlow hhigh hneg
  · rw [hzero, (Format.double.round_eq_zero_iff 0).mpr rfl]
  · omega
  · omega
  · omega
  · rw [Int.natAbs_zero, pow10, Nat.pow_eq, Nat.pow_zero, Nat.mul_one, Double.ofRatio]

/-- **A text that writes an integer is read as the double nearest to it.** -/
theorem units?_of_writesInteger {cs : List Char} {b : Int} (h : WritesInteger cs b)
    (hb : b.natAbs < pow2 64) : ∃ x, double? cs = .ok x ∧ x.units? = some (unitsOf b) := by
  obtain ⟨sign, digits, hsign, rfl, hne, hdigits, hvalue⟩ := h
  have hunsigned : Unsigned digits := by simpa using unsigned_of_digits hne hdigits []
  have hcs : (sign ++ digits).isEmpty = false := by simp [hne]
  have hsize : b.natAbs = ofDigits digits := by
    rw [hvalue]
    split_ifs <;> omega
  rw [hsize] at hb
  refine ⟨.signed (sign = ['-']) (Format.double.round (ofDigits digits) 1), ?_, ?_⟩
  · simp only [double?, hcs, signed_append_eq hsign hunsigned, decimal?_of_digits hne hdigits,
      ofDecimal_zero _ hb, Bool.false_eq_true, if_false]
  · have hzero := Format.double.round_eq_zero_iff (ofDigits digits)
    rw [unitsOf, hsize]
    by_cases hminus : sign = ['-']
    · rw [if_pos hminus] at hvalue
      simp only [hminus, decide_true, Double.units?, Option.some.injEq]
      split_ifs <;> omega
    · rw [if_neg hminus] at hvalue
      simp only [hminus, decide_false, Double.units?]
      rw [if_neg (by omega)]

theorem isBlank_of_isDigit {c : Char} (h : isDigit c = true) : Text.isBlank c = false := by
  rw [isDigit, digit?] at h
  split at h
  · next hdigit =>
    have hlow : '0'.toNat ≤ c.toNat := hdigit.1
    have hhigh : c.toNat ≤ '9'.toNat := hdigit.2
    have hzero : '0'.toNat = 48 := rfl
    have hnine : '9'.toNat = 57 := rfl
    simp only [Text.isBlank, Bool.or_eq_false_iff, Bool.and_eq_false_iff, decide_eq_false_iff_not,
      beq_eq_false_iff_ne]
    omega
  · cases h

theorem isBlank_of_isSign {sign : List Char} (h : IsSign sign) :
    ∀ c ∈ sign, Text.isBlank c = false := by
  obtain rfl | rfl | rfl := h
  · exact List.forall_mem_nil _
  · exact List.forall_mem_singleton.mpr rfl
  · exact List.forall_mem_singleton.mpr rfl

/-- A text that writes an integer has no blanks. -/
theorem WritesInteger.trim_eq {cs : List Char} {b : Int} (h : WritesInteger cs b) :
    Text.trim cs = cs := by
  obtain ⟨sign, digits, hsign, rfl, _, hdigits, _⟩ := h
  refine Text.trim_of_no_blank fun c hc => ?_
  exact (List.mem_append.mp hc).elim (isBlank_of_isSign hsign c) fun hc =>
    isBlank_of_isDigit (hdigits c hc)

end Numeric

open Numeric (Double WritesInteger Apart)

/-! ## Checks of bounds -/

namespace Registry

variable {name comparison : String} {broken : (bound x : Double) → Bool} {args : List String}
  {check : Validator}

/-- What a validator with a bound says: a number beyond the bound is an issue. -/
def boundCheck (comparison : String) (broken : (bound x : Double) → Bool) (bound : Double)
    (shown : String) : Validator := fun v _ =>
  v.double?.bind fun x => issueIf (broken bound x)
    ("expected not to be " ++ comparison ++ " than " ++ shown ++ " but it was " ++ v.display)

theorem boundValidator_of_reads {arg : String} {bound : Double}
    (h : Numeric.double? (Text.trim arg.toList) = .ok bound) :
    boundValidator name comparison broken [arg] =
      .ok (boundCheck comparison broken bound (Text.trimmed arg)) := by
  simp only [boundValidator, boundArgument, h]
  rfl

/-- **A validator with a bound takes one argument, which is read as a number.** -/
theorem exists_of_boundValidator_eq_ok
    (h : boundValidator name comparison broken args = .ok check) :
    ∃ arg bound, args = [arg] ∧ Numeric.double? (Text.trim arg.toList) = .ok bound ∧
      check = boundCheck comparison broken bound (Text.trimmed arg) := by
  match args with
  | [arg] =>
    cases hbound : Numeric.double? (Text.trim arg.toList) with
    | ok bound =>
      rw [boundValidator_of_reads hbound] at h
      exact ⟨arg, bound, rfl, hbound, (Except.ok.inj h).symm⟩
    | error e =>
      simp only [boundValidator, boundArgument, hbound] at h
      cases h

/-- What is said of an integer, by the units of the bound and of its own double. -/
theorem boundCheck_int {bound : Double} {b : Int} (hbound : bound.units? = some (Numeric.unitsOf b))
    (shown : String) (n : Int) (hint : Hint) :
    (boundCheck "more" (fun bound x => bound.less x) bound shown (.int n) hint =
      if b < n ∧ Double.ofInt b ≠ Double.ofInt n then
        some ("expected not to be more than " ++ shown ++ " but it was " ++ toString n)
      else none) ∧
    boundCheck "less" (fun bound x => x.less bound) bound shown (.int n) hint =
      if n < b ∧ Double.ofInt n ≠ Double.ofInt b then
        some ("expected not to be less than " ++ shown ++ " but it was " ++ toString n)
      else none := by
  have hvalue : (Json.int n).double? = some (Double.ofInt n) := rfl
  have hshown : (Json.int n).display = toString n := rfl
  have hn := Numeric.units?_ofInt n
  constructor
  · simp only [boundCheck, hvalue, Option.bind_some, issueIf, Double.less, hbound, hn,
      Numeric.unitsOf_lt_iff, decide_eq_true_eq, hshown]
    rfl
  · simp only [boundCheck, hvalue, Option.bind_some, issueIf, Double.less, hbound, hn,
      Numeric.unitsOf_lt_iff, decide_eq_true_eq, hshown]
    rfl

end Registry

/-! ## Integers -/

theorem natAbs_lt_of_isExact {n : Int} (h : Number.isExact n = true) :
    n.natAbs < Numeric.pow2 64 := by
  have hpow : Numeric.pow2 63 < Numeric.pow2 64 := by decide
  simp only [Number.isExact, Bool.and_eq_true, decide_eq_true_eq] at h
  omega

/-- **Integers are checked against bounds as they are rounded.**  For every integer of 64 bits,
every text that writes it, which its decimal form does, and every integer of 64 bits that is checked
against it: only an integer beyond the bound is reported, and it is unless it is rounded to the same
double as the bound.  That does not happen if one of the two has less than 54 bits, if both are at
most the first integer that has, or if they are more than 2048 apart; there the check is that of the
integers. -/
theorem integer_bounds {b : Int} (hb : Number.isExact b = true) :
    WritesInteger (Text.trim (toString b).toList) b ∧
    ∀ arg, WritesInteger (Text.trim arg.toList) b →
      ∃ max min, Registry.builtin.validator "max" [arg] = .ok max ∧
        Registry.builtin.validator "min" [arg] = .ok min ∧
        ∀ n, Number.isExact n = true → ∀ hint,
          (max (.int n) hint =
            if b < n ∧ Double.ofInt b ≠ Double.ofInt n then
              some ("expected not to be more than " ++ Text.trimmed arg ++ " but it was " ++
                toString n)
            else none) ∧
          (min (.int n) hint =
            if n < b ∧ Double.ofInt n ≠ Double.ofInt b then
              some ("expected not to be less than " ++ Text.trimmed arg ++ " but it was " ++
                toString n)
            else none) ∧
          (Apart b n →
            (max (.int n) hint ≠ none ↔ b < n) ∧ (min (.int n) hint ≠ none ↔ n < b)) := by
  have hform := Numeric.writesInteger_toString b
  refine ⟨hform.trim_eq.symm ▸ hform, fun arg hwrites => ?_⟩
  obtain ⟨bound, hbound, hunits⟩ :=
    Numeric.units?_of_writesInteger hwrites (natAbs_lt_of_isExact hb)
  refine ⟨_, _, Registry.boundValidator_of_reads hbound, Registry.boundValidator_of_reads hbound,
    fun n hn hint => ?_⟩
  obtain ⟨hmax, hmin⟩ := Registry.boundCheck_int hunits (Text.trimmed arg) n hint
  have hlt (h : b < n) (hapart : Apart b n) : Double.ofInt b ≠ Double.ofInt n :=
    (Numeric.unitsOf_lt_iff.mp (Numeric.unitsOf_lt (natAbs_lt_of_isExact hb)
      (natAbs_lt_of_isExact hn) h hapart)).2
  have hgt (h : n < b) (hapart : Apart b n) : Double.ofInt n ≠ Double.ofInt b :=
    (Numeric.unitsOf_lt_iff.mp (Numeric.unitsOf_lt (natAbs_lt_of_isExact hn)
      (natAbs_lt_of_isExact hb) h hapart.symm)).2
  refine ⟨hmax, hmin, fun hapart => ?_⟩
  rw [hmax, hmin]
  simp only [ne_eq, ite_eq_right_iff, reduceCtorEq, imp_false, not_not]
  exact ⟨⟨And.left, fun h => ⟨h, hlt h hapart⟩⟩, ⟨And.left, fun h => ⟨h, hgt h hapart⟩⟩⟩

/-- The bound is in its decimal form; an integer that is short is found beyond it. -/
theorem integer_bounds_short :
    ∃ max, Registry.builtin.validator "max" [toString (-9007199254740993 : Int)] = .ok max ∧
      max (.int 0) .unknown ≠ none := by
  obtain ⟨hwrites, hbounds⟩ := integer_bounds (b := -9007199254740993) (by decide)
  obtain ⟨max, _, hmax, _, hchecks⟩ := hbounds _ hwrites
  obtain ⟨_, _, hexact⟩ := hchecks 0 (by decide) .unknown
  exact ⟨max, hmax, (hexact (.inr (.inl (by decide)))).1.mpr (by decide)⟩

/-- **A bound beyond 53 bits is not exact**: an integer that is greater than it passes. -/
theorem max_admits_greater :
    ∃ max, Registry.builtin.validator "max" ["9007199254740992"] = .ok max ∧
      max (.int 9007199254740993) .unknown = none ∧
      (9007199254740992 : Int) < 9007199254740993 := by
  refine ⟨_, rfl, ?_, by decide⟩
  decide +kernel

end FieldRules
