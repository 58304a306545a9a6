import FieldRules.Proofs.Bounds
import FieldRules.Proofs.Sequence

/-!
# Proofs/Lengths — lengths and their checks

The mapper `len` answers the length of a value that has one (`Json.HasSize`), and the validators
`len`, `min_len` and `max_len` compare that same length with the number that their argument writes.
So each of them is silent exactly where the two numbers are in its relation, and all of them are
where there is no length (`lengths_agree`).
-/

namespace FieldRules

open Numeric (WritesNatural pow2)

/-! ## Lengths of values -/

namespace Json

/-- The length of a string in characters, of a list in items, of an object in members. -/
inductive HasSize : Json → Nat → Prop
  | text (s : String) : HasSize (.str s) s.length
  | items (items : List Json) : HasSize (.arr items) items.length
  | members (members : List (String × Json)) : HasSize (.obj members) members.length

/-- Neither a string nor a list nor an object. -/
def Unsized (v : Json) : Prop :=
  (∀ s, v ≠ .str s) ∧ (∀ items, v ≠ .arr items) ∧ ∀ members, v ≠ .obj members

variable {v : Json} {k : Nat}

theorem size?_eq_some_iff : v.size? = some k ↔ v.HasSize k := by
  constructor
  · intro h
    rcases v with _ | _ | _ | s | items | members
    · cases h
    · cases h
    · cases h
    · obtain rfl := Option.some.inj h
      exact String.length_toList ▸ .text s
    · obtain rfl := Option.some.inj h
      exact .items items
    · obtain rfl := Option.some.inj h
      exact .members members
  · rintro (s | items | members)
    · exact congrArg some String.length_toList
    · rfl
    · rfl

theorem size?_eq_none_iff : v.size? = none ↔ v.Unsized := by
  rcases v with _ | _ | _ | s | items | members <;> simp [size?, Unsized]

theorem unsized_or_hasSize (v : Json) : v.Unsized ∨ ∃ k, v.HasSize k := by
  rcases h : v.size? with _ | k
  · exact .inl (size?_eq_none_iff.mp h)
  · exact .inr ⟨k, size?_eq_some_iff.mp h⟩

end Json

/-! ## Texts that write lengths -/

/-- **The decimal form of a number writes it** and no other, unless it has more than 64 bits. -/
theorem Numeric.writesNatural_toString_iff {n m : Nat} :
    WritesNatural (toString n).toList m ↔ m = n ∧ n < pow2 64 := by
  rw [Nat.toString_eq_repr, Nat.toList_repr]
  constructor
  · rintro ⟨digits, rfl | hsign, _, _, hvalue, hm⟩
    · rw [ofDigits_toDigits] at hvalue
      obtain rfl := hvalue
      exact ⟨rfl, hm⟩
    · have hplus : isDigit '+' = true := allDigits_toDigits n '+' (hsign ▸ List.mem_cons_self)
      exact absurd hplus (by decide)
  · rintro ⟨rfl, hn⟩
    exact ⟨_, .inl rfl, Nat.toDigits_ne_nil, allDigits_toDigits m, ofDigits_toDigits m, hn⟩

/-! ## Checks of lengths -/

namespace Registry

variable {name arg : String} {n : Nat} {v : Json} {hint : Hint}
  {check : (bound size : Nat) → Option String}

/-- **An argument is read as a length iff it writes one**, blanks around it left out. -/
theorem lengthArgument_eq_ok_iff :
    lengthArgument name arg = .ok n ↔ WritesNatural (Text.trim arg.toList) n := by
  rw [lengthArgument, ← Numeric.natural?_eq_ok_iff]
  cases Numeric.natural? (Text.trim arg.toList) <;> simp [Except.mapError]

/-- What a validator with a length says: a value that has a length is checked by it. -/
def lengthCheck (check : (bound size : Nat) → Option String) (n : Nat) : Validator := fun v _ =>
  v.size?.bind (check n)

theorem lengthValidator_eq_ok_iff {f : Validator} : lengthValidator name check [arg] = .ok f ↔
    ∃ n, WritesNatural (Text.trim arg.toList) n ∧ f = lengthCheck check n := by
  rw [lengthValidator, bind_eq_ok]
  simp only [lengthArgument_eq_ok_iff]
  refine exists_congr fun n => and_congr_right fun _ => ?_
  exact ⟨fun h => (Except.ok.inj h).symm, fun h => h ▸ rfl⟩

theorem lengthValidator_of_writes (h : WritesNatural (Text.trim arg.toList) n) :
    lengthValidator name check [arg] = .ok (lengthCheck check n) :=
  lengthValidator_eq_ok_iff.mpr ⟨n, h, rfl⟩

theorem lengthCheck_of_unsized (h : v.Unsized) : lengthCheck check n v hint = none := by
  rw [lengthCheck, Json.size?_eq_none_iff.mpr h, Option.bind_none]

/-- **What has a length is checked by it alone.** -/
theorem lengthCheck_eq_none_iff {broken : (bound size : Nat) → Bool}
    {message : (bound size : Nat) → String} {k : Nat} (h : v.HasSize k) :
    lengthCheck (fun n k => issueIf (broken n k) (message n k)) n v hint = none ↔
      broken n k = false := by
  simp [lengthCheck, Json.size?_eq_some_iff.mpr h, issueIf]

/-- The validators of lengths that an argument makes. -/
structure LengthChecks (arg : String) (equal least most : Validator) : Prop where
  equal : builtin.validator "len" [arg] = .ok equal
  least : builtin.validator "min_len" [arg] = .ok least
  most : builtin.validator "max_len" [arg] = .ok most

/-- **The three validators compare one number with the length.** -/
theorem exists_lengthChecks (h : WritesNatural (Text.trim arg.toList) n) :
    ∃ equal least most, LengthChecks arg equal least most ∧ ∀ v hint,
      (v.Unsized → equal v hint = none ∧ least v hint = none ∧ most v hint = none) ∧
      ∀ k, v.HasSize k → (equal v hint = none ↔ n = k) ∧ (least v hint = none ↔ n ≤ k) ∧
        (most v hint = none ↔ k ≤ n) := by
  refine ⟨_, _, _, ⟨lengthValidator_of_writes h, lengthValidator_of_writes h,
    lengthValidator_of_writes h⟩, fun v hint => ⟨fun hv => ?_, fun k hk => ?_⟩⟩
  · exact ⟨lengthCheck_of_unsized hv, lengthCheck_of_unsized hv, lengthCheck_of_unsized hv⟩
  · rw [lengthCheck_eq_none_iff hk, lengthCheck_eq_none_iff hk, lengthCheck_eq_none_iff hk]
    exact ⟨bne_eq_false_iff_eq.trans eq_comm, decide_eq_false_iff_not.trans Nat.not_lt,
      decide_eq_false_iff_not.trans Nat.not_lt⟩

/-- A number makes a validator of lengths, by its decimal form, iff it has 64 bits. -/
theorem lengthValidator_toString_eq_ok_iff {f : Validator} :
    lengthValidator name check [toString n] = .ok f ↔ n < pow2 64 ∧ f = lengthCheck check n := by
  have htrim : Text.trim (toString n).toList = (toString n).toList :=
    (Numeric.writesInteger_toString n).trim_eq
  rw [lengthValidator_eq_ok_iff, htrim]
  simp only [Numeric.writesNatural_toString_iff, and_assoc, exists_eq_left]

/-- **A value passes the check of its own length**, which there is if the length has 64 bits. -/
theorem own_length (h : v.HasSize n) :
    ((∃ equal, builtin.validator "len" [toString n] = .ok equal) ↔ n < pow2 64) ∧
      ∀ equal, builtin.validator "len" [toString n] = .ok equal →
        ∀ hint, equal v hint = none := by
  have hmade (f : Validator) : builtin.validator "len" [toString n] = .ok f ↔
      n < pow2 64 ∧ f = lengthCheck _ n := lengthValidator_toString_eq_ok_iff
  refine ⟨⟨fun ⟨f, hf⟩ => ((hmade f).mp hf).1, fun hn => ⟨_, (hmade _).mpr ⟨hn, rfl⟩⟩⟩, ?_⟩
  intro f hf hint
  obtain ⟨_, rfl⟩ := (hmade f).mp hf
  exact (lengthCheck_eq_none_iff h).mpr (bne_self_eq_false n)

/-- The mapper answers the length. -/
theorem exists_lenMapper : ∃ measure, builtin.mapper "len" [] = .ok measure ∧
    (∀ v, measure v = none ↔ v.Unsized) ∧ ∀ v k, measure v = some (.nat k) ↔ v.HasSize k := by
  refine ⟨fun v => v.size?.map Json.nat, rfl, fun v => ?_, fun v k => ?_⟩
  · exact Option.map_eq_none_iff.trans Json.size?_eq_none_iff
  · simp [Json.nat, Json.size?_eq_some_iff]

end Registry

open Registry (builtin lengthArgument LengthChecks)

/-- **The mapper and the validators of lengths agree.**  The mapper answers the length of a string,
a list or an object, and nothing else has one.  Every text that writes a number `n` of 64 bits, and
no other, is read as a length.  The three validators compare it with the length of the value, and
are silent where there is none; that for equality is silent iff the other two are.  The decimal form
of the value's own length is an argument if it has 64 bits, and the value passes then. -/
theorem lengths_agree :
    ∃ measure, builtin.mapper "len" [] = .ok measure ∧
      (∀ v, measure v = none ↔ v.Unsized) ∧
      (∀ v, measure v ≠ none → ∃ k, v.HasSize k ∧ measure v = some (.nat k)) ∧
      (∀ name arg n, lengthArgument name arg = .ok n ↔ WritesNatural (Text.trim arg.toList) n) ∧
      (∀ arg n, WritesNatural (Text.trim arg.toList) n →
        ∃ equal least most, LengthChecks arg equal least most ∧ ∀ v hint,
          (measure v = none → equal v hint = none ∧ least v hint = none ∧ most v hint = none) ∧
          (∀ k, measure v = some (.nat k) → (equal v hint = none ↔ n = k) ∧
            (least v hint = none ↔ n ≤ k) ∧ (most v hint = none ↔ k ≤ n)) ∧
          (equal v hint = none ↔ least v hint = none ∧ most v hint = none)) ∧
      ∀ v k, measure v = some (.nat k) →
        ((∃ equal, builtin.validator "len" [toString k] = .ok equal) ↔ k < pow2 64) ∧
        ∀ equal, builtin.validator "len" [toString k] = .ok equal →
          ∀ hint, equal v hint = none := by
  obtain ⟨measure, hmade, hnone, hsome⟩ := Registry.exists_lenMapper
  refine ⟨measure, hmade, hnone, fun v hv => ?_, fun _ _ _ => Registry.lengthArgument_eq_ok_iff,
    fun arg n h => ?_, fun v k hk => Registry.own_length ((hsome v k).mp hk)⟩
  · obtain ⟨k, hk⟩ := v.unsized_or_hasSize.resolve_left fun h => hv ((hnone v).mpr h)
    exact ⟨k, hk, (hsome v k).mpr hk⟩
  · obtain ⟨equal, least, most, hchecks, hverdicts⟩ := Registry.exists_lengthChecks h
    refine ⟨equal, least, most, hchecks, fun v hint => ?_⟩
    obtain ⟨hunsized, hsized⟩ := hverdicts v hint
    simp only [hnone, hsome]
    refine ⟨hunsized, hsized, ?_⟩
    rcases v.unsized_or_hasSize with hv | ⟨k, hk⟩
    · simp only [hunsized hv, and_self]
    · obtain ⟨hequal, hleast, hmost⟩ := hsized k hk
      rw [hequal, hleast, hmost, Nat.le_antisymm_iff]

/-- A word of five characters and six bytes; the argument has blanks, a sign and zeros. -/
theorem lengths_agree_word :
    (∃ equal least most, LengthChecks " +005\t" equal least most ∧
      equal (.str "naïve") .unknown = none ∧ least (.bool true) .unknown = none ∧
      most (.arr [.null, .null, .null, .null, .null, .null]) .unknown ≠ none) ∧
    ∃ equal, builtin.validator "len" [toString 5] = .ok equal ∧
      equal (.str "naïve") .unknown = none := by
  obtain ⟨measure, hmeasure, _, _, _, hchecks, hown⟩ := lengths_agree
  obtain rfl : (fun v => v.size?.map Json.nat) = measure := Except.ok.inj hmeasure
  have hwrites : WritesNatural (Text.trim " +005\t".toList) 5 :=
    ⟨"005".toList, .inr (by decide), by decide, by decide, by decide, by decide⟩
  obtain ⟨equal, least, most, hmade, hverdicts⟩ := hchecks _ _ hwrites
  obtain ⟨hexists, hsilent⟩ := hown (.str "naïve") 5 rfl
  refine ⟨⟨equal, least, most, hmade, ?_, ?_, ?_⟩, ?_⟩
  · exact ((hverdicts (.str "naïve") .unknown).2.1 5 rfl).1.mpr rfl
  · exact ((hverdicts (.bool true) .unknown).1 rfl).2.1
  · exact fun h => absurd (((hverdicts _ .unknown).2.1 6 rfl).2.2.mp h) (by decide)
  · obtain ⟨f, hf⟩ := hexists.mpr (by decide)
    exact ⟨f, hf, hsilent f hf .unknown⟩

end FieldRules
