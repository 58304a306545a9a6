import FieldRules.Proofs.Chains
import FieldRules.Text.Case
import Mathlib.Data.List.Basic
import Mathlib.Data.Nat.Bitwise

/-!
# Proofs/Casing — a change of case is made once

No image of a case mapping is mapped again (`settled_upperMap`, `settled_lowerMap`): the code points
that the tables mention are compared as sets, each written as the bits of one number.  So upper case
is upper case again (`upper_upper`), and so is lower case (`lower_lower`), where the sigma is no
obstacle: a lower case text has no capital one.  The mappers and validators of case follow suit
(`casing_settled`).
-/

namespace FieldRules

namespace Text

/-! ## Sets of code points -/

/-- A set of numbers as the bits of one number. -/
def bits (ns : List Nat) : Nat := ns.foldr (fun n set => 1 <<< n ||| set) 0

theorem testBit_bits (ns : List Nat) (n : Nat) : (bits ns).testBit n = decide (n ∈ ns) := by
  induction ns with
  | nil => simp [bits]
  | cons k ns ih =>
    have hk : (1 <<< k : Nat).testBit n = decide (n = k) := by
      rw [Nat.one_shiftLeft, Nat.testBit_two_pow]
      simp [eq_comm]
    simpa [bits, Nat.testBit_or, hk] using congrArg (decide (n = k) || ·) ih

/-- **Lists whose sets have no bit in common are disjoint.** -/
theorem disjoint_of_bits {as bs : List Nat} (h : bits as &&& bits bs = 0) : as.Disjoint bs := by
  intro n ha hb
  have hn : (bits as &&& bits bs).testBit n = true := by
    simp [Nat.testBit_and, testBit_bits, ha, hb]
  simp [h] at hn

/-! ## The tables -/

/-- The code points that a run maps. -/
def CaseRun.points (r : CaseRun) : List Nat :=
  (List.range ((r.last - r.first) / r.stride + 1)).map fun i => r.first + r.stride * i

theorem CaseRun.mem_points {r : CaseRun} {n : Nat} (h : r.covers n = true) : n ∈ r.points := by
  simp only [covers, Bool.and_eq_true, decide_eq_true_eq, beq_iff_eq] at h
  obtain ⟨⟨hfirst, hlast⟩, hstride⟩ := h
  refine List.mem_map.mpr ⟨(n - r.first) / r.stride, ?_, ?_⟩
  · rw [List.mem_range, Nat.lt_succ_iff]
    exact Nat.div_le_div_right (by omega)
  · rw [Nat.mul_div_cancel' (Nat.dvd_of_mod_eq_zero hstride)]
    omega

namespace CaseMap

variable {m : CaseMap} {n : Nat}

/-- The code points that are mapped. -/
def domain (m : CaseMap) : List Nat :=
  m.runs.flatMap CaseRun.points ++ m.expansions.map Prod.fst

/-- The code points that others are mapped to. -/
def images (m : CaseMap) : List Nat :=
  (m.runs.flatMap fun r => r.points.map r.image) ++ m.expansions.flatMap Prod.snd

theorem image_of_not_mem_domain (h : n ∉ m.domain) : m.image n = [n] := by
  simp only [domain, List.mem_append, List.mem_flatMap, List.mem_map, not_or, not_exists,
    not_and] at h
  obtain ⟨hruns, hexpansions⟩ := h
  have hlookup : m.expansions.lookup n = none :=
    List.lookup_eq_none_iff.mpr fun e he => by simpa using Ne.symm (hexpansions e he)
  have hfind : m.runs.find? (·.covers n) = none :=
    List.find?_eq_none.mpr fun r hr hn => hruns r hr (CaseRun.mem_points hn)
  rw [image, hlookup, hfind]

/-- A code point stays, or is mapped to images of the tables. -/
theorem image_cases (m : CaseMap) (n : Nat) : m.image n = [n] ∨ ∀ k ∈ m.image n, k ∈ m.images := by
  rw [image]
  split
  · next ns h =>
    refine .inr fun k hk => List.mem_append_right _ (List.mem_flatMap.mpr ⟨(n, ns), ?_, hk⟩)
    obtain ⟨_, _, hsplit, _⟩ := List.lookup_eq_some_iff.mp h
    simp [hsplit]
  · split
    · next r h =>
      refine .inr fun k hk => List.mem_append_left _ ?_
      obtain rfl := List.mem_singleton.mp hk
      have hcovers : r.covers n = true := List.find?_some (p := (CaseRun.covers · n)) h
      exact List.mem_flatMap.mpr ⟨r, List.mem_of_find?_eq_some h,
        List.mem_map.mpr ⟨n, CaseRun.mem_points hcovers, rfl⟩⟩
    · exact .inl rfl

/-- No image of a character is mapped again. -/
def Settled (m : CaseMap) : Prop := ∀ c, ∀ d ∈ m.onChar c, m.onChar d = [d]

/-- **A case map is settled if its tables map no image**, and all images are characters. -/
theorem settled_of_tables (hapart : bits m.images &&& bits m.domain = 0)
    (hvalid : ∀ k ∈ m.images, k.isValidChar) : m.Settled := by
  intro c d hd
  obtain ⟨k, hk, rfl⟩ := List.mem_map.mp hd
  obtain hself | himages := m.image_cases c.toNat
  · rw [hself, List.mem_singleton] at hk
    rw [hk, onChar, Char.ofNat_toNat, hself, List.map_singleton, Char.ofNat_toNat]
  · have hstays : m.image k = [k] :=
      image_of_not_mem_domain (disjoint_of_bits hapart (himages k hk))
    have hchar : (Char.ofNat k).toNat = k := by
      rw [Char.ofNat, dif_pos (hvalid k (himages k hk))]
      rfl
    rw [onChar, hchar, hstays, List.map_singleton]

end CaseMap

theorem settled_upperMap : upperMap.Settled :=
  CaseMap.settled_of_tables (by decide +kernel) (by decide +kernel)

theorem settled_lowerMap : lowerMap.Settled :=
  CaseMap.settled_of_tables (by decide +kernel) (by decide +kernel)

/-! ## Texts -/

theorem CaseMap.Settled.flatMap_flatMap {m : CaseMap} (h : m.Settled) (cs : List Char) :
    (cs.flatMap m.onChar).flatMap m.onChar = cs.flatMap m.onChar := by
  rw [List.flatMap_assoc]
  refine List.flatMap_congr fun c _ => ?_
  rw [List.flatMap_congr (h c), List.flatMap_singleton']

/-- **Upper case in upper case is the same.** -/
theorem upper_upper (cs : List Char) : upper (upper cs) = upper cs :=
  settled_upperMap.flatMap_flatMap cs

/-- Without a capital sigma every character is mapped on its own. -/
theorem lowerAfter_of_not_mem {cs : List Char} (h : 'Σ' ∉ cs) (before : List Char) :
    lowerAfter before cs = cs.flatMap lowerMap.onChar := by
  induction cs generalizing before with
  | nil => rfl
  | cons c cs ih =>
    obtain ⟨hc, hcs⟩ := List.ne_and_not_mem_of_not_mem_cons h
    rw [lowerAfter, if_neg hc.symm, ih hcs, List.flatMap_cons]

/-- Lower case consists of characters that stay as they are. -/
theorem onChar_of_mem_lowerAfter (before cs : List Char) :
    ∀ d ∈ lowerAfter before cs, lowerMap.onChar d = [d] := by
  induction cs generalizing before with
  | nil => simp [lowerAfter]
  | cons c cs ih =>
    intro d hd
    rw [lowerAfter] at hd
    split_ifs at hd
    · obtain rfl | hd := List.mem_cons.mp hd
      · rw [lowerSigma]
        split <;> decide +kernel
      · exact ih _ d hd
    · obtain hd | hd := List.mem_append.mp hd
      · exact settled_lowerMap c d hd
      · exact ih _ d hd

/-- **Lower case in lower case is the same.**  There is no capital sigma left whose form could
depend on what stands around it. -/
theorem lower_lower (cs : List Char) : lower (lower cs) = lower cs := by
  have hstay : ∀ d ∈ lower cs, lowerMap.onChar d = [d] := onChar_of_mem_lowerAfter [] cs
  have hsigma : 'Σ' ∉ lower cs := fun h => absurd (hstay 'Σ' h) (by decide +kernel)
  have hflat := lowerAfter_of_not_mem hsigma []
  rw [lower, hflat, List.flatMap_congr hstay, List.flatMap_singleton']

theorem uppercase_uppercase (s : String) : uppercase (uppercase s) = uppercase s := by
  rw [uppercase, uppercase, String.toList_ofList, upper_upper]

theorem lowercase_lowercase (s : String) : lowercase (lowercase s) = lowercase s := by
  rw [lowercase, lowercase, String.toList_ofList, lower_lower]

end Text

/-! ## Mappers -/

/-- A mapper that leaves its own results as they are. -/
def Mapper.Idempotent (m : Mapper) : Prop := ∀ v w, m v = some w → m w = some w

/-- **An idempotent mapper that stands twice in a chain counts once.** -/
theorem mapFrom_repeated {m : Mapper} (h : Mapper.Idempotent m) (a b : String)
    (before after : List (String × Mapper)) (v : Json) (current : Option Json) :
    Rule.mapFrom v current (before ++ (a, m) :: (b, m) :: after) =
      Rule.mapFrom v current (before ++ (a, m) :: after) := by
  rw [mapFrom_append, mapFrom_append]
  generalize Rule.mapFrom v current before = current
  rcases hm : m (current.getD v) with _ | w
  · simp [Rule.mapFrom, hm]
  · simp [Rule.mapFrom, hm, h _ w hm]

/-- What a rule says, its validators say of what its mappers have carried a value to. -/
theorem Rule.exists_messages_act (rule : Rule) (v : Json) (hint : Hint) :
    ∃ hint', (rule.act v hint).messages = rule.check (carried rule.mappers v) hint' := by
  rw [act, ← rule.getD_map]
  rcases rule.map v with _ | w
  · exact ⟨hint, rfl⟩
  · exact ⟨_, rfl⟩

/-- A rule that says nothing adds no issues to a report. -/
theorem issues_apply_of_silent {rule : Rule} (h : ∀ v hint, (rule.act v hint).messages = [])
    (ctx : Context) (room : Nat) (v : Value) (p : Place) (run : Run) :
    (apply ctx room rule v p run).run.report.issues = run.report.issues := by
  rw [apply]
  rcases inspect ctx room run.store v p with e | ⟨hint, current⟩
  · rfl
  · simp only [h current hint, List.map_nil]
    rcases (rule.act current hint).mapped with _ | w
    · exact List.append_nil _
    · dsimp only
      split
      · exact List.append_nil _
      · rw [store]
        split <;> exact List.append_nil _

namespace Registry

variable {change message : String → String}

/-- The check that a text is as a change would leave it. -/
def unchanged (change message : String → String) : Validator := fun v _ =>
  v.text?.bind fun s => issueIf (s != change s) (message s)

theorem idempotent_onText (h : ∀ s, change (change s) = change s) :
    Mapper.Idempotent (onText change) := by
  intro v w hw
  rcases v with _ | _ | _ | s | _ | _ <;> try cases hw
  simp [onText, Json.text?, h]

theorem unchanged_of_onText (h : ∀ s, change (change s) = change s) {v w : Json}
    (hw : onText change v = some w) (hint : Hint) : unchanged change message w hint = none := by
  rcases v with _ | _ | _ | s | _ | _ <;> try cases hw
  simp [unchanged, Json.text?, issueIf, h]

/-- A text that was changed is as the change would leave it, and anything else is no text. -/
theorem unchanged_carried (h : ∀ s, change (change s) = change s) (name : String) (v : Json)
    (hint : Hint) : unchanged change message (carried [(name, onText change)] v) hint = none := by
  rcases hv : onText change v with _ | w
  · rcases v with _ | _ | _ | s | _ | _ <;> simp [onText, Json.text?] at hv <;> rfl
  · simp only [carried, List.foldl_cons, List.foldl_nil, hv, Option.getD_some]
    exact unchanged_of_onText h hv hint

/-- A change of case with a built-in mapper and a built-in validator of one name. -/
structure CaseRule (name : String) (change : String → String) : Prop where
  /-- The mapper changes every text, and nothing else. -/
  maps : builtin.mapper name [] = .ok (onText change)
  /-- A text that was changed is not changed again, … -/
  again : ∀ s, change (change s) = change s
  /-- … nor is any result of the mapper, -/
  idempotent : Mapper.Idempotent (onText change)
  /-- and the validator says nothing of it. -/
  passes : ∃ check, builtin.validator name [] = .ok check ∧
    ∀ v w hint, onText change v = some w → check w hint = none
  /-- A field that is mapped and checked by the two has no issues, whatever it holds. -/
  quiet : ∃ rule, Rule.compile builtin (name ++ "," ++ name) = .ok rule ∧
    (∀ v hint, (rule.act v hint).messages = []) ∧
    ∀ ctx room v p run, (apply ctx room rule v p run).run.report.issues = run.report.issues
  /-- The mapper twice in a chain is the mapper once. -/
  repeated : ∀ text before after validators a b v hint,
    (Rule.mk text (before ++ (a, onText change) :: (b, onText change) :: after) validators).act
        v hint =
      (Rule.mk text (before ++ (a, onText change) :: after) validators).act v hint

/-- **An idempotent change of text makes a case rule**, if the validator asks whether it would
change anything. -/
theorem caseRule_of_idempotent {name : String}
    (hmaps : builtin.mapper name [] = .ok (onText change))
    (hchecks : builtin.validator name [] = .ok (unchanged change message))
    (hread : ∃ position, Tag.parse (name ++ "," ++ name) =
      .ok ⟨[⟨name, [], 0⟩], [⟨name, [], position⟩]⟩)
    (again : ∀ s, change (change s) = change s) : CaseRule name change := by
  have hidempotent := idempotent_onText again
  obtain ⟨position, hread⟩ := hread
  have hcompile : Rule.compile builtin (name ++ "," ++ name) =
      .ok ⟨some (name ++ "," ++ name), [(name, onText change)],
        [(name, unchanged change message)]⟩ := by
    rw [Rule.compile, hread]
    simp only [Bind.bind, Except.bind, Rule.ofTag, Rule.resolve, hmaps, hchecks]
    rfl
  have hsilent (v : Json) (hint : Hint) : (Rule.act ⟨some (name ++ "," ++ name),
      [(name, onText change)], [(name, unchanged change message)]⟩ v hint).messages = [] := by
    obtain ⟨hint', hmessages⟩ := Rule.exists_messages_act _ v hint
    rw [hmessages]
    simp [Rule.check, unchanged_carried again name v hint']
  refine ⟨hmaps, again, hidempotent, ⟨_, hchecks, fun v w hint hw => ?_⟩,
    ⟨_, hcompile, hsilent, issues_apply_of_silent hsilent⟩, ?_⟩
  · exact unchanged_of_onText again hw hint
  · intro text before after validators a b v hint
    rw [Rule.act, Rule.act, Rule.map, Rule.map, mapFrom_repeated hidempotent]
    rfl

/-- **Changes of case are made once.**  In upper case a text has its upper case, and in lower case
its lower case; so each of the two mappers may be repeated, and what it has made satisfies the
validator of its name. -/
theorem casing_settled :
    CaseRule "upper" Text.uppercase ∧ CaseRule "lower" Text.lowercase :=
  ⟨caseRule_of_idempotent rfl
      (show builtin.validator "upper" [] =
        .ok (unchanged _ fun _ => "expected upper case") from rfl)
      ⟨6, by decide +kernel⟩ Text.uppercase_uppercase,
    caseRule_of_idempotent rfl
      (show builtin.validator "lower" [] =
        .ok (unchanged _ ("expected lower case string, but found " ++ ·)) from rfl)
      ⟨6, by decide +kernel⟩ Text.lowercase_lowercase⟩

end Registry

end FieldRules
