import FieldRules.Proofs.Literals
import FieldRules.Settings.File
import FieldRules.Settings.Overrides
import Mathlib.Data.List.Induction

/-!
# Proofs/Layers — settings under overrides

Settings start from the defaults or from a file, and are overridden again and again.  Each setting
is folded over the texts of its own variable alone (`maxDepth_overrideAll`,
`displayNames_overrideAll`), and such a fold ends with the latest text that is a value
(`settled_eq_iff`).  A depth that is let through is positive, so the settings stay usable
(`maxDepth_pos_overrideAll`).  Together: `overrides_layered`.
-/

namespace FieldRules

open Numeric (WritesNatural)

/-! ## Texts that are values -/

namespace Overrides

/-- Without blanks around it the text writes a positive integer of at most 64 bits. -/
def GivesDepth (text : String) (n : Nat) : Prop := WritesNatural (Text.trim text.toList) n ∧ 0 < n

/-- The words for a truth value. -/
def flagWords : Bool → List String
  | true => ["true", "1"]
  | false => ["false", "0"]

/-- Without blanks around it and in lower case the text is a word for the truth value. -/
def GivesFlag (text : String) (b : Bool) : Prop :=
  Text.lowercase (Text.trimmed text) ∈ flagWords b

theorem depth?_eq_some_iff (text : String) (n : Nat) :
    depth? text = some n ↔ GivesDepth text n := by
  rw [GivesDepth, ← Numeric.natural?_eq_ok_iff, depth?]
  rcases Numeric.natural? (Text.trim text.toList) with e | m
  · simp
  · by_cases hm : 0 < m
    · simp only [hm, if_true, Option.some.injEq, Except.ok.injEq]
      exact ⟨fun h => ⟨h, h ▸ hm⟩, And.left⟩
    · simp only [hm, if_false, reduceCtorEq, Except.ok.injEq, false_iff]
      rintro ⟨rfl, hn⟩
      exact hm hn

theorem flag?_eq_some_iff (text : String) (b : Bool) :
    flag? text = some b ↔ GivesFlag text b := by
  rw [GivesFlag, flag?]
  generalize Text.lowercase (Text.trimmed text) = word
  split_ifs with htrue hfalse
  · obtain rfl | rfl := htrue <;> cases b <;> simp [flagWords]
  · obtain rfl | rfl := hfalse <;> cases b <;> simp [flagWords]
  · cases b
    · simpa [flagWords] using hfalse
    · simpa [flagWords] using htrue

end Overrides

/-! ## The latest text that is a value -/

section Latest

variable {α : Type} {gives : String → α → Prop} {read? : String → Option α} {initially x : α}
  {t : Option String} {texts : List (Option String)}

/-- No text in the list is a value. -/
def Silent (gives : String → α → Prop) (texts : List (Option String)) : Prop :=
  ∀ text, some text ∈ texts → ∀ x, ¬ gives text x

/-- The value of the latest text that is one, or the initial value if there is none. -/
def Latest (gives : String → α → Prop) (initially : α) (texts : List (Option String)) (x : α) :
    Prop :=
  (∃ before text after, texts = before ++ some text :: after ∧ gives text x ∧ Silent gives after) ∨
    Silent gives texts ∧ x = initially

/-- The value after texts that are read one after the other, each of which may give a new one. -/
def settled (read? : String → Option α) (initially : α) (texts : List (Option String)) : α :=
  texts.foldl (fun x t => (t.bind read?).getD x) initially

theorem silent_concat :
    Silent gives (texts ++ [t]) ↔ Silent gives texts ∧ ∀ text ∈ t, ∀ x, ¬ gives text x := by
  simp only [Silent, List.mem_append, List.mem_singleton, or_imp, forall_and, Option.mem_def,
    eq_comm]

/-- **The last text decides, if it is a value**, and otherwise the texts before it. -/
theorem latest_concat : Latest gives initially (texts ++ [t]) x ↔
    (∃ text ∈ t, gives text x) ∨
      (∀ text ∈ t, ∀ y, ¬ gives text y) ∧ Latest gives initially texts x := by
  constructor
  · rintro (⟨before, text, after, h, hx, hafter⟩ | ⟨hsilent, rfl⟩)
    · obtain rfl | ⟨after, t', rfl⟩ := List.eq_nil_or_concat after
      · obtain ⟨rfl, ht⟩ := List.append_inj' h rfl
        exact .inl ⟨text, List.singleton_inj.mp ht, hx⟩
      · rw [List.concat_eq_append, ← List.cons_append, ← List.append_assoc] at h
        obtain ⟨rfl, ht⟩ := List.append_inj' h rfl
        obtain rfl := List.singleton_inj.mp ht
        rw [List.concat_eq_append, silent_concat] at hafter
        exact .inr ⟨hafter.2, .inl ⟨before, text, after, rfl, hx, hafter.1⟩⟩
    · obtain ⟨htexts, ht⟩ := silent_concat.mp hsilent
      exact .inr ⟨ht, .inr ⟨htexts, rfl⟩⟩
  · rintro (⟨text, rfl, hx⟩ | ⟨ht, ⟨before, text, after, rfl, hx, hafter⟩ | ⟨htexts, rfl⟩⟩)
    · exact .inl ⟨texts, text, [], rfl, hx, fun _ h => (List.not_mem_nil h).elim⟩
    · exact .inl ⟨before, text, after ++ [t], by simp, hx, silent_concat.mpr ⟨hafter, ht⟩⟩
    · exact .inr ⟨silent_concat.mpr ⟨htexts, ht⟩, rfl⟩

theorem settled_concat : settled read? initially (texts ++ [t]) =
    (t.bind read?).getD (settled read? initially texts) :=
  List.foldl_concat _ _ _ _

theorem forall_not_gives_iff (hread : ∀ text y, read? text = some y ↔ gives text y)
    {text : String} : (∀ y, ¬ gives text y) ↔ read? text = none := by
  simp only [← hread, Option.eq_none_iff_forall_ne_some, ne_eq]

/-- **Texts that are read one after the other leave the latest value.** -/
theorem settled_eq_iff (hread : ∀ text y, read? text = some y ↔ gives text y) :
    settled read? initially texts = x ↔ Latest gives initially texts x := by
  induction texts using List.reverseRecOn generalizing x with
  | nil =>
    have hsilent : Silent gives [] := fun _ h => (List.not_mem_nil h).elim
    simp [settled, Latest, hsilent, @eq_comm _ x]
  | append_singleton texts t ih =>
    rw [latest_concat, ← ih, settled_concat]
    rcases t with _ | text
    · simp
    · rcases hy : read? text with _ | y
      · simp [hy, (forall_not_gives_iff hread).mpr hy]
      · have hsome : ∀ z, gives text z ↔ y = z := fun z => by simp [← hread, hy]
        simp [hy, hsome]

end Latest

/-! ## Settings -/

namespace Settings

variable {s : Settings}

/-- The settings are the defaults, or were read from a file. -/
def Obtained (s : Settings) : Prop := s = initial ∨ ∃ path content, load path content = .ok s

theorem validate_eq_ok_iff : s.validate = .ok () ↔ 0 < s.maxDepth := by
  rw [validate]
  split_ifs with h
  · simp [h]
  · simp [Nat.pos_of_ne_zero h]

/-- A file whose depth is not positive is refused. -/
theorem maxDepth_pos_of_ofText {path text : String} (h : ofText path text = .ok s) :
    0 < s.maxDepth := by
  rw [ofText] at h
  split at h
  · cases h
  · split at h
    · cases h
    · split_ifs at h with hzero
      obtain rfl := Except.ok.inj h
      exact Nat.pos_of_ne_zero hzero

theorem Obtained.maxDepth_pos (h : s.Obtained) : 0 < s.maxDepth := by
  obtain rfl | ⟨path, content, hload⟩ := h
  · decide
  · rw [load] at hload
    split at hload
    · cases hload
    · exact maxDepth_pos_of_ofText hload

/-! ## One override after the other -/

/-- **An override keeps a positive depth.** -/
theorem maxDepth_pos_override (h : 0 < s.maxDepth) (o : Overrides) :
    0 < (s.override o).maxDepth := by
  rw [override]
  rcases hdepth : o.maxDepth.bind Overrides.depth? with _ | n
  · exact h
  · obtain ⟨text, _, hn⟩ := Option.bind_eq_some_iff.mp hdepth
    exact ((Overrides.depth?_eq_some_iff text n).mp hn).2

/-- **So does any number of overrides.** -/
theorem maxDepth_pos_overrideAll (h : 0 < s.maxDepth) (lookups : List (String → Option String)) :
    0 < (s.overrideAll lookups).maxDepth := by
  induction lookups generalizing s with
  | nil => exact h
  | cons lookup lookups ih => exact ih (maxDepth_pos_override h _)

/-- An override that is repeated at once changes nothing. -/
theorem override_override (s : Settings) (o : Overrides) :
    (s.override o).override o = s.override o := by
  have hgetD {α : Type} (x : Option α) (y : α) : x.getD (x.getD y) = x.getD y := by
    cases x <;> rfl
  rw [override, override, hgetD, hgetD]

/-- **The depth depends on the texts for the depth alone.** -/
theorem maxDepth_overrideAll (s : Settings) (lookups : List (String → Option String)) :
    (s.overrideAll lookups).maxDepth =
      settled Overrides.depth? s.maxDepth (lookups.map (· Overrides.depthVariable)) := by
  rw [settled, List.foldl_map]
  exact (List.foldl_hom maxDepth fun _ _ => rfl).symm

/-- **The use of display names depends on the texts for it alone.** -/
theorem displayNames_overrideAll (s : Settings) (lookups : List (String → Option String)) :
    (s.overrideAll lookups).displayNames =
      settled Overrides.flag? s.displayNames (lookups.map (· Overrides.flagVariable)) := by
  rw [settled, List.foldl_map]
  exact (List.foldl_hom displayNames fun _ _ => rfl).symm

end Settings

/-- **Overrides come in layers.**  Settings that are the defaults or were read from a file pass the
check after each of any overrides.  Their depth is the latest text of its variable that writes a
positive integer, and display names are used as the latest text of theirs that is a word for a truth
value says; where there is none, the setting is as it was obtained.  Neither setting depends on the
other's variable, and an override that is repeated at once changes nothing. -/
theorem overrides_layered {s : Settings} (hs : s.Obtained)
    (lookups : List (String → Option String)) :
    (∀ before, before <+: lookups →
      (s.overrideAll before).validate = .ok () ∧ 0 < (s.overrideAll before).maxDepth) ∧
    (∀ n, (s.overrideAll lookups).maxDepth = n ↔
      Latest Overrides.GivesDepth s.maxDepth (lookups.map (· Overrides.depthVariable)) n) ∧
    (∀ b, (s.overrideAll lookups).displayNames = b ↔
      Latest Overrides.GivesFlag s.displayNames (lookups.map (· Overrides.flagVariable)) b) ∧
    (∀ others : List (String → Option String),
      (others.map (· Overrides.depthVariable) = lookups.map (· Overrides.depthVariable) →
        (s.overrideAll others).maxDepth = (s.overrideAll lookups).maxDepth) ∧
      (others.map (· Overrides.flagVariable) = lookups.map (· Overrides.flagVariable) →
        (s.overrideAll others).displayNames = (s.overrideAll lookups).displayNames)) ∧
    ∀ before lookup after, lookups = before ++ lookup :: after →
      s.overrideAll (before ++ lookup :: lookup :: after) = s.overrideAll lookups := by
  refine ⟨fun before _ => ?_, fun n => ?_, fun b => ?_, fun others => ⟨fun h => ?_, fun h => ?_⟩,
    ?_⟩
  · have hpos := Settings.maxDepth_pos_overrideAll hs.maxDepth_pos before
    exact ⟨Settings.validate_eq_ok_iff.mpr hpos, hpos⟩
  · rw [Settings.maxDepth_overrideAll]
    exact settled_eq_iff Overrides.depth?_eq_some_iff
  · rw [Settings.displayNames_overrideAll]
    exact settled_eq_iff Overrides.flag?_eq_some_iff
  · rw [Settings.maxDepth_overrideAll, Settings.maxDepth_overrideAll, h]
  · rw [Settings.displayNames_overrideAll, Settings.displayNames_overrideAll, h]
  · rintro before lookup after rfl
    simp only [Settings.overrideAll, List.foldl_append, List.foldl_cons, Settings.override_override]

/-- Texts for both settings, some of which are values of one, or of none. -/
def mixedLookups : List (String → Option String) :=
  [fun _ => some " +009 ", fun _ => some "0", fun _ => some "TrUE\n",
    fun v => if v = Overrides.depthVariable then some "-3" else none]

/-- The settings of a file under overrides: each ends at its only value. -/
theorem overrides_layered_mixed :
    Settings.load "rules.json" (some "[7, false]".toUTF8) = .ok ⟨7, false⟩ ∧
      (∀ before, before <+: mixedLookups →
        (Settings.overrideAll ⟨7, false⟩ before).validate = .ok ()) ∧
      Settings.overrideAll ⟨7, false⟩ mixedLookups = ⟨9, true⟩ := by
  have hload : Settings.load "rules.json" (some "[7, false]".toUTF8) = .ok ⟨7, false⟩ := rfl
  obtain ⟨hvalid, hdepth, hflag, _⟩ := overrides_layered (.inr ⟨_, _, hload⟩) mixedLookups
  have hnine : (Settings.overrideAll ⟨7, false⟩ mixedLookups).maxDepth = 9 := by
    refine (hdepth 9).mpr (.inl ⟨[], " +009 ", [some "0", some "TrUE\n", some "-3"], rfl,
      ⟨Numeric.natural?_eq_ok_iff.mp rfl, by decide⟩, fun text htext => ?_⟩)
    refine (forall_not_gives_iff Overrides.depth?_eq_some_iff).mpr ?_
    simp only [List.mem_cons, Option.some.injEq, List.not_mem_nil, or_false] at htext
    obtain rfl | rfl | rfl := htext <;> rfl
  have htrue : (Settings.overrideAll ⟨7, false⟩ mixedLookups).displayNames = true := by
    refine (hflag true).mpr (.inl ⟨[some " +009 ", some "0"], "TrUE\n", [none], rfl,
      (Overrides.flag?_eq_some_iff _ _).mp rfl, fun text htext => ?_⟩)
    cases List.mem_singleton.mp htext
  exact ⟨hload, fun before h => (hvalid before h).1, congrArg₂ Settings.mk hnine htrue⟩

end FieldRules
