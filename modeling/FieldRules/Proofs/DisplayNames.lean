import FieldRules.Proofs.Inspect
import FieldRules.Proofs.Plans

/-!
# Proofs/DisplayNames — display names that serialization does not use

A display name is compared with the keys of all the fields of its record.  So one that drifted from
its own field's key is reported, unless it is the key of another field
(`drifted_reported_unless_key`); two fields that bear each other's names are both passed over
(`drifted_swapped_unreported`).
-/

namespace FieldRules

variable {schema : Schema}

/-! ## The member names of a record's JSON form -/

theorem Dict.mem_keys_insert_iff {α : Type} {key : String} {a : α} {d : Dict α} {k : String} :
    k ∈ (Dict.insert key a d).keys ↔ k = key ∨ k ∈ d.keys := by
  rw [Dict.mem_keys_iff, Dict.mem_keys_iff, Dict.get?_insert]
  by_cases h : k = key <;> simp [h]

theorem Dict.mem_keys_ofList_iff {α : Type} {entries : List (String × α)} {k : String} :
    k ∈ (Dict.ofList entries).keys ↔ k ∈ entries.map Prod.fst := by
  have hfold : ∀ (es : List (String × α)) (d : Dict α),
      k ∈ Dict.keys (es.foldl (fun d e => Dict.insert e.1 e.2 d) d) ↔
        k ∈ d.keys ∨ k ∈ es.map Prod.fst := by
    intro es
    induction es with
    | nil => simp
    | cons e es ih =>
      intro d
      rw [List.foldl_cons, ih, Dict.mem_keys_insert_iff, List.map_cons, List.mem_cons]
      tauto
  rw [Dict.ofList, hfold]
  exact or_iff_right List.not_mem_nil

theorem Dict.contains_ofList_iff {α : Type} {entries : List (String × α)} {k : String} :
    Dict.contains (Dict.ofList entries) k = true ↔ k ∈ entries.map Prod.fst := by
  rw [← Dict.mem_keys_ofList_iff, Dict.mem_keys_iff, Dict.contains, Option.isSome_iff_ne_none]

/-- Results that are labelled one by one bear the labels in order. -/
theorem labels_of_mapM_eq_ok {ε α β : Type} {label : α → String} {f : α → Except ε β}
    {l : List α} {bs : List (String × β)} (h : l.mapM (fun a => (f a).map (label a, ·)) = .ok bs) :
    bs.map Prod.fst = l.map label := by
  have hmatch := mapM_eq_ok_iff.mp h
  clear h
  induction hmatch with
  | nil => rfl
  | cons hab _ ih =>
    obtain ⟨_, _, rfl⟩ := map_eq_ok.mp hab
    rw [List.map_cons, List.map_cons, ih]

/-- **A record's JSON form is an object**, whose member names are the keys of its fields. -/
theorem exists_members_of_snapshot_record {store : Store} {name : String} {slots : List Value}
    {form : Json} (hslots : slots.length = (schema.record name).fields.length)
    (h : (Value.record name slots).snapshot schema store = .ok form) :
    ∃ members, form = .obj members ∧ ∀ k, Dict.contains members k = true ↔
      k ∈ (schema.record name).fields.map RecordField.key := by
  rw [Value.snapshot, Value.snapshotWithin_eq, Value.snapshotWith, bind_eq_ok] at h
  obtain ⟨members, hmembers, h⟩ := h
  obtain rfl := Except.ok.inj h
  rw [Value.snapshotSlots_eq] at hmembers
  have hzip : ((schema.record name).fields.zip slots).map (RecordField.key ∘ Prod.fst) =
      (schema.record name).fields.map RecordField.key := by
    rw [← List.map_map, List.map_fst_zip hslots.ge]
  refine ⟨_, rfl, fun k => ?_⟩
  rw [Dict.contains_ofList_iff, labels_of_mapM_eq_ok hmembers, ← hzip]
  rfl

/-! ## Names that drifted -/

/-- The display name of a field that is serialized under another key. -/
def RecordField.drifted (f : RecordField) : Option String :=
  f.decl.displayName.filter fun a => a ≠ f.key

/-- The display names of a record's fields that are serialized under other keys. -/
def Schema.drifted (schema : Schema) (name : String) : List String :=
  (schema.record name).fields.filterMap RecordField.drifted

theorem RecordField.drifted_eq_some_iff {f : RecordField} {a : String} :
    f.drifted = some a ↔ f.decl.displayName = some a ∧ a ≠ f.key := by
  simp [drifted, Option.filter_eq_some_iff]

theorem Schema.mem_drifted_iff {name a : String} :
    a ∈ schema.drifted name ↔
      ∃ f ∈ (schema.record name).fields, f.decl.displayName = some a ∧ a ≠ f.key := by
  simp only [drifted, List.mem_filterMap, RecordField.drifted_eq_some_iff]

/-- Of the display names that are not among given keys, all drifted, if the fields' own keys are
among these. -/
theorem filter_displayNames {keys : List String} :
    ∀ {fields : List RecordField}, (∀ f ∈ fields, f.key ∈ keys) →
      ((fields.map RecordField.decl).filterMap FieldDecl.displayName).filter (· ∉ keys) =
        (fields.filterMap RecordField.drifted).filter (· ∉ keys)
  | [], _ => rfl
  | f :: fields, h => by
    obtain ⟨hf, hfields⟩ := List.forall_mem_cons.mp h
    have ih := filter_displayNames hfields
    rw [List.map_cons]
    cases ha : f.decl.displayName with
    | none =>
      have hdrifted : f.drifted = none := by rw [RecordField.drifted, ha, Option.filter_none]
      rw [List.filterMap_cons_none ha, List.filterMap_cons_none hdrifted, ih]
    | some a =>
      rw [List.filterMap_cons_some ha]
      by_cases hkey : a = f.key
      · have hdrifted : f.drifted = none := by simp [RecordField.drifted, ha, hkey]
        rw [List.filterMap_cons_none hdrifted, ← ih, List.filter_cons_of_neg]
        simpa [hkey] using hf
      · have hdrifted : f.drifted = some a := RecordField.drifted_eq_some_iff.mpr ⟨ha, hkey⟩
        rw [List.filterMap_cons_some hdrifted, List.filter_cons, List.filter_cons, ih]

/-- **Exactly the drifted names that are no field's key are reported.** -/
theorem displayNameMismatches_of_snapshot {store : Store} {name : String} {slots : List Value}
    {form : Json} (hslots : slots.length = (schema.record name).fields.length)
    (h : (Value.record name slots).snapshot schema store = .ok form) :
    displayNameMismatches schema store name (.record name slots) =
      .ok ((schema.drifted name).filter
        (· ∉ (schema.record name).fields.map RecordField.key)) := by
  obtain ⟨members, rfl, hmembers⟩ := exists_members_of_snapshot_record hslots h
  have hown : ∀ f ∈ (schema.record name).fields,
      f.key ∈ (schema.record name).fields.map RecordField.key :=
    fun f hf => List.mem_map_of_mem hf
  have hmember (a : String) : (!Dict.contains members a) =
      decide (a ∉ (schema.record name).fields.map RecordField.key) := by
    rw [Bool.eq_iff_iff, Bool.not_eq_true', decide_eq_true_iff, ← hmembers a, Bool.not_eq_true]
  rw [displayNameMismatches, h, Schema.drifted, ← filter_displayNames hown, Schema.decls]
  simp only [← hmember]
  rfl

/-- A check of display names fails as the snapshot does. -/
theorem displayNameMismatches_of_snapshot_error {store : Store} {name : String} {v : Value}
    {u : Unreadable} (h : v.snapshot schema store = .error u) :
    displayNameMismatches schema store name v = .error u := by
  rw [displayNameMismatches, h]
  rfl

/-- **A drifted display name is reported unless it is the key of another field.**  For every record
with a JSON form, the display names that drifted and are no field's key are listed in the order of
the fields; so none is listed iff each is some field's key, and all that drifted are listed iff none
of them is.  Without a JSON form the check fails as the snapshot does. -/
theorem drifted_reported_unless_key {store : Store} {name : String} {slots : List Value}
    (hslots : slots.length = (schema.record name).fields.length) :
    (∀ u, (Value.record name slots).snapshot schema store = .error u →
      displayNameMismatches schema store name (.record name slots) = .error u) ∧
    ∀ form, (Value.record name slots).snapshot schema store = .ok form →
      ∃ names, displayNameMismatches schema store name (.record name slots) = .ok names ∧
        names = (schema.drifted name).filter
          (· ∉ (schema.record name).fields.map RecordField.key) ∧
        (names = [] ↔ ∀ f ∈ (schema.record name).fields, ∀ a, f.decl.displayName = some a →
          ∃ g ∈ (schema.record name).fields, g.key = a) ∧
        (names = schema.drifted name ↔ ∀ f ∈ (schema.record name).fields, ∀ a,
          f.decl.displayName = some a → a ≠ f.key →
            ∀ g ∈ (schema.record name).fields, g.key ≠ a) := by
  refine ⟨fun u => displayNameMismatches_of_snapshot_error, fun form hform => ?_⟩
  have hkey (a : String) : a ∉ (schema.record name).fields.map RecordField.key ↔
      ∀ f ∈ (schema.record name).fields, f.key ≠ a := by
    simp only [List.mem_map, not_exists, not_and, ne_eq]
  refine ⟨_, displayNameMismatches_of_snapshot hslots hform, rfl, ?_, ?_⟩
  · rw [List.filter_eq_nil_iff]
    constructor
    · intro h f hf a ha
      by_cases hown : a = f.key
      · exact ⟨f, hf, hown.symm⟩
      · have hmem := h a (Schema.mem_drifted_iff.mpr ⟨f, hf, ha, hown⟩)
        simpa [List.mem_map] using hmem
    · intro h a ha
      obtain ⟨f, hf, ha, _⟩ := Schema.mem_drifted_iff.mp ha
      simpa [List.mem_map] using h f hf a ha
  · rw [List.filter_eq_self]
    constructor
    · intro h f hf a ha hown
      exact (hkey a).mp (decide_eq_true_iff.mp (h a (Schema.mem_drifted_iff.mpr ⟨f, hf, ha, hown⟩)))
    · intro h a ha
      obtain ⟨f, hf, ha, hown⟩ := Schema.mem_drifted_iff.mp ha
      exact decide_eq_true_iff.mpr ((hkey a).mpr (h f hf a ha hown))

/-! ### Two fields that bear each other's names -/

def swappedSchema : Schema :=
  ⟨[("Swapped", ⟨"Swapped", "Swapped", "Swapped",
    [⟨⟨"a", none, some "b"⟩, "a", .scalar .text⟩,
      ⟨⟨"b", none, some "a"⟩, "b", .scalar .text⟩], 2⟩)]⟩

def swapped : Value := .record "Swapped" [.leaf (.text "x"), .leaf (.text "y")]

theorem drifted_reported_unless_key_swapped :
    ∃ names, displayNameMismatches swappedSchema ⟨[], []⟩ "Swapped" swapped = .ok names ∧
      (names = [] ↔ ∀ f ∈ (swappedSchema.record "Swapped").fields, ∀ a,
        f.decl.displayName = some a →
          ∃ g ∈ (swappedSchema.record "Swapped").fields, g.key = a) := by
  have hslots : [Value.leaf (.text "x"), .leaf (.text "y")].length =
      (swappedSchema.record "Swapped").fields.length := rfl
  have hform : ∃ form, swapped.snapshot swappedSchema ⟨[], []⟩ = .ok form := ⟨_, rfl⟩
  obtain ⟨form, hform⟩ := hform
  obtain ⟨_, hreported⟩ := drifted_reported_unless_key hslots
  obtain ⟨names, hnames, _, hnil, _⟩ := hreported form hform
  exact ⟨names, hnames, hnil⟩

/-- **Swapped names are not reported**, though each of them drifted. -/
theorem drifted_swapped_unreported :
    displayNameMismatches swappedSchema ⟨[], []⟩ "Swapped" swapped = .ok [] ∧
      swappedSchema.drifted "Swapped" = ["b", "a"] := by
  constructor <;> rfl

end FieldRules
