import FieldRules.Proofs.Rename

/-!
# Proofs/Reading — what is read into stores that are alike

A reader uses a store only to make new cells.  So into stores that are alike it reads values that
correspond, and leaves the stores alike (`read_alike`); and what it reads is within the types that
the type it reads mentions.
-/

namespace FieldRules

variable {types : String → Prop} {live : CellId → Prop} {f : CellId → CellId} {schema : Schema}

/-! ## Types -/

/-- All records that a type mentions are of certain types. -/
def Typ.Within (types : String → Prop) : Typ → Prop
  | scalar _ => True
  | record name => types name
  | option t => t.Within types
  | box t => t.Within types
  | shared t => t.Within types
  | seq _ t => t.Within types
  | map _ _ t => t.Within types

/-- Record types whose fields mention only these types. -/
def Schema.Closed (schema : Schema) (types : String → Prop) : Prop :=
  ∀ name, types name → ∀ g ∈ (schema.record name).fields, g.typ.Within types

/-- Every type mentions some records. -/
theorem Typ.within_all : ∀ t : Typ, t.Within fun _ => True
  | scalar _ => trivial
  | record _ => trivial
  | option t => t.within_all
  | box t => t.within_all
  | shared t => t.within_all
  | seq _ t => t.within_all
  | map _ _ t => t.within_all

theorem Schema.closed_all (schema : Schema) : schema.Closed fun _ => True :=
  fun _ _ g _ => g.typ.within_all

/-- Record types of different identities, whose fields mention only these types. -/
structure Schema.Family (schema : Schema) (types : String → Prop) : Prop where
  distinct : ∀ m n, types m → types n →
    (schema.record m).identity = (schema.record n).identity → m = n
  closed : ∀ name, types name → ∀ g ∈ (schema.record name).fields, g.typ.Within types

/-! ## New cells -/

namespace Store

/-- A cell that was never made is the same in every store. -/
theorem cell_eq_of_le {s s' : Store} {c d : CellId} (h : s.cells.length ≤ c)
    (h' : s'.cells.length ≤ d) : s'.cell d = s.cell c := by
  rw [cell, cell, List.getD_eq_getElem?_getD, List.getD_eq_getElem?_getD,
    List.getElem?_eq_none h, List.getElem?_eq_none h']

theorem length_alloc (s : Store) (t : Typ) (w : Value) :
    (s.alloc t w).2.cells.length = s.cells.length + 1 := by
  simp [Store.alloc]

theorem cell_alloc_self (s : Store) (t : Typ) (w : Value) :
    (s.alloc t w).2.cell s.cells.length = ⟨t, w⟩ := by
  simp [Store.alloc, Store.cell]

theorem cell_alloc_of_ne {s : Store} {c : CellId} (h : c ≠ s.cells.length) (t : Typ) (w : Value) :
    (s.alloc t w).2.cell c = s.cell c := by
  rcases Nat.lt_or_gt_of_ne h with hlt | hgt
  · simp [Store.alloc, Store.cell, List.getElem?_append_left hlt]
  · have hge : (s.alloc t w).2.cells.length ≤ c := (s.length_alloc t w).trans_le hgt
    exact cell_eq_of_le (Nat.le_of_lt hgt) hge

end Store

/-- Values that correspond: the second is the first one renamed. -/
def Corresponds (types : String → Prop) (live : CellId → Prop) (f : CellId → CellId)
    (v v' : Value) : Prop := v.Within types live ∧ v' = v.rename f

/-- Lists of values that correspond. -/
def CorrespondAll (types : String → Prop) (live : CellId → Prop) (f : CellId → CellId)
    (vs vs' : List Value) : Prop :=
  (∀ v ∈ vs, v.Within types live) ∧ vs' = vs.map (Value.rename f)

/-- Named values that correspond, with the same names. -/
def CorrespondNamed (types : String → Prop) (live : CellId → Prop) (f : CellId → CellId)
    (es es' : List (String × Value)) : Prop :=
  (∀ e ∈ es, e.2.Within types live) ∧ es' = es.map fun e => (e.1, e.2.rename f)

theorem Corresponds.cons {v v' : Value} {vs vs' : List Value}
    (h : Corresponds types live f v v') (hs : CorrespondAll types live f vs vs') :
    CorrespondAll types live f (v :: vs) (v' :: vs') :=
  ⟨List.forall_mem_cons.mpr ⟨h.1, hs.1⟩, by rw [h.2, hs.2, List.map_cons]⟩

theorem Corresponds.named {v v' : Value} {es es' : List (String × Value)} (name : String)
    (h : Corresponds types live f v v') (hs : CorrespondNamed types live f es es') :
    CorrespondNamed types live f ((name, v) :: es) ((name, v') :: es') :=
  ⟨List.forall_mem_cons.mpr ⟨h.1, hs.1⟩, by rw [h.2, hs.2, List.map_cons]⟩

theorem Corresponds.present {v v' : Value} (h : Corresponds types live f v v') :
    Corresponds types live f (.present v) (.present v') :=
  ⟨.present h.1, by rw [h.2, Value.rename_present]⟩

theorem Corresponds.boxed {v v' : Value} (h : Corresponds types live f v v') :
    Corresponds types live f (.boxed v) (.boxed v') :=
  ⟨.boxed h.1, by rw [h.2, Value.rename_boxed]⟩

theorem CorrespondAll.sequence {vs vs' : List Value} (h : CorrespondAll types live f vs vs') :
    Corresponds types live f (.sequence vs) (.sequence vs') :=
  ⟨.sequence h.1, by rw [h.2, Value.rename_sequence]⟩

theorem CorrespondAll.record {name : String} (hname : types name) {vs vs' : List Value}
    (h : CorrespondAll types live f vs vs') :
    Corresponds types live f (.record name vs) (.record name vs') :=
  ⟨.record hname h.1, by rw [h.2, Value.rename_record]⟩

/-- New cells with corresponding contents correspond. -/
theorem Store.Alike.alloc {s s' : Store} (h : s.Alike types live f s') (t : Typ) {w w' : Value}
    (hw : Corresponds types live f w w') :
    (s.alloc t w).2.Alike types live f (s'.alloc t w').2 ∧
      Corresponds types live f (.shared (s.alloc t w).1) (.shared (s'.alloc t w').1) := by
  obtain ⟨hwithin, rfl⟩ := hw
  have hlive : live s.cells.length := h.fresh _ (Nat.le_refl _)
  have hnew : f s.cells.length = s'.cells.length := h.shift 0
  refine ⟨⟨fun c hc => ?_, fun c hc => ?_, h.inj, fun k => ?_, fun c hc hlt => ?_, fun c hc => ?_,
    h.held⟩, .shared hlive, congrArg Value.shared hnew.symm⟩
  · rw [length_alloc] at hc
    exact h.fresh c (Nat.le_of_succ_le hc)
  · by_cases heq : c = s.cells.length
    · rw [heq, cell_alloc_self]
      exact hwithin
    · rw [cell_alloc_of_ne heq]
      exact h.within c hc
  · rw [length_alloc, length_alloc, Nat.add_right_comm, Nat.add_assoc, h.shift, Nat.add_right_comm]
    rfl
  · rw [length_alloc] at hlt ⊢
    rcases Nat.lt_succ_iff_lt_or_eq.mp hlt with hlt | rfl
    · exact Nat.lt_succ_of_lt (h.lt c hc hlt)
    · exact hnew ▸ Nat.lt_succ_self _
  · by_cases heq : c = s.cells.length
    · rw [heq, hnew, cell_alloc_self, cell_alloc_self]
      rfl
    · have hne : f c ≠ s'.cells.length := fun hf => heq (h.inj c _ hc hlive (hf.trans hnew.symm))
      rw [cell_alloc_of_ne heq, cell_alloc_of_ne hne, h.cell c hc]

/-! ## Results of reading -/

/-- Two results of reading: the same error, or values that are related, in stores that are alike. -/
inductive ReadAlike (types : String → Prop) (live : CellId → Prop) (f : CellId → CellId)
    {α : Type} (rel : α → α → Prop) :
    Except Mismatch (α × Store) → Except Mismatch (α × Store) → Prop
  | error (e : Mismatch) : ReadAlike types live f rel (.error e) (.error e)
  | ok {a a' : α} {s s' : Store} (h : rel a a') (hs : s.Alike types live f s') :
      ReadAlike types live f rel (.ok (a, s)) (.ok (a', s'))

namespace ReadAlike

variable {α β : Type} {rel : α → α → Prop} {rel' : β → β → Prop}
  {x x' : Except Mismatch (α × Store)} {y y' : Except Mismatch (Value × Store)}

theorem bind {k k' : α × Store → Except Mismatch (β × Store)}
    (h : ReadAlike types live f rel x x')
    (hk : ∀ a a' s s', rel a a' → s.Alike types live f s' →
      ReadAlike types live f rel' (k (a, s)) (k' (a', s'))) :
    ReadAlike types live f rel' (x >>= k) (x' >>= k') := by
  cases h with
  | error e => exact .error e
  | ok h hs => exact hk _ _ _ _ h hs

theorem map {g : α → β} (h : ReadAlike types live f rel x x')
    (hg : ∀ a a', rel a a' → rel' (g a) (g a')) :
    ReadAlike types live f rel' (x.map fun (a, s) => (g a, s)) (x'.map fun (a, s) => (g a, s)) := by
  cases h with
  | error e => exact .error e
  | ok h hs => exact .ok (hg _ _ h) hs

/-- What is read can be put into new cells. -/
theorem shared (h : ReadAlike types live f (Corresponds types live f) y y') (t : Typ) :
    ReadAlike types live f (Corresponds types live f)
      (y.map fun (w, s) => (.shared (s.alloc t w).1, (s.alloc t w).2))
      (y'.map fun (w, s) => (.shared (s.alloc t w).1, (s.alloc t w).2)) := by
  cases h with
  | error e => exact .error e
  | ok h hs =>
    obtain ⟨halloc, hshared⟩ := hs.alloc t h
    exact .ok hshared halloc

end ReadAlike

/-- A reader that reads corresponding values into stores that are alike. -/
def Reader.Alike (types : String → Prop) (live : CellId → Prop) (f : CellId → CellId)
    (r : Reader) : Prop :=
  ∀ (t : Typ) (s s' : Store), t.Within types → s.Alike types live f s' →
    ReadAlike types live f (Corresponds types live f) (r t s) (r t s')

/-! ## Readers of lists -/

theorem readItems_alike {t : Typ} (ht : t.Within types) :
    ∀ {rs : List Reader}, (∀ r ∈ rs, r.Alike types live f) → ∀ {s s' : Store},
      s.Alike types live f s' →
      ReadAlike types live f (CorrespondAll types live f) (readItems t rs s) (readItems t rs s')
  | [], _, _, _, hs => .ok ⟨nofun, rfl⟩ hs
  | r :: rs, hrs, s, s', hs => by
    rw [List.forall_mem_cons] at hrs
    rw [readItems, readItems]
    exact (hrs.1 t s s' ht hs).bind fun v v' _ _ hv hs =>
      (readItems_alike ht hrs.2 hs).bind fun _ _ _ _ hvs hs => .ok (hv.cons hvs) hs

theorem readEntries_alike {k : KeyKind} {t : Typ} (ht : t.Within types) :
    ∀ {rs : List (String × Reader)}, (∀ r ∈ rs, r.2.Alike types live f) → ∀ {s s' : Store},
      s.Alike types live f s' →
      ReadAlike types live f (CorrespondNamed types live f) (readEntries k t rs s)
        (readEntries k t rs s')
  | [], _, _, _, hs => .ok ⟨nofun, rfl⟩ hs
  | (name, r) :: rs, hrs, s, s', hs => by
    rw [List.forall_mem_cons] at hrs
    rw [readEntries, readEntries]
    cases readKey k name with
    | error e => exact .error e
    | ok key =>
      exact (hrs.1 t s s' ht hs).bind fun v v' _ _ hv hs =>
        (readEntries_alike ht hrs.2 hs).bind fun _ _ _ _ hvs hs => .ok (hv.named key hvs) hs

theorem readMembers_alike {fields : List RecordField}
    (hfields : ∀ g ∈ fields, g.typ.Within types) :
    ∀ {rs : List (String × Reader)}, (∀ r ∈ rs, r.2.Alike types live f) → ∀ {s s' : Store},
      s.Alike types live f s' →
      ReadAlike types live f (CorrespondNamed types live f) (readMembers fields rs s)
        (readMembers fields rs s')
  | [], _, _, _, hs => .ok ⟨nofun, rfl⟩ hs
  | (name, r) :: rs, hrs, s, s', hs => by
    rw [List.forall_mem_cons] at hrs
    rw [readMembers, readMembers]
    cases hfind : fields.find? (·.key == name) with
    | none => exact readMembers_alike hfields hrs.2 hs
    | some g =>
      have hg : g.typ.Within types := hfields g (List.mem_of_find?_eq_some hfind)
      exact (hrs.1 g.typ s s' hg hs).bind fun v v' _ _ hv hs =>
        (readMembers_alike hfields hrs.2 hs).bind fun _ _ _ _ hvs hs => .ok (hv.named name hvs) hs

theorem readPositions_alike {r : RecordType} :
    ∀ {read : Nat} {fs : List RecordField} {rs : List Reader},
      (∀ g ∈ fs, g.typ.Within types) → (∀ r ∈ rs, r.Alike types live f) → ∀ {s s' : Store},
      s.Alike types live f s' →
      ReadAlike types live f (CorrespondAll types live f) (readPositions r read fs rs s)
        (readPositions r read fs rs s')
  | read, [], rs, _, _, _, _, hs => by
    rw [readPositions, readPositions]
    split
    · exact .ok ⟨List.forall_mem_nil _, rfl⟩ hs
    · exact .error _
  | read, g :: fs, [], _, _, _, _, _ => .error _
  | read, g :: fs, reader :: rs, hfs, hrs, s, s', hs => by
    rw [List.forall_mem_cons] at hfs hrs
    rw [readPositions, readPositions]
    exact (hrs.1 g.typ s s' hfs.1 hs).bind fun v v' _ _ hv hs =>
      (readPositions_alike hfs.2 hrs.2 hs).bind fun _ _ _ _ hvs hs => .ok (hv.cons hvs) hs

theorem readArray_alike {size : Nat} {t : Typ} (ht : t.Within types) :
    ∀ {read left : Nat} {rs : List Reader}, (∀ r ∈ rs, r.Alike types live f) → ∀ {s s' : Store},
      s.Alike types live f s' →
      ReadAlike types live f (CorrespondAll types live f) (readArray size t read left rs s)
        (readArray size t read left rs s')
  | read, 0, rs, _, _, _, hs => by
    rw [readArray, readArray]
    split
    · exact .ok ⟨List.forall_mem_nil _, rfl⟩ hs
    · exact .error _
  | read, left + 1, [], _, _, _, _ => .error _
  | read, left + 1, reader :: rs, hrs, s, s', hs => by
    rw [List.forall_mem_cons] at hrs
    rw [readArray, readArray]
    exact (hrs.1 t s s' ht hs).bind fun v v' _ _ hv hs =>
      (readArray_alike ht hrs.2 hs).bind fun _ _ _ _ hvs hs => .ok (hv.cons hvs) hs

/-! ## Records -/

/-- What stands for a member that is not there corresponds. -/
theorem missing_alike {s s' : Store} (hs : s.Alike types live f s') :
    ∀ t : Typ, (missing? t s = none ∧ missing? t s' = none) ∨
      ∃ v v' s₁ s₁', missing? t s = some (v, s₁) ∧ missing? t s' = some (v', s₁') ∧
        Corresponds types live f v v' ∧ s₁.Alike types live f s₁'
  | .option t => .inr ⟨_, _, _, _, rfl, rfl, ⟨.absent, rfl⟩, hs⟩
  | .box t => by
    rcases missing_alike hs t with ⟨h, h'⟩ | ⟨v, v', s₁, s₁', h, h', hv, hs₁⟩
    · exact .inl ⟨by rw [missing?, h]; rfl, by rw [missing?, h']; rfl⟩
    · exact .inr ⟨.boxed v, .boxed v', s₁, s₁', by rw [missing?, h]; rfl,
        by rw [missing?, h']; rfl, hv.boxed, hs₁⟩
  | .shared t => by
    rcases missing_alike hs t with ⟨h, h'⟩ | ⟨v, v', s₁, s₁', h, h', hv, hs₁⟩
    · exact .inl ⟨by rw [missing?, h]; rfl, by rw [missing?, h']; rfl⟩
    · obtain ⟨halloc, hshared⟩ := hs₁.alloc t hv
      exact .inr ⟨_, _, _, _, by rw [missing?, h]; rfl, by rw [missing?, h']; rfl, hshared, halloc⟩
  | .scalar _ => .inl ⟨rfl, rfl⟩
  | .record _ => .inl ⟨rfl, rfl⟩
  | .seq _ _ => .inl ⟨rfl, rfl⟩
  | .map _ _ _ => .inl ⟨rfl, rfl⟩

theorem lookup_map_rename (key : String) :
    ∀ es : List (String × Value), (es.map fun e => (e.1, e.2.rename f)).lookup key
      = (es.lookup key).map (Value.rename f) := by
  intro es
  induction es with
  | nil => rfl
  | cons e es ih =>
    rw [List.map_cons, List.lookup_cons, List.lookup_cons, ih]
    cases key == e.1 <;> rfl

theorem collect_alike {values values' : List (String × Value)}
    (hvalues : CorrespondNamed types live f values values') :
    ∀ (fs : List RecordField) {s s' : Store}, s.Alike types live f s' →
      ReadAlike types live f (CorrespondAll types live f) (collect values fs s)
        (collect values' fs s')
  | [], _, _, hs => .ok ⟨nofun, rfl⟩ hs
  | g :: fs, s, s', hs => by
    rw [collect, collect, hvalues.2, lookup_map_rename, ← hvalues.2]
    cases hlook : values.lookup g.key with
    | some v =>
      obtain ⟨before, after, heq, _⟩ := List.lookup_eq_some_iff.mp hlook
      have hv : Corresponds types live f v (v.rename f) :=
        ⟨hvalues.1 (g.key, v) (by simp [heq]), rfl⟩
      exact (collect_alike hvalues fs hs).bind fun _ _ _ _ hvs hs => .ok (hv.cons hvs) hs
    | none =>
      rcases missing_alike hs g.typ with ⟨h, h'⟩ | ⟨v, v', s₁, s₁', h, h', hv, hs₁⟩
      · simp only [Option.map_none, h, h']
        exact .error _
      · simp only [Option.map_none, h, h']
        exact (collect_alike hvalues fs hs₁).bind fun _ _ _ _ hvs hs => .ok (hv.cons hvs) hs

/-! ## Maps -/

theorem Dict.insert_map_rename (key : String) (v : Value) :
    ∀ d : Dict Value, Dict.insert key (v.rename f) (d.map fun e => (e.1, e.2.rename f))
      = (Dict.insert key v d).map fun e => (e.1, e.2.rename f)
  | [] => rfl
  | e :: d => by
    simp only [List.map_cons, insert]
    split
    · rfl
    · split
      · rfl
      · rw [Dict.insert_map_rename key v d, List.map_cons]

theorem Dict.ofList_map_rename (es : List (String × Value)) :
    Dict.ofList (es.map fun e => (e.1, e.2.rename f))
      = (Dict.ofList es).map fun e => (e.1, e.2.rename f) := by
  have hfold : ∀ (es : List (String × Value)) (d : Dict Value),
      (es.map fun e => (e.1, e.2.rename f)).foldl (fun d e => Dict.insert e.1 e.2 d)
          (d.map fun e => (e.1, e.2.rename f))
        = (es.foldl (fun d e => Dict.insert e.1 e.2 d) d).map fun e => (e.1, e.2.rename f) := by
    intro es
    induction es with
    | nil => exact fun _ => rfl
    | cons e es ih =>
      intro d
      rw [List.map_cons, List.foldl_cons, List.foldl_cons, Dict.insert_map_rename, ih]
  exact hfold es []

theorem CorrespondNamed.ofEntries {es es' : List (String × Value)}
    (h : CorrespondNamed types live f es es') :
    Corresponds types live f (.ofEntries es) (.ofEntries es') := by
  refine ⟨.map fun e he => h.1 e (Dict.mem_ofList he), ?_⟩
  rw [h.2, Value.ofEntries, Value.ofEntries, Value.rename_map, Dict.ofList_map_rename]

/-! ## All types -/

section

variable {v : Json} {kids : Children} {s s' : Store}

theorem readNode_record_alike (hclosed : schema.Closed types)
    (hitems : ∀ r ∈ kids.items, r.Alike types live f)
    (hmembers : ∀ r ∈ kids.members, r.2.Alike types live f) {name : String} (hname : types name)
    (hs : s.Alike types live f s') :
    ReadAlike types live f (Corresponds types live f) (readNode schema v kids (.record name) s)
      (readNode schema v kids (.record name) s') := by
  have hfields := hclosed name hname
  cases v with
  | obj members =>
    rw [readNode, readNode]
    exact (readMembers_alike hfields hmembers hs).bind fun _ _ _ _ hvalues hs =>
      (collect_alike hvalues _ hs).bind fun _ _ _ _ hslots hs => .ok (hslots.record hname) hs
  | arr items => exact (readPositions_alike hfields hitems hs).map fun _ _ h => h.record hname
  | _ => exact .error _

theorem readNode_seq_alike (hitems : ∀ r ∈ kids.items, r.Alike types live f) (k : SeqKind) {t : Typ}
    (ht : t.Within types) (hs : s.Alike types live f s') :
    ReadAlike types live f (Corresponds types live f) (readNode schema v kids (.seq k t) s)
      (readNode schema v kids (.seq k t) s') := by
  cases v with
  | arr items =>
    cases k with
    | array n => exact (readArray_alike ht hitems hs).map fun _ _ h => h.sequence
    | vector => exact (readItems_alike ht hitems hs).map fun _ _ h => h.sequence
    | deque => exact (readItems_alike ht hitems hs).map fun _ _ h => h.sequence
  | _ => cases k <;> exact .error _

/-- **A node is read alike** if its children are. -/
theorem readNode_alike (hclosed : schema.Closed types)
    (hitems : ∀ r ∈ kids.items, r.Alike types live f)
    (hmembers : ∀ r ∈ kids.members, r.2.Alike types live f) :
    Reader.Alike types live f (readNode schema v kids) := by
  intro t
  induction t with
  | scalar k =>
    intro s s' _ hs
    rw [readNode, readNode]
    cases Leaf.read k v with
    | error e => exact .error e
    | ok l => exact .ok ⟨.leaf l, rfl⟩ hs
  | record name => exact fun s s' hname hs => readNode_record_alike hclosed hitems hmembers hname hs
  | option t ih =>
    intro s s' ht hs
    cases v with
    | null => exact .ok ⟨.absent, rfl⟩ hs
    | _ => exact (ih s s' ht hs).map fun _ _ h => h.present
  | box t ih => exact fun s s' ht hs => (ih s s' ht hs).map fun _ _ h => h.boxed
  | shared t ih => exact fun s s' ht hs => (ih s s' ht hs).shared t
  | seq k t ih => exact fun s s' ht hs => readNode_seq_alike hitems k ht hs
  | map k key t ih =>
    intro s s' ht hs
    have hinner : t.Within types := ht
    cases v with
    | obj members => exact (readEntries_alike hinner hmembers hs).map fun _ _ h => h.ofEntries
    | _ => exact .error _

end

mutual

theorem ofJson_alike (hclosed : schema.Closed types) :
    ∀ v : Json, (Reader.ofJson schema v).Alike types live f
  | .arr items => readNode_alike hclosed (ofItems_alike hclosed items) nofun
  | .obj members => readNode_alike hclosed nofun (ofMembers_alike hclosed members)
  | .null => readNode_alike hclosed nofun nofun
  | .bool _ => readNode_alike hclosed nofun nofun
  | .num _ => readNode_alike hclosed nofun nofun
  | .str _ => readNode_alike hclosed nofun nofun

theorem ofItems_alike (hclosed : schema.Closed types) :
    ∀ items : List Json, ∀ r ∈ Reader.ofItems schema items, r.Alike types live f
  | [] => nofun
  | v :: vs => List.forall_mem_cons.mpr ⟨ofJson_alike hclosed v, ofItems_alike hclosed vs⟩

theorem ofMembers_alike (hclosed : schema.Closed types) :
    ∀ members : List (String × Json), ∀ r ∈ Reader.ofMembers schema members,
      r.2.Alike types live f
  | [] => nofun
  | (_, v) :: vs => List.forall_mem_cons.mpr ⟨ofJson_alike hclosed v, ofMembers_alike hclosed vs⟩

end

/-- **Into stores that are alike, corresponding values are read.** -/
theorem read_alike (hclosed : schema.Closed types) {t : Typ} (ht : t.Within types) (form : Json)
    {s s' : Store} (hs : s.Alike types live f s') :
    ReadAlike types live f (Corresponds types live f) (Value.read schema t form s)
      (Value.read schema t form s') :=
  ofJson_alike hclosed form t s s' ht hs

end FieldRules
