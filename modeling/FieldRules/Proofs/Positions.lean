import FieldRules.Proofs.Agree

/-!
# Proofs/Positions — the annotated fields of a value, in document order

The annotated fields that routes lead to are listed by `Value.positions`: all of them
(`mem_positions`), each once, and in the order in which they stand in the value
(`pairwise_positions`).
-/

namespace FieldRules

/-! ## Document order -/

/-- The order of the parts of a value: by index, by key, and by declaration. -/
inductive Site.Before : Site → Site → Prop
  | item {i j : Nat} (h : i < j) : Before (.item i) (.item j)
  | entry {k l : String} (h : k < l) : Before (.entry k) (.entry l)
  | field {name : String} {i j : Nat} {d d' : FieldDecl} (h : i < j) :
      Before (.field name i d) (.field name j d')

instance : DecidablePred Site.Annotated
  | .field _ _ d => inferInstanceAs (Decidable (d.tag.isSome = true))
  | .inner | .item _ | .entry _ => isFalse id

/-- A node of a value: the sites on the way to it, and the value there. -/
structure Position where
  sites : List Site
  value : Value

namespace Position

/-- Document order: a node comes before what is below it, and parts come in their order. -/
def Before (p q : Position) : Prop := List.Lex Site.Before p.sites q.sites

/-- The position as it is seen from above a site. -/
def under (site : Site) (q : Position) : Position := ⟨site :: q.sites, q.value⟩

end Position

variable {schema : Schema} {store : Store}

/-- The parts of a value come in document order, if maps list their entries by key. -/
theorem pairwise_parts {v : Value} (hv : ∀ entries, v = .map entries → Dict.Sorted entries) :
    (v.parts schema store).Pairwise fun p q => p.site.Before q.site := by
  have hzip {α : Type} (l : List α) : l.zipIdx.Pairwise fun a b => a.2 < b.2 := by
    rw [List.pairwise_iff_getElem]
    intro i j hi hj hij
    rw [List.getElem_zipIdx, List.getElem_zipIdx]
    omega
  cases v with
  | sequence items =>
    rw [Value.parts, List.pairwise_map]
    exact (hzip items).imp fun h => .item h
  | map entries =>
    rw [Value.parts, List.pairwise_map]
    exact (hv entries rfl).imp fun h => .entry h
  | record name slots =>
    rw [Value.parts, List.pairwise_map]
    exact (hzip _).imp fun h => .field h
  | leaf l => exact .nil
  | absent => exact .nil
  | _ => exact List.pairwise_singleton _ _

/-! ## Annotated fields -/

/-- A route leads to a position, and ends there in an annotated field. -/
def Value.AnnotatedAt (schema : Schema) (store : Store) (v : Value) (q : Position) : Prop :=
  (∃ cells, Route schema store v q.sites cells q.value) ∧
    ∃ site, q.sites.getLast? = some site ∧ site.Annotated

/-- The position of a part that is an annotated field. -/
def Part.own (p : Part) : List Position :=
  if p.site.Annotated then [⟨[p.site], p.value⟩] else []

/-- The annotated fields within some levels below a value, in document order. -/
def Value.positions (schema : Schema) (store : Store) : (room : Nat) → Value → List Position
  | 0, _ => []
  | room + 1, v => (v.parts schema store).flatMap fun p =>
      p.own ++ (p.value.positions schema store room).map (Position.under p.site)

theorem mem_own {p : Part} {q : Position} :
    q ∈ p.own ↔ p.site.Annotated ∧ q = ⟨[p.site], p.value⟩ := by
  rw [Part.own]
  split
  · next h => rw [List.mem_singleton, and_iff_right h]
  · next h => exact ⟨nofun, fun hq => absurd hq.1 h⟩

theorem not_annotatedAt_nil {v w : Value} : ¬ v.AnnotatedAt schema store ⟨[], w⟩ := by
  rintro ⟨_, site, h, _⟩
  cases h

/-- An annotated field below a value is one of its parts, or below one of them. -/
theorem annotatedAt_iff {v : Value} {q : Position} :
    v.AnnotatedAt schema store q ↔ ∃ p ∈ v.parts schema store,
      q ∈ p.own ∨ ∃ q', p.value.AnnotatedAt schema store q' ∧ q = q'.under p.site := by
  constructor
  · obtain ⟨sites, w⟩ := q
    rintro ⟨⟨cells, hroute⟩, site, hlast, hann⟩
    cases hroute with
    | here => cases hlast
    | @down _ _ p sites cells hp hroute =>
      refine ⟨p, hp, ?_⟩
      cases sites with
      | nil =>
        obtain rfl := Option.some.inj hlast
        cases hroute
        exact .inl (mem_own.mpr ⟨hann, rfl⟩)
      | cons site' rest =>
        rw [List.getLast?_cons_cons] at hlast
        exact .inr ⟨⟨site' :: rest, w⟩, ⟨⟨cells, hroute⟩, site, hlast, hann⟩, rfl⟩
  · rintro ⟨p, hp, hown | ⟨⟨sites, w⟩, ⟨⟨cells, hroute⟩, site, hlast, hann⟩, rfl⟩⟩
    · obtain ⟨hann, rfl⟩ := mem_own.mp hown
      exact ⟨⟨_, .part hp⟩, p.site, rfl, hann⟩
    · refine ⟨⟨_, .down hp hroute⟩, site, ?_, hann⟩
      rw [Position.under, List.getLast?_cons, hlast]
      rfl

/-- **The positions of a value are its annotated fields** within the levels. -/
theorem mem_positions {room : Nat} {v : Value} {q : Position} :
    q ∈ v.positions schema store room ↔
      v.AnnotatedAt schema store q ∧ q.sites.length ≤ room := by
  induction room generalizing v q with
  | zero =>
    obtain ⟨sites, w⟩ := q
    refine ⟨nofun, fun ⟨h, hlen⟩ => ?_⟩
    obtain rfl := List.length_eq_zero_iff.mp (Nat.le_zero.mp hlen)
    exact absurd h not_annotatedAt_nil
  | succ room ih =>
    rw [Value.positions, List.mem_flatMap, annotatedAt_iff]
    simp only [List.mem_append, List.mem_map, ih]
    constructor
    · rintro ⟨p, hp, hown | ⟨q', ⟨hq', hlen⟩, rfl⟩⟩
      · refine ⟨⟨p, hp, .inl hown⟩, ?_⟩
        rw [(mem_own.mp hown).2]
        exact Nat.succ_le_succ (Nat.zero_le room)
      · exact ⟨⟨p, hp, .inr ⟨q', hq', rfl⟩⟩, Nat.succ_le_succ hlen⟩
    · rintro ⟨⟨p, hp, hown | ⟨q', hq', rfl⟩⟩, hlen⟩
      · exact ⟨p, hp, .inl hown⟩
      · exact ⟨p, hp, .inr ⟨q', ⟨hq', Nat.le_of_succ_le_succ hlen⟩, rfl⟩⟩

/-- The positions of a part all begin with its site. -/
theorem exists_cons_of_mem {room : Nat} {p : Part} {q : Position}
    (h : q ∈ p.own ++ (p.value.positions schema store room).map (Position.under p.site)) :
    ∃ rest, q.sites = p.site :: rest := by
  obtain h | h := List.mem_append.mp h
  · rw [(mem_own.mp h).2]
    exact ⟨[], rfl⟩
  · obtain ⟨q', _, rfl⟩ := List.mem_map.mp h
    exact ⟨q'.sites, rfl⟩

/-- **The positions of a value come in document order**, so none of them comes twice. -/
theorem pairwise_positions {room : Nat} {v : Value}
    (hv : ∀ entries, Below schema store v (.map entries) → Dict.Sorted entries) :
    (v.positions schema store room).Pairwise Position.Before := by
  induction room generalizing v with
  | zero => exact .nil
  | succ room ih =>
    rw [Value.positions, List.pairwise_flatMap]
    refine ⟨fun p hp => ?_, ?_⟩
    · have hnested : ((p.value.positions schema store room).map (Position.under p.site)).Pairwise
          Position.Before := by
        rw [List.pairwise_map]
        exact (ih fun entries hb => hv entries (.part hp hb)).imp fun h => .cons h
      refine List.pairwise_append.mpr ⟨?_, hnested, fun q hq q' hq' => ?_⟩
      · rw [Part.own]
        split
        · exact List.pairwise_singleton _ _
        · exact .nil
      · obtain ⟨_, rfl⟩ := mem_own.mp hq
        obtain ⟨⟨sites, w⟩, hmem, rfl⟩ := List.mem_map.mp hq'
        cases sites with
        | nil => exact absurd (mem_positions.mp hmem).1 not_annotatedAt_nil
        | cons site rest => exact .cons .nil
    · have hsites : (v.parts schema store).Pairwise fun p q => p.site.Before q.site :=
        pairwise_parts fun entries he => hv entries (he ▸ .refl v)
      refine hsites.imp fun {p p'} hbefore q hq q' hq' => ?_
      obtain ⟨rest, hrest⟩ := exists_cons_of_mem hq
      obtain ⟨rest', hrest'⟩ := exists_cons_of_mem hq'
      rw [Position.Before, hrest, hrest']
      exact .rel hbefore

end FieldRules
