import FieldRules.Proofs.Coverage
import FieldRules.Proofs.Issues

/-!
# Proofs/Chains — what a compiled annotation means

A compiled rule has one function for each token (`resolve_eq_ok_iff`), and the first token whose
generator gives none is reported (`resolve_eq_error_iff`).  Its mappers form a chain: each answers
to what the ones before have left (`answers`, `carried`).  Its validators do not: each is asked
about what the whole chain has left.  So parts of annotations can be joined: chains compose, and
messages follow each other (`compile_joined`).  Together: `compile_meaning`.
-/

namespace FieldRules

open Text

/-! ## Values equal themselves -/

namespace Json

mutual

/-- Whether all numbers in the value are finite, as those of JSON text are. -/
def isFinite : Json → Bool
  | num (.float x) => x.isFinite
  | arr items => itemsFinite items
  | obj members => membersFinite members
  | _ => true

def itemsFinite : List Json → Bool
  | [] => true
  | v :: vs => isFinite v && itemsFinite vs

def membersFinite : List (String × Json) → Bool
  | [] => true
  | (_, v) :: vs => isFinite v && membersFinite vs

end

theorem equal_self {x : Numeric.Double} (h : x.isFinite = true) : x.equal x = true := by
  cases x with
  | nan => contradiction
  | signed negative units => cases negative <;> simp [Numeric.Double.equal, Numeric.Double.units?]

mutual

theorem same_self : ∀ v : Json, v.isFinite = true → v.same v = true
  | null, _ => rfl
  | bool b, _ => by simp [same]
  | num (.int n), _ => by simp [same, Number.same]
  | num (.float x), h => by
    rw [isFinite] at h
    simp [same, Number.same, equal_self h]
  | str s, _ => by simp [same]
  | arr items, h => by
    rw [isFinite] at h
    rw [same, sameItems_self items h]
  | obj members, h => by
    rw [isFinite] at h
    rw [same, sameMembers_self members h]

theorem sameItems_self : ∀ vs : List Json, itemsFinite vs = true → sameItems vs vs = true
  | [], _ => rfl
  | v :: vs, h => by
    rw [itemsFinite, Bool.and_eq_true] at h
    rw [sameItems, same_self v h.1, sameItems_self vs h.2, Bool.and_self]

theorem sameMembers_self :
    ∀ vs : List (String × Json), membersFinite vs = true → sameMembers vs vs = true
  | [], _ => rfl
  | (k, v) :: vs, h => by
    rw [membersFinite, Bool.and_eq_true] at h
    rw [sameMembers, same_self v h.1, sameMembers_self vs h.2]
    simp

end

end Json

/-! ## Tokens and their functions -/

section Resolving

variable {α : Type}

/-- The generator of the token's name is registered and makes a function of the arguments. -/
def Token.Makes (generators : Dict (Generator α)) (k : Token) (f : α) : Prop :=
  ∃ g, generators.get? k.name = some g ∧ g k.args = .ok f

/-- There is no generator of the token's name, or it refuses the arguments. -/
inductive Token.Fails (kind : Kind) (generators : Dict (Generator α)) (k : Token) :
    RuleError → Prop
  | unknown (h : generators.get? k.name = none) : Fails kind generators k (.unknown kind k.name)
  | refused {g : Generator α} {e : RuleError} (h : generators.get? k.name = some g)
      (hargs : g k.args = .error e) : Fails kind generators k e

/-- The error of the first token that fails. -/
def Token.FirstFails (kind : Kind) (generators : Dict (Generator α)) (ks : List Token)
    (e : RuleError) : Prop :=
  ∃ before k after, ks = before ++ k :: after ∧ (∀ j ∈ before, ∃ f, j.Makes generators f) ∧
    k.Fails kind generators e

variable {generate : String → List String → Except RuleError α}

theorem resolve_eq_mapM : ∀ ks : List Token, Rule.resolve generate ks =
    ks.mapM fun k => (generate k.name k.args).map (k.name, ·)
  | [] => rfl
  | k :: ks => by
    rw [Rule.resolve, List.mapM_cons, resolve_eq_mapM ks]
    cases generate k.name k.args <;> rfl

/-- **Tokens are resolved one by one.** -/
theorem resolve_eq_ok_iff {ks : List Token} {fs : List (String × α)} :
    Rule.resolve generate ks = .ok fs ↔
      List.Forall₂ (fun k f => f.1 = k.name ∧ generate k.name k.args = .ok f.2) ks fs := by
  have hbound (k : Token) (f : String × α) : (generate k.name k.args).map (k.name, ·) = .ok f ↔
      f.1 = k.name ∧ generate k.name k.args = .ok f.2 := by
    obtain ⟨name, f⟩ := f
    simp [map_eq_ok, and_comm, eq_comm]
  rw [resolve_eq_mapM, mapM_eq_ok_iff]
  simp only [hbound]

/-- **The first token that cannot be resolved is reported.** -/
theorem resolve_eq_error_iff {e : RuleError} {ks : List Token} :
    Rule.resolve generate ks = .error e ↔ ∃ before k after, ks = before ++ k :: after ∧
      (∀ j ∈ before, ∃ f, generate j.name j.args = .ok f) ∧ generate k.name k.args = .error e := by
  have hmade (k : Token) : (∃ f, (generate k.name k.args).map (k.name, ·) = .ok f) ↔
      ∃ f, generate k.name k.args = .ok f := by
    simp [map_eq_ok]
  rw [resolve_eq_mapM, mapM_eq_error_iff]
  simp only [hmade, map_eq_error]

end Resolving

section Registries

variable {α : Type} {kind : Kind} {generators : Dict (Generator α)}
  {generate : String → List String → Except RuleError α} {k : Token} {ks : List Token} {f : α}
  {fs : List (String × α)} {e : RuleError}

/-- A registry's answers for one kind of generator: what the named generator says to the arguments,
or that there is none. -/
def Answers (kind : Kind) (generators : Dict (Generator α))
    (generate : String → List String → Except RuleError α) : Prop :=
  ∀ name args, generate name args = match generators.get? name with
    | some g => g args
    | none => .error (.unknown kind name)

theorem Answers.ok_iff (h : Answers kind generators generate) :
    generate k.name k.args = .ok f ↔ k.Makes generators f := by
  rw [h, Token.Makes]
  cases generators.get? k.name with
  | none => simp
  | some g => simp

theorem Answers.error_iff (h : Answers kind generators generate) :
    generate k.name k.args = .error e ↔ k.Fails kind generators e := by
  rw [h]
  constructor
  · intro he
    split at he
    · next g hg => exact .refused hg he
    · next hnone => exact Except.error.inj he ▸ .unknown hnone
  · rintro (hnone | ⟨hg, hargs⟩)
    · rw [hnone]
    · rw [hg]
      exact hargs

/-- The token is bound to a function, under its name. -/
def Token.Binds (generators : Dict (Generator α)) (k : Token) (f : String × α) : Prop :=
  f.1 = k.name ∧ k.Makes generators f.2

/-- Tokens can be bound to functions iff their generators make some. -/
theorem exists_binds_iff : (∃ fs, List.Forall₂ (Token.Binds generators) ks fs) ↔
    ∀ k ∈ ks, ∃ f, k.Makes generators f := by
  have hbinds (k : Token) : (∃ f, k.Binds generators f) ↔ ∃ f, k.Makes generators f :=
    ⟨fun ⟨f, _, hf⟩ => ⟨f.2, hf⟩, fun ⟨f, hf⟩ => ⟨(k.name, f), rfl, hf⟩⟩
  simp only [exists_forall₂_iff, hbinds]

theorem Answers.resolve_eq_ok (h : Answers kind generators generate) :
    Rule.resolve generate ks = .ok fs ↔ List.Forall₂ (Token.Binds generators) ks fs := by
  have hbinds (k : Token) (f : String × α) :
      (f.1 = k.name ∧ generate k.name k.args = .ok f.2) ↔ k.Binds generators f :=
    and_congr_right fun _ => h.ok_iff
  rw [resolve_eq_ok_iff]
  simp only [hbinds]

theorem Answers.resolve_eq_error (h : Answers kind generators generate) :
    Rule.resolve generate ks = .error e ↔ Token.FirstFails kind generators ks e := by
  rw [resolve_eq_error_iff, Token.FirstFails]
  simp only [h.ok_iff, h.error_iff]

end Registries

namespace Rule

variable {registry : Registry} {text : String} {rule : Rule} {e : RuleError}

theorem mapper_answers (registry : Registry) :
    Answers .mapper registry.mappers registry.mapper := fun name _ => by
  rw [Registry.mapper]
  cases registry.mappers.get? name <;> rfl

theorem validator_answers (registry : Registry) :
    Answers .validator registry.validators registry.validator := fun name _ => by
  rw [Registry.validator]
  cases registry.validators.get? name <;> rfl

/-- **A compiled rule has the function of each token**, in their order. -/
theorem compile_eq_ok_iff : compile registry text = .ok rule ↔ rule.tag = some text ∧
    ∃ tag, Tag.parse text = .ok tag ∧
      List.Forall₂ (Token.Binds registry.mappers) tag.mappers rule.mappers ∧
      List.Forall₂ (Token.Binds registry.validators) tag.validators rule.validators := by
  constructor
  · intro h
    obtain ⟨tag, hparse, h⟩ := bind_eq_ok.mp h
    obtain ⟨mappers, hmappers, h⟩ := bind_eq_ok.mp h
    obtain ⟨validators, hvalidators, h⟩ := bind_eq_ok.mp h
    obtain rfl : Rule.mk (some text) mappers validators = rule := Except.ok.inj h
    exact ⟨rfl, tag, hparse, (mapper_answers registry).resolve_eq_ok.mp hmappers,
      (validator_answers registry).resolve_eq_ok.mp hvalidators⟩
  · rintro ⟨htag, tag, hparse, hmappers, hvalidators⟩
    obtain ⟨_, mappers, validators⟩ := rule
    obtain rfl := htag
    have hms := (mapper_answers registry).resolve_eq_ok.mpr hmappers
    have hvs := (validator_answers registry).resolve_eq_ok.mpr hvalidators
    exact bind_eq_ok.mpr ⟨tag, hparse, bind_eq_ok.mpr ⟨_, hms, bind_eq_ok.mpr ⟨_, hvs, rfl⟩⟩⟩

/-- An annotation is compiled iff it is read and every generator makes a function. -/
theorem exists_compile_iff : (∃ rule, compile registry text = .ok rule) ↔
    ∃ tag, Tag.parse text = .ok tag ∧ (∀ k ∈ tag.mappers, ∃ f, k.Makes registry.mappers f) ∧
      ∀ k ∈ tag.validators, ∃ f, k.Makes registry.validators f := by
  simp only [compile_eq_ok_iff, ← exists_binds_iff]
  constructor
  · rintro ⟨rule, _, tag, hparse, hmappers, hvalidators⟩
    exact ⟨tag, hparse, ⟨_, hmappers⟩, _, hvalidators⟩
  · rintro ⟨tag, hparse, ⟨mappers, hmappers⟩, validators, hvalidators⟩
    exact ⟨⟨some text, mappers, validators⟩, rfl, tag, hparse, hmappers, hvalidators⟩

/-- **The error of an annotation is that of reading it**, or that of the first token that fails,
mappers first. -/
theorem compile_eq_error_iff : compile registry text = .error e ↔ Tag.parse text = .error e ∨
    ∃ tag, Tag.parse text = .ok tag ∧
      (Token.FirstFails .mapper registry.mappers tag.mappers e ∨
        (∀ k ∈ tag.mappers, ∃ f, k.Makes registry.mappers f) ∧
          Token.FirstFails .validator registry.validators tag.validators e) := by
  have hmappers := mapper_answers registry
  have hvalidators := validator_answers registry
  rw [compile, bind_eq_error]
  refine or_congr_right (exists_congr fun tag => and_congr_right fun _ => ?_)
  rw [ofTag, bind_eq_error, hmappers.resolve_eq_error]
  refine or_congr_right ?_
  constructor
  · rintro ⟨fs, hfs, h⟩
    refine ⟨exists_binds_iff.mp ⟨fs, hmappers.resolve_eq_ok.mp hfs⟩, ?_⟩
    obtain h | ⟨_, _, hpure⟩ := bind_eq_error.mp h
    · exact hvalidators.resolve_eq_error.mp h
    · cases hpure
  · rintro ⟨hmake, hfails⟩
    obtain ⟨fs, hfs⟩ := exists_binds_iff.mpr hmake
    exact ⟨fs, hmappers.resolve_eq_ok.mpr hfs,
      bind_eq_error.mpr (.inl (hvalidators.resolve_eq_error.mpr hfails))⟩

end Rule

/-! ## Chains -/

section Chains

variable {ms ns : List (String × Mapper)} {v : Json}

/-- What the mappers answer, each to what the ones before have left. -/
def answers : List (String × Mapper) → Json → List (Option Json)
  | [], _ => []
  | (_, m) :: ms, v => m v :: answers ms ((m v).getD v)

/-- What the mappers leave of a value, one after the other; no answer leaves it as it is. -/
def carried (ms : List (String × Mapper)) (v : Json) : Json :=
  ms.foldl (fun w m => (m.2 w).getD w) v

/-- **A chain is empty-handed iff all of its mappers are.** -/
theorem mapFrom_eq_none_iff : ∀ {ms : List (String × Mapper)} {current : Option Json},
    Rule.mapFrom v current ms = none ↔
      current = none ∧ ∀ a ∈ answers ms (current.getD v), a = none
  | [], current => by simp [Rule.mapFrom, answers]
  | (_, m) :: ms, current => by
    rw [Rule.mapFrom, answers]
    cases hm : m (current.getD v) with
    | none => simp [mapFrom_eq_none_iff]
    | some next => simp [mapFrom_eq_none_iff]

/-- **What a chain gives, it has carried there.** -/
theorem getD_mapFrom : ∀ (ms : List (String × Mapper)) (current : Option Json),
    (Rule.mapFrom v current ms).getD v = carried ms (current.getD v)
  | [], current => rfl
  | (_, m) :: ms, current => by
    rw [Rule.mapFrom, carried, List.foldl_cons, ← carried]
    dsimp only
    cases m (current.getD v) with
    | none => exact getD_mapFrom ms current
    | some next => exact getD_mapFrom ms (some next)

theorem mapFrom_append (current : Option Json) : ∀ (ms ns : List (String × Mapper)),
    Rule.mapFrom v current (ms ++ ns) = Rule.mapFrom v (Rule.mapFrom v current ms) ns
  | [], _ => rfl
  | (_, m) :: ms, ns => by
    rw [List.cons_append, Rule.mapFrom, Rule.mapFrom]
    cases m (current.getD v) with
    | none => exact mapFrom_append current ms ns
    | some next => exact mapFrom_append (some next) ms ns

/-- A chain that goes on from a value gives what it gives for that value alone, or the value. -/
theorem mapFrom_eq_or : ∀ (v : Json) (ms : List (String × Mapper)) (current : Option Json),
    Rule.mapFrom v current ms = (Rule.mapFrom (current.getD v) none ms).or current
  | _, [], current => by simp [Rule.mapFrom]
  | v, (_, m) :: ms, current => by
    rw [Rule.mapFrom, Rule.mapFrom, Option.getD_none]
    cases m (current.getD v) with
    | none => exact mapFrom_eq_or v ms current
    | some next =>
      dsimp only
      rw [mapFrom_eq_or v ms (some next), mapFrom_eq_or (current.getD v) ms (some next),
        Option.or_assoc, Option.some_or]
      rfl

end Chains

/-! ## What a rule makes of a value -/

namespace Rule

variable {rule : Rule} {v : Json} {hint : Hint}

/-- What a rule is to make of a value: nothing if all mappers leave it as it is, otherwise what the
chain has carried it to; and the messages of all validators about that, with what is known of the
value's type if it has come back to the value. -/
structure Yields (rule : Rule) (v : Json) (hint : Hint) (o : Outcome) : Prop where
  unmapped : o.mapped = none ↔ ∀ a ∈ answers rule.mappers v, a = none
  mapped : o.mapped ≠ none → o.mapped = some (carried rule.mappers v)
  messages : o.messages = messagesOf (rule.validators.map Prod.snd) (carried rule.mappers v)
    (if (carried rule.mappers v).same v then hint else .unknown)

theorem mapped_act (rule : Rule) (v : Json) (hint : Hint) :
    (rule.act v hint).mapped = rule.map v := by
  rw [act]
  cases rule.map v <;> rfl

theorem getD_map (rule : Rule) (v : Json) : (rule.map v).getD v = carried rule.mappers v :=
  getD_mapFrom rule.mappers none

/-- **A rule makes of a value what it is to make.** -/
theorem yields_act (rule : Rule) (hint : Hint) (h : v.isFinite = true) :
    rule.Yields v hint (rule.act v hint) := by
  have hcarried := rule.getD_map v
  refine ⟨?_, ?_, ?_⟩
  · rw [mapped_act, map, mapFrom_eq_none_iff]
    simp
  · rw [mapped_act]
    intro hne
    obtain ⟨w, hw⟩ := Option.ne_none_iff_exists'.mp hne
    rw [hw, ← hcarried, hw, Option.getD_some]
  · rw [act, ← check_eq_messagesOf, ← hcarried]
    cases rule.map v with
    | none => rw [Option.getD_none, v.same_self h, if_pos rfl]
    | some w => rfl

/-! ## Parts that are joined -/

/-- A rule that maps as one rule and then as another, and asks the validators of both. -/
structure Joins (r s joined : Rule) : Prop where
  mappers : joined.mappers = r.mappers ++ s.mappers
  validators : joined.validators = r.validators ++ s.validators

variable {r s joined : Rule}

/-- **Joined chains compose.** -/
theorem Joins.map_eq (h : Joins r s joined) (v : Json) :
    joined.map v = (s.map (carried r.mappers v)).or (r.map v) := by
  rw [map, h.mappers, mapFrom_append, mapFrom_eq_or, ← map, ← map, getD_map]

theorem Joins.carried_eq (h : Joins r s joined) (v : Json) :
    carried joined.mappers v = carried s.mappers (carried r.mappers v) := by
  rw [h.mappers, carried, List.foldl_append]
  rfl

/-- **The messages of joined validators follow each other.** -/
theorem Joins.check_eq (h : Joins r s joined) (w : Json) (hint : Hint) :
    joined.check w hint = r.check w hint ++ s.check w hint := by
  rw [check, h.validators, List.filterMap_append, List.filter_append]
  rfl

/-- **Each validator answers as if it were alone.** -/
theorem check_eq_flatMap (rule : Rule) (w : Json) (hint : Hint) : rule.check w hint =
    rule.validators.flatMap fun f => check { rule with validators := [f] } w hint := by
  obtain ⟨tag, mappers, validators⟩ := rule
  induction validators with
  | nil => rfl
  | cons f fs ih =>
    have hjoins : Joins ⟨tag, mappers, [f]⟩ ⟨tag, [], fs⟩ ⟨tag, mappers, f :: fs⟩ :=
      ⟨by simp, rfl⟩
    rw [List.flatMap_cons, hjoins.check_eq]
    exact congrArg _ ih

theorem messages_act_eq_flatMap (rule : Rule) (v : Json) (hint : Hint) :
    (rule.act v hint).messages =
      rule.validators.flatMap fun f => (act { rule with validators := [f] } v hint).messages := by
  have hmap (f : String × Validator) : map { rule with validators := [f] } v = rule.map v := rfl
  simp only [act, hmap]
  cases rule.map v with
  | none => exact rule.check_eq_flatMap v hint
  | some w => exact rule.check_eq_flatMap w _

/-! ## Annotations that are joined -/

/-- The text of a piece is that of a token without faults, which is bound to a function. -/
def PieceBinds {α : Type} (generators : Dict (Generator α)) (text : List Char)
    (f : String × α) : Prop :=
  Piece.fault? ⟨0, text⟩ = none ∧ Token.Binds generators (Piece.token ⟨0, text⟩) f

/-- What is read and bound in a part does not depend on where it stands. -/
theorem exists_tokens_iff {α : Type} {generators : Dict (Generator α)} (tag : String)
    (offset : Nat) {part : List Char} {fs : List (String × α)} :
    (∃ ks, Tag.tokens tag (Piece.locate offset (pieces ';' part)) = .ok ks ∧
      List.Forall₂ (Token.Binds generators) ks fs) ↔
    List.Forall₂ (PieceBinds generators) (trimmedPieces part) fs := by
  have hpiece (p : Piece) (f : String × α) :
      PieceBinds generators p.text f ↔ p.fault? = none ∧ Token.Binds generators p.token f :=
    and_congr_left' ((Piece.fault?_eq_none_iff _).trans p.fault?_eq_none_iff.symm)
  rw [trimmedPieces, ← Piece.map_text_locate offset, List.forall₂_map_left_iff]
  simp only [hpiece, List.forall₂_and_left, Tag.tokens_eq_ok_iff]
  constructor
  · rintro ⟨_, ⟨rfl, hfault⟩, hfs⟩
    exact ⟨hfault, List.forall₂_map_left_iff.mp hfs⟩
  · rintro ⟨hfault, hfs⟩
    exact ⟨_, ⟨rfl, hfault⟩, List.forall₂_map_left_iff.mpr hfs⟩

variable {registry : Registry} {text left right : String}

/-- **A compiled rule is made of the pieces of its parts.** -/
theorem compile_eq_ok_iff_pieces : compile registry text = .ok rule ↔ rule.tag = some text ∧
    List.Forall₂ (PieceBinds registry.mappers) (trimmedPieces (Tag.parts text.toList).1)
      rule.mappers ∧
    List.Forall₂ (PieceBinds registry.validators) (trimmedPieces (Tag.parts text.toList).2.1)
      rule.validators := by
  rw [compile_eq_ok_iff, ← exists_tokens_iff text 0,
    ← exists_tokens_iff text (Tag.parts text.toList).2.2]
  refine and_congr_right fun _ => ⟨?_, ?_⟩
  · rintro ⟨tag, hparse, hmappers, hvalidators⟩
    obtain ⟨ms, hms, h⟩ := bind_eq_ok.mp hparse
    obtain ⟨vs, hvs, h⟩ := bind_eq_ok.mp h
    obtain rfl : Tag.mk ms vs = tag := Except.ok.inj h
    exact ⟨⟨ms, hms, hmappers⟩, vs, hvs, hvalidators⟩
  · rintro ⟨⟨ms, hms, hmappers⟩, vs, hvs, hvalidators⟩
    have hparse : Tag.parse text = .ok ⟨ms, vs⟩ :=
      bind_eq_ok.mpr ⟨ms, hms, bind_eq_ok.mpr ⟨vs, hvs, rfl⟩⟩
    exact ⟨⟨ms, vs⟩, hparse, hmappers, hvalidators⟩

/-- If the pieces of an annotation are those of two others, its rule joins theirs. -/
theorem compile_joined_of_parts
    (hmappers : trimmedPieces (Tag.parts text.toList).1 =
      trimmedPieces (Tag.parts left.toList).1 ++ trimmedPieces (Tag.parts right.toList).1)
    (hvalidators : trimmedPieces (Tag.parts text.toList).2.1 =
      trimmedPieces (Tag.parts left.toList).2.1 ++ trimmedPieces (Tag.parts right.toList).2.1) :
    compile registry text = .ok joined ↔ joined.tag = some text ∧
      ∃ r s, compile registry left = .ok r ∧ compile registry right = .ok s ∧ Joins r s joined := by
  simp only [compile_eq_ok_iff_pieces, hmappers, hvalidators, forall₂_append_iff]
  refine and_congr_right fun _ => ⟨?_, ?_⟩
  · rintro ⟨⟨ms, ms', hms, hms', hm⟩, vs, vs', hvs, hvs', hv⟩
    exact ⟨⟨some left, ms, vs⟩, ⟨some right, ms', vs'⟩, ⟨rfl, hms, hvs⟩, ⟨rfl, hms', hvs'⟩, hm, hv⟩
  · rintro ⟨r, s, ⟨_, hms, hvs⟩, ⟨_, hms', hvs'⟩, hm, hv⟩
    exact ⟨⟨_, _, hms, hms', hm⟩, _, _, hvs, hvs', hv⟩

theorem trimmedPieces_append (a b : List Char) :
    trimmedPieces (a ++ ';' :: b) = trimmedPieces a ++ trimmedPieces b := by
  rw [trimmedPieces, pieces_append, List.map_append, List.filter_append]
  rfl

/-- **Annotations are joined part by part.** -/
theorem compile_joined {a b : String} (ha : ',' ∉ a.toList) (hb : ',' ∉ b.toList) (x y : String) :
    compile registry (a ++ ";" ++ b ++ "," ++ x ++ ";" ++ y) = .ok joined ↔
      joined.tag = some (a ++ ";" ++ b ++ "," ++ x ++ ";" ++ y) ∧
      ∃ r s, compile registry (a ++ "," ++ x) = .ok r ∧ compile registry (b ++ "," ++ y) = .ok s ∧
        Joins r s joined := by
  have hab : (a ++ ";" ++ b ++ "," ++ x ++ ";" ++ y).toList =
      (a.toList ++ ';' :: b.toList) ++ ',' :: (x.toList ++ ';' :: y.toList) := by simp
  have hax : (a ++ "," ++ x).toList = a.toList ++ ',' :: x.toList := by simp
  have hby : (b ++ "," ++ y).toList = b.toList ++ ',' :: y.toList := by simp
  have hcomma : ',' ∉ a.toList ++ ';' :: b.toList := by simp [ha, hb]
  refine compile_joined_of_parts ?_ ?_
  · rw [Tag.parts_of_comma hab hcomma, Tag.parts_of_comma hax ha, Tag.parts_of_comma hby hb,
      trimmedPieces_append]
  · rw [Tag.parts_of_comma hab hcomma, Tag.parts_of_comma hax ha, Tag.parts_of_comma hby hb,
      trimmedPieces_append]

theorem compile_joined_of_no_comma {x y : String} (hx : ',' ∉ x.toList) (hy : ',' ∉ y.toList) :
    compile registry (x ++ ";" ++ y) = .ok joined ↔ joined.tag = some (x ++ ";" ++ y) ∧
      ∃ r s, compile registry x = .ok r ∧ compile registry y = .ok s ∧ Joins r s joined := by
  have hxy : (x ++ ";" ++ y).toList = x.toList ++ ';' :: y.toList := by simp
  have hcomma : ',' ∉ x.toList ++ ';' :: y.toList := by simp [hx, hy]
  refine compile_joined_of_parts ?_ ?_
  · rw [hxy, Tag.parts_of_no_comma hcomma, Tag.parts_of_no_comma hx, Tag.parts_of_no_comma hy]
    rfl
  · rw [hxy, Tag.parts_of_no_comma hcomma, Tag.parts_of_no_comma hx, Tag.parts_of_no_comma hy,
      trimmedPieces_append]

/-- **What an annotation means.**  It is compiled iff it is read and every token's generator is
registered and makes a function; otherwise the error is that of reading it, or that of the first
token that fails, mappers first.  A compiled rule maps as a chain, and all its validators are asked
about what the chain has left.  Chains of annotations that are joined compose, and the messages of
their validators follow each other; no validator matters to another, or to the mappers. -/
theorem compile_meaning (registry : Registry) :
    (∀ text,
      ((∃ rule, compile registry text = .ok rule) ↔ ∃ tag, Tag.parse text = .ok tag ∧
        (∀ k ∈ tag.mappers, ∃ f, k.Makes registry.mappers f) ∧
          ∀ k ∈ tag.validators, ∃ f, k.Makes registry.validators f) ∧
      (∀ rule, compile registry text = .ok rule ↔ rule.tag = some text ∧
        ∃ tag, Tag.parse text = .ok tag ∧
          List.Forall₂ (Token.Binds registry.mappers) tag.mappers rule.mappers ∧
          List.Forall₂ (Token.Binds registry.validators) tag.validators rule.validators) ∧
      ∀ e, compile registry text = .error e ↔ Tag.parse text = .error e ∨
        ∃ tag, Tag.parse text = .ok tag ∧
          (Token.FirstFails .mapper registry.mappers tag.mappers e ∨
            (∀ k ∈ tag.mappers, ∃ f, k.Makes registry.mappers f) ∧
              Token.FirstFails .validator registry.validators tag.validators e)) ∧
    (∀ (rule : Rule) v hint, v.isFinite = true → rule.Yields v hint (rule.act v hint)) ∧
    (∀ (a b x y : String) joined, ',' ∉ a.toList → ',' ∉ b.toList →
      (compile registry (a ++ ";" ++ b ++ "," ++ x ++ ";" ++ y) = .ok joined ↔
        joined.tag = some (a ++ ";" ++ b ++ "," ++ x ++ ";" ++ y) ∧
        ∃ r s, compile registry (a ++ "," ++ x) = .ok r ∧
          compile registry (b ++ "," ++ y) = .ok s ∧ Joins r s joined)) ∧
    (∀ (x y : String) joined, ',' ∉ x.toList → ',' ∉ y.toList →
      (compile registry (x ++ ";" ++ y) = .ok joined ↔ joined.tag = some (x ++ ";" ++ y) ∧
        ∃ r s, compile registry x = .ok r ∧ compile registry y = .ok s ∧ Joins r s joined)) ∧
    (∀ r s joined, Joins r s joined → ∀ v w hint,
      joined.map v = (s.map (carried r.mappers v)).or (r.map v) ∧
      carried joined.mappers v = carried s.mappers (carried r.mappers v) ∧
      joined.check w hint = r.check w hint ++ s.check w hint) ∧
    ∀ (rule : Rule) v hint,
      ((rule.act v hint).messages = rule.validators.flatMap fun f =>
        (act { rule with validators := [f] } v hint).messages) ∧
      ∀ fs, (act { rule with validators := fs } v hint).mapped = (rule.act v hint).mapped := by
  refine ⟨fun text =>
      ⟨exists_compile_iff, fun _ => compile_eq_ok_iff, fun _ => compile_eq_error_iff⟩,
    fun rule _ hint hv => rule.yields_act hint hv, fun a b x y _ ha hb => compile_joined ha hb x y,
    fun _ _ _ hx hy => compile_joined_of_no_comma hx hy, fun _ _ _ h v w hint => ?_,
    fun rule v hint => ⟨rule.messages_act_eq_flatMap v hint, fun fs => ?_⟩⟩
  · exact ⟨h.map_eq v, h.carried_eq v, h.check_eq w hint⟩
  · rw [mapped_act, mapped_act]
    rfl

/-- Of two validators that fail, the first is reported; and a value that comes back to itself is
checked with what is known of its type. -/
theorem compile_meaning_builtin :
    compile .builtin "upper;len,nope;max=x" = .error (.unknown .validator "nope") ∧
    (act ⟨none,
      [("not", fun v => some (.bool v.isEmpty)), ("not", fun v => some (.bool v.isEmpty))],
      [("known", fun _ hint => some (toString hint.zero?.isSome))]⟩ (.bool true)
        (.zero false)).messages = ["true"] := by
  have hread : Tag.parse "upper;len,nope;max=x" = .ok
      ⟨[⟨"upper", [], 0⟩, ⟨"len", [], 6⟩], [⟨"nope", [], 10⟩, ⟨"max", ["x"], 15⟩]⟩ := by
    decide +kernel
  have hmakes : ∀ k ∈ [Token.mk "upper" [] 0, Token.mk "len" [] 6],
      ∃ f, k.Makes Registry.builtin.mappers f := by
    simp only [List.forall_mem_cons, List.not_mem_nil, false_imp_iff, implies_true, and_true]
    exact ⟨⟨_, Registry.upperMapper, rfl, rfl⟩, _, Registry.lenMapper, rfl, rfl⟩
  have hfails : Token.FirstFails .validator Registry.builtin.validators
      [⟨"nope", [], 10⟩, ⟨"max", ["x"], 15⟩] (.unknown .validator "nope") :=
    ⟨[], _, _, rfl, by simp, .unknown rfl⟩
  obtain ⟨hcompile, hact, _⟩ := compile_meaning .builtin
  refine ⟨((hcompile _).2.2 _).mpr (.inr ⟨_, hread, .inr ⟨hmakes, hfails⟩⟩), ?_⟩
  rw [(hact _ _ _ rfl).messages]
  rfl

end Rule

end FieldRules
