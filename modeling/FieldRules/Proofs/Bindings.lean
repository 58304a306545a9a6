import FieldRules.Proofs.Chains
import FieldRules.Proofs.Fresh
import FieldRules.Registry.Builtin
import Mathlib.Data.List.Induction

/-!
# Proofs/Bindings — what a registry binds names to after any changes

A **change** registers a generator under a name, or makes an alias: the name gets the generator that
another name has at that moment.  One change binds at most one name of one kind and leaves all
others alone (`table_changed_of_not_binds`), so after a history a name is bound by the last change
that bound it (`bound_after`), or by none (`unbound_after`).  Together: `registry_remembers`.
-/

namespace FieldRules

/-! ## Changes -/

/-- What the generators of a kind make. -/
abbrev Kind.Made : Kind → Type
  | .mapper => Mapper
  | .validator => Validator

/-- One change to a registry: a generator under a name, or the generator of a target under another
name too. -/
inductive Change where
  | register (kind : Kind) (name : String) (g : Generator kind.Made)
  | aliasOf (kind : Kind) (name target : String)

/-- The kind of generator that a change is about. -/
def Change.kind : Change → Kind
  | register kind _ _ => kind
  | aliasOf kind _ _ => kind

namespace Registry

/-- The generators of one kind. -/
def table (r : Registry) : (kind : Kind) → Dict (Generator kind.Made)
  | .mapper => r.mappers
  | .validator => r.validators

/-- What the named generator of a kind makes of arguments. -/
def generate (r : Registry) : (kind : Kind) → String → List String → Except RuleError kind.Made
  | .mapper => r.mapper
  | .validator => r.validator

/-- The names of one kind. -/
def names (r : Registry) : Kind → List String
  | .mapper => r.mapperNames
  | .validator => r.validatorNames

/-- The registry with a generator under a name. -/
def bind (r : Registry) : (kind : Kind) → String → Generator kind.Made → Registry
  | .mapper => r.registerMapper
  | .validator => r.registerValidator

/-- What a registry makes of a change: the registry with the change, or why there is none. -/
def request (r : Registry) : Change → Except RuleError Registry
  | .register kind name g => .ok (r.bind kind name g)
  | .aliasOf .mapper name target => r.aliasMapper name target
  | .aliasOf .validator name target => r.aliasValidator name target

/-- The registry after a change; one that fails leaves it as it is. -/
def changed (r : Registry) (c : Change) : Registry := (r.request c).toOption.getD r

/-- The registry after some changes. -/
def after (r : Registry) (history : List Change) : Registry := history.foldl changed r

end Registry

/-- A change binds a name of its kind: to the generator that it registers, or to the one that the
target of an alias has in the registry as it is then. -/
inductive Change.Binds (r : Registry) :
    Change → (kind : Kind) → String → Generator kind.Made → Prop
  | register (kind : Kind) (name : String) (g : Generator kind.Made) :
      Binds r (.register kind name g) kind name g
  | aliasOf {kind : Kind} (name : String) {target : String} {g : Generator kind.Made}
      (h : (r.table kind).get? target = some g) : Binds r (.aliasOf kind name target) kind name g

/-- None of the changes binds the name when its turn comes. -/
def Registry.Spares (r : Registry) (history : List Change) (kind : Kind) (name : String) : Prop :=
  ∀ before c, before ++ [c] <+: history → ∀ g, ¬ c.Binds (r.after before) kind name g

/-! ## One change -/

namespace Registry

variable {r : Registry} {c : Change} {kind : Kind} {name : String} {g : Generator kind.Made}

theorem generate_answers (r : Registry) (kind : Kind) :
    Answers kind (r.table kind) (r.generate kind) :=
  match kind with
  | .mapper => Rule.mapper_answers r
  | .validator => Rule.validator_answers r

theorem generate_of_some (h : (r.table kind).get? name = some g) (args : List String) :
    r.generate kind name args = g args := by
  rw [r.generate_answers kind, h]

theorem generate_of_none (h : (r.table kind).get? name = none) (args : List String) :
    r.generate kind name args = .error (.unknown kind name) := by
  rw [r.generate_answers kind, h]

theorem eq_of_table {s : Registry} (h : ∀ kind, r.table kind = s.table kind) : r = s := by
  obtain ⟨mappers, validators⟩ := r
  obtain ⟨mappers', validators'⟩ := s
  exact congrArg₂ Registry.mk (h .mapper) (h .validator)

theorem names_eq (r : Registry) (kind : Kind) : r.names kind = (r.table kind).keys := by
  cases kind <;> rfl

theorem table_bind_self (r : Registry) (kind : Kind) (name : String) (g : Generator kind.Made) :
    (r.bind kind name g).table kind = (r.table kind).insert name g := by
  cases kind <;> rfl

theorem table_bind_of_ne {other : Kind} (r : Registry) (name : String) (g : Generator kind.Made)
    (h : other ≠ kind) : (r.bind kind name g).table other = r.table other := by
  cases kind <;> cases other <;> first | rfl | exact absurd rfl h

theorem request_aliasOf_of_some {target : String} : ∀ {kind : Kind} {g : Generator kind.Made},
    (r.table kind).get? target = some g →
      r.request (.aliasOf kind name target) = .ok (r.bind kind name g)
  | .mapper, _, h => by
    rw [request, aliasMapper, show r.mappers.get? target = _ from h]
    rfl
  | .validator, _, h => by
    rw [request, aliasValidator, show r.validators.get? target = _ from h]
    rfl

/-- **A change that binds a name succeeds.** -/
theorem request_of_binds (h : c.Binds r kind name g) : r.request c = .ok (r.bind kind name g) := by
  rcases h with _ | ⟨_, h⟩
  · rfl
  · exact request_aliasOf_of_some h

/-- **An alias of a name that is not bound fails.** -/
theorem request_of_unbound {target : String} (h : (r.table kind).get? target = none)
    (name : String) :
    r.request (.aliasOf kind name target) = .error (.unknown kind target) := by
  cases kind with
  | mapper => rw [request, aliasMapper, show r.mappers.get? target = _ from h]
  | validator => rw [request, aliasValidator, show r.validators.get? target = _ from h]

theorem changed_of_binds (h : c.Binds r kind name g) : r.changed c = r.bind kind name g := by
  rw [changed, request_of_binds h]
  rfl

/-- Every change binds a name, or is an alias of a name that is not bound and changes nothing. -/
theorem binds_or_unbound (r : Registry) (c : Change) :
    (∃ kind name g, c.Binds r kind name g) ∨
      ∃ kind name target, c = .aliasOf kind name target ∧ (r.table kind).get? target = none := by
  rcases c with ⟨kind, name, g⟩ | ⟨kind, name, target⟩
  · exact .inl ⟨kind, name, g, .register kind name g⟩
  · rcases h : (r.table kind).get? target with _ | g
    · exact .inr ⟨kind, name, target, rfl, h⟩
    · exact .inl ⟨kind, name, g, .aliasOf name h⟩

/-- **A change leaves alone what it does not bind.** -/
theorem table_changed_of_not_binds (h : ∀ g, ¬ c.Binds r kind name g) :
    ((r.changed c).table kind).get? name = (r.table kind).get? name := by
  obtain ⟨kind', name', g, hc⟩ | ⟨kind', name', target, rfl, hnone⟩ := r.binds_or_unbound c
  · rw [changed_of_binds hc]
    by_cases hkind : kind = kind'
    · subst hkind
      rw [table_bind_self, Dict.get?_insert, if_neg]
      rintro rfl
      exact h g hc
    · rw [table_bind_of_ne r name' g hkind]
  · rw [changed, request_of_unbound hnone]
    rfl

/-- **What a change binds, it is bound to.** -/
theorem table_changed_of_binds (h : c.Binds r kind name g) :
    ((r.changed c).table kind).get? name = some g := by
  rw [changed_of_binds h, table_bind_self, Dict.get?_insert, if_pos rfl]

/-! ## Histories -/

theorem after_append (r : Registry) (history later : List Change) :
    r.after (history ++ later) = (r.after history).after later := List.foldl_append

theorem after_concat (r : Registry) (history : List Change) (c : Change) :
    r.after (history ++ [c]) = (r.after history).changed c := r.after_append history [c]

theorem spares_nil (r : Registry) (kind : Kind) (name : String) : r.Spares [] kind name := by
  intro before c h
  simp at h

/-- A longer history spares a name iff the shorter one does and the last change does not bind it. -/
theorem spares_concat_iff {history : List Change} : r.Spares (history ++ [c]) kind name ↔
    r.Spares history kind name ∧ ∀ g, ¬ c.Binds (r.after history) kind name g := by
  simp only [Spares, List.prefix_concat_iff]
  constructor
  · intro h
    exact ⟨fun before d hd => h before d (.inr hd), h history c (.inl rfl)⟩
  · rintro ⟨hhistory, hc⟩ before d (heq | hd)
    · obtain ⟨rfl, rfl⟩ := List.append_inj' heq rfl |>.imp_right List.singleton_inj.mp
      exact hc
    · exact hhistory before d hd

/-- **What is spared stays bound as it was.** -/
theorem table_after_of_spares {later : List Change} (h : r.Spares later kind name) :
    ((r.after later).table kind).get? name = (r.table kind).get? name := by
  induction later using List.reverseRecOn with
  | nil => rfl
  | append_singleton later c ih =>
    obtain ⟨hlater, hc⟩ := spares_concat_iff.mp h
    rw [after_concat, table_changed_of_not_binds hc, ih hlater]

end Registry

/-- The last change of a history that binds the name binds it to the generator. -/
def LastBinds (history : List Change) (kind : Kind) (name : String) (g : Generator kind.Made) :
    Prop :=
  ∃ before c later, history = before ++ c :: later ∧
    c.Binds (Registry.empty.after before) kind name g ∧
    (Registry.empty.after (before ++ [c])).Spares later kind name

namespace Registry

variable {history : List Change} {kind : Kind} {name : String} {g : Generator kind.Made}

/-- **A name is bound by the last change that bound it.** -/
theorem bound_after (h : LastBinds history kind name g) :
    ((empty.after history).table kind).get? name = some g := by
  obtain ⟨before, c, later, rfl, hbinds, hspares⟩ := h
  rw [List.append_cons, after_append, table_after_of_spares hspares, after_concat,
    table_changed_of_binds hbinds]

/-- **A name that no change bound is not bound.** -/
theorem unbound_after (h : empty.Spares history kind name) :
    ((empty.after history).table kind).get? name = none := by
  rw [table_after_of_spares h]
  cases kind <;> rfl

/-- A history spares a name, or one of its changes is the last to bind it. -/
theorem spares_or_lastBinds (history : List Change) (kind : Kind) (name : String) :
    empty.Spares history kind name ∨ ∃ g, LastBinds history kind name g := by
  induction history using List.reverseRecOn with
  | nil => exact .inl (spares_nil empty kind name)
  | append_singleton history c ih =>
    by_cases hc : ∃ g, c.Binds (empty.after history) kind name g
    · obtain ⟨g, hg⟩ := hc
      exact .inr ⟨g, history, c, [], rfl, hg, spares_nil _ _ _⟩
    · push Not at hc
      refine ih.imp (fun h => spares_concat_iff.mpr ⟨h, hc⟩) ?_
      rintro ⟨g, before, d, later, rfl, hd, hspares⟩
      refine ⟨g, before, d, later ++ [c], by simp, hd, spares_concat_iff.mpr ⟨hspares, ?_⟩⟩
      rwa [← after_append, List.append_assoc, List.singleton_append]

theorem lastBinds_iff :
    LastBinds history kind name g ↔ ((empty.after history).table kind).get? name = some g := by
  refine ⟨bound_after, fun h => ?_⟩
  obtain hspares | ⟨g', hg'⟩ := spares_or_lastBinds history kind name
  · rw [unbound_after hspares] at h
    cases h
  · rw [bound_after hg', Option.some.injEq] at h
    exact h ▸ hg'

end Registry

/-! ## Names -/

namespace Dict

variable {α : Type} {d : Dict α}

theorem Sorted.pairwise_keys (h : d.Sorted) : d.keys.Pairwise (· < ·) := List.pairwise_map.mpr h

end Dict

namespace Registry

variable {r : Registry} {kind : Kind}

/-- A change keeps the order of names. -/
theorem sorted_changed (h : (r.table kind).Sorted) (c : Change) :
    ((r.changed c).table kind).Sorted := by
  obtain ⟨kind', name, g, hc⟩ | ⟨_, _, _, rfl, hnone⟩ := r.binds_or_unbound c
  · rw [changed_of_binds hc]
    by_cases hkind : kind = kind'
    · subst hkind
      rw [table_bind_self]
      exact h.insert name g
    · rwa [table_bind_of_ne r name g hkind]
  · rwa [changed, request_of_unbound hnone]

theorem sorted_after (h : (r.table kind).Sorted) (history : List Change) :
    ((r.after history).table kind).Sorted := by
  induction history generalizing r with
  | nil => exact h
  | cons c history ih => exact ih (sorted_changed h c)

/-! ## Kinds apart -/

/-- A change of one kind leaves the other kind alone. -/
theorem table_changed_of_kind_ne {c : Change} (h : c.kind ≠ kind) :
    (r.changed c).table kind = r.table kind := by
  obtain ⟨kind', name, g, hc⟩ | ⟨_, _, _, rfl, hnone⟩ := r.binds_or_unbound c
  · rw [changed_of_binds hc, table_bind_of_ne r name g]
    rintro rfl
    rcases hc with _ | _ <;> exact h rfl
  · rw [changed, request_of_unbound hnone]
    rfl

/-- What a change makes of its kind depends on that kind only. -/
theorem table_changed_congr {s : Registry} {c : Change} (h : r.table c.kind = s.table c.kind) :
    (r.changed c).table c.kind = (s.changed c).table c.kind := by
  rcases c with ⟨kind, name, g⟩ | ⟨kind, name, target⟩
  · rw [changed_of_binds (.register kind name g), changed_of_binds (.register kind name g)]
    simpa only [Change.kind, table_bind_self] using congrArg (Dict.insert name g) h
  · have hs : (s.table kind).get? target = (r.table kind).get? target :=
      congrArg (Dict.get? · target) h.symm
    rcases hr : (r.table kind).get? target with _ | g
    · rw [changed, request_of_unbound hr, changed, request_of_unbound (hs.trans hr)]
      exact h
    · rw [changed_of_binds (.aliasOf name hr), changed_of_binds (.aliasOf name (hs.trans hr))]
      simpa only [Change.kind, table_bind_self] using congrArg (Dict.insert name g) h

/-- **The names of one kind are bound as if there had been no changes of the other.** -/
theorem table_after_filter (r : Registry) (history : List Change) (kind : Kind) :
    (r.after history).table kind = (r.after (history.filter (·.kind = kind))).table kind := by
  induction history using List.reverseRecOn with
  | nil => rfl
  | append_singleton history c ih =>
    rw [after_concat, List.filter_append]
    by_cases hc : c.kind = kind
    · subst hc
      simpa [after_concat] using table_changed_congr ih
    · simpa [hc, table_changed_of_kind_ne hc] using ih

/-! ## Annotations -/

end Registry

/-- Tokens are resolved alike by generators that answer them alike. -/
theorem resolve_congr {α : Type} {generate generate' : String → List String → Except RuleError α} :
    ∀ {ks : List Token}, (∀ k ∈ ks, generate k.name k.args = generate' k.name k.args) →
      Rule.resolve generate ks = Rule.resolve generate' ks
  | [], _ => rfl
  | k :: ks, h => by
    obtain ⟨hk, hks⟩ := List.forall_mem_cons.mp h
    rw [Rule.resolve, Rule.resolve, hk, resolve_congr hks]

namespace Registry

/-- Two registries bind the names of a tag's tokens alike. -/
def AgreeOn (r s : Registry) (tag : Tag) : Prop :=
  (∀ k ∈ tag.mappers, r.mappers.get? k.name = s.mappers.get? k.name) ∧
    ∀ k ∈ tag.validators, r.validators.get? k.name = s.validators.get? k.name

/-- **An annotation depends on the bindings of the names that its tokens mention**, and on nothing
else of a registry. -/
theorem compile_congr {r s : Registry} {text : String}
    (h : ∀ tag, Tag.parse text = .ok tag → r.AgreeOn s tag) :
    Rule.compile r text = Rule.compile s text := by
  rw [Rule.compile, Rule.compile]
  rcases hparse : Tag.parse text with e | tag
  · rfl
  · obtain ⟨hmappers, hvalidators⟩ := h tag hparse
    have hm : Rule.resolve r.mapper tag.mappers = Rule.resolve s.mapper tag.mappers :=
      resolve_congr fun k hk => by rw [mapper, mapper, hmappers k hk]
    have hv : Rule.resolve r.validator tag.validators = Rule.resolve s.validator tag.validators :=
      resolve_congr fun k hk => by rw [validator, validator, hvalidators k hk]
    change Rule.ofTag r text tag = Rule.ofTag s text tag
    rw [Rule.ofTag, Rule.ofTag, hm, hv]

/-! ## The built-in generators -/

/-- The changes that register generators of one kind, one after the other. -/
def registrations (kind : Kind) (entries : List (String × Generator kind.Made)) : List Change :=
  entries.map fun e => .register kind e.1 e.2

/-- The changes that make the built-in registry out of one without names. -/
def installation : List Change :=
  registrations .mapper builtinMappers ++ registrations .validator (builtinValidators Pattern.read)

theorem table_after_registrations (r : Registry) (kind : Kind)
    (entries : List (String × Generator kind.Made)) :
    (r.after (registrations kind entries)).table kind =
      entries.foldl (fun d e => Dict.insert e.1 e.2 d) (r.table kind) := by
  induction entries generalizing r with
  | nil => rfl
  | cons e entries ih =>
    refine (ih (r.changed (.register kind e.1 e.2))).trans ?_
    rw [changed_of_binds (.register kind e.1 e.2), table_bind_self, List.foldl_cons]

theorem table_after_registrations_of_ne (r : Registry) {kind other : Kind} (hne : kind ≠ other)
    (entries : List (String × Generator kind.Made)) :
    (r.after (registrations kind entries)).table other = r.table other := by
  induction entries generalizing r with
  | nil => rfl
  | cons e entries ih => exact (ih _).trans (table_changed_of_kind_ne hne)

theorem builtin_eq_after : builtin = empty.after installation := by
  refine eq_of_table fun kind => ?_
  rw [installation, after_append]
  cases kind with
  | mapper =>
    rw [table_after_registrations_of_ne _ (by decide), table_after_registrations]
    rfl
  | validator =>
    rw [table_after_registrations, table_after_registrations_of_ne _ (by decide)]
    rfl

/-! ## The whole history -/

/-- What holds of a registry after a history of changes to one without names. -/
structure Remembers (history : List Change) (r : Registry) : Prop where
  /-- A name generates what the last change that bound it has bound it to. -/
  last : ∀ kind name g, LastBinds history kind name g → r.generate kind name = g
  /-- A name that no change bound is unknown. -/
  unknown : ∀ kind name, empty.Spares history kind name → ∀ args,
    r.generate kind name args = .error (.unknown kind name)
  /-- Every name is of one of these sorts. -/
  sorts : ∀ kind name, empty.Spares history kind name ∨ ∃ g, LastBinds history kind name g
  /-- The names are those that some change bound, in increasing order. -/
  mem_names : ∀ kind name, name ∈ r.names kind ↔ ∃ g, LastBinds history kind name g
  increasing : ∀ kind, (r.names kind).Pairwise (· < ·)
  /-- A generator can be registered under any name, and any name can be an alias of one that is
  bound; no other name and no name of the other kind notices. -/
  accepts : ∀ c kind name g, c.Binds r kind name g → ∃ s, r.request c = .ok s ∧ r.changed c = s ∧
    s.generate kind name = g ∧ ∀ kind' name' args, kind' ≠ kind ∨ name' ≠ name →
      s.generate kind' name' args = r.generate kind' name' args
  /-- An alias of a name that no change bound fails, and changes nothing. -/
  refuses : ∀ kind name target, empty.Spares history kind target →
    r.request (.aliasOf kind name target) = .error (.unknown kind target) ∧
      r.changed (.aliasOf kind name target) = r
  /-- The generators of a kind are those that the changes of that kind alone would leave. -/
  apart : ∀ kind, r.table kind = (empty.after (history.filter (·.kind = kind))).table kind
  /-- An annotation depends on the bindings of the names that its tokens mention. -/
  mentions : ∀ s text, (∀ tag, Tag.parse text = .ok tag → r.AgreeOn s tag) →
    Rule.compile r text = Rule.compile s text

/-- A name that a change does not bind generates what it did before. -/
theorem generate_changed_of_not_binds {r : Registry} {c : Change} {kind : Kind} {name : String}
    (h : ∀ g, ¬ c.Binds r kind name g) (args : List String) :
    (r.changed c).generate kind name args = r.generate kind name args := by
  rw [generate_answers, generate_answers, table_changed_of_not_binds h]

theorem binds_unique {r : Registry} {c : Change} {kind kind' : Kind} {name name' : String}
    {g : Generator kind.Made} {g' : Generator kind'.Made} (h : c.Binds r kind name g)
    (h' : c.Binds r kind' name' g') : kind' = kind ∧ name' = name := by
  rcases h with _ | _ <;> rcases h' with _ | _ <;> exact ⟨rfl, rfl⟩

/-- **A registry remembers its history**, whatever the changes are and whichever of them fail. -/
theorem remembers_after (history : List Change) : Remembers history (empty.after history) where
  last _ _ _ h := funext (generate_of_some (bound_after h))
  unknown _ _ h := generate_of_none (unbound_after h)
  sorts := spares_or_lastBinds history
  mem_names kind name := by
    simp only [lastBinds_iff, names_eq, Dict.mem_keys_iff, Option.ne_none_iff_exists']
  increasing kind := by
    rw [names_eq]
    exact (sorted_after (by cases kind <;> exact List.Pairwise.nil) history).pairwise_keys
  accepts c kind name g h := by
    have hself := table_changed_of_binds h
    refine ⟨_, request_of_binds h, changed_of_binds h, ?_⟩
    rw [← changed_of_binds h]
    refine ⟨funext (generate_of_some hself), fun kind' name' args hne => ?_⟩
    refine generate_changed_of_not_binds (fun g' h' => ?_) args
    obtain ⟨rfl, rfl⟩ := binds_unique h h'
    simp at hne
  refuses kind name target h := by
    have hnone := request_of_unbound (unbound_after h)
    exact ⟨hnone name, by rw [changed, hnone name]; rfl⟩
  apart := table_after_filter empty history
  mentions _ _ h := compile_congr h

/-- **Registries remember their histories**: those that start without names, and those that start
with the built-in generators, which count as registered before all else. -/
theorem registry_remembers (history : List Change) :
    Remembers history (empty.after history) ∧
      Remembers (installation ++ history) (builtin.after history) := by
  refine ⟨remembers_after history, ?_⟩
  rw [builtin_eq_after, ← after_append]
  exact remembers_after (installation ++ history)

end Registry

end FieldRules
