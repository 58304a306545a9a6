import FieldRules.Proofs.Bindings
import FieldRules.Proofs.Literals
import FieldRules.Proofs.Visit

/-!
# Proofs/Signatures — which annotations the built-in generators take

Every built-in name has a **signature**: how many arguments it takes, and what one argument must
write.  A generator makes a function of the arguments that fit its signature and refuses all others
(`Signature.Describes`, one lemma for each way to make generators); so the tokens of an annotation
decide whether it is compiled, and which error it gets (`builtin_annotations`).  Which texts are
patterns, and what is said of the others, is a parameter throughout.
-/

namespace FieldRules

open Numeric (IsDouble WritesNatural)

/-! ## Signatures -/

/-- How the only argument of a generator is read. -/
inductive Reading where
  | length
  | bound
  | pattern (read : Pattern.Reader)

/-- What arguments a generator takes: none, one that can be read, or at least one. -/
inductive Form where
  | nothing
  | one (reading : Reading)
  | choices

/-- The arguments of a generator, and the name that it has in its errors. -/
structure Signature where
  own : String
  form : Form

namespace Reading

/-- What an argument must write, blanks around it left out except in a pattern. -/
def Reads : Reading → String → Prop
  | length, a => ∃ n, WritesNatural (Text.trim a.toList) n
  | bound, a => IsDouble (Text.trim a.toList)
  | pattern read, a => ∃ isMatch, read a = .ok isMatch

/-- What is said of an argument that cannot be read. -/
inductive Complaint : Reading → String → ArgumentFault → Prop
  | integer {a : String} {e : Numeric.NaturalError}
      (h : Numeric.natural? (Text.trim a.toList) = .error e) : Complaint length a (.integer e)
  | double {a : String} {e : Numeric.DoubleError}
      (h : Numeric.double? (Text.trim a.toList) = .error e) : Complaint bound a (.double e)
  | pattern {read : Pattern.Reader} {a detail : String} (h : read a = .error detail) :
      Complaint (pattern read) a (.pattern detail)

variable {reading : Reading} {a : String} {fault fault' : ArgumentFault}

/-- **Only what cannot be read is complained of.** -/
theorem Complaint.not_reads (h : reading.Complaint a fault) : ¬ reading.Reads a := by
  rcases h with h | h | h
  · rintro ⟨n, hn⟩
    rw [Numeric.natural?_eq_ok_iff.mpr hn] at h
    cases h
  · intro hreads
    obtain ⟨x, hx⟩ := Numeric.exists_double?_iff.mpr hreads
    rw [hx] at h
    cases h
  · rintro ⟨p, hp⟩
    rw [h] at hp
    cases hp

theorem Complaint.unique (h : reading.Complaint a fault) (h' : reading.Complaint a fault') :
    fault = fault' := by
  rcases h with h | h | h <;> rcases h' with h' | h' | h'
  · rw [h] at h'
    rw [Except.error.inj h']
  · rw [h] at h'
    rw [Except.error.inj h']
  · rw [h] at h'
    rw [Except.error.inj h']

end Reading

namespace Form

def arity : Form → Arity
  | nothing => .exactly 0
  | one _ => .exactly 1
  | choices => .atLeast 1

/-- The number of arguments is right. -/
def Counts : Form → List String → Prop
  | nothing, args => args = []
  | one _, args => ∃ a, args = [a]
  | choices, args => args ≠ []

/-- The number of arguments is right, and the only one can be read. -/
def Fits : Form → List String → Prop
  | one reading, args => ∃ a, args = [a] ∧ reading.Reads a
  | nothing, args => args = []
  | choices, args => args ≠ []

theorem Fits.counts {form : Form} {args : List String} (h : form.Fits args) : form.Counts args := by
  cases form with
  | one => exact h.imp fun _ => And.left
  | _ => exact h

end Form

/-- The built-in names of a kind, in increasing order, with their signatures. -/
def signatures (read : Pattern.Reader) : Kind → List (String × Signature)
  | .mapper =>
    [("len", ⟨"len", .nothing⟩), ("lower", ⟨"lower", .nothing⟩), ("upper", ⟨"upper", .nothing⟩)]
  | .validator =>
    [("empty", ⟨"empty", .nothing⟩), ("enum", ⟨"enum", .choices⟩), ("len", ⟨"len", .one .length⟩),
      ("lower", ⟨"lower", .nothing⟩), ("max", ⟨"max", .one .bound⟩),
      ("max_len", ⟨"max_len", .one .length⟩), ("min", ⟨"min", .one .bound⟩),
      ("min_len", ⟨"min_len", .one .length⟩), ("nil", ⟨"nil", .nothing⟩),
      ("not_empty", ⟨"not_empty", .nothing⟩), ("not_nil", ⟨"not_nil", .nothing⟩),
      ("regex", ⟨"regex", .one (.pattern read)⟩), ("required", ⟨"not_empty", .nothing⟩),
      ("upper", ⟨"upper", .nothing⟩)]

/-! ## Generators and their signatures -/

namespace Signature

variable {kind : Kind} {s : Signature} {args : List String} {e e' : RuleError}

/-- The arguments are too many or too few, or the only one cannot be read; the error quotes it as it
was written. -/
inductive Refuses (kind : Kind) (s : Signature) (args : List String) : RuleError → Prop
  | count (h : ¬ s.form.Counts args) :
      Refuses kind s args (.arity kind s.own s.form.arity args.length)
  | argument {reading : Reading} {a : String} {fault : ArgumentFault}
      (hform : s.form = .one reading) (hargs : args = [a]) (h : reading.Complaint a fault) :
      Refuses kind s args (.argument kind s.own a fault)

theorem Refuses.not_fits (h : s.Refuses kind args e) : ¬ s.form.Fits args := by
  intro hfits
  rcases h with h | ⟨hform, rfl, h⟩
  · exact h hfits.counts
  · rw [hform] at hfits
    obtain ⟨_, hargs, hreads⟩ := hfits
    obtain rfl := List.singleton_inj.mp hargs
    exact h.not_reads hreads

theorem Refuses.unique (h : s.Refuses kind args e) (h' : s.Refuses kind args e') : e = e' := by
  rcases h with h | ⟨hform, rfl, h⟩ <;> rcases h' with h' | ⟨hform', hargs, h'⟩
  · rfl
  · exact absurd (by rw [hform']; exact ⟨_, hargs⟩) h
  · exact absurd (by rw [hform]; exact ⟨_, rfl⟩) h'
  · obtain rfl := Form.one.inj (hform.symm.trans hform')
    obtain rfl := List.singleton_inj.mp hargs
    rw [h.unique h']

/-- The generator makes a function of the arguments that fit, and refuses all others. -/
def Describes (kind : Kind) (s : Signature) (g : Generator kind.Made) : Prop :=
  ∀ args, (s.form.Fits args ∧ ∃ f, g args = .ok f) ∨ ∃ e, s.Refuses kind args e ∧ g args = .error e

/-- A generator without arguments. -/
theorem describes_plain (kind : Kind) (own : String) (made : kind.Made) :
    Describes kind ⟨own, .nothing⟩ (Registry.plain kind own made)
  | [] => .inl ⟨rfl, made, rfl⟩
  | _ :: _ => .inr ⟨_, .count nofun, rfl⟩

/-- A generator that takes any number of arguments but none. -/
theorem describes_oneOf : Describes .validator ⟨"enum", .choices⟩ Registry.oneOf
  | [] => .inr ⟨_, .count (· rfl), rfl⟩
  | _ :: _ => .inl ⟨nofun, _, rfl⟩

/-- A generator with one argument, by what it makes of that argument. -/
theorem describes_one {own : String} {reading : Reading} {g : Generator kind.Made}
    (hcount : ∀ args, (∀ a, args ≠ [a]) →
      g args = .error (.arity kind own (.exactly 1) args.length))
    (harg : ∀ a, (reading.Reads a ∧ ∃ f, g [a] = .ok f) ∨
      ∃ fault, reading.Complaint a fault ∧ g [a] = .error (.argument kind own a fault)) :
    Describes kind ⟨own, .one reading⟩ g := by
  intro args
  by_cases h : ∃ a, args = [a]
  · obtain ⟨a, rfl⟩ := h
    refine (harg a).imp (fun ⟨hreads, hmade⟩ => ⟨⟨a, rfl, hreads⟩, hmade⟩) ?_
    rintro ⟨fault, hcomplaint, herror⟩
    exact ⟨_, .argument rfl rfl hcomplaint, herror⟩
  · exact .inr ⟨_, .count h, hcount args fun a ha => h ⟨a, ha⟩⟩

theorem describes_lengthValidator (own : String) (check : (bound size : Nat) → Option String) :
    Describes .validator ⟨own, .one .length⟩ (Registry.lengthValidator own check) := by
  refine describes_one (Registry.lengthValidator.eq_2 own check) fun a => ?_
  simp only [Registry.lengthValidator, Registry.lengthArgument]
  rcases h : Numeric.natural? (Text.trim a.toList) with e | n
  · exact .inr ⟨_, .integer h, rfl⟩
  · exact .inl ⟨⟨n, Numeric.natural?_eq_ok_iff.mp h⟩, _, rfl⟩

theorem describes_boundValidator (own comparison : String)
    (broken : (bound x : Numeric.Double) → Bool) :
    Describes .validator ⟨own, .one .bound⟩ (Registry.boundValidator own comparison broken) := by
  refine describes_one (Registry.boundValidator.eq_2 own comparison broken) fun a => ?_
  simp only [Registry.boundValidator, Registry.boundArgument]
  rcases h : Numeric.double? (Text.trim a.toList) with e | x
  · exact .inr ⟨_, .double h, rfl⟩
  · exact .inl ⟨Numeric.exists_double?_iff.mp ⟨x, h⟩, _, rfl⟩

theorem describes_regex (read : Pattern.Reader) :
    Describes .validator ⟨"regex", .one (.pattern read)⟩ (Registry.regex read) := by
  refine describes_one (Registry.regex.eq_2 read) fun a => ?_
  simp only [Registry.regex]
  rcases h : read a with detail | isMatch
  · exact .inr ⟨_, .pattern h, rfl⟩
  · exact .inl ⟨⟨isMatch, h⟩, _, rfl⟩

end Signature

/-! ## The built-in registry -/

/-- Lists of entries that have the same keys find related values under every key. -/
theorem rel_lookup {α β : Type} {R : α → β → Prop} {xs : List (String × α)}
    {ys : List (String × β)} (h : List.Forall₂ (fun x y => x.1 = y.1 ∧ R x.2 y.2) xs ys)
    (key : String) : Option.Rel R (xs.lookup key) (ys.lookup key) := by
  induction h with
  | nil => exact .none
  | @cons x y xs ys hxy _ ih =>
    obtain ⟨hname, hab⟩ := hxy
    rw [List.lookup_cons, List.lookup_cons, ← hname]
    cases key == x.1 with
    | true => exact .some hab
    | false => exact ih

namespace Registry

/-- The built-in validators in increasing order of their names. -/
theorem table_validator_builtinWith (read : Pattern.Reader) :
    (builtinWith read).table .validator =
      [("empty", emptyOnly), ("enum", oneOf), ("len", exactLen), ("lower", isLower),
        ("max", maximum), ("max_len", maxLen), ("min", minimum), ("min_len", minLen), ("nil", nil),
        ("not_empty", notEmpty), ("not_nil", notNil), ("regex", regex read),
        ("required", notEmpty), ("upper", isUpper)] := by
  simp only [table, builtinWith, builtinValidators, Dict.ofList, List.foldl, Dict.insert,
    String.reduceLT, String.reduceEq, ↓reduceIte]

open Signature in
/-- **Every built-in generator has its signature**, and there is no other. -/
theorem builtin_described (read : Pattern.Reader) (kind : Kind) :
    List.Forall₂ (fun g s => g.1 = s.1 ∧ s.2.Describes kind g.2) ((builtinWith read).table kind)
      (signatures read kind) := by
  cases kind with
  | mapper =>
    exact .cons ⟨rfl, describes_plain _ _ _⟩ <| .cons ⟨rfl, describes_plain _ _ _⟩ <|
      .cons ⟨rfl, describes_plain _ _ _⟩ .nil
  | validator =>
    rw [table_validator_builtinWith]
    exact .cons ⟨rfl, describes_plain _ _ _⟩ <| .cons ⟨rfl, describes_oneOf⟩ <|
      .cons ⟨rfl, describes_lengthValidator _ _⟩ <| .cons ⟨rfl, describes_plain _ _ _⟩ <|
      .cons ⟨rfl, describes_boundValidator _ _ _⟩ <|
      .cons ⟨rfl, describes_lengthValidator _ _⟩ <|
      .cons ⟨rfl, describes_boundValidator _ _ _⟩ <|
      .cons ⟨rfl, describes_lengthValidator _ _⟩ <| .cons ⟨rfl, describes_plain _ _ _⟩ <|
      .cons ⟨rfl, describes_plain _ _ _⟩ <| .cons ⟨rfl, describes_plain _ _ _⟩ <|
      .cons ⟨rfl, describes_regex read⟩ <| .cons ⟨rfl, describes_plain _ _ _⟩ <|
      .cons ⟨rfl, describes_plain _ _ _⟩ .nil

end Registry

/-! ## Annotations -/

namespace Kind

variable {read : Pattern.Reader} {kind : Kind} {name : String} {args : List String}
  {e e' : RuleError}

/-- There is a generator of this kind and name, and the arguments fit its signature. -/
def Takes (read : Pattern.Reader) (kind : Kind) (name : String) (args : List String) : Prop :=
  ∃ s, (signatures read kind).lookup name = some s ∧ s.form.Fits args

/-- There is no generator of this kind and name, or its signature refuses the arguments. -/
inductive Refuses (read : Pattern.Reader) (kind : Kind) (name : String) (args : List String) :
    RuleError → Prop
  | unknown (h : (signatures read kind).lookup name = none) :
      Refuses read kind name args (.unknown kind name)
  | arguments {s : Signature} {e : RuleError} (h : (signatures read kind).lookup name = some s)
      (hargs : s.Refuses kind args e) : Refuses read kind name args e

theorem Refuses.not_takes (h : kind.Refuses read name args e) : ¬ kind.Takes read name args := by
  rintro ⟨s, hs, hfits⟩
  rcases h with h | ⟨h, hargs⟩
  · simp [hs] at h
  · obtain rfl := Option.some.inj (h.symm.trans hs)
    exact hargs.not_fits hfits

theorem Refuses.unique (h : kind.Refuses read name args e) (h' : kind.Refuses read name args e') :
    e = e' := by
  rcases h with h | ⟨h, hargs⟩ <;> rcases h' with h' | ⟨h', hargs'⟩
  · rfl
  · simp [h] at h'
  · simp [h'] at h
  · obtain rfl := Option.some.inj (h.symm.trans h')
    exact hargs.unique hargs'

/-- The error of the first token that its kind does not take. -/
def FirstRefuses (read : Pattern.Reader) (kind : Kind) (ks : List Token) (e : RuleError) : Prop :=
  ∃ before k after, ks = before ++ k :: after ∧ (∀ j ∈ before, kind.Takes read j.name j.args) ∧
    kind.Refuses read k.name k.args e

end Kind

namespace Registry

variable {read : Pattern.Reader} {kind : Kind} {name : String} {args : List String} {e : RuleError}

/-- **A built-in generator takes any arguments or refuses them**, whatever they are and however
many. -/
theorem takes_or_refuses (read : Pattern.Reader) (kind : Kind) (name : String)
    (args : List String) :
    (kind.Takes read name args ∧ ∃ f, (builtinWith read).generate kind name args = .ok f) ∨
      ∃ e, kind.Refuses read name args e ∧
        (builtinWith read).generate kind name args = .error e := by
  have hrel := rel_lookup (R := fun g s => Signature.Describes kind s g)
    (builtin_described read kind) name
  rw [generate_answers, Dict.get?]
  generalize hs : (signatures read kind).lookup name = s at hrel
  generalize ((builtinWith read).table kind).lookup name = g at hrel
  rcases hrel with hdescribes | _
  · obtain ⟨hfits, hmade⟩ | ⟨e, hargs, herror⟩ := hdescribes args
    · exact .inl ⟨⟨_, hs, hfits⟩, hmade⟩
    · exact .inr ⟨e, .arguments hs hargs, herror⟩
  · exact .inr ⟨_, .unknown hs, rfl⟩

theorem exists_generate_iff :
    (∃ f, (builtinWith read).generate kind name args = .ok f) ↔ kind.Takes read name args := by
  obtain ⟨htakes, hmade⟩ | ⟨e, hrefuses, herror⟩ := takes_or_refuses read kind name args
  · exact iff_of_true hmade htakes
  · exact iff_of_false (by simp [herror]) hrefuses.not_takes

theorem generate_eq_error_iff :
    (builtinWith read).generate kind name args = .error e ↔ kind.Refuses read name args e := by
  obtain ⟨htakes, f, hf⟩ | ⟨e', hrefuses, herror⟩ := takes_or_refuses read kind name args
  · exact iff_of_false (by simp [hf]) fun h => h.not_takes htakes
  · rw [herror]
    exact ⟨fun h => Except.error.inj h ▸ hrefuses, fun h => by rw [hrefuses.unique h]⟩

theorem exists_makes_iff (kind : Kind) (k : Token) :
    (∃ f, k.Makes ((builtinWith read).table kind) f) ↔ kind.Takes read k.name k.args := by
  rw [← exists_generate_iff]
  exact exists_congr fun f => ((builtinWith read).generate_answers kind).ok_iff.symm

theorem firstFails_iff {ks : List Token} :
    Token.FirstFails kind ((builtinWith read).table kind) ks e ↔
      kind.FirstRefuses read ks e := by
  have hfails (k : Token) : k.Fails kind ((builtinWith read).table kind) e ↔
      kind.Refuses read k.name k.args e :=
    ((builtinWith read).generate_answers kind).error_iff.symm.trans generate_eq_error_iff
  simp only [Token.FirstFails, Kind.FirstRefuses, exists_makes_iff, hfails]

end Registry

/-- **A rule that was compiled does not fail**: whether the visit stops at a field is the field's
matter, and all that can be refused is a mapped value that the field cannot hold. -/
theorem apply_only_rejects (ctx : Context) (room : Nat) (rule : Rule) (v : Value) (p : Place)
    (run : Run) :
    (apply ctx room rule v p run).stop = (apply ctx room .empty v p run).stop ∧
      ∀ e ∈ (apply ctx room rule v p run).run.report.rejected, e ∈ run.report.rejected ∨
        ∃ typeName value reason, e = .unstorable p.path typeName value reason := by
  rw [apply, apply]
  rcases inspect ctx room run.store v p with e | ⟨hint, form⟩
  · exact ⟨rfl, fun _ => .inl⟩
  · dsimp only
    rcases (rule.act form hint).mapped with _ | w
    · exact ⟨rfl, fun _ => .inl⟩
    · dsimp only
      split
      · exact ⟨rfl, fun _ => .inl⟩
      · rw [store]
        split
        · exact ⟨rfl, fun _ => .inl⟩
        · refine ⟨rfl, fun e he => (List.mem_append.mp he).imp_right fun h => ?_⟩
          exact ⟨_, _, _, List.mem_singleton.mp h⟩

namespace Registry

/-- **What the built-in generators make of an annotation**: it is compiled iff every token is taken.
Otherwise the error is that of the first token that is not, mappers first.  Arguments are taken or
refused whatever they are, with one error and no other; and what was compiled does not fail.  All
of this holds for every reader of patterns. -/
theorem builtin_annotations (read : Pattern.Reader) {text : String} {tag : Tag}
    (hparse : Tag.parse text = .ok tag) :
    ((∃ rule, Rule.compile (builtinWith read) text = .ok rule) ↔
      (∀ k ∈ tag.mappers, Kind.Takes read .mapper k.name k.args) ∧
        ∀ k ∈ tag.validators, Kind.Takes read .validator k.name k.args) ∧
    (∀ e, Rule.compile (builtinWith read) text = .error e ↔
      Kind.FirstRefuses read .mapper tag.mappers e ∨
        (∀ k ∈ tag.mappers, Kind.Takes read .mapper k.name k.args) ∧
          Kind.FirstRefuses read .validator tag.validators e) ∧
    (∀ (kind : Kind) name args,
      (kind.Takes read name args ∧ ∃ f, (builtinWith read).generate kind name args = .ok f) ∨
      ¬ kind.Takes read name args ∧ ∃ e, (builtinWith read).generate kind name args = .error e ∧
        ∀ e', kind.Refuses read name args e' ↔ e' = e) ∧
    ∀ rule, Rule.compile (builtinWith read) text = .ok rule → ∀ ctx room v p run,
      (apply ctx room rule v p run).stop = (apply ctx room .empty v p run).stop ∧
      ∀ e ∈ (apply ctx room rule v p run).run.report.rejected, e ∈ run.report.rejected ∨
        ∃ typeName value reason, e = .unstorable p.path typeName value reason := by
  have hmaps (k : Token) :
      (∃ f, k.Makes (builtinWith read).mappers f) ↔ Kind.Takes read .mapper k.name k.args :=
    exists_makes_iff .mapper k
  have hchecks (k : Token) :
      (∃ f, k.Makes (builtinWith read).validators f) ↔ Kind.Takes read .validator k.name k.args :=
    exists_makes_iff .validator k
  refine ⟨?_, fun e => ?_, fun kind name args => ?_, fun rule _ ctx room => ?_⟩
  · simp only [Rule.exists_compile_iff, hparse, Except.ok.injEq, exists_eq_left', hmaps, hchecks]
  · simp only [Rule.compile_eq_error_iff, hparse, Except.ok.injEq, exists_eq_left', hmaps,
      reduceCtorEq, false_or]
    exact or_congr firstFails_iff (and_congr_right' firstFails_iff)
  · refine (takes_or_refuses read kind name args).imp_right ?_
    rintro ⟨e, hrefuses, herror⟩
    exact ⟨hrefuses.not_takes, e, herror, fun e' => ⟨(·.unique hrefuses), fun h => h ▸ hrefuses⟩⟩
  · exact apply_only_rejects ctx room rule

/-- The argument of the first validator is a number with a sign, a point and an exponent, after a
blank, and that of the second a pattern; the third takes no argument, and has its own name in the
error. -/
theorem builtin_annotations_required :
    Tag.parse "upper,min= +1.5e3 ;regex=^a+$;required=x;nope" = .ok
      ⟨[⟨"upper", [], 0⟩], [⟨"min", [" +1.5e3"], 6⟩, ⟨"regex", ["^a+$"], 19⟩,
        ⟨"required", ["x"], 30⟩, ⟨"nope", [], 41⟩]⟩ ∧
    Rule.compile builtin "upper,min= +1.5e3 ;regex=^a+$;required=x;nope" =
      .error (.arity .validator "not_empty" (.exactly 0) 1) := by
  have hparse : Tag.parse "upper,min= +1.5e3 ;regex=^a+$;required=x;nope" = .ok
      ⟨[⟨"upper", [], 0⟩], [⟨"min", [" +1.5e3"], 6⟩, ⟨"regex", ["^a+$"], 19⟩,
        ⟨"required", ["x"], 30⟩, ⟨"nope", [], 41⟩]⟩ := by
    decide +kernel
  have htrim : Text.trim " +1.5e3".toList = ['+'] ++ ((['1'] ++ '.' :: ['5']) ++ ['e', '3']) := by
    decide +kernel
  have hbound : Numeric.IsDouble (Text.trim " +1.5e3".toList) := by
    rw [htrim]
    exact .number (.inr (.inl rfl)) (.pointed (by simp) (by decide) (by decide))
      (.marked (.inl rfl) (.inl rfl) (by simp) (by decide))
  have hpattern : ∃ isMatch, Pattern.read "^a+$" = .ok isMatch := by
    have hcompile : (Pattern.compile? "^a+$").isSome := by decide +kernel
    obtain ⟨p, hp⟩ := Option.isSome_iff_exists.mp hcompile
    exact ⟨p.isMatch, by rw [Pattern.read, hp]⟩
  refine ⟨hparse, ((builtin_annotations Pattern.read hparse).2.1 _).mpr (.inr ⟨?_, ?_⟩)⟩
  · simp only [List.forall_mem_singleton]
    exact ⟨_, rfl, rfl⟩
  · refine ⟨[⟨"min", [" +1.5e3"], 6⟩, ⟨"regex", ["^a+$"], 19⟩], _, _, rfl, ?_,
      .arguments rfl (.count nofun)⟩
    simp only [List.forall_mem_cons, List.not_mem_nil, false_imp_iff, implies_true, and_true]
    exact ⟨⟨_, rfl, _, rfl, hbound⟩, _, rfl, _, rfl, hpattern⟩

end Registry

end FieldRules
