import FieldRules.Json.Printer
import FieldRules.Registry.Basic
import FieldRules.Tag.Parser
import FieldRules.Registry.Measure

/-!
# Rule — annotations with their generators applied

A rule is a chain of mappers and a list of validators. Mappers compose: each sees what the one
before it made. Validators do not: each sees the final value. `Rule.act` runs a rule over one value.
-/

namespace FieldRules

/-- The mappers and validators of one annotation, with the names they were called by. -/
structure Rule where
  tag : Option String
  mappers : List (String × Mapper)
  validators : List (String × Validator)

/-- What a rule makes of a value: the new value, if a mapper gave one, and what the validators
say. -/
structure Outcome where
  mapped : Option Json
  messages : List String
deriving Repr

namespace Rule

/-- The rule of a field without annotation. -/
def empty : Rule := ⟨none, [], []⟩

/-- Whether the rule neither maps nor checks. -/
def isEmpty (r : Rule) : Bool := r.mappers.isEmpty && r.validators.isEmpty

def hasMappers (r : Rule) : Bool := !r.mappers.isEmpty

def mapperNames (r : Rule) : List String := r.mappers.map Prod.fst

def validatorNames (r : Rule) : List String := r.validators.map Prod.fst

/-- One line that shows the annotation and the names it was made of. -/
def describe (r : Rule) : String :=
  let tag := match r.tag with
    | none => "None"
    | some t => "Some(" ++ Text.quoted t ++ ")"
  "FieldActor \x7b tag: " ++ tag ++ ", mappers: " ++ Text.quotedList r.mapperNames ++
    ", validators: " ++ Text.quotedList r.validatorNames ++ " \x7d"

/-! ## Building -/

/-- Each token with what its generator makes of the arguments; the first refusal counts. -/
def resolve {α : Type} (generate : String → List String → Except RuleError α) :
    List Token → Except RuleError (List (String × α))
  | [] => .ok []
  | t :: ts => do
    let a ← generate t.name t.args
    let rest ← resolve generate ts
    return (t.name, a) :: rest

/-- The rule of an annotation that is read already; mappers are resolved first. -/
def ofTag (registry : Registry) (text : String) (tag : Tag) : Except RuleError Rule := do
  let mappers ← resolve registry.mapper tag.mappers
  let validators ← resolve registry.validator tag.validators
  return ⟨some text, mappers, validators⟩

/-- The rule of an annotation. -/
def compile (registry : Registry) (text : String) : Except RuleError Rule := do
  let tag ← Tag.parse text
  ofTag registry text tag

/-! ## Running -/

/-- The result of a chain of mappers, `none` if none of them gave a value; `current` is what the
mappers before have given. -/
def mapFrom (v : Json) (current : Option Json) : List (String × Mapper) → Option Json
  | [] => current
  | (_, m) :: ms =>
    match m (current.getD v) with
    | some next => mapFrom v (some next) ms
    | none => mapFrom v current ms

/-- What the mappers make of a value. -/
def map (r : Rule) (v : Json) : Option Json := mapFrom v none r.mappers

/-- What the validators say of a value, in order; empty messages are no issues. -/
def check (r : Rule) (v : Json) (hint : Hint) : List String :=
  (r.validators.filterMap fun (_, validator) => validator v hint).filter (!·.isEmpty)

/-- Maps a value and checks the result. What is known of the value's type counts for the mapped
value only if that is the same. -/
def act (r : Rule) (v : Json) (hint : Hint) : Outcome :=
  match r.map v with
  | none => ⟨none, r.check v hint⟩
  | some w => ⟨some w, r.check w (if w.same v then hint else .unknown)⟩

end Rule

end FieldRules
