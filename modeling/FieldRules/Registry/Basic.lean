import FieldRules.Dict
import FieldRules.Error

/-!
# Registry/Basic — generators by name

A generator turns the arguments of a token into a mapper or a validator, or refuses them. A registry
binds names to generators, mappers and validators apart. A name bound again gets the new generator;
an alias gets the generator that its target has at that moment.
-/

namespace FieldRules

/-- A change of value; `none` leaves the value as it is. -/
abbrev Mapper := Json → Option Json

/-- What is known of a value's type: whether the value is the zero of its type, if that is known. -/
structure Hint where
  zero? : Option Bool
deriving DecidableEq, Repr

namespace Hint

/-- Nothing is known; the JSON form decides. -/
def unknown : Hint := ⟨none⟩

/-- The type has decided. -/
def zero (isZero : Bool) : Hint := ⟨some isZero⟩

end Hint

/-- A check of a value; a text says what is wrong. -/
abbrev Validator := Json → Hint → Option String

/-- Makes a mapper or a validator from arguments. -/
abbrev Generator (α : Type) := List String → Except RuleError α

/-- Generators by name. -/
structure Registry where
  mappers : Dict (Generator Mapper)
  validators : Dict (Generator Validator)

namespace Registry

/-- No names. -/
def empty : Registry := ⟨[], []⟩

def registerMapper (r : Registry) (name : String) (g : Generator Mapper) : Registry :=
  { r with mappers := r.mappers.insert name g }

def registerValidator (r : Registry) (name : String) (g : Generator Validator) : Registry :=
  { r with validators := r.validators.insert name g }

/-- The mapper generator of `target` under another name too. -/
def aliasMapper (r : Registry) (name target : String) : Except RuleError Registry :=
  match r.mappers.get? target with
  | some g => .ok (r.registerMapper name g)
  | none => .error (.unknown .mapper target)

/-- The validator generator of `target` under another name too. -/
def aliasValidator (r : Registry) (name target : String) : Except RuleError Registry :=
  match r.validators.get? target with
  | some g => .ok (r.registerValidator name g)
  | none => .error (.unknown .validator target)

def hasMapper (r : Registry) (name : String) : Bool := r.mappers.contains name

def hasValidator (r : Registry) (name : String) : Bool := r.validators.contains name

/-- Names of mappers, in increasing order. -/
def mapperNames (r : Registry) : List String := r.mappers.keys

/-- Names of validators, in increasing order. -/
def validatorNames (r : Registry) : List String := r.validators.keys

/-- One line that shows the names. -/
def describe (r : Registry) : String :=
  "Registry \x7b mappers: " ++ Text.quotedList r.mapperNames ++ ", validators: " ++
    Text.quotedList r.validatorNames ++ " \x7d"

/-- The named mapper with its arguments. -/
def mapper (r : Registry) (name : String) (args : List String) : Except RuleError Mapper :=
  match r.mappers.get? name with
  | some g => g args
  | none => .error (.unknown .mapper name)

/-- The named validator with its arguments. -/
def validator (r : Registry) (name : String) (args : List String) : Except RuleError Validator :=
  match r.validators.get? name with
  | some g => g args
  | none => .error (.unknown .validator name)

end Registry

/-- The arguments, if there are as many as the generator takes. -/
def expectArity (kind : Kind) (name : String) (arity : Arity) (args : List String) :
    Except RuleError Unit :=
  if arity.accepts args.length then .ok () else .error (.arity kind name arity args.length)

end FieldRules
