import FieldRules.Json.Printer
import FieldRules.Pattern.Basic
import FieldRules.Registry.Measure
import FieldRules.Text.Case

/-!
# Registry/Builtin — the generators that every registry starts with

Mappers `upper`, `lower` and `len`; validators for presence, emptiness, case, length, bounds,
patterns and lists of allowed values. Arguments are counted and read when the generator is applied,
so that a bad annotation is found before any value is checked. A value of a kind that a rule does
not concern passes.

What a pattern is, a library decides: the generators are built for any `Pattern.Reader`
(`builtinWith`), and the registry of the program takes the one of this project (`builtin`).
-/

namespace FieldRules

open Numeric (Double)

namespace Registry

/-- A mapper or a validator without arguments. -/
def plain {α : Type} (kind : Kind) (name : String) (made : α) : Generator α := fun args => do
  expectArity kind name (.exactly 0) args
  return made

/-! ## Mappers -/

/-- Changes strings and leaves all else. -/
def onText (change : String → String) : Mapper := fun v => v.text?.map fun s => .str (change s)

def upperMapper : Generator Mapper := plain .mapper "upper" (onText Text.uppercase)

def lowerMapper : Generator Mapper := plain .mapper "lower" (onText Text.lowercase)

/-- Replaces a value that has a length by it. -/
def lenMapper : Generator Mapper := plain .mapper "len" fun v => v.size?.map Json.nat

/-! ## Validators without arguments -/

/-- A message if the condition holds. -/
def issueIf (condition : Bool) (message : String) : Option String :=
  if condition then some message else none

def notNil : Generator Validator := plain .validator "not_nil" fun v _ =>
  issueIf v.isNull "expected not nil value"

def nil : Generator Validator := plain .validator "nil" fun v _ =>
  issueIf (!v.isNull) ("expected nil value but was " ++ v.display)

def emptyOnly : Generator Validator := plain .validator "empty" fun v hint =>
  issueIf (!hint.isZero v) ("expected empty value but was " ++ v.display)

def notEmpty : Generator Validator := plain .validator "not_empty" fun v hint =>
  issueIf (hint.isZero v) "expected not empty value"

def isUpper : Generator Validator := plain .validator "upper" fun v _ =>
  v.text?.bind fun s => issueIf (s != Text.uppercase s) "expected upper case"

def isLower : Generator Validator := plain .validator "lower" fun v _ =>
  v.text?.bind fun s =>
    issueIf (s != Text.lowercase s) ("expected lower case string, but found " ++ s)

/-! ## Lengths -/

/-- The length that an argument writes. -/
def lengthArgument (name arg : String) : Except RuleError Nat :=
  (Numeric.natural? (Text.trim arg.toList)).mapError fun e =>
    .argument .validator name arg (.integer e)

/-- A validator with one length as argument. -/
def lengthValidator (name : String) (check : (bound size : Nat) → Option String) :
    Generator Validator
  | [arg] => do
    let bound ← lengthArgument name arg
    return fun v _ => v.size?.bind (check bound)
  | args => .error (.arity .validator name (.exactly 1) args.length)

def maxLen : Generator Validator := lengthValidator "max_len" fun bound size =>
  issueIf (bound < size)
    ("max len exceeded, expected max len " ++ toString bound ++ " but is " ++ toString size)

def minLen : Generator Validator := lengthValidator "min_len" fun bound size =>
  issueIf (size < bound)
    ("less than min len, expected min len " ++ toString bound ++ " but is " ++ toString size)

def exactLen : Generator Validator := lengthValidator "len" fun bound size =>
  issueIf (size != bound)
    ("expected len to be " ++ toString bound ++ " but is " ++ toString size)

/-! ## Bounds -/

/-- The bound that an argument writes. -/
def boundArgument (name arg : String) : Except RuleError Double :=
  (Numeric.double? (Text.trim arg.toList)).mapError fun e =>
    .argument .validator name arg (.double e)

/-- A validator with one bound as argument; `broken bound x` says that `x` is beyond the bound. -/
def boundValidator (name comparison : String) (broken : (bound x : Double) → Bool) :
    Generator Validator
  | [arg] => do
    let bound ← boundArgument name arg
    return fun v _ => v.double?.bind fun x =>
      issueIf (broken bound x)
        ("expected not to be " ++ comparison ++ " than " ++ Text.trimmed arg ++ " but it was " ++
          v.display)
  | args => .error (.arity .validator name (.exactly 1) args.length)

def maximum : Generator Validator := boundValidator "max" "more" fun bound x => bound.less x

def minimum : Generator Validator := boundValidator "min" "less" fun bound x => x.less bound

/-! ## Patterns and choices -/

/-- Strings in which the pattern matches nowhere are issues. -/
def regex (read : Pattern.Reader) : Generator Validator
  | [arg] =>
    match read arg with
    | .error detail => .error (.argument .validator "regex" arg (.pattern detail))
    | .ok isMatch => .ok fun v _ => v.text?.bind fun s =>
        issueIf (!isMatch s) ("expected match string with regex=" ++ arg)
  | args => .error (.arity .validator "regex" (.exactly 1) args.length)

/-- Values whose text is none of the arguments are issues. -/
def oneOf : Generator Validator := fun args => do
  expectArity .validator "enum" (.atLeast 1) args
  return fun v _ =>
    issueIf (!args.contains v.display)
      ("expected valid enum, be: " ++ v.display ++ ", expected one of: [" ++
        String.intercalate ", " args ++ "]")

/-! ## The registry -/

/-- The built-in mapper generators by name. -/
def builtinMappers : List (String × Generator Mapper) :=
  [("upper", upperMapper), ("lower", lowerMapper), ("len", lenMapper)]

/-- The built-in validator generators by name. -/
def builtinValidators (read : Pattern.Reader) : List (String × Generator Validator) :=
  [("not_nil", notNil), ("nil", nil), ("empty", emptyOnly), ("not_empty", notEmpty),
    ("required", notEmpty), ("upper", isUpper), ("lower", isLower), ("max_len", maxLen),
    ("min_len", minLen), ("len", exactLen), ("max", maximum), ("min", minimum),
    ("regex", regex read), ("enum", oneOf)]

/-- The registry with the built-in generators, patterns being what a reader takes for one. -/
def builtinWith (read : Pattern.Reader) : Registry :=
  ⟨Dict.ofList builtinMappers, Dict.ofList (builtinValidators read)⟩

/-- The registry with the built-in generators. -/
def builtin : Registry := builtinWith Pattern.read

end Registry

end FieldRules
