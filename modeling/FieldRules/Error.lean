import FieldRules.Issue
import FieldRules.Numeric.Literal
import FieldRules.Text.Quoted

/-!
# Error — what can go wrong, and its wording

A `RuleError` concerns one annotation: its text, the generators it names, or a value that a rule
made. An `Error` ends a run or a load. Each constructor is a cause; `message` is its text. Failed
checks are no errors but `Issue`s.
-/

namespace FieldRules

open Numeric (NaturalError DoubleError)

/-- The two kinds of generator that an annotation names. -/
inductive Kind where
  | mapper
  | validator
deriving DecidableEq, Repr

def Kind.name : Kind → String
  | mapper => "mapper"
  | validator => "validator"

/-- How many arguments a generator takes: at least `min`, and at most `max` if that is given. -/
structure Arity where
  min : Nat
  max : Option Nat
deriving DecidableEq, Repr

namespace Arity

def exactly (n : Nat) : Arity := ⟨n, some n⟩

def atLeast (n : Nat) : Arity := ⟨n, none⟩

def accepts (a : Arity) (count : Nat) : Bool :=
  a.min ≤ count && match a.max with
    | none => true
    | some m => count ≤ m

def render (a : Arity) : String :=
  match a.max with
  | none => "at least " ++ toString a.min
  | some m =>
    if m = a.min then toString m else toString a.min ++ "..=" ++ toString m

end Arity

/-- Why a generator refuses an argument. -/
inductive ArgumentFault where
  | integer (e : NaturalError)
  | double (e : DoubleError)
  | pattern (detail : String)
  | other (detail : String)
deriving DecidableEq, Repr

def ArgumentFault.message : ArgumentFault → String
  | integer e => "expected argument to be a valid integer, err=" ++ e.message
  | double e => "expected argument to be a valid float, err=" ++ e.message
  | pattern detail => "expected argument to be a valid regex, err=" ++ detail
  | other detail => detail

/-- Why an annotation is not well formed. -/
inductive TagFault where
  /-- A token that begins with the equals sign. -/
  | missingName (token : String)
  /-- A generator name with white space in it. -/
  | blankInName (name : String)
  | other (detail : String)
deriving DecidableEq, Repr

def TagFault.message : TagFault → String
  | missingName token => "token '" ++ token ++ "' has no generator name"
  | blankInName name => "generator name '" ++ name ++ "' contains whitespace"
  | other detail => detail

/-- An error in an annotation, or in the use of one. -/
inductive RuleError where
  /-- No generator of this kind has the name. -/
  | unknown (kind : Kind) (name : String)
  /-- A wrong number of arguments. -/
  | arity (kind : Kind) (name : String) (expected : Arity) (found : Nat)
  /-- An argument that the generator cannot use. -/
  | argument (kind : Kind) (name text : String) (fault : ArgumentFault)
  /-- A tag that does not follow the grammar, with the byte at which that shows. -/
  | malformed (tag : String) (position : Nat) (fault : TagFault)
  /-- A mapped value that its field cannot hold. -/
  | unstorable (field typeName value reason : String)
  /-- A field whose value has no JSON form. -/
  | unreadable (field typeName reason : String)
deriving DecidableEq, Repr

def RuleError.message : RuleError → String
  | unknown kind name => "unknown " ++ kind.name ++ " '" ++ name ++ "'"
  | arity kind name expected found =>
    kind.name ++ " name=" ++ name ++ " expects " ++ expected.render ++ " argument(s) but has " ++
      toString found ++ " argument(s)"
  | argument kind name text fault =>
    kind.name ++ " name=" ++ name ++ " got invalid argument '" ++ text ++ "': " ++ fault.message
  | malformed tag position fault =>
    "malformed tag '" ++ tag ++ "' at position " ++ toString position ++ ": " ++ fault.message
  | unstorable field typeName value reason =>
    "mapped value " ++ value ++ " cannot be stored in field '" ++ field ++ "' of type " ++
      typeName ++ ": " ++ reason
  | unreadable field typeName reason =>
    "field '" ++ field ++ "' of type " ++ typeName ++ " cannot be inspected: " ++ reason

/-- Why a value cannot be walked. -/
inductive Misuse where
  /-- The root is a leaf. -/
  | leafRoot
  /-- A record that shows fewer or more fields than its type declares. -/
  | fieldCount (declared exposed : Nat)
  | other (detail : String)
deriving DecidableEq, Repr

def Misuse.message (typeName : String) : Misuse → String
  | leafRoot =>
    "cannot validate scalar value of type " ++ typeName ++ "; pass a record or container"
  | fieldCount declared exposed =>
    typeName ++ " declares " ++ toString declared ++ " fields but exposes " ++ toString exposed ++
      " for mutation"
  | other detail => detail

/-- Why settings cannot be used. -/
inductive SettingsFault where
  | unsupportedFormat (extension : String)
  | depthNotPositive
  | other (detail : String)
deriving DecidableEq, Repr

def SettingsFault.message : SettingsFault → String
  | unsupportedFormat ext => "unsupported configuration format " ++ Text.quoted ext
  | depthNotPositive => "max_depth must be positive"
  | other detail => detail

/-- The formats that settings files are written in. -/
inductive SettingsFormat where
  | json
  | yaml
  | toml
deriving DecidableEq, Repr

def SettingsFormat.name : SettingsFormat → String
  | json => "JSON"
  | yaml => "YAML"
  | toml => "TOML"

/-- An error that ends a run or a load. -/
inductive Error where
  /-- An error in an annotation, with the place where it was met. -/
  | rule (context : String) (source : RuleError)
  /-- A complete run in which mapped values did not fit their fields, with the issues it found. -/
  | rejected (rejected : List RuleError) (issues : List Issue)
  /-- A value that cannot be walked. -/
  | misuse (typeName : String) (misuse : Misuse)
  /-- A shared cell met again while its content is being walked. -/
  | cycle (path typeName : String)
  /-- A value that lies deeper than the limit. -/
  | tooDeep (path : String) (limit : Nat)
  /-- Settings that cannot be used. -/
  | settings (fault : SettingsFault) (path : Option String)
  /-- Settings text that does not follow its format. -/
  | format (format : SettingsFormat)
  /-- A file that cannot be read. -/
  | unreadableFile
  | internal (detail : String)
deriving Repr

namespace Error

/-- The first rejection, and how many follow it. -/
def rejectionSummary : List RuleError → String
  | [] => "no mapped value rejected"
  | [only] => only.message
  | first :: rest => first.message ++ " (and " ++ toString rest.length ++ " more)"

def message : Error → String
  | rule context source => "Configuration error in " ++ context ++ ": " ++ source.message
  | rejected rejections _ => "Configuration error: " ++ rejectionSummary rejections
  | misuse typeName m => "Traversal misuse: " ++ m.message typeName
  | cycle path typeName => "Cycle detected at '" ++ path ++ "' while visiting " ++ typeName
  | tooDeep path limit =>
    "Maximum traversal depth " ++ toString limit ++ " exceeded at '" ++ path ++ "'"
  | settings fault path =>
    let place := match path with
      | none => ""
      | some p => " in " ++ p
    "Invalid engine configuration" ++ place ++ ": " ++ fault.message
  | format f => f.name ++ " error"
  | unreadableFile => "IO error"
  | internal detail => "Internal error: " ++ detail

/-- The annotation error behind an error; of several the first. -/
def ruleError? : Error → Option RuleError
  | rule _ source => some source
  | rejected rejections _ => rejections.head?
  | _ => none

/-- The issues found before the error was given, if the run was complete. -/
def issues? : Error → Option (List Issue)
  | rejected _ issues => some issues
  | _ => none

/-- Whether the error comes from annotations, generators or mapped values. -/
def isConfiguration : Error → Bool
  | rule _ _ | rejected _ _ => true
  | _ => false

/-- Whether the error comes from walking the value. -/
def isTraversal : Error → Bool
  | misuse _ _ | cycle _ _ | tooDeep _ _ => true
  | _ => false

end Error

end FieldRules
