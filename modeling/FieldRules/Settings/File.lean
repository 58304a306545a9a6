import FieldRules.Json.Document
import FieldRules.Settings.Basic
import FieldRules.Toml.Document
import FieldRules.Yaml.Value

/-!
# Settings/File — settings from files

A settings file is a mapping with the names of settings, in one of three formats, which the file
name tells. What a format says is first brought into one form, a list of entries, and
`Settings.ofEntries?` reads that: a setting is given at most once, its value is of the setting's
type, and other names do not count. `Settings.load` is the whole way from a file's bytes.
-/

namespace FieldRules

/-! ## Entries -/

/-- A name and its value, as far as settings can use it: the depth that it is, and the truth value
that it is. -/
structure Entry where
  name : String
  depth? : Option Nat
  flag? : Option Bool
deriving DecidableEq, Repr

namespace Settings

/-- The names of the settings. -/
def depthName : String := "max_depth"

def flagName : String := "use_display_names"

/-- The value of a setting that is given at most once. -/
def atMostOnce? {α : Type} (initially : α) : List (Option α) → Option α
  | [] => some initially
  | [x] => x
  | _ => none

/-- The settings that entries give. -/
def ofEntries? (entries : List Entry) : Option Settings := do
  let depths := (entries.filter (·.name == depthName)).map Entry.depth?
  let flags := (entries.filter (·.name == flagName)).map Entry.flag?
  let depth ← atMostOnce? initial.maxDepth depths
  let flag ← atMostOnce? initial.displayNames flags
  return ⟨depth, flag⟩

/-! ## Formats -/

/-- An entry of a JSON text; its name has to be a text. -/
def jsonEntry? (name : Option String) (d : Json.Document) : Option Entry :=
  name.map fun name =>
    match d with
    | .num n => match Json.Document.number? n with
      | some (.int (.ofNat n)) => ⟨name, some n, none⟩
      | _ => ⟨name, none, none⟩
    | .bool b => ⟨name, none, some b⟩
    | _ => ⟨name, none, none⟩

/-- The entries of a JSON text: those of an object, or the values of an array in the order of the
settings. -/
def jsonEntries? (text : String) : Option (List Entry) :=
  match Json.Document.parse? text with
  | some (.obj members) => members.mapM fun (name, d) => jsonEntry? name d
  | some (.arr items) =>
    let names := [depthName, flagName]
    if names.length < items.length then none
    else (names.zip items).mapM fun (name, d) => jsonEntry? (some name) d
  | _ => none

/-- The entries of a YAML text: those of a mapping whose keys are scalars; an empty text has
none. -/
def yamlEntries? (text : String) : Option (List Entry) := do
  let d ← Yaml.Document.ofText? text
  match d.root with
  | .mapping _ members => members.mapM fun (key, value) => do
    let name ← d.scalar? key
    let scalar := d.scalar? value
    return ⟨name.text, scalar.bind Yaml.Scalar.natural?, scalar.bind Yaml.Scalar.bool?⟩
  | .scalar _ s => if s.style == .plain && s.text.isEmpty then some [] else none
  | _ => none

/-- An entry of a TOML table. -/
def tomlEntry (member : String × Toml.Value) : Entry :=
  match member.2 with
  | .integer (.ofNat n) => ⟨member.1, some n, none⟩
  | .boolean b => ⟨member.1, none, some b⟩
  | _ => ⟨member.1, none, none⟩

/-- The entries of a text in a format. -/
def entries? (format : SettingsFormat) (text : String) : Option (List Entry) :=
  match format with
  | .json => jsonEntries? text
  | .yaml => yamlEntries? text
  | .toml => (Toml.ofText? text).map (·.map tomlEntry)

/-! ## Files -/

/-- What follows the last point of a file's name, if something stands before that point. -/
def fileExtension? (path : String) : Option String :=
  let name := (path.toList.reverse.takeWhile (· != '/')).reverse
  let after := (name.reverse.takeWhile (· != '.')).reverse
  let before := name.take (name.length - after.length - 1)
  if before.isEmpty || name == ['.', '.'] then none else some (String.ofList after)

/-- The format that a file's name tells. -/
def format? (path : String) : Option SettingsFormat :=
  match fileExtension? path with
  | some "yaml" | some "yml" => some .yaml
  | some "toml" => some .toml
  | some "json" => some .json
  | _ => none

/-- The settings in a file with some text. -/
def ofText (path text : String) : Except Error Settings :=
  match format? path with
  | none => .error (.settings (.unsupportedFormat ((fileExtension? path).getD "")) (some path))
  | some format =>
    match (entries? format text).bind ofEntries? with
    | none => .error (.format format)
    | some s => if s.maxDepth = 0 then .error (.settings .depthNotPositive (some path)) else .ok s

/-- The settings in a file with some bytes, or in one that does not exist. The bytes are read as
text before the file's name is looked at. -/
def load (path : String) (content : Option ByteArray) : Except Error Settings :=
  match content.bind String.fromUTF8? with
  | none => .error .unreadableFile
  | some text => ofText path text

end Settings

end FieldRules
