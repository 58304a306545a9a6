import FieldRules.Json.Key
import FieldRules.Schema.Record
import FieldRules.Value.Store

/-!
# Value/Read — values from their JSON form

`Value.read` makes a value of a given type from JSON, with a new cell for every shared part. The
children of a JSON value are turned into readers first, so that a type may be looked at from outside
in, through options, boxes and cells, before the children's types are known.
-/

namespace FieldRules

open Numeric (Double)

/-- Makes a value of any type, and new cells. -/
abbrev Reader := Typ → Store → Except Mismatch (Value × Store)

/-! ## Leaves -/

/-- What a leaf type is called where something else was found. -/
def Scalar.expectation : Scalar → String
  | bool => "a boolean"
  | char => "a character"
  | text => "a string"
  | int k => k.name
  | single => "f32"
  | double => "f64"
  | unit => "unit"
  | json => "any value"
  | choice _ _ => "string or map"

/-- The value of a choice: its name, or an object with the name as its only member and null in
it. -/
def readChoice (names : List String) : Json → Except Mismatch Leaf
  | .str s => if names.contains s then .ok (.text s) else .error (.variant s names)
  | .obj [(s, v)] =>
    if !names.contains s then .error (.variant s names)
    else if v.isNull then .ok (.text s)
    else .error (.ofJson v "unit")
  | .obj members => .error (.value (.ofJson (.obj members)) "map with a single key")
  | v => .error (.ofJson v "string or map")

/-- A leaf of the given type. -/
def Leaf.read (s : Scalar) (v : Json) : Except Mismatch Leaf :=
  match s, v with
  | .bool, .bool b => .ok (.bool b)
  | .char, .str t =>
    match t.toList with
    | [c] => .ok (.char c)
    | _ => .error (.value (.text t) "a character")
  | .text, .str t => .ok (.text t)
  | .int k, .num (.int n) =>
    if k.holds n then .ok (.int n) else .error (.value (.number (.int n)) k.name)
  | .single, .num (.int n) => .ok (.double (.singleOfInt n))
  | .single, .num (.float x) => .ok (.double x.toSingle)
  | .double, .num n => .ok (.double n.toDouble)
  | .unit, .null => .ok .unit
  | .json, v => .ok (.json v)
  | .choice _ names, v => readChoice names v
  | s, v => .error (.ofJson v s.expectation)

/-! ## Containers -/

/-- Every element with the same type. -/
def readItems (t : Typ) : List Reader → Store → Except Mismatch (List Value × Store)
  | [], s => .ok ([], s)
  | r :: rs, s => do
    let (v, s) ← r t s
    let (vs, s) ← readItems t rs s
    return (v :: vs, s)

/-- The text of a map's key. -/
def readKey (k : KeyKind) (name : String) : Except Mismatch String :=
  match k with
  | .text => .ok name
  | .integer => (Json.integerKey name).map toString

/-- Every entry with the same type. -/
def readEntries (k : KeyKind) (t : Typ) :
    List (String × Reader) → Store → Except Mismatch (List (String × Value) × Store)
  | [], s => .ok ([], s)
  | (name, r) :: rs, s => do
    let key ← readKey k name
    let (v, s) ← r t s
    let (vs, s) ← readEntries k t rs s
    return ((key, v) :: vs, s)

/-- The value of a member that is not there: an absent option, also in boxes and cells. -/
def missing? : Typ → Store → Option (Value × Store)
  | .option _, s => some (.absent, s)
  | .box t, s => (missing? t s).map fun (v, s) => (.boxed v, s)
  | .shared t, s => (missing? t s).map fun (v, s) =>
    let (c, s) := s.alloc t v
    (.shared c, s)
  | _, _ => none

/-! ## Records -/

/-- The values of the members that belong to fields, by member name; the others are passed over. -/
def readMembers (fields : List RecordField) :
    List (String × Reader) → Store → Except Mismatch (List (String × Value) × Store)
  | [], s => .ok ([], s)
  | (name, r) :: rs, s =>
    match fields.find? (·.key == name) with
    | none => readMembers fields rs s
    | some f => do
      let (v, s) ← r f.typ s
      let (vs, s) ← readMembers fields rs s
      return ((name, v) :: vs, s)

/-- The slots of a record in order of declaration, from the values of its members. -/
def collect (values : List (String × Value)) :
    List RecordField → Store → Except Mismatch (List Value × Store)
  | [], s => .ok ([], s)
  | f :: fs, s =>
    match values.lookup f.key with
    | some v => do
      let (vs, s) ← collect values fs s
      return (v :: vs, s)
    | none =>
      match missing? f.typ s with
      | some (v, s) => do
        let (vs, s) ← collect values fs s
        return (v :: vs, s)
      | none => .error (.missing f.key)

/-- What a record is called where a list has too few elements. -/
def listExpectation (r : RecordType) : String :=
  let n := r.fields.length
  "struct " ++ r.title ++ " with " ++ toString n ++ (if n = 1 then " element" else " elements")

/-- The slots of a record from a list, in order of declaration; `read` counts those before. -/
def readPositions (r : RecordType) :
    (read : Nat) → List RecordField → List Reader → Store → Except Mismatch (List Value × Store)
  | read, [], rest, s =>
    if rest.isEmpty then .ok ([], s) else .error (.tooLong (read + rest.length))
  | read, _ :: _, [], _ => .error (.length read (listExpectation r))
  | read, f :: fs, reader :: rest, s => do
    let (v, s) ← reader f.typ s
    let (vs, s) ← readPositions r (read + 1) fs rest s
    return (v :: vs, s)

/-- The elements of an array of a fixed size; `read` counts those before. -/
def readArray (size : Nat) (t : Typ) :
    (read left : Nat) → List Reader → Store → Except Mismatch (List Value × Store)
  | read, 0, rest, s =>
    if rest.isEmpty then .ok ([], s) else .error (.tooLong (read + rest.length))
  | read, _ + 1, [], _ => .error (.length read ("an array of length " ++ toString size))
  | read, left + 1, reader :: rest, s => do
    let (v, s) ← reader t s
    let (vs, s) ← readArray size t (read + 1) left rest s
    return (v :: vs, s)

/-! ## All types -/

/-- The children of a JSON value, as readers. -/
structure Children where
  items : List Reader
  members : List (String × Reader)

/-- A value of a type from JSON whose children are readers already. -/
def readNode (schema : Schema) (v : Json) (kids : Children) :
    Typ → Store → Except Mismatch (Value × Store)
  | .scalar t, s => (Leaf.read t v).map fun l => (.leaf l, s)
  | .option t, s =>
    match v with
    | .null => .ok (.absent, s)
    | _ => (readNode schema v kids t s).map fun (w, s) => (.present w, s)
  | .box t, s => (readNode schema v kids t s).map fun (w, s) => (.boxed w, s)
  | .shared t, s => (readNode schema v kids t s).map fun (w, s) =>
    let (c, s) := s.alloc t w
    (.shared c, s)
  | .seq (.array n) t, s =>
    match v with
    | .arr _ => (readArray n t 0 n kids.items s).map fun (ws, s) => (.sequence ws, s)
    | _ => .error (.ofJson v ("an array of length " ++ toString n))
  | .seq _ t, s =>
    match v with
    | .arr _ => (readItems t kids.items s).map fun (ws, s) => (.sequence ws, s)
    | _ => .error (.ofJson v "a sequence")
  | .map _ k t, s =>
    match v with
    | .obj _ => (readEntries k t kids.members s).map fun (es, s) => (.ofEntries es, s)
    | _ => .error (.ofJson v "a map")
  | .record name, s =>
    let r := schema.record name
    match v with
    | .obj _ => do
      let (values, s) ← readMembers r.fields kids.members s
      let (slots, s) ← collect values r.fields s
      return (.record name slots, s)
    | .arr _ =>
      (readPositions r 0 r.fields kids.items s).map fun (slots, s) => (.record name slots, s)
    | _ => .error (.ofJson v ("struct " ++ r.title))

mutual

/-- The reader of a JSON value. -/
def Reader.ofJson (schema : Schema) : Json → Reader
  | .arr items => readNode schema (.arr items) ⟨Reader.ofItems schema items, []⟩
  | .obj members => readNode schema (.obj members) ⟨[], Reader.ofMembers schema members⟩
  | v => readNode schema v ⟨[], []⟩

def Reader.ofItems (schema : Schema) : List Json → List Reader
  | [] => []
  | v :: vs => Reader.ofJson schema v :: Reader.ofItems schema vs

def Reader.ofMembers (schema : Schema) : List (String × Json) → List (String × Reader)
  | [] => []
  | (k, v) :: vs => (k, Reader.ofJson schema v) :: Reader.ofMembers schema vs

end

/-- A value of a type from its JSON form. -/
def Value.read (schema : Schema) (t : Typ) (v : Json) (s : Store) :
    Except Mismatch (Value × Store) :=
  Reader.ofJson schema v t s

end FieldRules
