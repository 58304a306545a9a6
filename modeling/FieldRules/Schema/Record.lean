import FieldRules.Plan
import FieldRules.Schema.Typ

/-!
# Schema/Record — declarations of record types

A record type declares its fields in order. Its identity names its plan in a `PlanCache`; types with
one identity share one plan. Normally a run reaches every declared field, but a type may expose only
the first few.
-/

namespace FieldRules

/-- A declared field with the member name it has in JSON, and its type. -/
structure RecordField where
  decl : FieldDecl
  key : String
  typ : Typ
deriving Repr

structure RecordType where
  /-- The full name of the type. -/
  typeName : String
  /-- The name that JSON readers give it. -/
  title : String
  identity : String
  fields : List RecordField
  /-- How many of the fields a run reaches. -/
  exposed : Nat
deriving Repr

/-- Record types by the names that types refer to them by. -/
structure Schema where
  records : List (String × RecordType)
deriving Repr

namespace Schema

/-- The declaration of a record; an undeclared name is a record without fields. -/
def record (s : Schema) (name : String) : RecordType :=
  (s.records.lookup name).getD ⟨name, name, name, [], 0⟩

/-- The field declarations of a record. -/
def decls (s : Schema) (name : String) : List FieldDecl :=
  (s.record name).fields.map RecordField.decl

end Schema

/-! ## Type names -/

/-- The full name of a leaf type. -/
def Scalar.typeName : Scalar → String
  | bool => "bool"
  | char => "char"
  | text => "alloc::string::String"
  | int k => k.name
  | single => "f32"
  | double => "f64"
  | unit => "()"
  | json => "serde_json::value::Value"
  | choice name _ => name

def KeyKind.typeName : KeyKind → String
  | text => "alloc::string::String"
  | integer => "i64"

/-- The full name of a type, as it stands in error messages. -/
def Typ.typeName (schema : Schema) : Typ → String
  | scalar s => s.typeName
  | record name => (schema.record name).typeName
  | option t => "core::option::Option<" ++ t.typeName schema ++ ">"
  | box t => "alloc::boxed::Box<" ++ t.typeName schema ++ ">"
  | shared t => "alloc::rc::Rc<core::cell::RefCell<" ++ t.typeName schema ++ ">>"
  | seq .vector t => "alloc::vec::Vec<" ++ t.typeName schema ++ ">"
  | seq .deque t => "alloc::collections::vec_deque::VecDeque<" ++ t.typeName schema ++ ">"
  | seq (.array n) t => "[" ++ t.typeName schema ++ "; " ++ toString n ++ "]"
  | map .tree k t =>
    "alloc::collections::btree::map::BTreeMap<" ++ k.typeName ++ ", " ++ t.typeName schema ++ ">"
  | map .hash k t =>
    "std::collections::hash::map::HashMap<" ++ k.typeName ++ ", " ++ t.typeName schema ++ ">"

end FieldRules
