import FieldRules.Numeric.Power

/-!
# Schema/Typ — the types of fields

A type is a leaf type, a record by name, or one of the containers: optional, boxed, shared,
sequences and maps. Records refer to their types by name, so types may be recursive.
-/

namespace FieldRules

open Numeric (pow2)

/-- The integer types: width and sign. -/
inductive IntKind where
  | i8 | i16 | i32 | i64 | i128 | isize | u8 | u16 | u32 | u64 | u128 | usize
deriving DecidableEq, Repr

namespace IntKind

def name : IntKind → String
  | i8 => "i8" | i16 => "i16" | i32 => "i32" | i64 => "i64" | i128 => "i128" | isize => "isize"
  | u8 => "u8" | u16 => "u16" | u32 => "u32" | u64 => "u64" | u128 => "u128" | usize => "usize"

def bits : IntKind → Nat
  | i8 | u8 => 8
  | i16 | u16 => 16
  | i32 | u32 => 32
  | i64 | isize | u64 | usize => 64
  | i128 | u128 => 128

def isSigned : IntKind → Bool
  | i8 | i16 | i32 | i64 | i128 | isize => true
  | _ => false

/-- The least integer of the type. -/
def least (k : IntKind) : Int := if k.isSigned then -(pow2 (k.bits - 1) : Int) else 0

/-- The greatest integer of the type. -/
def greatest (k : IntKind) : Int := if k.isSigned then pow2 (k.bits - 1) - 1 else pow2 k.bits - 1

def holds (k : IntKind) (n : Int) : Bool := k.least ≤ n && n ≤ k.greatest

end IntKind

/-- Types without inner structure. A choice is an enumeration with its type name and its values. -/
inductive Scalar where
  | bool
  | char
  | text
  | int (kind : IntKind)
  | single
  | double
  | unit
  | json
  | choice (typeName : String) (names : List String)
deriving DecidableEq, Repr

/-- What the keys of a map are. -/
inductive KeyKind where
  | text
  | integer
deriving DecidableEq, Repr

/-- How a sequence is kept. -/
inductive SeqKind where
  | vector
  | deque
  | array (size : Nat)
deriving DecidableEq, Repr

/-- How a map is kept. -/
inductive MapKind where
  | tree
  | hash
deriving DecidableEq, Repr

inductive Typ where
  | scalar (s : Scalar)
  | record (name : String)
  | option (inner : Typ)
  | box (inner : Typ)
  | shared (inner : Typ)
  | seq (kind : SeqKind) (inner : Typ)
  | map (kind : MapKind) (key : KeyKind) (inner : Typ)
deriving DecidableEq, Repr

end FieldRules
