import FieldRules.Rule

/-!
# Plan — the rules of a record type

A plan has one rule for every declared field, in order. `PlanCache` keeps the plans of the types
that were met; a plan that cannot be built is not kept.
-/

namespace FieldRules

/-- The declaration of a field: its name, its annotation, and the name it is shown by. -/
structure FieldDecl where
  name : String
  tag : Option String
  displayName : Option String
deriving DecidableEq, Repr

/-- The name of a field in paths: the display name where there is one and it is asked for. -/
def FieldDecl.segment (d : FieldDecl) (displayNames : Bool) : String :=
  match d.displayName with
  | some a => if displayNames then a else d.name
  | none => d.name

/-- A declared field with its rule. -/
structure PlannedField where
  name : String
  displayName : Option String
  rule : Rule

/-- The name of a planned field in paths. -/
def PlannedField.segment (f : PlannedField) (displayNames : Bool) : String :=
  FieldDecl.segment ⟨f.name, none, f.displayName⟩ displayNames

/-- The rules of a record type, field by field. -/
structure Plan where
  typeName : String
  fields : List PlannedField

namespace Plan

/-- One field with the rule of its annotation. -/
def compileField (registry : Registry) (typeName : String) (d : FieldDecl) :
    Except Error PlannedField :=
  match d.tag with
  | none => .ok ⟨d.name, d.displayName, .empty⟩
  | some tag =>
    match Rule.compile registry tag with
    | .ok rule => .ok ⟨d.name, d.displayName, rule⟩
    | .error e => .error (.rule (typeName ++ "." ++ d.name) e)

/-- All fields with their rules, or the error of the first annotation that has one. -/
def compileFields (registry : Registry) (typeName : String) :
    List FieldDecl → Except Error (List PlannedField)
  | [] => .ok []
  | d :: ds => do
    let f ← compileField registry typeName d
    let fs ← compileFields registry typeName ds
    return f :: fs

/-- The plan of a record type. -/
def compile (registry : Registry) (typeName : String) (decls : List FieldDecl) :
    Except Error Plan := do
  let fields ← compileFields registry typeName decls
  return ⟨typeName, fields⟩

/-- Whether no field maps or checks anything. -/
def isPassthrough (p : Plan) : Bool := p.fields.all fun f => f.rule.isEmpty

end Plan

/-! ## Plans kept for later -/

/-- Plans by the identity of their type. -/
structure PlanCache where
  plans : Dict Plan

namespace PlanCache

def empty : PlanCache := ⟨[]⟩

def get? (c : PlanCache) (id : String) : Option Plan := c.plans.get? id

def contains (c : PlanCache) (id : String) : Bool := (c.get? id).isSome

/-- How many plans are kept. -/
def size (c : PlanCache) : Nat := c.plans.length

/-- What asking for a plan gives: the plan or why there is none, whether it was built for the
purpose, and the cache afterwards. -/
structure Lookup where
  result : Except Error Plan
  built : Bool
  cache : PlanCache

/-- The plan kept for a type; if there is none, `build` is asked for it and a success is kept. -/
def getOrBuild (c : PlanCache) (id : String) (build : Unit → Except Error Plan) : Lookup :=
  match c.get? id with
  | some p => ⟨.ok p, false, c⟩
  | none =>
    match build () with
    | .ok p => ⟨.ok p, true, ⟨c.plans.insert id p⟩⟩
    | .error e => ⟨.error e, true, c⟩

end PlanCache

end FieldRules
