import FieldRules.Registry.Builtin
import FieldRules.Walk.Visit

/-!
# Engine — mapping and checking whole values

An engine has the generators, the settings, and the plans of the record types met so far. `validate`
maps and checks a value in place.
-/

namespace FieldRules

structure Engine where
  registry : Registry
  settings : Settings
  cache : PlanCache

namespace Engine

/-- An engine that has not met any type yet. -/
def new (registry : Registry) (settings : Settings) : Engine := ⟨registry, settings, .empty⟩

/-- The built-in generators and the initial settings. -/
def initial : Engine := new .builtin .initial

/-- The context of a run over values of some record types. -/
def context (e : Engine) (schema : Schema) : Context := ⟨schema, e.registry, e.settings⟩

/-- What a run leaves: its result, the value and the cells as they are then, and the engine with the
plans it has met. -/
structure Validation where
  result : Except Error (List Issue)
  value : Value
  store : Store
  engine : Engine

/-- Maps and checks a value of a type in place. A leaf cannot be a root. A run that is not stopped
ends with its issues, or with the rejected values as well if there are any. -/
def validate (e : Engine) (schema : Schema) (rootType : Typ) (v : Value) (store : Store) :
    Validation :=
  match v with
  | .leaf _ =>
    ⟨.error (.misuse (rootType.typeName schema) .leafRoot), v, store, e⟩
  | _ =>
    let ctx := e.context schema
    let o := visit ctx ctx.room v "" ⟨store, e.cache, .empty⟩
    let result := match o.stop with
      | some err => .error err
      | none => o.run.report.result
    ⟨result, o.value, o.run.store, { e with cache := o.run.cache }⟩

/-- The plan of a record type, kept for later runs. -/
def precompile (e : Engine) (schema : Schema) (name : String) : Except Error Plan × Engine :=
  let r := schema.record name
  let plan := e.cache.getOrBuild r.identity fun _ =>
    Plan.compile e.registry r.typeName (schema.decls name)
  (plan.result, { e with cache := plan.cache })

end Engine

end FieldRules
