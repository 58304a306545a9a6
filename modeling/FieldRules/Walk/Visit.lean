import FieldRules.Value.Read
import FieldRules.Walk.Inspect

/-!
# Walk/Visit — running the rules of a value

A visit goes through a value from the outside in. At a record it gets the plan of the type; at each
field it runs the rule, writes a changed value back, and goes on below the field. Issues and
rejected values are collected; an error stops the visit where it is, with all changes made until
then.
-/

namespace FieldRules

/-- What a run has collected. -/
structure Report where
  issues : List Issue
  /-- Mapped values that did not fit their fields, which kept their values. -/
  rejected : List RuleError
deriving Repr

namespace Report

def empty : Report := ⟨[], []⟩

/-- The issues of a run in which every mapped value fitted. -/
def result (r : Report) : Except Error (List Issue) :=
  if r.rejected.isEmpty then .ok r.issues else .error (.rejected r.rejected r.issues)

end Report

/-- What a run changes besides the value: the cells, the plans kept, and what is collected. -/
structure Run where
  store : Store
  cache : PlanCache
  report : Report

namespace Run

def addIssues (run : Run) (issues : List Issue) : Run :=
  { run with report := { run.report with issues := run.report.issues ++ issues } }

def reject (run : Run) (e : RuleError) : Run :=
  { run with report := { run.report with rejected := run.report.rejected ++ [e] } }

end Run

/-- A value after a visit, with the run, and the error that stopped the visit, if one did. -/
structure Visit (α : Type) where
  value : α
  run : Run
  stop : Option Error

namespace Visit

/-- The visit of a value around the one visited. -/
def map {α β : Type} (f : α → β) (o : Visit α) : Visit β := ⟨f o.value, o.run, o.stop⟩

/-- Goes on with the value if the visit was not stopped. -/
def andThen {α : Type} (o : Visit α) (next : α → Run → Visit α) : Visit α :=
  match o.stop with
  | some _ => o
  | none => next o.value o.run

end Visit

/-- Visits the elements in order; those after a stop stay as they are. -/
def visitAll {α : Type} (visit : α → Run → Visit α) : List α → Run → Visit (List α)
  | [], run => ⟨[], run, none⟩
  | a :: as, run =>
    let o := visit a run
    match o.stop with
    | some e => ⟨o.value :: as, o.run, some e⟩
    | none => (visitAll visit as o.run).map (o.value :: ·)

/-! ## Fields -/

/-- A field of a record with the rule that its plan has for it. -/
structure Slot where
  planned : PlannedField
  typ : Typ
  value : Value

/-- The slots of a record side by side with plan and types. -/
def slotsOf : List PlannedField → List RecordField → List Value → List Slot
  | p :: ps, f :: fs, v :: vs => ⟨p, f.typ, v⟩ :: slotsOf ps fs vs
  | _, _, _ => []

/-- A mapped value goes into its field, or is rejected and the field keeps its value. -/
def store (ctx : Context) (v : Value) (p : Place) (mapped : Json) (run : Run) : Visit Value :=
  match Value.read ctx.schema p.typ mapped run.store with
  | .ok (w, cells) => ⟨w, { run with store := cells }, none⟩
  | .error e =>
    let typeName := p.typ.typeName ctx.schema
    let rejection := RuleError.unstorable p.path typeName mapped.display e.message
    ⟨v, run.reject rejection, none⟩

/-- Runs the rule of a field: looks at the field, collects the issues, and stores the value that the
mappers made if it is another one. -/
def apply (ctx : Context) (room : Nat) (rule : Rule) (v : Value) (p : Place) (run : Run) :
    Visit Value :=
  match inspect ctx room run.store v p with
  | .error e => ⟨v, run, some e⟩
  | .ok (hint, current) =>
    let outcome := rule.act current hint
    let seen := outcome.mapped.getD current
    let run := run.addIssues (outcome.messages.map fun m => ⟨m, p.path, seen⟩)
    match outcome.mapped with
    | none => ⟨v, run, none⟩
    | some w => if w.same current then ⟨v, run, none⟩ else store ctx v p w run

/-! ## Values -/

/-- Visits a value at a path with `room` levels left. -/
def visit (ctx : Context) : (room : Nat) → Value → (path : String) → Run → Visit Value
  | 0, v, path, run => ⟨v, run, some (ctx.tooDeep path)⟩
  | room + 1, v, path, run =>
    match v with
    | .leaf _ => ⟨v, run, none⟩
    | .absent => ⟨v, run, none⟩
    | .present w => (visit ctx room w path run).map .present
    | .boxed w => (visit ctx room w path run).map .boxed
    | .shared c =>
      match ctx.enter run.store c path with
      | .error e => ⟨v, run, some e⟩
      | .ok (w, held) =>
        let o := visit ctx room w path { run with store := held }
        ⟨v, { o.run with store := (o.run.store.write c o.value).release c }, o.stop⟩
    | .sequence items =>
      let o := visitAll (fun (w, i) run =>
        (visit ctx room w (Path.index path i) run).map fun w => (w, i)) items.zipIdx run
      o.map fun visited => .sequence (visited.map Prod.fst)
    | .map entries =>
      let o := visitAll (fun (k, w) run =>
        (visit ctx room w (Path.join path k) run).map fun w => (k, w)) entries run
      o.map .map
    | .record name slots =>
      let r := ctx.schema.record name
      let plan := run.cache.getOrBuild r.identity fun _ =>
        Plan.compile ctx.registry r.typeName (ctx.schema.decls name)
      let run := { run with cache := plan.cache }
      match plan.result with
      | .error e => ⟨v, run, some e⟩
      | .ok plan =>
        let exposed := slots.take r.exposed
        if exposed.length != plan.fields.length then
          ⟨v, run, some (.misuse r.typeName (.fieldCount plan.fields.length exposed.length))⟩
        else
          let o := visitAll (fun slot run =>
            let p : Place := ⟨r.typeName, slot.planned.name, slot.typ,
              Path.join path (slot.planned.segment ctx.settings.displayNames)⟩
            let applied :=
              if slot.planned.rule.isEmpty then ⟨slot.value, run, none⟩
              else apply ctx room slot.planned.rule slot.value p run
            (applied.andThen fun w run => visit ctx room w p.path run).map
              fun w => { slot with value := w }) (slotsOf plan.fields r.fields exposed) run
          o.map fun visited =>
            .record name (visited.map Slot.value ++ slots.drop visited.length)

end FieldRules
