import FieldRules.Path
import FieldRules.Schema.Record
import FieldRules.Settings.Basic
import FieldRules.Value.Store

/-!
# Walk/Context — what a run is given, and steps into shared cells

A run knows the record types, the generators and the settings. Levels are counted by the room that
is left: a value at depth `d` has room `maxDepth + 1 - d`, and none is left at the first depth
beyond the limit.
-/

namespace FieldRules

structure Context where
  schema : Schema
  registry : Registry
  settings : Settings

namespace Context

/-- The levels that a root may use. -/
def room (ctx : Context) : Nat := ctx.settings.maxDepth + 1

/-- There is no level left at a path. -/
def tooDeep (ctx : Context) (path : String) : Error := .tooDeep path ctx.settings.maxDepth

/-- A cell is met while it is held. -/
def cycle (ctx : Context) (store : Store) (c : CellId) (path : String) : Error :=
  .cycle path ((store.cell c).typ.typeName ctx.schema)

/-- The content of a cell, and the store in which it is held; an error if it is held already. -/
def enter (ctx : Context) (store : Store) (c : CellId) (path : String) :
    Except Error (Value × Store) :=
  if store.isHeld c then .error (ctx.cycle store c path)
  else .ok ((store.cell c).content, store.hold c)

/-- The path of a field below that of its record. -/
def fieldPath (ctx : Context) (parent : String) (d : FieldDecl) : String :=
  Path.join parent (d.segment ctx.settings.displayNames)

end Context

end FieldRules
