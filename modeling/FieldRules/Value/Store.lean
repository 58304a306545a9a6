import FieldRules.Schema.Typ
import FieldRules.Value.Basic

/-!
# Value/Store — shared cells and who holds them

A store has the content of every shared cell, and the cells that are held at the moment. A cell is
held while its content is looked at or changed, and cannot be taken a second time until it is
released.
-/

namespace FieldRules

/-- The content of a shared cell, with its type. -/
structure Cell where
  typ : Typ
  content : Value
deriving Repr

structure Store where
  cells : List Cell
  held : List CellId
deriving Repr

namespace Store

def empty : Store := ⟨[], []⟩

/-- A cell by number; one that was never made holds nothing. -/
def cell (s : Store) (c : CellId) : Cell := s.cells.getD c ⟨.scalar .unit, .leaf .unit⟩

def isHeld (s : Store) (c : CellId) : Bool := s.held.contains c

/-- The store with one more cell held. -/
def hold (s : Store) (c : CellId) : Store := { s with held := c :: s.held }

/-- The store with a cell released. -/
def release (s : Store) (c : CellId) : Store := { s with held := s.held.erase c }

/-- The store with a new content in a cell. -/
def write (s : Store) (c : CellId) (v : Value) : Store :=
  { s with cells := s.cells.modify c fun cell => { cell with content := v } }

/-- A new cell with the given content. -/
def alloc (s : Store) (typ : Typ) (v : Value) : CellId × Store :=
  (s.cells.length, { s with cells := s.cells ++ [⟨typ, v⟩] })

@[simp] theorem held_write (s : Store) (c : CellId) (v : Value) : (s.write c v).held = s.held := rfl

end Store

end FieldRules
