import FieldRules.Dict
import FieldRules.Yaml.Node
import FieldRules.Yaml.Scan

/-!
# Yaml/Document — YAML text as one document

A text holds at most one document, and a text without one is read as an empty document. Directives
before it declare handles of tags. Aliases have to follow their anchors.
-/

namespace FieldRules.Yaml

/-! ## Anchors -/

/-- The anchors met so far: the number of each name, and the scalars that the numbers stand for, the
latest first; `none` for a sequence or a mapping. -/
structure Anchors where
  numbers : Dict Nat
  targets : List (Nat × Option Scalar)

namespace Anchors

def none : Anchors := ⟨[], []⟩

/-- A node with its anchor, if it has one. The number of an anchor is how many names were met before
it; so a name that is given once more takes the number of the next new name. -/
def note (a : Anchors) (anchor : Option String) (s : Option Scalar) : Anchors :=
  match anchor with
  | .none => a
  | some name => ⟨a.numbers.insert name a.numbers.length, (a.numbers.length, s) :: a.targets⟩

end Anchors

namespace Node

mutual

/-- The node with numbers for the names of its aliases, and the anchors behind it; `none` if an
alias stands before its anchor. -/
def link? : Node String → Anchors → Option (Node Nat × Anchors)
  | .reference name, a => (a.numbers.get? name).map fun n => (.reference n, a)
  | .scalar anchor s, a => some (.scalar anchor s, a.note anchor (some s))
  | .sequence anchor items, a => do
    let (items, a) ← linkItems? items (a.note anchor none)
    return (.sequence anchor items, a)
  | .mapping anchor entries, a => do
    let (entries, a) ← linkEntries? entries (a.note anchor none)
    return (.mapping anchor entries, a)

def linkItems? : List (Node String) → Anchors → Option (List (Node Nat) × Anchors)
  | [], a => some ([], a)
  | n :: ns, a => do
    let (n, a) ← link? n a
    let (ns, a) ← linkItems? ns a
    return (n :: ns, a)

def linkEntries? : List (Node String × Node String) → Anchors →
    Option (List (Node Nat × Node Nat) × Anchors)
  | [], a => some ([], a)
  | (key, value) :: entries, a => do
    let (key, a) ← link? key a
    let (value, a) ← link? value a
    let (entries, a) ← linkEntries? entries a
    return ((key, value) :: entries, a)

end

end Node

/-! ## Documents -/

/-- A document: its node, and the scalars that anchors stand for. -/
structure Document where
  root : Node Nat
  targets : List (Nat × Option Scalar)

namespace Document

/-- The handles that directives declare, before which `hs` are declared, and the tokens behind the
directives. A version is 1.1 or 1.2. Neither it nor a handle is given twice. -/
def directives? (versioned : Bool) (hs : Handles) : List Token → Option (Handles × List Token)
  | .directive (.version major minor) :: ts =>
    if !versioned && major == 1 && (minor == 1 || minor == 2) then directives? true hs ts else none
  | .directive (.tag handle start) :: ts =>
    if (hs.lookup handle).isSome then none else directives? versioned ((handle, start) :: hs) ts
  | ts => some (hs, ts)

/-- The node of the only document that tokens hold. Without directives it needs no mark before it; a
document with a mark may be empty. -/
def root? (ts : List Token) : Option (Node String) :=
  if ts.isEmpty then some .empty
  else do
    let (hs, behind) ← directives? false [] ts
    let marked := behind.head? == some .documentStart
    if behind.length < ts.length && !marked then none
    let content := if marked then behind.drop 1 else behind
    let (n, rest) ←
      if marked && (content.isEmpty || content.head? == some .documentEnd) then
        some (Node.empty, content)
      else Node.read? (hs ++ Handles.initial) (4 * content.length + 4) .block content
    if rest.all (· == .documentEnd) then some n else none

/-- The document that a text writes. -/
def ofText? (text : String) : Option Document := do
  let ts ← tokens? text
  let n ← root? ts
  let (root, anchors) ← n.link? .none
  return ⟨root, anchors.targets⟩

/-- The scalar that a node of the document is or refers to. -/
def scalar? (d : Document) : Node Nat → Option Scalar
  | .reference n => (d.targets.lookup n).join
  | .scalar _ s => some s
  | _ => none

end Document

end FieldRules.Yaml
