import FieldRules.Yaml.Token

/-!
# Yaml/Node — the tree of a document

A node is an alias, a scalar, a sequence or a mapping. `Node.read?` reads the node that tokens begin
with. What may be left out is an empty plain scalar: a value without its colon, a key or an item
before the next mark, and a node of which only an anchor or a tag is written.
-/

namespace FieldRules.Yaml

/-- A scalar: its tag in full, how it is written, and its text. -/
structure Scalar where
  tag : Option String
  style : Style
  text : String
deriving DecidableEq, Repr

/-- A node of a document, with its anchor. Aliases name the anchors they refer to by values of
`α`. -/
inductive Node (α : Type) where
  | reference (target : α)
  | scalar (anchor : Option String) (s : Scalar)
  | sequence (anchor : Option String) (items : List (Node α))
  | mapping (anchor : Option String) (entries : List (Node α × Node α))

/-- The node that is left out. -/
def Node.empty {α : Type} : Node α := .scalar none ⟨none, .plain, ""⟩

/-! ## Anchors and tags -/

/-- What handles of tags stand for. -/
abbrev Handles := List (String × String)

namespace Handles

/-- The handles that need no directive. -/
def initial : Handles := [("!", "!"), ("!!", "tag:yaml.org,2002:")]

/-- A tag in full; `none` if its handle is unknown. A tag without a handle is in full already. -/
def expand? (hs : Handles) (t : TagText) : Option String :=
  if t.handle.isEmpty then some t.rest else (hs.lookup t.handle).map (· ++ t.rest)

end Handles

/-- What stands before a node: its anchor, and its tag in full. -/
structure Head where
  anchor : Option String
  tag : Option String
deriving DecidableEq, Repr

/-- The anchor and the tag that tokens begin with, in either order. -/
def Head.read? (hs : Handles) : List Token → Option (Head × List Token)
  | .anchor a :: .tag t :: ts | .tag t :: .anchor a :: ts =>
    (hs.expand? t).map fun tag => (⟨some a, some tag⟩, ts)
  | .anchor a :: ts => some (⟨some a, none⟩, ts)
  | .tag t :: ts => (hs.expand? t).map fun tag => (⟨none, some tag⟩, ts)
  | ts => some (⟨none, none⟩, ts)

/-! ## Nodes -/

/-- Where a node stands: inside brackets, in a block, or as a key or a value in a block, where a
sequence need not be indented. -/
inductive Place where
  | brackets
  | block
  | member
deriving DecidableEq, Repr

/-- Whether the next token is one of some tokens. -/
def follows (marks : List Token) (ts : List Token) : Bool := ts.head?.any fun t => marks.contains t

namespace Node

mutual

/-- The node that tokens begin with, and the tokens behind it. -/
def read? (hs : Handles) : (fuel : Nat) → Place → List Token → Option (Node String × List Token)
  | 0, _, _ => none
  | fuel + 1, place, ts =>
    match ts with
    | .reference name :: ts => some (.reference name, ts)
    | ts => do
      let (head, ts) ← Head.read? hs ts
      match ts with
      | .scalar style text :: ts => return (.scalar head.anchor ⟨head.tag, style, text⟩, ts)
      | .openSequence :: ts =>
        let (items, ts) ← bracketItems? hs fuel true ts
        return (.sequence head.anchor items, ts)
      | .openMapping :: ts =>
        let (entries, ts) ← bracketMembers? hs fuel true ts
        return (.mapping head.anchor entries, ts)
      | ts =>
        if place == .member && follows [.blockEntry] ts then
          let (items, ts) ← items? hs fuel false ts
          return (.sequence head.anchor items, ts)
        else if place != .brackets && follows [.blockSequence] ts then
          let (items, ts) ← items? hs fuel true (ts.drop 1)
          return (.sequence head.anchor items, ts)
        else if place != .brackets && follows [.blockMapping] ts then
          let (entries, ts) ← members? hs fuel (ts.drop 1)
          return (.mapping head.anchor entries, ts)
        else if head == ⟨none, none⟩ then none
        else return (.scalar head.anchor ⟨head.tag, .plain, ""⟩, ts)

/-- A node that may be left out before some tokens. -/
def readUnless? (hs : Handles) : (fuel : Nat) → (marks : List Token) → Place → List Token →
    Option (Node String × List Token)
  | 0, _, _, _ => none
  | fuel + 1, marks, place, ts =>
    if follows marks ts then some (.empty, ts) else read? hs fuel place ts

/-- The items of a sequence in a block. If it has an indentation of its own, it has an end token. -/
def items? (hs : Handles) : (fuel : Nat) → (indented : Bool) → List Token →
    Option (List (Node String) × List Token)
  | 0, _, _ => none
  | fuel + 1, indented, ts =>
    match ts with
    | .blockEntry :: ts => do
      let marks := if indented then [.blockEntry, .blockEnd]
        else [.blockEntry, .key, .value, .blockEnd]
      let (item, ts) ← readUnless? hs fuel marks .block ts
      let (items, ts) ← items? hs fuel indented ts
      return (item :: items, ts)
    | ts =>
      if !indented then some ([], ts)
      else if follows [.blockEnd] ts then some ([], ts.drop 1)
      else none

/-- The members of a mapping in a block, up to its end token. -/
def members? (hs : Handles) : (fuel : Nat) → List Token →
    Option (List (Node String × Node String) × List Token)
  | 0, _ => none
  | fuel + 1, ts =>
    match ts with
    | .blockEnd :: ts => some ([], ts)
    | .key :: ts => do
      let (key, ts) ← readUnless? hs fuel [.key, .value, .blockEnd] .member ts
      let (value, ts) ← value? hs fuel [.key, .value, .blockEnd] .member ts
      let (members, ts) ← members? hs fuel ts
      return ((key, value) :: members, ts)
    | _ => none

/-- The value of a member, with its colon. -/
def value? (hs : Handles) : (fuel : Nat) → (marks : List Token) → Place → List Token →
    Option (Node String × List Token)
  | 0, _, _, _ => none
  | fuel + 1, marks, place, ts =>
    match ts with
    | .value :: ts => readUnless? hs fuel marks place ts
    | ts => some (.empty, ts)

/-- The items of a sequence in brackets, up to the closing one. An item with a key is a mapping of
one member; if its key is left out, the token behind the key's mark is lost. -/
def bracketItems? (hs : Handles) : (fuel : Nat) → (first : Bool) → List Token →
    Option (List (Node String) × List Token)
  | 0, _, _ => none
  | fuel + 1, first, ts =>
    if follows [.closeSequence] ts then some ([], ts.drop 1)
    else if !first && !follows [.flowEntry] ts then none
    else
      match if first then ts else ts.drop 1 with
      | .closeSequence :: ts => some ([], ts)
      | .key :: ts => do
        let (key, ts) ←
          if follows [.value, .flowEntry, .closeSequence] ts then some (.empty, ts.drop 1)
          else read? hs fuel .brackets ts
        let (value, ts) ← value? hs fuel [.flowEntry, .closeSequence] .brackets ts
        let (items, ts) ← bracketItems? hs fuel false ts
        return (.mapping none [(key, value)] :: items, ts)
      | ts => do
        let (item, ts) ← read? hs fuel .brackets ts
        let (items, ts) ← bracketItems? hs fuel false ts
        return (item :: items, ts)

/-- The members of a mapping in brackets, up to the closing one. A member without a mark for its key
has no value. -/
def bracketMembers? (hs : Handles) : (fuel : Nat) → (first : Bool) → List Token →
    Option (List (Node String × Node String) × List Token)
  | 0, _, _ => none
  | fuel + 1, first, ts =>
    if follows [.closeMapping] ts then some ([], ts.drop 1)
    else if !first && !follows [.flowEntry] ts then none
    else
      match if first then ts else ts.drop 1 with
      | .closeMapping :: ts => some ([], ts)
      | .key :: ts => do
        let (key, ts) ← readUnless? hs fuel [.value, .flowEntry, .closeMapping] .brackets ts
        let (value, ts) ← value? hs fuel [.flowEntry, .closeMapping] .brackets ts
        let (members, ts) ← bracketMembers? hs fuel false ts
        return ((key, value) :: members, ts)
      | ts => do
        let (key, ts) ← read? hs fuel .brackets ts
        let (members, ts) ← bracketMembers? hs fuel false ts
        return ((key, .empty) :: members, ts)

end

end Node

end FieldRules.Yaml
