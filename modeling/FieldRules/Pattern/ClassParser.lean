import FieldRules.Pattern.Cursor

/-!
# Pattern/ClassParser — sets in brackets

A set holds characters, ranges, named classes and further sets; two ampersands, hyphens or tildes
join what stands before them with what follows, from left to right. A hyphen or a bracket that
cannot be meant otherwise stands for itself.
-/

namespace FieldRules.Pattern

open Text (isBlank)

/-- A single member, or one end of a range: an escape or a character. -/
def member? (extended : Bool) : List Char → Option (Escape × List Char)
  | [] => none
  | '\\' :: cs => escape? extended cs
  | c :: cs => some (.literal ⟨c, false⟩, cs)

/-- An escape as a member; assertions are none. -/
def Escape.item? : Escape → Option Item
  | .literal l => some (.literal l)
  | .property q negated => some (.property q negated)
  | .letter c negated => some (.letter c negated)
  | .assertion _ => none

/-- An escape as an end of a range; only characters are one. -/
def Escape.literal? : Escape → Option Literal
  | .literal l => some l
  | _ => none

/-- A member or a range. -/
def range? (extended : Bool) (cs : List Char) : Option (Item × List Char) := do
  let (first, rest) ← member? extended cs
  match skip extended rest with
  | [] => none
  | '-' :: more =>
    let next := peekFrom extended false more
    if next == some ']' || next == some '-' then
      return (← first.item?, '-' :: more)
    else
      let more := skip extended more
      let (last, rest) ← member? extended more
      let a ← first.literal?
      let b ← last.literal?
      if a.char ≤ b.char then return (.range a b, rest) else none
  | rest => return (← first.item?, rest)

/-- A class such as `[:alpha:]` after its bracket. -/
def asciiItem? (cs : List Char) : Option (Item × List Char) :=
  match cs with
  | ':' :: rest =>
    let (negated, rest) := match rest with
      | '^' :: more => (true, more)
      | _ => (false, rest)
    let name := String.ofList (rest.takeWhile (· != ':'))
    match rest.dropWhile (· != ':') with
    | ':' :: ']' :: rest =>
      if (asciiClass? name).isSome then some (.ascii name negated, rest) else none
    | _ => none
  | _ => none

/-- A set that is being read: its members so far, last one first, and the set before the last
join. -/
structure Pending where
  items : List Item
  left : Option (SetOp × CharSet)

/-- The set of what has been read. -/
def Pending.close (p : Pending) : CharSet :=
  let last := CharSet.union p.items.reverse
  match p.left with
  | none => last
  | some (op, left) => .op op left last

/-- A hyphen as a member. -/
def hyphen : Item := .literal ⟨'-', false⟩

/-- The hyphens that a set begins with. -/
def openingHyphens (extended : Bool) : (fuel : Nat) → List Item → List Char → List Item × List Char
  | 0, items, cs => (items, cs)
  | fuel + 1, items, cs =>
    match cs with
    | '-' :: rest => openingHyphens extended fuel (hyphen :: items) (skip extended rest)
    | _ => (items, cs)

/-- The beginning of a set after its bracket: whether it is negated, and the characters that stand
for themselves at this place only. -/
def opening (extended : Bool) (cs : List Char) : Bool × List Item × List Char :=
  let cs := skip extended cs
  let (negated, cs) := match cs with
    | '^' :: rest => (true, skip extended rest)
    | _ => (false, cs)
  let (items, cs) := openingHyphens extended cs.length [] cs
  match items, cs with
  | [], ']' :: rest => (negated, [.literal ⟨']', false⟩], skip extended rest)
  | _, _ => (negated, items, cs)

/-- What joins two sets, if it stands next. -/
def setOp? : List Char → Option (SetOp × List Char)
  | '&' :: '&' :: rest => some (.intersection, rest)
  | '-' :: '-' :: rest => some (.difference, rest)
  | '~' :: '~' :: rest => some (.symmetricDifference, rest)
  | _ => none

/-- The rest of a set up to its closing bracket. Each step reads a character, so `fuel` is the
length of the text. -/
def setRest? (extended : Bool) : (fuel : Nat) → Pending → List Char → Option (CharSet × List Char)
  | 0, _, _ => none
  | fuel + 1, p, cs =>
    match skip extended cs with
    | [] => none
    | ']' :: rest => some (p.close, rest)
    | '[' :: rest =>
      match asciiItem? rest with
      | some (item, rest) => setRest? extended fuel { p with items := item :: p.items } rest
      | none => do
        let (negated, items, rest) := opening extended rest
        let (inner, rest) ← setRest? extended fuel ⟨items, none⟩ rest
        setRest? extended fuel { p with items := .bracket negated inner :: p.items } rest
    | cs =>
      match setOp? cs with
      | some (op, rest) => setRest? extended fuel ⟨[], some (op, p.close)⟩ rest
      | none => do
        let (item, rest) ← range? extended cs
        setRest? extended fuel { p with items := item :: p.items } rest

/-- A set after its bracket. -/
def bracket? (extended : Bool) (cs : List Char) : Option (Tree × List Char) := do
  let (negated, items, rest) := opening extended cs
  let (set, rest) ← setRest? extended (cs.length + 1) ⟨items, none⟩ rest
  return (.bracket negated set, rest)

end FieldRules.Pattern
