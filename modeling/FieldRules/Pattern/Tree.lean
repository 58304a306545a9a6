import FieldRules.Pattern.Property

/-!
# Pattern/Tree — patterns as written

The tree of a regular expression, with its directives: flags take effect from where they stand to
the end of the group around them.
-/

namespace FieldRules.Pattern

/-- The flags of a pattern. -/
inductive Flag where
  /-- Letters match in either case. -/
  | caseless
  /-- Lines have a start and an end. -/
  | multiLine
  /-- A dot matches the end of a line too. -/
  | dotAll
  /-- Greedy and lazy repetition change places. -/
  | swapGreed
  /-- Classes have characters of all scripts. -/
  | unicode
  /-- Lines may end in a carriage return and a line feed. -/
  | crlf
  /-- Blanks and comments are passed over. -/
  | extended
deriving DecidableEq, Repr

/-- Flags that are turned on or off together. -/
abbrev FlagSet := List (Flag × Bool)

/-- What is awaited at a place between two characters. -/
inductive Assertion where
  | lineStart
  | lineEnd
  | textStart
  | textEnd
  | wordBoundary
  | noWordBoundary
  | wordStart
  | wordEnd
  | wordStartHalf
  | wordEndHalf
deriving DecidableEq, Repr

/-- The classes that have a letter. -/
inductive LetterClass where
  | digit
  | space
  | word
deriving DecidableEq, Repr

/-- A character, and whether it is written as a byte of two hexadecimal digits. -/
structure Literal where
  char : Char
  byte : Bool
deriving DecidableEq, Repr

/-- What joins two sets. -/
inductive SetOp where
  | intersection
  | difference
  | symmetricDifference
deriving DecidableEq, Repr

mutual

/-- A member of a set in brackets. -/
inductive Item where
  | literal (l : Literal)
  | range (first last : Literal)
  | ascii (name : String) (negated : Bool)
  | property (query : Query) (negated : Bool)
  | letter (c : LetterClass) (negated : Bool)
  | bracket (negated : Bool) (set : CharSet)

/-- A set in brackets: members, or two sets joined. -/
inductive CharSet where
  | union (items : List Item)
  | op (op : SetOp) (left right : CharSet)

end

inductive Tree where
  | empty
  | flags (set : FlagSet)
  | literal (l : Literal)
  | dot
  | assertion (a : Assertion)
  | property (query : Query) (negated : Bool)
  | letter (c : LetterClass) (negated : Bool)
  | bracket (negated : Bool) (set : CharSet)
  | repeated (min : Nat) (max : Option Nat) (inner : Tree)
  | group (flags : FlagSet) (inner : Tree)
  | alternatives (branches : List Tree)
  | sequence (parts : List Tree)
deriving Inhabited

namespace Tree

/-- Parts one after the other; one part stands for itself. -/
def ofParts : List Tree → Tree
  | [] => empty
  | [t] => t
  | ts => sequence ts

/-- Branches beside one another; one branch stands for itself. -/
def ofBranches : List Tree → Tree
  | [] => empty
  | [t] => t
  | ts => alternatives ts

end Tree

/-! ## Nesting -/

mutual

/-- How deep sets lie within one another. -/
def Item.depth : Item → Nat
  | .bracket _ s => s.depth + 1
  | _ => 0

def CharSet.depth : CharSet → Nat
  | .union [] => 0
  | .union [item] => item.depth
  | .union items => Item.depthOfAll items + 1
  | .op _ a b => max a.depth b.depth + 1

def Item.depthOfAll : List Item → Nat
  | [] => 0
  | i :: is => max i.depth (Item.depthOfAll is)

end

mutual

/-- How deep the constructs of a pattern lie within one another. -/
def Tree.depth : Tree → Nat
  | .bracket _ s => s.depth + 1
  | .repeated _ _ t => t.depth + 1
  | .group _ t => t.depth + 1
  | .alternatives ts => Tree.depthOfAll ts + 1
  | .sequence ts => Tree.depthOfAll ts + 1
  | _ => 0

def Tree.depthOfAll : List Tree → Nat
  | [] => 0
  | t :: ts => max t.depth (Tree.depthOfAll ts)

end

/-- The greatest depth of a pattern. -/
def maxDepth : Nat := 250

end FieldRules.Pattern
