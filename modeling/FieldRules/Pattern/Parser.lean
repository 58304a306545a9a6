import FieldRules.Pattern.ClassParser

/-!
# Pattern/Parser — regular expressions from text

Alternatives, sequences, repetitions and groups, with flags and names. There is no looking around
and no reference back to a group.
-/

namespace FieldRules.Pattern

/-! ## Groups -/

/-- A character that a group's name may begin with, or have after the first. -/
def isNameChar (first : Bool) (c : Char) : Bool :=
  c == '_' || alphabetic.contains c.toNat ||
    (!first && (c == '.' || c == '[' || c == ']' || numeric.contains c.toNat))

def isName : List Char → Bool
  | [] => false
  | c :: cs => isNameChar true c && cs.all (isNameChar false)

def flag? (c : Char) : Option Flag :=
  match c with
  | 'i' => some .caseless
  | 'm' => some .multiLine
  | 's' => some .dotAll
  | 'U' => some .swapGreed
  | 'u' => some .unicode
  | 'R' => some .crlf
  | 'x' => some .extended
  | _ => none

/-- Flags up to a colon or a closing parenthesis, which is left; `negated` after the hyphen. Each
flag may stand once, the hyphen too, and a flag follows it. -/
def flags? (negated : Bool) (set : FlagSet) : List Char → Option (FlagSet × List Char)
  | [] => none
  | c :: cs =>
    if c == ':' || c == ')' then some (set, c :: cs)
    else if c == '-' then
      match cs with
      | d :: _ => if negated || d == ':' || d == ')' then none else flags? true set cs
      | [] => none
    else do
      let f ← flag? c
      if set.any (·.1 == f) then none
      else flags? negated (set ++ [(f, !negated)]) cs

/-- What a parenthesis opens: a directive, or a group with flags. -/
inductive Opened where
  | directive (flags : FlagSet)
  | group (flags : FlagSet)

/-- What stands after a parenthesis, and the names of groups with the new one. -/
def opened? (extended : Bool) (names : List (List Char)) (cs : List Char) :
    Option (Opened × List (List Char) × List Char) :=
  let named (rest : List Char) : Option (Opened × List (List Char) × List Char) :=
    let name := rest.takeWhile (· != '>')
    match rest.dropWhile (· != '>') with
    | '>' :: rest =>
      if isName name && !names.contains name then some (.group [], name :: names, rest) else none
    | _ => none
  match skip extended cs with
  | '?' :: '=' :: _ | '?' :: '!' :: _ | '?' :: '<' :: '=' :: _ | '?' :: '<' :: '!' :: _ => none
  | '?' :: 'P' :: '<' :: rest => named rest
  | '?' :: '<' :: rest => named rest
  | '?' :: rest => do
    let (set, rest) ← flags? false [] rest
    match rest with
    | ')' :: rest => if set.isEmpty then none else some (.directive set, names, rest)
    | _ :: rest => some (.group set, names, rest)
    | [] => none
  | rest => some (.group [], names, rest)

/-! ## Repetitions -/

/-- A repetition may follow anything but nothing and a directive. -/
def repeatable : Tree → Bool
  | .empty | .flags _ => false
  | _ => true

/-- The last part repeated. -/
def repeatLast? (min : Nat) (max : Option Nat) : List Tree → Option (List Tree)
  | [] => none
  | t :: ts => if repeatable t then some (.repeated min max t :: ts) else none

/-- The question mark that makes a repetition lazy, which changes no answer. -/
def skipLazy : List Char → List Char
  | '?' :: cs => cs
  | cs => cs

/-- The bounds of a repetition after its brace, and the rest after the closing one. -/
def bounds? (extended : Bool) (cs : List Char) : Option (Nat × Option Nat × List Char) := do
  let cs := skip extended cs
  if cs.isEmpty then none
  else
    let (low, rest) ← bound? extended cs
    let (min, max, rest) ← match rest with
      | ',' :: rest =>
        match skip extended rest with
        | '}' :: rest => do
          let n ← low
          pure (n, none, rest)
        | [] => none
        | rest => do
          let n ← low
          let (high, rest) ← bound? extended rest
          let m ← high
          match rest with
          | '}' :: rest => pure (n, some m, rest)
          | _ => none
      | '}' :: rest => do
        let n ← low
        pure (n, some n, rest)
      | _ => none
    match max with
    | some m => if min ≤ m then some (min, max, rest) else none
    | none => some (min, max, rest)

/-! ## Whole patterns -/

/-- What has been read of a group: whether gaps count, the names of groups, the finished
alternatives, and the parts of the current one; lists are kept backwards. -/
structure Reading where
  extended : Bool
  names : List (List Char)
  branches : List Tree
  parts : List Tree

namespace Reading

def add (r : Reading) (t : Tree) : Reading := { r with parts := t :: r.parts }

/-- The current alternative ends. -/
def branch (r : Reading) : Reading :=
  { r with branches := Tree.ofParts r.parts.reverse :: r.branches, parts := [] }

def tree (r : Reading) : Tree := Tree.ofBranches r.branch.branches.reverse

end Reading

/-- The flag for extended form, as a set of flags leaves it. -/
def extendedAfter (set : FlagSet) (before : Bool) : Bool :=
  ((set.find? fun f => f.1 == .extended).map Prod.snd).getD before

/-- A character that is no operator. -/
def simple? (extended : Bool) (c : Char) (cs : List Char) : Option (Tree × List Char) :=
  match c with
  | '\\' => (escape? extended cs).map fun (e, rest) =>
    match e with
    | .literal l => (.literal l, rest)
    | .assertion a => (.assertion a, rest)
    | .property q negated => (.property q negated, rest)
    | .letter l negated => (.letter l negated, rest)
  | '.' => some (.dot, cs)
  | '^' => some (.assertion .lineStart, cs)
  | '$' => some (.assertion .lineEnd, cs)
  | _ => some (.literal ⟨c, false⟩, cs)

/-- The alternatives of a group up to its end: the closing parenthesis, or the end of the text for
the whole pattern. Each step reads a character, so `fuel` is the length of the text. Gives the tree,
the names of groups, and the rest. -/
def group? (inner : Bool) :
    (fuel : Nat) → Reading → List Char → Option (Tree × List (List Char) × List Char)
  | 0, _, _ => none
  | fuel + 1, r, cs =>
    match skip r.extended cs with
    | [] => if inner then none else some (r.tree, r.names, [])
    | ')' :: rest => if inner then some (r.tree, r.names, rest) else none
    | '|' :: rest => group? inner fuel r.branch rest
    | '(' :: rest => do
      let (what, names, rest) ← opened? r.extended r.names rest
      match what with
      | .directive set =>
        group? inner fuel
          { r.add (.flags set) with names, extended := extendedAfter set r.extended } rest
      | .group set =>
        let start : Reading := ⟨extendedAfter set r.extended, names, [], []⟩
        let (t, names, rest) ← group? true fuel start rest
        group? inner fuel { r.add (.group set t) with names } rest
    | '[' :: rest => do
      let (t, rest) ← bracket? r.extended rest
      group? inner fuel (r.add t) rest
    | '?' :: rest => do
      let parts ← repeatLast? 0 (some 1) r.parts
      group? inner fuel { r with parts } (skipLazy rest)
    | '*' :: rest => do
      let parts ← repeatLast? 0 none r.parts
      group? inner fuel { r with parts } (skipLazy rest)
    | '+' :: rest => do
      let parts ← repeatLast? 1 none r.parts
      group? inner fuel { r with parts } (skipLazy rest)
    | '{' :: rest => do
      let (min, max, rest) ← bounds? r.extended rest
      let parts ← repeatLast? min max r.parts
      group? inner fuel { r with parts } (skipLazy (skip r.extended rest))
    | c :: rest => do
      let (t, rest) ← simple? r.extended c rest
      group? inner fuel (r.add t) rest

/-- The tree of a pattern; `none` if the text is no pattern or is nested too deep. -/
def tree? (cs : List Char) : Option Tree := do
  let (t, _, _) ← group? false (cs.length + 1) ⟨false, [], [], []⟩ cs
  if t.depth ≤ maxDepth then some t else none

end FieldRules.Pattern
