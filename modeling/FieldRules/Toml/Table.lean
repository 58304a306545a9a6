import FieldRules.Dict
import FieldRules.Toml.Number

/-!
# Toml/Table — values and tables of TOML

A table can be extended by what comes later in the text, within limits that hang on how it came
about: `Members.change?` leads through tables along a path, makes those that are missing, and
refuses tables that are finished. Lists of tables are extended at their last one.
-/

namespace FieldRules.Toml

/-- How a table came about. -/
inductive Origin where
  /-- Written as a value, and finished with it. -/
  | inline
  /-- Opened by a header of its own. -/
  | header
  /-- On the way to a table with a header. -/
  | implied
  /-- On the way to a value whose key has several parts. -/
  | dotted
deriving DecidableEq, Repr

inductive Value where
  | integer (n : Int)
  | float (x : Numeric.Double)
  | boolean (b : Bool)
  | string (s : String)
  | moment (m : Moment)
  | array (items : List Value)
  | table (origin : Origin) (members : List (String × Value))
  /-- The tables of the headers with one name. -/
  | tables (rows : List (List (String × Value)))
deriving Repr

/-- The members of a table. -/
abbrev Members := Dict Value

namespace Members

/-- The members of a table, after a change of the table to which a path leads from it. Tables that
are missing come about on the way: for a value if `dotted`, which does not lead through tables that
have a header either. -/
def change? (dotted : Bool) (f : Origin → Members → Option Members) :
    (path : List String) → Origin → Members → Option Members
  | [], origin, ms => f origin ms
  | k :: path, _, ms =>
    match ms.get? k with
    | none =>
      let origin := if dotted then Origin.dotted else .implied
      (change? dotted f path origin []).map fun ns => ms.insert k (.table origin ns)
    | some (.table origin ns) =>
      if origin == .inline || (dotted && origin == .header) then none
      else (change? dotted f path origin ns).map fun ns => ms.insert k (.table origin ns)
    | some (.tables rows) =>
      match rows.getLast? with
      | none => none
      | some row => (change? dotted f path .header row).map fun row =>
          ms.insert k (.tables (rows.dropLast ++ [row]))
    | some _ => none

/-- The members with a value more. A key of several parts has to end in a table that such keys
made. -/
def insertAt? (path : List String) (name : String) (v : Value) (origin : Origin) (ms : Members) :
    Option Members :=
  change? true (fun origin ns =>
    if ns.contains name || (!path.isEmpty && origin != .dotted) then none
    else some (ns.insert name v)) path origin ms

/-- The members with a table opened by its header: a new one, or one that is implied so far. -/
def openTable? (path : List String) (name : String) (ms : Members) : Option Members :=
  change? false (fun _ ns =>
    match ns.get? name with
    | none => some (ns.insert name (.table .header []))
    | some (.table .implied members) => some (ns.insert name (.table .header members))
    | some _ => none) path .header ms

/-- The members with one more table in the list of tables with a name. -/
def openRow? (path : List String) (name : String) (ms : Members) : Option Members :=
  change? false (fun _ ns =>
    match ns.get? name with
    | none => some (ns.insert name (.tables [[]]))
    | some (.tables rows) => some (ns.insert name (.tables (rows ++ [[]])))
    | some _ => none) path .header ms

end Members

end FieldRules.Toml
