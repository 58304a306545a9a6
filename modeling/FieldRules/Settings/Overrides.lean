import FieldRules.Numeric.Literal
import FieldRules.Settings.Basic
import FieldRules.Text.Case

/-!
# Settings/Overrides — changing settings by text

Each setting can be overridden by a text, that of a variable with a fixed name. Texts that are no
value of the setting are passed over, so that usable settings stay usable.
-/

namespace FieldRules

/-- New texts for the settings, as far as they are given. -/
structure Overrides where
  maxDepth : Option String
  displayNames : Option String
deriving DecidableEq, Repr

namespace Overrides

/-- The names of the variables. -/
def depthVariable : String := "FFVM_MAX_DEPTH"

def flagVariable : String := "FFVM_DISPLAY_NAMES"

/-- The texts that variables have, in an environment for example. -/
def ofLookup (lookup : String → Option String) : Overrides :=
  ⟨lookup depthVariable, lookup flagVariable⟩

/-- The depth that a text writes: a positive integer. -/
def depth? (text : String) : Option Nat :=
  match Numeric.natural? (Text.trim text.toList) with
  | .ok n => if 0 < n then some n else none
  | .error _ => none

/-- The truth value that a text writes, in any case: true or 1, false or 0. -/
def flag? (text : String) : Option Bool :=
  let word := Text.lowercase (Text.trimmed text)
  if word = "true" ∨ word = "1" then some true
  else if word = "false" ∨ word = "0" then some false
  else none

end Overrides

namespace Settings

/-- The settings with the overrides that are values. -/
def override (s : Settings) (o : Overrides) : Settings :=
  ⟨(o.maxDepth.bind Overrides.depth?).getD s.maxDepth,
    (o.displayNames.bind Overrides.flag?).getD s.displayNames⟩

/-- The settings after overrides by one lookup after the other. -/
def overrideAll (s : Settings) (lookups : List (String → Option String)) : Settings :=
  lookups.foldl (fun s lookup => s.override (.ofLookup lookup)) s

end Settings

end FieldRules
