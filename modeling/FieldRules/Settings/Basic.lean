import FieldRules.Error

/-!
# Settings/Basic — the settings of an engine

Two settings: how deep a run may go, and whether paths use display names.
-/

namespace FieldRules

structure Settings where
  /-- The greatest depth at which a value may lie. -/
  maxDepth : Nat
  /-- Whether paths use display names. -/
  displayNames : Bool
deriving DecidableEq, Repr

namespace Settings

/-- 128 levels, and display names. -/
def initial : Settings := ⟨128, true⟩

/-- Settings are usable if the depth is positive. -/
def validate (s : Settings) : Except Error Unit :=
  if s.maxDepth = 0 then .error (.settings .depthNotPositive none) else .ok ()

end Settings

end FieldRules
