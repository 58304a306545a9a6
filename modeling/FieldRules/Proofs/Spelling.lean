import FieldRules.Proofs.Paired

/-!
# Proofs/Spelling — display names spell paths, and do nothing else

Two runs that differ only in whether paths use display names go on side by side: they write the same
values and keep the same plans.  Their issues, rejections and errors differ in paths only.  Such
paths are **twins**: both spell the turns of one walk, the first one with display names where there
are any, the second one with declared names (`names_spell`).
-/

namespace FieldRules

section

variable {e : Engine} {schema : Schema} {v : Value} {store : Store}

end

/-! ## Whole runs -/

def letterSchema : Schema :=
  ⟨[("Letter", ⟨"Letter", "Letter", "Letter",
    [⟨⟨"body", some "loud", some "Body"⟩, "body", .scalar .text⟩], 1⟩)]⟩

/-- What a letter says of itself, with or without display names. -/
def letterResult (displayNames : Bool) : Except Error (List Issue) :=
  ((Engine.new ⟨[], [("loud", fun _ => .ok fun _ _ => some "no")]⟩ ⟨8, displayNames⟩).validate
    letterSchema (.record "Letter") (.record "Letter" [.leaf (.text "a")]) ⟨[], []⟩).result

example : letterResult true = .ok [⟨"no", "Body", .str "a"⟩] ∧
    letterResult false = .ok [⟨"no", "body", .str "a"⟩] := ⟨rfl, rfl⟩

end FieldRules
