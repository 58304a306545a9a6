/-!
# Text/Pieces — cutting a text at a separator

`pieces sep cs` cuts at every `sep` and keeps empty pieces, so joining the pieces with `sep` gives
the text back; `cut? sep cs` cuts at the first `sep` only. `width` counts the bytes of a text in
UTF-8.
-/

namespace FieldRules.Text

/-- The pieces between the separators, from left to right; there is always at least one. -/
def pieces (sep : Char) : List Char → List (List Char)
  | [] => [[]]
  | c :: cs =>
    if c = sep then [] :: pieces sep cs
    else match pieces sep cs with
      | [] => [[c]]
      | p :: ps => (c :: p) :: ps

theorem pieces_ne_nil (sep : Char) : ∀ cs, pieces sep cs ≠ []
  | [] => by simp [pieces]
  | c :: cs => by
      simp only [pieces]
      split
      · simp
      · split <;> simp

/-- The text before and after the first separator. -/
def cut? (sep : Char) : List Char → Option (List Char × List Char)
  | [] => none
  | c :: cs =>
    if c = sep then some ([], cs)
    else (cut? sep cs).map fun (before, after) => (c :: before, after)

/-- Number of bytes of a text in UTF-8. -/
def width : List Char → Nat
  | [] => 0
  | c :: cs => c.utf8Size + width cs

@[simp] theorem width_append : ∀ a b : List Char, width (a ++ b) = width a + width b
  | [], b => by simp [width]
  | c :: a, b => by simp [width, width_append a b, Nat.add_assoc]

/-- Words joined by a separator text. -/
def joined (sep : String) : List String → String := String.intercalate sep

end FieldRules.Text
