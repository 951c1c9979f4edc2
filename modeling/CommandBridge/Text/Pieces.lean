/-!
# Cutting a list at a separator

The pieces between separators, in order. There is one piece more than separators,
so a list that ends with a separator has an empty last piece.
-/

set_option autoImplicit false

namespace CommandBridge.Text

/-- The pieces of a list between separators. -/
def pieces {α : Type} [DecidableEq α] (separator : α) : List α → List (List α)
  | [] => [[]]
  | c :: rest =>
    if c = separator then [] :: pieces separator rest
    else
      match pieces separator rest with
      | piece :: more => (c :: piece) :: more
      | [] => [[c]]

def cut (separator : Char) (text : String) : List String :=
  (pieces separator text.toList).map String.ofList

theorem pieces_ne_nil {α : Type} [DecidableEq α] (separator : α) (cs : List α) :
    pieces separator cs ≠ [] := by
  cases cs with
  | nil => simp [pieces]
  | cons c rest =>
    simp only [pieces]
    split
    · simp
    · split <;> simp

end CommandBridge.Text
