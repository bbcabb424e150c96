/-!
# Pieces

A list cut at a separator. The pieces hold no separator, and there is always one
more of them than there are separators.
-/

namespace RequestFilter

universe u

/-- The pieces between separators, which may be empty. -/
def pieces {α : Type u} [DecidableEq α] (separator : α) : List α → List (List α)
  | [] => [[]]
  | a :: rest =>
      if a = separator then [] :: pieces separator rest
      else match pieces separator rest with
        | [] => [[a]]
        | piece :: others => (a :: piece) :: others

end RequestFilter
