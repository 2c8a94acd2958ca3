/-!
# Splitting a text

A text, or any other list, is cut at every occurrence of one of its members. The pieces, joined by
that member, are the text again, so there is always one piece more than there are cuts.
-/

set_option autoImplicit false

namespace Formwork.Text

variable {α : Type} [DecidableEq α]

/-- The pieces between the occurrences of a member. -/
def pieces (cut : α) : List α → List (List α)
  | [] => [[]]
  | c :: cs =>
    if c = cut then [] :: pieces cut cs
    else match pieces cut cs with
      | p :: ps => (c :: p) :: ps
      | [] => [[c]]

/-- The pieces of a text. -/
def split (cut : Char) (s : String) : List String := (pieces cut s.toList).map String.ofList

theorem pieces_ne_nil (cut : α) (cs : List α) : pieces cut cs ≠ [] := by
  cases cs with
  | nil => simp [pieces]
  | cons c cs =>
    simp only [pieces]
    split
    · simp
    · split <;> simp

end Formwork.Text
