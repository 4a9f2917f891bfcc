/-
# Pieces between separators

A list is cut at every element of a class.  The pieces are what stands before the first
separator, between two of them, and after the last: always one more than there are
separators, and empty where nothing stands.
-/

namespace Seismogram.Text

variable {α : Type}

/-- The pieces of a list between its separators. -/
def pieces (separates : α → Bool) : List α → List (List α)
  | [] => [[]]
  | x :: xs =>
    if separates x then [] :: pieces separates xs
    else
      match pieces separates xs with
      | piece :: later => (x :: piece) :: later
      | [] => [[x]]

theorem pieces_ne_nil (separates : α → Bool) (xs : List α) : pieces separates xs ≠ [] := by
  cases xs with
  | nil => simp [pieces]
  | cons x xs =>
    rw [pieces]
    split
    · simp
    · split <;> simp

/-- A piece without separators in front of a separator is the first piece. -/
theorem pieces_append_cons {separates : α → Bool} {piece : List α} {x : α} (rest : List α)
    (inside : ∀ y ∈ piece, separates y = false) (sep : separates x = true) :
    pieces separates (piece ++ x :: rest) = piece :: pieces separates rest := by
  induction piece with
  | nil => simp [pieces, sep]
  | cons y ys ih =>
    have first : separates y = false := inside y (by simp)
    have later := ih fun z hz => inside z (by simp [hz])
    simp [pieces, first, later]

end Seismogram.Text
