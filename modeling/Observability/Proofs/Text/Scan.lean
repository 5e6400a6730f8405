/-!
# Scanning a text

A reader that takes characters of a class as long as there are some takes just those in front of a
character of another class.
-/

namespace Observability.Text

variable {p : Char → Bool}

/-- The text does not go on with a character of the class. -/
def Stops (p : Char → Bool) (rest : List Char) : Prop := ∀ c ∈ rest.head?, p c = false

/-- Where the class stops nothing is skipped. -/
theorem dropWhile_of_stops {rest : List Char} (h : Stops p rest) : rest.dropWhile p = rest := by
  cases rest with
  | nil => rfl
  | cons c rest => simp [h c rfl]

variable {front rest : List Char} (hfront : ∀ c ∈ front, p c = true) (hrest : Stops p rest)

include hfront hrest

/-- All characters of the class are taken. -/
theorem takeWhile_append_of_stops : (front ++ rest).takeWhile p = front := by
  rw [List.takeWhile_append_of_pos hfront]
  cases rest with
  | nil => simp
  | cons c rest => simp [hrest c rfl]

/-- What stands behind them is left. -/
theorem dropWhile_append_of_stops : (front ++ rest).dropWhile p = rest := by
  rw [List.dropWhile_append_of_pos hfront, dropWhile_of_stops hrest]

end Observability.Text
