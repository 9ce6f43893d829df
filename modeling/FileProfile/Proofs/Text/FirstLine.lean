import FileProfile.Proofs.Text.Split
import FileProfile.Text.Lines

/-!
# The first line of a text

A text that is written as a line, a line feed and more has that line as its first, less the return
that may end it, and the lines of what follows behind it (`lines_of_toList`). A return ends the line
exactly if it ends what is added to a line that does not end in one (`dropReturn_append`).
-/

namespace FileProfile.Text

variable {line l r : List Char} {text : String}

/-- The lines of a text from its start, or from behind a line feed, on. -/
def linesFrom (cs : List Char) : List String :=
  (pieces '\n' cs).map fun piece => String.ofList (dropReturn piece)

theorem linesFrom_line (h : '\n' ∉ line) (cs : List Char) :
    linesFrom (line ++ '\n' :: cs) = String.ofList (dropReturn line) :: linesFrom cs := by
  rw [linesFrom, pieces_append_sep, pieces_of_not_mem h]
  rfl

/-- **The first line** of a text, and the lines behind it. -/
theorem lines_of_toList (h_text : text.toList = line ++ '\n' :: r) (h : '\n' ∉ line) :
    lines text = String.ofList (dropReturn line) :: linesFrom r := by
  have h_ne : text ≠ "" := by
    rintro rfl
    exact absurd h_text.symm (by simp)
  rw [lines_eq h_ne, h_text]
  exact linesFrom_line h r

theorem dropReturn_of_getLast? (h : l.getLast? ≠ some '\r') : dropReturn l = l := if_neg h

theorem dropReturn_append (h : l.getLast? ≠ some '\r') (r : List Char) :
    dropReturn (l ++ r) = l ++ dropReturn r := by
  cases r with
  | nil => rw [List.append_nil, dropReturn_of_getLast? h]; exact (List.append_nil l).symm
  | cons c r =>
    have h_last : (l ++ c :: r).getLast? = (c :: r).getLast? := by
      rw [List.getLast?_append, List.getLast?_eq_some_getLast (List.cons_ne_nil c r), Option.some_or]
    rw [dropReturn, dropReturn, h_last]
    split
    · rw [List.dropLast_append_of_ne_nil (List.cons_ne_nil c r)]
    · rfl

/-- What begins with white space or is empty still does without its return. -/
theorem head?_dropReturn_all {p : Char → Bool} (h : r.head?.all p = true) :
    (dropReturn r).head?.all p = true := by
  rw [dropReturn]
  split
  · cases r with
    | nil => exact h
    | cons c r =>
      cases r with
      | nil => rfl
      | cons d r => exact h
  · exact h

end FileProfile.Text
