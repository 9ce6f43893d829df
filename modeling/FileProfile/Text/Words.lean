import FileProfile.Text.Blank
import FileProfile.Text.Split

/-!
# Words between white space

The words of a text are its longest stretches without white space.
-/

namespace FileProfile.Text

/-- The stretches of a text between its white-space characters, empty ones included. -/
def blankPieces (cs : List Char) : List (List Char) :=
  cs.foldr (fun c ps => if isBlank c then [] :: ps else consFirst c ps) [[]]

/-- The longest stretches of a text without white space. -/
def words (cs : List Char) : List (List Char) := (blankPieces cs).filter (!·.isEmpty)

@[simp] theorem words_nil : words [] = [] := rfl

theorem blankPieces_cons (c : Char) (cs : List Char) :
    blankPieces (c :: cs) =
      if isBlank c then [] :: blankPieces cs else consFirst c (blankPieces cs) := rfl

/-- White space in front of a text adds no word. -/
theorem words_cons_of_isBlank {c : Char} (h : isBlank c = true) (cs : List Char) :
    words (c :: cs) = words cs := by
  simp [words, blankPieces_cons, h]

theorem isBlank_eq_false_of_mem_blankPieces {cs p : List Char} (h : p ∈ blankPieces cs) :
    ∀ c ∈ p, isBlank c = false := by
  induction cs generalizing p with
  | nil => simp [blankPieces] at h; simp [h]
  | cons d cs ih =>
    rw [blankPieces_cons] at h
    split at h
    · rcases List.mem_cons.1 h with rfl | h
      · simp
      · exact ih h
    · next hd =>
      simp only [Bool.not_eq_true] at hd
      match hps : blankPieces cs, h with
      | [], h => simp [consFirst] at h; simp [h, hd]
      | q :: qs, h =>
        simp only [consFirst, List.mem_cons] at h
        rcases h with rfl | h
        · have := ih (hps ▸ List.mem_cons_self)
          simpa [hd] using this
        · exact ih (hps ▸ List.mem_cons_of_mem _ h)

/-- A word is not empty and has no white space. -/
theorem of_mem_words {cs w : List Char} (h : w ∈ words cs) :
    w ≠ [] ∧ ∀ c ∈ w, isBlank c = false := by
  obtain ⟨hp, hne⟩ := List.mem_filter.1 h
  exact ⟨by simpa using hne, isBlank_eq_false_of_mem_blankPieces hp⟩

end FileProfile.Text
