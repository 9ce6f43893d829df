/-!
# Splitting at a separator

`pieces sep cs` cuts `cs` at every occurrence of `sep`. There is one piece more than there are
separators, so even the empty text has a piece, the empty one. Joining the pieces gives the text
back (`joined_pieces`), and no piece holds the separator (`not_mem_of_mem_pieces`). The text is a
list of characters or of bytes.
-/

namespace FileProfile.Text

variable {α : Type}

/-- Puts a character in front of the first piece. -/
def consFirst (c : α) : List (List α) → List (List α)
  | [] => [[c]]
  | p :: ps => (c :: p) :: ps

/-- The pieces of a text between the occurrences of a separator. -/
def pieces [DecidableEq α] (sep : α) (cs : List α) : List (List α) :=
  cs.foldr (fun c ps => if c = sep then [] :: ps else consFirst c ps) [[]]

/-- The text whose pieces these are. -/
def joined (sep : α) : List (List α) → List α
  | [] => []
  | [p] => p
  | p :: ps => p ++ sep :: joined sep ps

/-- What stands behind the last separator. -/
def lastPiece (sep : Char) (cs : List Char) : List Char :=
  (cs.reverse.takeWhile (· != sep)).reverse

theorem consFirst_ne_nil (c : α) (ps : List (List α)) : consFirst c ps ≠ [] := by
  cases ps <;> simp [consFirst]

theorem joined_cons {sep : α} {p : List α} {ps : List (List α)} (h : ps ≠ []) :
    joined sep (p :: ps) = p ++ sep :: joined sep ps := by
  cases ps with
  | nil => exact absurd rfl h
  | cons _ _ => rfl

theorem joined_consFirst (sep c : α) {ps : List (List α)} (h : ps ≠ []) :
    joined sep (consFirst c ps) = c :: joined sep ps := by
  match ps, h with
  | [p], _ => rfl
  | p :: q :: ps, _ => rfl

variable [DecidableEq α]

@[simp] theorem pieces_nil (sep : α) : pieces sep [] = [[]] := rfl

theorem pieces_cons (sep c : α) (cs : List α) :
    pieces sep (c :: cs) = if c = sep then [] :: pieces sep cs else consFirst c (pieces sep cs) :=
  rfl

@[simp] theorem pieces_cons_self (sep : α) (cs : List α) :
    pieces sep (sep :: cs) = [] :: pieces sep cs := by simp [pieces_cons]

theorem pieces_ne_nil (sep : α) (cs : List α) : pieces sep cs ≠ [] := by
  cases cs with
  | nil => simp
  | cons c cs =>
    rw [pieces_cons]
    split
    · simp
    · exact consFirst_ne_nil _ _

/-- Nothing is lost: the pieces, joined again by the separator, are the text. -/
@[simp] theorem joined_pieces (sep : α) (cs : List α) : joined sep (pieces sep cs) = cs := by
  induction cs with
  | nil => rfl
  | cons c cs ih =>
    rw [pieces_cons]
    split
    · next h => rw [joined_cons (pieces_ne_nil _ _), ih, h, List.nil_append]
    · rw [joined_consFirst _ _ (pieces_ne_nil _ _), ih]

theorem not_mem_of_mem_pieces {sep : α} {cs p : List α} (h : p ∈ pieces sep cs) :
    sep ∉ p := by
  induction cs generalizing p with
  | nil => simp at h; simp [h]
  | cons c cs ih =>
    rw [pieces_cons] at h
    split at h
    · rcases List.mem_cons.1 h with rfl | h
      · simp
      · exact ih h
    · next hc =>
      match hps : pieces sep cs, h with
      | [], h => simp [consFirst] at h; simp [h, Ne.symm hc]
      | q :: qs, h =>
        simp only [consFirst, List.mem_cons] at h
        rcases h with rfl | h
        · have := ih (hps ▸ List.mem_cons_self)
          simp [Ne.symm hc, this]
        · exact ih (hps ▸ List.mem_cons_of_mem _ h)

end FileProfile.Text
