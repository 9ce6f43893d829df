import FileProfile.Text.Split

/-!
# Pieces put together and changed

What `Text/Split` says of the pieces of a text, the other way round: pieces put together with the
separator between them are the pieces of the result (`pieces_intercalate`), and the last of them is
what has no separator behind it (`lastPiece_eq_iff`).
-/

namespace FileProfile.Text

section Pieces

variable {α : Type} [DecidableEq α] {sep : α}

theorem pieces_eq_splitOn (sep : α) (cs : List α) : pieces sep cs = cs.splitOn sep := by
  induction cs with
  | nil => rfl
  | cons c cs ih =>
    rw [pieces_cons, List.splitOn_cons_eq_if_modifyHead, ih]
    simp only [beq_iff_eq]
    split
    · rfl
    · cases h : cs.splitOn sep with
      | nil => exact absurd h (List.splitOn_ne_nil _ _)
      | cons p ps => rfl

/-- Pieces without the separator are the pieces of what they make, put together with it. -/
theorem pieces_intercalate {ps : List (List α)} (h : ∀ p ∈ ps, sep ∉ p) (h_ne : ps ≠ []) :
    pieces sep ([sep].intercalate ps) = ps := by
  rw [pieces_eq_splitOn, List.splitOn_intercalate sep h h_ne]

theorem intercalate_pieces (sep : α) (cs : List α) :
    [sep].intercalate (pieces sep cs) = cs := by
  rw [pieces_eq_splitOn, List.intercalate_splitOn]

/-- The pieces on both sides of a separator. -/
theorem pieces_append_sep (sep : α) (l r : List α) :
    pieces sep (l ++ sep :: r) = pieces sep l ++ pieces sep r := by
  induction l with
  | nil => rw [List.nil_append, pieces_cons_self, pieces_nil, List.singleton_append]
  | cons c l ih =>
    rw [List.cons_append, pieces_cons, pieces_cons, ih]
    split
    · rfl
    · obtain ⟨p, ps, h_pieces⟩ := List.exists_cons_of_ne_nil (pieces_ne_nil sep l)
      rw [h_pieces]
      rfl

theorem pieces_of_not_mem {cs : List α} (h : sep ∉ cs) : pieces sep cs = [cs] := by
  induction cs with
  | nil => rfl
  | cons c cs ih =>
    obtain ⟨h_first, h_rest⟩ := List.ne_and_not_mem_of_not_mem_cons h
    rw [pieces_cons, if_neg (Ne.symm h_first), ih h_rest]
    rfl

end Pieces

variable {sep : Char}

/-- What is put together of several pieces in front of others. -/
theorem joined_append {ps qs : List (List Char)} (h : qs ≠ []) :
    joined sep (ps ++ qs) = ps.flatMap (· ++ [sep]) ++ joined sep qs := by
  induction ps with
  | nil => rfl
  | cons p ps ih =>
    rw [List.cons_append, joined_cons (List.append_ne_nil_of_right_ne_nil ps h), ih,
      List.flatMap_cons]
    simp only [List.append_assoc, List.cons_append, List.nil_append]

theorem lastPiece_append_sep (sep : Char) (l r : List Char) :
    lastPiece sep (l ++ sep :: r) = lastPiece sep r := by
  have h_stop : ((sep :: r).reverse ++ l.reverse).takeWhile (· != sep) =
      r.reverse.takeWhile (· != sep) := by
    rw [List.reverse_cons, List.append_assoc, List.takeWhile_append, List.singleton_append,
      List.takeWhile_cons_of_neg (by simp)]
    split
    · next h_all => rw [List.append_nil, (List.takeWhile_sublist _).eq_of_length h_all]
    · rfl
  rw [lastPiece, List.reverse_append, h_stop, lastPiece]

theorem lastPiece_append_of_not_mem {r : List Char} (h : sep ∉ r) (l : List Char) :
    lastPiece sep (l ++ r) = lastPiece sep l ++ r := by
  have h_all : ∀ c ∈ r.reverse, (c != sep) = true := by
    intro c hc
    rw [bne_iff_ne]
    rintro rfl
    exact h (List.mem_reverse.mp hc)
  rw [lastPiece, List.reverse_append, List.takeWhile_append_of_pos h_all, List.reverse_append,
    List.reverse_reverse, lastPiece]

theorem lastPiece_of_not_mem {cs : List Char} (h : sep ∉ cs) : lastPiece sep cs = cs :=
  lastPiece_append_of_not_mem h []

/-- What stands behind the last separator has none itself, and is all of the text or has one in
front. -/
theorem lastPiece_eq_iff {cs p : List Char} :
    lastPiece sep cs = p ↔ sep ∉ p ∧ (cs = p ∨ ∃ l, cs = l ++ sep :: p) := by
  refine ⟨?_, ?_⟩
  · rintro rfl
    by_cases h : sep ∈ cs
    · -- the last separator of the text is the first of the text backwards
      obtain ⟨r, l, h_cut, h_not_mem⟩ := List.eq_append_cons_of_mem (List.mem_reverse.mpr h)
      have h_piece : sep ∉ r.reverse := fun h_mem => h_not_mem (List.mem_reverse.mp h_mem)
      obtain rfl : cs = l.reverse ++ sep :: r.reverse := by
        rw [← List.reverse_reverse cs, h_cut]
        simp
      rw [lastPiece_append_sep, lastPiece_of_not_mem h_piece]
      exact ⟨h_piece, .inr ⟨l.reverse, rfl⟩⟩
    · rw [lastPiece_of_not_mem h]
      exact ⟨h, .inl rfl⟩
  · rintro ⟨h, rfl | ⟨l, rfl⟩⟩
    · exact lastPiece_of_not_mem h
    · rw [lastPiece_append_sep, lastPiece_of_not_mem h]

theorem mem_of_mem_lastPiece {c : Char} {cs : List Char} (h : c ∈ lastPiece sep cs) : c ∈ cs := by
  obtain ⟨-, h_eq | ⟨l, h_cut⟩⟩ := lastPiece_eq_iff.mp (rfl : lastPiece sep cs = _)
  · rwa [← h_eq] at h
  · rw [h_cut]
    exact List.mem_append_right l (List.mem_cons_of_mem _ h)

/-- A cut at a character of two texts put together is a cut of the first or of the second. -/
theorem cut_of_append_eq {l r front rest : List Char} {c : Char}
    (h : l ++ r = front ++ c :: rest) :
    (∃ more, l = front ++ c :: more ∧ rest = more ++ r) ∨
      ∃ more, front = l ++ more ∧ r = more ++ c :: rest := by
  rcases List.append_eq_append_iff.mp h with h_right | ⟨more, h_left, h_rest⟩
  · exact .inr h_right
  · cases more with
    | nil => exact .inr ⟨[], by rw [h_left, List.append_nil, List.append_nil], h_rest.symm⟩
    | cons d more =>
      obtain ⟨rfl, h_behind⟩ := List.cons.inj h_rest
      exact .inl ⟨more, h_left, h_behind⟩

end FileProfile.Text
