import FileProfile.Text.Occurrence

/-!
# Counting words at every place

Reading a text from left to right passes over the words that it finds, so in general not every place
where a word starts is counted. If no word can begin inside another, `AreApart`, nothing that is
passed over is the start of one, and the words found are as many as the places
(`countFound_eq_countStarts`).
-/

namespace FileProfile.Text

variable {words : List (List Char)}

/-- At how many places of a text one of `words` starts. -/
def countStarts (words : List (List Char)) (cs : List Char) : Nat :=
  (List.range cs.length).countP fun place => words.any (·.isPrefixOf (cs.drop place))

theorem countStarts_cons (words : List (List Char)) (c : Char) (cs : List Char) :
    countStarts words (c :: cs) =
      (if words.any (·.isPrefixOf (c :: cs)) then 1 else 0) + countStarts words cs := by
  rw [countStarts, List.length_cons, List.range_succ_eq_map, List.countP_cons, List.countP_map,
    Nat.add_comm]
  rfl

/-- No word is empty, and none begins inside a word, be it another or the same. -/
structure AreApart (words : List (List Char)) : Prop where
  ne_nil : ∀ w ∈ words, w ≠ []
  apart : ∀ w ∈ words, ∀ place < w.length, place ≠ 0 → ∀ v ∈ words,
    ¬ v <+: w.drop place ∧ ¬ w.drop place <+: v

instance (words : List (List Char)) : Decidable (AreApart words) :=
  decidable_of_iff
    ((∀ w ∈ words, w ≠ []) ∧ ∀ w ∈ words, ∀ place < w.length, place ≠ 0 → ∀ v ∈ words,
      ¬ v <+: w.drop place ∧ ¬ w.drop place <+: v)
    ⟨fun h => ⟨h.1, h.2⟩, fun h => ⟨h.ne_nil, h.apart⟩⟩

/-- Inside a word that stands in the text, no word starts. -/
theorem AreApart.not_starts (h : AreApart words) {w cs : List Char} {c : Char} (hw : w ∈ words)
    (h_here : w <+: c :: cs) {place : Nat} (h_inside : place < w.length - 1) :
    words.any (·.isPrefixOf (cs.drop place)) = false := by
  obtain ⟨r, h_text⟩ := h_here
  rw [List.any_eq_false]
  intro v hv h_begins
  have h_lt : place + 1 < w.length := by omega
  have h_rest : cs.drop place = w.drop (place + 1) ++ r := by
    rw [← List.drop_append_of_le_length (Nat.le_of_lt h_lt), h_text, List.drop_succ_cons]
  have h_apart := h.apart w hw (place + 1) h_lt (Nat.succ_ne_zero place) v hv
  -- what starts here begins with the rest of the word, or the rest with it
  rw [h_rest, List.isPrefixOf_iff_prefix] at h_begins
  rcases List.prefix_or_prefix_of_prefix h_begins (List.prefix_append _ r) with h_v | h_rest
  · exact h_apart.1 h_v
  · exact h_apart.2 h_rest

/-- The induction is along the text: what is still to be passed over has no starts in it. -/
theorem AreApart.addFound_eq (h : AreApart words) {n passed : Nat} {cs : List Char}
    (h_passed : ∀ place < passed, words.any (·.isPrefixOf (cs.drop place)) = false) :
    addFound words n passed cs = n + countStarts words cs := by
  fun_induction addFound words n passed cs with
  | case1 n passed => rfl
  | case2 n c cs passed ih =>
    have h_here := h_passed 0 (Nat.succ_pos passed)
    rw [List.drop_zero] at h_here
    have h_rest := ih fun place h_lt => h_passed (place + 1) (Nat.succ_lt_succ h_lt)
    rw [h_rest, countStarts_cons, h_here]
    simp
  | case3 n c cs word h_word ih =>
    rw [wordAt?] at h_word
    have h_mem := List.mem_of_find?_eq_some h_word
    have h_begins := List.find?_some h_word
    have h_here : words.any (·.isPrefixOf (c :: cs)) = true :=
      List.any_eq_true.mpr ⟨word, h_mem, h_begins⟩
    have h_rest := ih fun place h_lt =>
      h.not_starts h_mem (List.isPrefixOf_iff_prefix.mp h_begins) h_lt
    rw [h_rest, countStarts_cons, h_here, if_pos rfl, Nat.add_assoc]
  | case4 n c cs h_none ih =>
    have h_here : words.any (·.isPrefixOf (c :: cs)) = false :=
      List.any_eq_false.mpr (List.find?_eq_none.mp h_none)
    rw [ih fun place h_lt => absurd h_lt (Nat.not_lt_zero place), countStarts_cons, h_here]
    simp

/-- **Words that are apart** are found at all places where one starts. -/
theorem AreApart.countFound_eq_countStarts (h : AreApart words) (cs : List Char) :
    countFound words cs = countStarts words cs := by
  have h_none : ∀ place < 0, words.any (·.isPrefixOf (cs.drop place)) = false :=
    fun place h_lt => absurd h_lt (Nat.not_lt_zero place)
  rw [countFound, h.addFound_eq h_none, Nat.zero_add]

end FileProfile.Text
