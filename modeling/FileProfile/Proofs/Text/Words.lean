import FileProfile.Text.Word
import FileProfile.Text.Words

/-!
# Texts made of words

`words` finds the words of a text by cutting it at every white-space character and dropping the empty
pieces. `HasWords` says what comes out without cutting: gaps of white space, and between them words
that are as long as they can be. A text has the words that are found in it and no others
(`words_eq_iff`), and so a text that is written down with its words apart can be read word by word.
-/

namespace FileProfile.Text

/-- A text consists of these words, in order, with white space around and between them. -/
inductive HasWords : List Char → List (List Char) → Prop
  | gap {gap} : (∀ c ∈ gap, isBlank c = true) → HasWords gap []
  | word {gap word rest words} : (∀ c ∈ gap, isBlank c = true) → word ≠ [] →
      (∀ c ∈ word, isBlank c = false) → rest.head?.all isBlank = true → HasWords rest words →
      HasWords (gap ++ word ++ rest) (word :: words)

variable {c : Char} {gap word rest cs : List Char} {ws : List (List Char)}

/-! ### What the cutting does -/

theorem words_gap_append (h : ∀ c ∈ gap, isBlank c = true) (cs : List Char) :
    words (gap ++ cs) = words cs := by
  induction gap with
  | nil => rfl
  | cons c gap ih =>
    obtain ⟨h_first, h_gap⟩ := List.forall_mem_cons.mp h
    rw [List.cons_append, words_cons_of_isBlank h_first, ih h_gap]

/-- Characters of a word are put in front of the first piece. -/
theorem blankPieces_word_append (h : ∀ c ∈ word, isBlank c = false) {p : List Char}
    {ps : List (List Char)} (h_rest : blankPieces rest = p :: ps) :
    blankPieces (word ++ rest) = (word ++ p) :: ps := by
  induction word with
  | nil => exact h_rest
  | cons c word ih =>
    obtain ⟨h_first, h_word⟩ := List.forall_mem_cons.mp h
    rw [List.cons_append, blankPieces_cons, if_neg (by rw [h_first]; exact Bool.false_ne_true),
      ih h_word]
    rfl

/-- Where a word has ended, the first piece is empty. -/
theorem blankPieces_of_head? (h : rest.head?.all isBlank = true) :
    ∃ ps, blankPieces rest = [] :: ps := by
  cases rest with
  | nil => exact ⟨[], rfl⟩
  | cons c rest => exact ⟨blankPieces rest, by rw [blankPieces_cons, if_pos (by simpa using h)]⟩

theorem words_word_append (h_ne : word ≠ []) (h : ∀ c ∈ word, isBlank c = false)
    (h_rest : rest.head?.all isBlank = true) : words (word ++ rest) = word :: words rest := by
  obtain ⟨ps, h_pieces⟩ := blankPieces_of_head? h_rest
  rw [words, words, blankPieces_word_append h h_pieces, h_pieces, List.append_nil]
  simp [h_ne]

/-! ### The words of a text -/

/-- A word in front of a text, where the text does not go on with it. -/
theorem HasWords.cons_word (h : HasWords rest ws) (h_ne : word ≠ [])
    (h_word : ∀ c ∈ word, isBlank c = false) (h_rest : rest.head?.all isBlank = true) :
    HasWords (word ++ rest) (word :: ws) := by
  have h_no_gap : ∀ c ∈ ([] : List Char), isBlank c = true := fun _ hc => absurd hc List.not_mem_nil
  exact .word h_no_gap h_ne h_word h_rest h

theorem hasWords_nil : HasWords [] [] := .gap fun _ hc => absurd hc List.not_mem_nil

theorem HasWords.words_eq (h : HasWords cs ws) : words cs = ws := by
  induction h with
  | gap h_gap =>
    have h_append := words_gap_append h_gap []
    rwa [List.append_nil, words_nil] at h_append
  | word h_gap h_ne h_word h_rest _ ih =>
    rw [List.append_assoc, words_gap_append h_gap, words_word_append h_ne h_word h_rest, ih]

/-- White space in front of a text is part of its first gap. -/
theorem HasWords.cons_of_isBlank (h : HasWords cs ws) (hc : isBlank c = true) :
    HasWords (c :: cs) ws := by
  cases h with
  | gap h_gap => exact .gap (List.forall_mem_cons.mpr ⟨hc, h_gap⟩)
  | word h_gap h_ne h_word h_rest h =>
    exact .word (List.forall_mem_cons.mpr ⟨hc, h_gap⟩) h_ne h_word h_rest h

/-- Any other character in front of a text begins a word, or makes the first one longer. -/
theorem HasWords.cons_of_not_isBlank (h : HasWords cs ws) (hc : isBlank c = false) :
    ∃ ws', HasWords (c :: cs) ws' := by
  have h_alone : ∀ d ∈ [c], isBlank d = false := fun d hd => List.mem_singleton.mp hd ▸ hc
  by_cases h_head : cs.head?.all isBlank = true
  · exact ⟨[c] :: ws, h.cons_word (List.cons_ne_nil c []) h_alone h_head⟩
  · -- the text begins with its first word, there being no gap in front
    cases h with
    | gap h_gap =>
      cases cs with
      | nil => exact absurd rfl h_head
      | cons d cs => exact absurd (h_gap d List.mem_cons_self) (by simpa using h_head)
    | @word gap word rest words h_gap h_ne h_word h_rest h =>
      cases gap with
      | nil =>
        have h_longer : ∀ d ∈ c :: word, isBlank d = false := List.forall_mem_cons.mpr ⟨hc, h_word⟩
        exact ⟨(c :: word) :: words, h.cons_word (List.cons_ne_nil c word) h_longer h_rest⟩
      | cons d gap => exact absurd (h_gap d List.mem_cons_self) (by simpa using h_head)

theorem exists_hasWords (cs : List Char) : ∃ ws, HasWords cs ws := by
  induction cs with
  | nil => exact ⟨[], hasWords_nil⟩
  | cons c cs ih =>
    obtain ⟨ws, h⟩ := ih
    cases hc : isBlank c with
    | true => exact ⟨ws, h.cons_of_isBlank hc⟩
    | false => exact h.cons_of_not_isBlank hc

/-- **A text has the words that are found in it,** and no others. -/
theorem words_eq_iff : words cs = ws ↔ HasWords cs ws := by
  refine ⟨?_, HasWords.words_eq⟩
  rintro rfl
  obtain ⟨ws, h⟩ := exists_hasWords cs
  rwa [h.words_eq]

/-- No white space counts as part of a word in the narrower sense either. -/
theorem isBlank_eq_false_of_isWord (h : isWord c = true) : isBlank c = false := by
  have h_table : (blankRanges.all fun range =>
      (List.range' range.1 (range.2 + 1 - range.1)).all fun code => !inRanges code wordRanges) =
        true := by
    decide +kernel
  rw [Bool.eq_false_iff]
  intro h_blank
  obtain ⟨range, h_range, h_first, h_last⟩ := exists_range_of_inRanges h_blank
  have h_codes := List.all_eq_true.mp h_table range h_range
  have h_code : c.toNat ∈ List.range' range.1 (range.2 + 1 - range.1) :=
    List.mem_range'_1.mpr ⟨h_first, by omega⟩
  have h_not := List.all_eq_true.mp h_codes c.toNat h_code
  rw [isWord] at h
  rw [h] at h_not
  cases h_not

end FileProfile.Text
