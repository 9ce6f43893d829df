import FileProfile.Text.Lines

/-!
# Lines that end in a return and a line feed

`withReturns` puts a carriage return in front of every line feed of a text. Where the result is cut
in two, either both parts are results themselves or the cut goes through the end of a line
(`eq_append_withReturns`); the character in front of a cut of the first kind is that of the text,
and the one behind it is that of the text too, but for a line feed (`getLast?_withReturns`,
`head?_withReturns`).

The lines stay the same (`lines_withReturns`): a piece between line feeds gains the return that its
line loses. Only the last piece gains none, which is why the text must not hold returns of its own.
-/

namespace FileProfile.Text

/-- A character as it stands in a text with returns. -/
def withReturn (c : Char) : List Char := if c = '\n' then ['\r', '\n'] else [c]

/-- A text with a carriage return in front of every line feed. -/
def withReturns (cs : List Char) : List Char := cs.flatMap withReturn

/-- The character that stands where `c` stood. -/
def firstWithReturn (c : Char) : Char := if c = '\n' then '\r' else c

variable {c : Char} {cs l r : List Char}

theorem withReturn_of_ne (h : c ≠ '\n') : withReturn c = [c] := if_neg h

@[simp] theorem withReturns_nil : withReturns [] = [] := rfl

theorem withReturns_cons (c : Char) (cs : List Char) :
    withReturns (c :: cs) = withReturn c ++ withReturns cs := List.flatMap_cons

@[simp] theorem withReturns_cons_newline (cs : List Char) :
    withReturns ('\n' :: cs) = '\r' :: '\n' :: withReturns cs := rfl

theorem withReturns_cons_of_ne (h : c ≠ '\n') (cs : List Char) :
    withReturns (c :: cs) = c :: withReturns cs := by
  rw [withReturns_cons, withReturn_of_ne h, List.singleton_append]

@[simp] theorem withReturns_append (l r : List Char) :
    withReturns (l ++ r) = withReturns l ++ withReturns r := List.flatMap_append

theorem withReturns_eq_nil : withReturns cs = [] ↔ cs = [] := by
  cases cs with
  | nil => simp
  | cons c cs =>
    by_cases h : c = '\n'
    · simp [h]
    · simp [withReturns_cons_of_ne h]

/-- The characters of a text are kept, and only returns are added. -/
theorem mem_withReturns_of_mem (h : c ∈ cs) : c ∈ withReturns cs := by
  refine List.mem_flatMap.mpr ⟨c, h, ?_⟩
  by_cases hc : c = '\n'
  · simp [hc, withReturn]
  · simp [withReturn_of_ne hc]

theorem of_mem_withReturns (h : c ∈ withReturns cs) : c ∈ cs ∨ c = '\r' ∧ '\n' ∈ cs := by
  obtain ⟨d, hd, hc⟩ := List.mem_flatMap.mp h
  by_cases h_feed : d = '\n'
  · subst h_feed
    have h_pair : c = '\r' ∨ c = '\n' := by simpa [withReturn] using hc
    rcases h_pair with rfl | rfl
    · exact .inr ⟨rfl, hd⟩
    · exact .inl hd
  · rw [withReturn_of_ne h_feed, List.mem_singleton] at hc
    exact .inl (hc ▸ hd)

theorem head?_withReturns (cs : List Char) :
    (withReturns cs).head? = cs.head?.map firstWithReturn := by
  cases cs with
  | nil => rfl
  | cons c cs =>
    by_cases h : c = '\n'
    · simp [h, firstWithReturn]
    · simp [withReturns_cons_of_ne h, firstWithReturn, h]

theorem getLast?_withReturn (c : Char) : (withReturn c).getLast? = some c := by
  by_cases h : c = '\n'
  · rw [h]
    rfl
  · rw [withReturn_of_ne h]
    rfl

theorem getLast?_withReturns (cs : List Char) : (withReturns cs).getLast? = cs.getLast? := by
  induction cs with
  | nil => rfl
  | cons c cs ih =>
    calc (withReturns (c :: cs)).getLast?
        = (withReturns cs).getLast?.or (withReturn c).getLast? := by
          rw [withReturns_cons, List.getLast?_append]
      _ = cs.getLast?.or (some c) := by rw [ih, getLast?_withReturn]
      _ = (c :: cs).getLast? := by rw [← List.singleton_append, List.getLast?_append]; rfl

/-- **A cut through a text with returns** either goes between two characters of the text, or it
goes through the end of a line, behind the return. -/
theorem eq_append_withReturns (h : withReturns cs = l ++ r) :
    (∃ l₀ r₀, cs = l₀ ++ r₀ ∧ l = withReturns l₀ ∧ r = withReturns r₀) ∨
      ∃ l₀ r₀, cs = l₀ ++ '\n' :: r₀ ∧ l = withReturns l₀ ++ ['\r'] ∧ r = '\n' :: withReturns r₀ := by
  induction cs generalizing l with
  | nil =>
    obtain ⟨rfl, rfl⟩ := List.append_eq_nil_iff.mp h.symm
    exact .inl ⟨[], [], rfl, rfl, rfl⟩
  | cons c cs ih =>
    cases l with
    | nil => exact .inl ⟨[], c :: cs, rfl, rfl, h.symm⟩
    | cons d l =>
      by_cases hc : c = '\n'
      · -- the first line ends here: the cut is behind its return, or further on
        subst hc
        rw [withReturns_cons_newline, List.cons_append] at h
        obtain ⟨rfl, h_feed⟩ := List.cons.inj h
        cases l with
        | nil => exact .inr ⟨[], cs, rfl, rfl, h_feed.symm⟩
        | cons e l =>
          obtain ⟨rfl, h_rest⟩ := List.cons.inj h_feed
          rcases ih h_rest with ⟨l₀, r₀, rfl, rfl, rfl⟩ | ⟨l₀, r₀, rfl, rfl, rfl⟩
          · exact .inl ⟨'\n' :: l₀, r₀, rfl, rfl, rfl⟩
          · exact .inr ⟨'\n' :: l₀, r₀, rfl, rfl, rfl⟩
      · rw [withReturns_cons_of_ne hc, List.cons_append] at h
        obtain ⟨rfl, h_rest⟩ := List.cons.inj h
        rcases ih h_rest with ⟨l₀, r₀, rfl, rfl, rfl⟩ | ⟨l₀, r₀, rfl, rfl, rfl⟩
        · exact .inl ⟨c :: l₀, r₀, rfl, (withReturns_cons_of_ne hc _).symm, rfl⟩
        · refine .inr ⟨c :: l₀, r₀, rfl, ?_, rfl⟩
          rw [withReturns_cons_of_ne hc, List.cons_append]

/-! ### Lines -/

theorem dropReturn_cons (h : c ≠ '\r') (p : List Char) :
    dropReturn (c :: p) = c :: dropReturn p := by
  cases p with
  | nil => simp [dropReturn, h]
  | cons d p =>
    unfold dropReturn
    rw [List.getLast?_cons_cons]
    split
    · rw [List.dropLast_cons_cons]
    · rfl

theorem map_dropReturn_consFirst (h : c ≠ '\r') {ps : List (List Char)} (h_ne : ps ≠ []) :
    (consFirst c ps).map dropReturn = consFirst c (ps.map dropReturn) := by
  obtain ⟨p, ps, rfl⟩ := List.exists_cons_of_ne_nil h_ne
  rw [consFirst, List.map_cons, List.map_cons, consFirst, dropReturn_cons h]

/-- The return that a piece gains is the one that its line loses. -/
theorem map_dropReturn_pieces_withReturns (h : '\r' ∉ cs) :
    (pieces '\n' (withReturns cs)).map dropReturn = (pieces '\n' cs).map dropReturn := by
  induction cs with
  | nil => rfl
  | cons c cs ih =>
    obtain ⟨h_return, h_rest⟩ := List.ne_and_not_mem_of_not_mem_cons h
    by_cases hc : c = '\n'
    · -- the first piece is empty, and a return with returns
      subst hc
      have h_piece : pieces '\n' (withReturns ('\n' :: cs)) =
          ['\r'] :: pieces '\n' (withReturns cs) := rfl
      rw [h_piece, pieces_cons_self, List.map_cons, List.map_cons, ih h_rest]
      rfl
    · -- both first pieces gain the character, which is no return that could be dropped
      rw [withReturns_cons_of_ne hc, pieces_cons, pieces_cons, if_neg hc, if_neg hc,
        map_dropReturn_consFirst h_return.symm (pieces_ne_nil _ _),
        map_dropReturn_consFirst h_return.symm (pieces_ne_nil _ _), ih h_rest]

/-- **The lines of a text do not change** when its lines end in a return and a line feed. -/
theorem lines_withReturns (h : '\r' ∉ cs) :
    lines (String.ofList (withReturns cs)) = lines (String.ofList cs) := by
  by_cases h_nil : cs = []
  · rw [h_nil]
    rfl
  · -- only the empty text has no lines, and it stays empty
    have h_text : String.ofList cs ≠ "" := by simpa using h_nil
    have h_text' : String.ofList (withReturns cs) ≠ "" := by
      simpa [withReturns_eq_nil] using h_nil
    have h_pieces := congrArg (List.map String.ofList) (map_dropReturn_pieces_withReturns h)
    rw [List.map_map, List.map_map] at h_pieces
    rw [lines_eq h_text, lines_eq h_text', String.toList_ofList, String.toList_ofList]
    exact h_pieces

end FileProfile.Text
