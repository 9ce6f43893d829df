import FileProfile.Proofs.Json.Lexer

/-!
# Both texts of a value read as the value

A value is well-formed if the numbers that it keeps as written are numbers. The compact and the
indented text of such a value have its tokens, the latter with white space around them, and both
read as the value (`ofText?_compact`, `ofText?_indented`).

The compact text has no control character: there is no white space in it, and the control
characters of its strings are escaped (`le_toNat_of_mem_compact`). A control character is one below
U+0020, as JSON has it.
-/

namespace FileProfile.Json

/-- The scalars of a value, wherever they stand in it, are well-formed. -/
def IsWellFormed (value : Json) : Prop := ∀ token ∈ value.tokens, token.IsWellFormed

/-- The tokens of a value in any layout read as the value. -/
theorem ofText?_flatten {value : Json} (h : value.IsWellFormed) {pieces : List (List Char)}
    (h_pieces : List.Forall₂ Lexer.IsLaidOut pieces value.tokens) :
    ofText? (String.ofList pieces.flatten) = some value := by
  -- the parser accepts the tokens, so no two scalars of them are in a row
  have h_parse : value.tokens.foldlM Parser.step? ⟨[], .value⟩ = some ⟨[], .nothing value⟩ :=
    foldlM_tokens [] value
  have h_apart := isChain_apart_of_foldlM h_parse
  have h_lex : lex? pieces.flatten = some value.tokens := lex?_flatten h_pieces h h_apart
  rw [ofText?, String.toList_ofList, h_lex]
  exact ofTokens?_tokens value

/-! ### The compact text -/

theorem isLaidOut_write (token : Token) : Lexer.IsLaidOut token.write token := by
  refine ⟨[], [], ?_, nofun, nofun⟩
  rw [List.nil_append, List.append_nil]

/-- **The compact text of a value reads as the value.** -/
theorem ofText?_compact {value : Json} (h : value.IsWellFormed) :
    ofText? value.compact = some value := by
  rw [compact, List.flatMap_def]
  refine ofText?_flatten h ?_
  rw [List.forall₂_map_left_iff, List.forall₂_same]
  intro token _
  exact isLaidOut_write token

/-! ### The indented text -/

theorem isSpace_of_mem_newLine {depth : Nat} {c : Char} (h : c ∈ newLine depth) :
    Lexer.isSpace c = true := by
  rcases List.mem_cons.mp h with rfl | h_indent
  · rfl
  · rw [List.eq_of_mem_replicate h_indent]
    rfl

theorem isSpace_of_mem_start {opened : Bool} {depth : Nat} {c : Char}
    (h : c ∈ if opened then newLine depth else []) : Lexer.isSpace c = true := by
  cases opened with
  | true => exact isSpace_of_mem_newLine h
  | false => cases h

theorem isSpace_of_mem_end {opened : Bool} {depth : Nat} {c : Char}
    (h : c ∈ if opened then [] else newLine depth) : Lexer.isSpace c = true := by
  cases opened with
  | true => cases h
  | false => exact isSpace_of_mem_newLine h

/-- Wherever a token stands, only white space is added to it. -/
theorem isLaidOut_writeAt (place : Place) (token : Token) :
    Lexer.IsLaidOut (token.writeAt place).2 token := by
  have h_start := @isSpace_of_mem_start place.opened place.depth
  have h_end := @isSpace_of_mem_end place.opened (place.depth - 1)
  cases token with
  -- white space in front of the token, if there is any
  | openArray => exact ⟨_, [], (List.append_nil _).symm, @h_start, nofun⟩
  | openObject => exact ⟨_, [], (List.append_nil _).symm, @h_start, nofun⟩
  | scalar s => exact ⟨_, [], (List.append_nil _).symm, @h_start, nofun⟩
  | closeArray => exact ⟨_, [], (List.append_nil _).symm, @h_end, nofun⟩
  | closeObject => exact ⟨_, [], (List.append_nil _).symm, @h_end, nofun⟩
  -- white space behind the token
  | comma => exact ⟨[], _, rfl, nofun, fun _ => isSpace_of_mem_newLine⟩
  | colon =>
    refine ⟨[], [' '], rfl, nofun, ?_⟩
    intro c hc
    rw [List.mem_singleton.mp hc]
    rfl

/-- Each token goes behind the pieces of those before it. -/
theorem forall₂_foldl_addPiece (laid : Place × List (List Char)) (done : List Token)
    {tokens : List Token} (h : List.Forall₂ Lexer.IsLaidOut laid.2.reverse done) :
    List.Forall₂ Lexer.IsLaidOut (tokens.foldl addPiece laid).2.reverse (done ++ tokens) := by
  induction tokens generalizing laid done with
  | nil =>
    rw [List.append_nil]
    exact h
  | cons token tokens ih =>
    rw [List.foldl_cons, List.append_cons]
    -- the piece of the token is the last so far
    refine ih (addPiece laid token) (done ++ [token]) ?_
    change List.Forall₂ Lexer.IsLaidOut ((token.writeAt laid.1).2 :: laid.2).reverse _
    rw [List.reverse_cons]
    exact List.rel_append h (.cons (isLaidOut_writeAt laid.1 token) .nil)

/-- **The indented text of a value reads as the value.** -/
theorem ofText?_indented {value : Json} (h : value.IsWellFormed) :
    ofText? value.indented = some value := by
  have h_pieces : List.Forall₂ Lexer.IsLaidOut (indentedPieces value.tokens).reverse
      value.tokens := forall₂_foldl_addPiece ({}, []) [] .nil
  exact ofText?_flatten h h_pieces

/-! ### Control characters -/

theorem le_toNat_of_all {cs : List Char} (h_all : cs.all (fun c => 32 ≤ c.toNat) = true) {c : Char}
    (h : c ∈ cs) : 32 ≤ c.toNat := of_decide_eq_true (List.all_eq_true.mp h_all c h)

theorem le_toNat_of_isNumeric {c : Char} (h : isNumeric c = true) : 32 ≤ c.toNat := by
  refine Decidable.byContradiction fun h_control => ?_
  have h_none : ∀ n : Fin 32, isNumeric (Char.ofNat n) = false := by decide
  have h_char := h_none ⟨c.toNat, Nat.lt_of_not_le h_control⟩
  rw [Char.ofNat_toNat, h] at h_char
  cases h_char

theorem le_toNat_hexDigit {n : Nat} (h : n < 16) : 32 ≤ (Text.hexDigit 'a' n).toNat := by
  have h_digits : ∀ m : Fin 16, 32 ≤ (Text.hexDigit 'a' m).toNat := by decide
  exact h_digits ⟨n, h⟩

/-- In a string, no control character stands as it is. -/
theorem le_toNat_of_mem_escapeChar {c d : Char} (h : d ∈ escapeChar c) : 32 ≤ d.toNat := by
  unfold escapeChar at h
  split at h
  case h_8 =>
    split at h
    · next h_control =>
      have h_high : 32 ≤ (Text.hexDigit 'a' (c.toNat / 16)).toNat := le_toNat_hexDigit (by omega)
      have h_low : 32 ≤ (Text.hexDigit 'a' (c.toNat % 16)).toNat := le_toNat_hexDigit (by omega)
      have h_parts : d ∈ ['\\', 'u', '0', '0'] ++ [Text.hexDigit 'a' (c.toNat / 16),
        Text.hexDigit 'a' (c.toNat % 16)] := h
      rcases List.mem_append.mp h_parts with h_mem | h_digit
      · exact le_toNat_of_all (by decide) h_mem
      · rcases List.mem_pair.mp h_digit with rfl | rfl
        · exact h_high
        · exact h_low
    · next h_plain =>
      rw [List.mem_singleton.mp h]
      exact Nat.le_of_not_lt h_plain
  -- a backslash and a character behind it
  all_goals exact le_toNat_of_all (by decide) h

theorem le_toNat_of_mem_writeScalar {s : Scalar} (h_formed : s.IsWellFormed) {c : Char}
    (h : c ∈ writeScalar s) : 32 ≤ c.toNat := by
  cases s with
  | null =>
    have h_null : (writeScalar .null).all (fun c => 32 ≤ c.toNat) = true := by decide
    exact le_toNat_of_all h_null h
  | bool b =>
    have h_bool : (writeScalar (.bool b)).all (fun c => 32 ≤ c.toNat) = true := by
      cases b <;> decide
    exact le_toNat_of_all h_bool h
  | int n =>
    have h_numeric := all_isNumeric_of_number? (number?_writeInt n)
    exact le_toNat_of_isNumeric (List.all_eq_true.mp h_numeric c h)
  | decimal written =>
    have h_numeric := all_isNumeric_of_number? h_formed
    exact le_toNat_of_isNumeric (List.all_eq_true.mp h_numeric c h)
  | string text =>
    rcases List.mem_append.mp h with h_front | h_quote
    · rcases List.mem_cons.mp h_front with rfl | h_escaped
      · decide
      · obtain ⟨_, -, h_char⟩ := List.mem_flatMap.mp h_escaped
        exact le_toNat_of_mem_escapeChar h_char
    · rw [List.mem_singleton.mp h_quote]
      decide

theorem le_toNat_of_mem_write {token : Token} (h_formed : token.IsWellFormed) {c : Char}
    (h : c ∈ token.write) : 32 ≤ c.toNat := by
  cases token with
  | scalar s => exact le_toNat_of_mem_writeScalar (h_formed s rfl) h
  | _ =>
    rw [List.mem_singleton.mp h]
    decide

/-- **The compact text has no control character.** -/
theorem le_toNat_of_mem_compact {value : Json} (h_formed : value.IsWellFormed) {c : Char}
    (h : c ∈ value.compact.toList) : 32 ≤ c.toNat := by
  rw [compact, String.toList_ofList] at h
  obtain ⟨token, h_token, h_char⟩ := List.mem_flatMap.mp h
  exact le_toNat_of_mem_write (h_formed token h_token) h_char

end FileProfile.Json
