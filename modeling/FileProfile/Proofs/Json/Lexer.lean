import FileProfile.Proofs.Json.Tokens
import FileProfile.Proofs.Json.Words

/-!
# The lexer reads the text of tokens

`Lexer.Reads ts cs ts'` says of characters that they lead from the tokens `ts` to the tokens `ts'`:
whatever state the lexer is in, when it has read `ts`, it takes `cs` and has read `ts'`. The last
token may be a word that has not ended; what comes next ends it, be it white space, a mark of
punctuation or a quote.

White space reads as no token, and the text of a token reads as that token, provided that a scalar
does not follow another (`reads_write`). So a text reads as its tokens however it is laid out
(`lex?_flatten`), with any white space in front of a token and behind it.
-/

namespace FileProfile.Json

namespace Lexer

/-- The lexer has read the tokens; a word at the end may go on. -/
inductive HasRead : Lexer → List Token → Prop
  | outside (ts : List Token) : HasRead ⟨ts.reverse, .outside⟩ ts
  | word (ts : List Token) {cs : List Char} {s : Scalar} (h : scalar? cs.reverse = some s) :
    HasRead ⟨ts.reverse, .word cs⟩ (ts ++ [.scalar s])

/-- The characters lead from the tokens `ts` to the tokens `ts'`. -/
def Reads (ts : List Token) (cs : List Char) (ts' : List Token) : Prop :=
  ∀ lexer, HasRead lexer ts → ∃ next, cs.foldlM step? lexer = some next ∧ HasRead next ts'

variable {ts ts' ts'' : List Token} {cs ds : List Char}

theorem Reads.nil (ts : List Token) : Reads ts [] ts := by
  intro lexer h
  exact ⟨lexer, rfl, h⟩

theorem Reads.append (h : Reads ts cs ts') (h' : Reads ts' ds ts'') :
    Reads ts (cs ++ ds) ts'' := by
  intro lexer h_lexer
  obtain ⟨middle, h_middle, h_read⟩ := h lexer h_lexer
  obtain ⟨last, h_last, h_read'⟩ := h' middle h_read
  refine ⟨last, ?_, h_read'⟩
  rw [List.foldlM_append, h_middle]
  exact h_last

/-! ### Marks and white space -/

/-- A character that ends words is read as outside of any. -/
theorem step?_of_endsWord {lexer : Lexer} (h : HasRead lexer ts) {c : Char}
    (hc : endsWord c = true) : lexer.step? c = some (begin ts.reverse c) := by
  cases h with
  | outside => rfl
  | word ts h_word =>
    -- the word is the last of the tokens
    rw [step?]
    simp only [hc, if_true, endWord?, h_word, Option.map_some, List.reverse_append,
      List.reverse_singleton, List.singleton_append]

theorem reads_mark {c : Char} {token : Token} (h : mark? c = some token) :
    Reads ts [c] (ts ++ [token]) := by
  intro lexer h_lexer
  have h_ends : endsWord c = true := by simp [endsWord, h]
  refine ⟨⟨token :: ts.reverse, .outside⟩, ?_, ?_⟩
  · rw [List.foldlM_cons, step?_of_endsWord h_lexer h_ends, begin, h]
    rfl
  · have h_read := HasRead.outside (ts ++ [token])
    rwa [List.reverse_append] at h_read

theorem mark?_of_isSpace {c : Char} (h : isSpace c = true) : mark? c = none := by
  simp only [isSpace, Bool.or_eq_true, beq_iff_eq] at h
  rcases h with ((rfl | rfl) | rfl) | rfl <;> rfl

theorem reads_space {c : Char} (h : isSpace c = true) : Reads ts [c] ts := by
  intro lexer h_lexer
  have h_ends : endsWord c = true := by simp [endsWord, h]
  refine ⟨⟨ts.reverse, .outside⟩, ?_, .outside ts⟩
  rw [List.foldlM_cons, step?_of_endsWord h_lexer h_ends, begin, mark?_of_isSpace h, h]
  rfl

/-- White space reads as no token. -/
theorem reads_spaces (h : ∀ c ∈ cs, isSpace c = true) : Reads ts cs ts := by
  induction cs with
  | nil => exact .nil ts
  | cons c cs ih =>
    have h_rest : Reads ts cs ts := ih fun c' hc' => h c' (List.mem_cons_of_mem c hc')
    exact (reads_space (h c List.mem_cons_self)).append h_rest

/-! ### Strings -/

/-- The code of a control character is read back. -/
theorem foldlM_code (tokens : List Token) (cs : List Char) {c : Char} (h : c.toNat < 32) :
    List.foldlM step? ⟨tokens, .string cs⟩
        ['\\', 'u', '0', '0', Text.hexDigit 'a' (c.toNat / 16), Text.hexDigit 'a' (c.toNat % 16)] =
      some ⟨tokens, .string (c :: cs)⟩ := by
  have h_high : Text.hexValue? (Text.hexDigit 'a' (c.toNat / 16)) = some (c.toNat / 16) :=
    Text.hexValue?_hexDigit (.inl rfl) (by omega)
  have h_low : Text.hexValue? (Text.hexDigit 'a' (c.toNat % 16)) = some (c.toNat % 16) :=
    Text.hexValue?_hexDigit (.inl rfl) (by omega)
  -- the two digits make up the code, which is that of a character by itself
  have h_code : c.toNat / 16 * 16 + c.toNat % 16 = c.toNat := by omega
  have h_end : endCode? cs none c.toNat = some (.string (c :: cs)) := by
    have h_leading : ¬ 0xD800 ≤ c.toNat := by omega
    have h_trailing : ¬ 0xDC00 ≤ c.toNat := by omega
    simp [endCode?, h_leading, h_trailing]
  -- the first two digits are zeros
  have h_third : step? ⟨tokens, .code cs none 2 0⟩ (Text.hexDigit 'a' (c.toNat / 16)) =
      some ⟨tokens, .code cs none 1 (c.toNat / 16)⟩ := by
    simp [step?, h_high]
  have h_fourth : step? ⟨tokens, .code cs none 1 (c.toNat / 16)⟩
      (Text.hexDigit 'a' (c.toNat % 16)) = some ⟨tokens, .string (c :: cs)⟩ := by
    simp [step?, h_low, h_code, h_end]
  calc
    _ = List.foldlM step? ⟨tokens, .code cs none 2 0⟩
          [Text.hexDigit 'a' (c.toNat / 16), Text.hexDigit 'a' (c.toNat % 16)] := rfl
    _ = List.foldlM step? ⟨tokens, .code cs none 1 (c.toNat / 16)⟩
          [Text.hexDigit 'a' (c.toNat % 16)] := by rw [List.foldlM_cons, h_third]; rfl
    _ = some ⟨tokens, .string (c :: cs)⟩ := by rw [List.foldlM_cons, h_fourth]; rfl

/-- Within a string, a character is read back from what it is written as. -/
theorem foldlM_escapeChar (tokens : List Token) (cs : List Char) (c : Char) :
    (escapeChar c).foldlM step? ⟨tokens, .string cs⟩ = some ⟨tokens, .string (c :: cs)⟩ := by
  unfold escapeChar
  split
  case h_8 h_quote h_slash _ _ _ _ _ =>
    split
    · next h_control => exact foldlM_code tokens cs h_control
    · next h_plain =>
      -- The character stands for itself.
      have h_step : step? ⟨tokens, .string cs⟩ c = some ⟨tokens, .string (c :: cs)⟩ := by
        rw [step?]
        simp only [if_neg h_quote, if_neg h_slash, if_neg h_plain]
      rw [List.foldlM_cons, h_step]
      rfl
  -- The others have a letter, or stand behind a backslash.
  all_goals rfl

theorem foldlM_flatMap_escapeChar (tokens : List Token) (cs ds : List Char) :
    (ds.flatMap escapeChar).foldlM step? ⟨tokens, .string cs⟩ =
      some ⟨tokens, .string (ds.reverse ++ cs)⟩ := by
  induction ds generalizing cs with
  | nil => rfl
  | cons d ds ih =>
    rw [List.flatMap_cons, List.foldlM_append, foldlM_escapeChar, List.reverse_cons,
      List.append_assoc]
    exact ih (d :: cs)

/-- A string in quotes reads as a string. -/
theorem reads_quote (s : String) : Reads ts (quote s) (ts ++ [.scalar (.string s)]) := by
  intro lexer h_lexer
  -- The first quote ends a word, if there is one, and opens the string.
  have h_open : step? lexer '"' = some ⟨ts.reverse, .string []⟩ := step?_of_endsWord h_lexer rfl
  -- The characters are collected from the last to the first, and turned round by the last quote.
  have h_close : step? ⟨ts.reverse, .string s.toList.reverse⟩ '"' =
      some ⟨.scalar (.string s) :: ts.reverse, .outside⟩ := by
    simp [step?]
  refine ⟨⟨.scalar (.string s) :: ts.reverse, .outside⟩, ?_, ?_⟩
  · calc (quote s).foldlM step? lexer
      _ = (s.toList.flatMap escapeChar ++ ['"']).foldlM step? ⟨ts.reverse, .string []⟩ := by
          rw [quote, List.cons_append, List.foldlM_cons, h_open]
          rfl
      _ = step? ⟨ts.reverse, .string s.toList.reverse⟩ '"' := by
          rw [List.foldlM_append, foldlM_flatMap_escapeChar, List.append_nil]
          exact Option.bind_fun_some (step? ⟨ts.reverse, .string s.toList.reverse⟩ '"')
      _ = _ := h_close
  · have h_read := HasRead.outside (ts ++ [.scalar (.string s)])
    rwa [List.reverse_append] at h_read

/-! ### Words -/

theorem begin_of_not_endsWord {c : Char} (h : endsWord c = false) (tokens : List Token) :
    begin tokens c = ⟨tokens, .word [c]⟩ := by
  simp only [endsWord, Bool.or_eq_false_iff, Option.isSome_eq_false_iff, Option.isNone_iff_eq_none,
    beq_eq_false_iff_ne] at h
  obtain ⟨⟨h_mark, h_space⟩, h_quote⟩ := h
  simp [begin, h_mark, h_space, h_quote]

/-- Characters that end no word are collected. -/
theorem foldlM_word (tokens : List Token) (cs word : List Char)
    (h : ∀ c ∈ word, endsWord c = false) :
    word.foldlM step? ⟨tokens, .word cs⟩ = some ⟨tokens, .word (word.reverse ++ cs)⟩ := by
  induction word generalizing cs with
  | nil => rfl
  | cons c word ih =>
    have h_step : step? ⟨tokens, .word cs⟩ c = some ⟨tokens, .word (c :: cs)⟩ := by
      rw [step?]
      simp [h c List.mem_cons_self]
    rw [List.foldlM_cons, h_step, List.reverse_cons, List.append_assoc]
    exact ih (c :: cs) fun c' hc' => h c' (List.mem_cons_of_mem c hc')

/-- A word reads as its scalar, unless it continues another word. -/
theorem reads_word {word : List Char} {s : Scalar} (h : scalar? word = some s)
    (h_apart : ∀ t, ts.getLast? ≠ some (.scalar t)) : Reads ts word (ts ++ [.scalar s]) := by
  intro lexer h_lexer
  have h_chars : ∀ c ∈ word, endsWord c = false := fun c hc => endsWord_of_scalar? h hc
  cases h_lexer with
  | word ts h_word =>
    -- the last token would be a scalar
    exact absurd List.getLast?_concat (h_apart _)
  | outside =>
    obtain ⟨c, cs, rfl⟩ : ∃ c cs, word = c :: cs := by
      cases word with
      | nil => cases h
      | cons c cs => exact ⟨c, cs, rfl⟩
    have h_first : step? ⟨ts.reverse, .outside⟩ c = some ⟨ts.reverse, .word [c]⟩ :=
      congrArg some (begin_of_not_endsWord (h_chars c List.mem_cons_self) ts.reverse)
    have h_rest : ∀ c' ∈ cs, endsWord c' = false :=
      fun c' hc' => h_chars c' (List.mem_cons_of_mem c hc')
    refine ⟨⟨ts.reverse, .word (c :: cs).reverse⟩, ?_, ?_⟩
    · rw [List.foldlM_cons, h_first, List.reverse_cons]
      exact foldlM_word ts.reverse [c] cs h_rest
    · refine .word ts ?_
      rw [List.reverse_reverse]
      exact h

end Lexer

/-! ### Tokens -/

/-- A token whose scalar, if it is one, is well-formed. -/
def Token.IsWellFormed (token : Token) : Prop := ∀ s, token = .scalar s → s.IsWellFormed

namespace Lexer

variable {ts : List Token}

/-- **The text of a token reads as that token,** unless it is a scalar that follows another. -/
theorem reads_write {token : Token} (h : token.IsWellFormed)
    (h_apart : ∀ last ∈ ts.getLast?, last.Apart token) : Reads ts token.write (ts ++ [token]) := by
  cases token with
  | scalar s =>
    rcases writeScalar_cases (h s rfl) with ⟨text, rfl⟩ | h_word
    · exact reads_quote text
    · refine reads_word h_word fun t h_last => ?_
      exact h_apart _ h_last t s rfl rfl
  | _ => exact reads_mark rfl

/-- The text of a token, with white space in front of it and behind it. -/
def IsLaidOut (piece : List Char) (token : Token) : Prop :=
  ∃ before after, piece = before ++ token.write ++ after ∧
    (∀ c ∈ before, isSpace c = true) ∧ ∀ c ∈ after, isSpace c = true

/-- A text reads as its tokens. The induction is on the pieces, behind any tokens that they may
follow. -/
theorem reads_flatten {pieces : List (List Char)} {tokens : List Token}
    (h : List.Forall₂ IsLaidOut pieces tokens) (h_formed : ∀ token ∈ tokens, token.IsWellFormed)
    (h_apart : (ts ++ tokens).IsChain Token.Apart) : Reads ts pieces.flatten (ts ++ tokens) := by
  induction h generalizing ts with
  | nil =>
    rw [List.append_nil]
    exact .nil ts
  | @cons piece token pieces tokens h_piece h_pieces ih =>
    obtain ⟨before, after, rfl, h_before, h_after⟩ := h_piece
    have h_last : ∀ last ∈ ts.getLast?, last.Apart token := by
      intro last h_last
      exact (List.isChain_append.mp h_apart).2.2 last h_last token rfl
    have h_write : Reads ts token.write (ts ++ [token]) :=
      reads_write (h_formed token List.mem_cons_self) h_last
    have h_token : Reads ts (before ++ token.write ++ after) (ts ++ [token]) :=
      ((reads_spaces h_before).append h_write).append (reads_spaces h_after)
    -- the token has been read, and the other pieces follow it
    rw [List.append_cons] at h_apart ⊢
    refine h_token.append (ih ?_ h_apart)
    intro t ht
    exact h_formed t (List.mem_cons_of_mem token ht)

theorem finish?_of_hasRead {lexer : Lexer} (h : HasRead lexer ts) : lexer.finish? = some ts := by
  cases h with
  | outside => exact congrArg some (List.reverse_reverse ts)
  | word ts h_word => simp [finish?, endWord?, h_word]

end Lexer

/-- **A text that is laid out in any way reads as its tokens.** -/
theorem lex?_flatten {pieces : List (List Char)} {tokens : List Token}
    (h : List.Forall₂ Lexer.IsLaidOut pieces tokens)
    (h_formed : ∀ token ∈ tokens, token.IsWellFormed) (h_apart : tokens.IsChain Token.Apart) :
    lex? pieces.flatten = some tokens := by
  have h_reads : Lexer.Reads [] pieces.flatten tokens :=
    Lexer.reads_flatten h h_formed h_apart
  obtain ⟨lexer, h_lexer, h_read⟩ := h_reads {} (.outside [])
  rw [lex?, h_lexer]
  exact Lexer.finish?_of_hasRead h_read

end FileProfile.Json
