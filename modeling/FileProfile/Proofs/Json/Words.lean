import FileProfile.Json.Lexer
import FileProfile.Json.Text
import FileProfile.Proofs.Text.Decimal
import Mathlib.Data.List.TakeWhile

/-!
# The words of a JSON text

A word is what the lexer collects up to a character that ends it. Two facts make words readable:
no character of a scalar that is a word would end it (`endsWord_of_scalar?`), so that the word is
collected as a whole, and the text of an integer is the word of that integer
(`scalar?_writeInt`).
-/

namespace FileProfile

/-- A number that is kept as written has to be one. -/
def Scalar.IsWellFormed : Scalar → Prop
  | .decimal written => Json.number? written = some (.decimal written)
  | _ => True

namespace Json

/-! ### What ends a word -/

namespace Lexer

/-- The characters at which a word ends. -/
def enders : List Char := ['[', ']', '\x7b', '\x7d', ',', ':', ' ', '\n', '\r', '\t', '"']

theorem mem_enders_of_endsWord {c : Char} (h : endsWord c = true) : c ∈ enders := by
  unfold endsWord mark? isSpace at h
  split at h
  case h_7 =>
    -- not a mark: white space or a quote
    simp only [Option.isSome_none, Bool.false_or, Bool.or_eq_true, beq_iff_eq] at h
    rcases h with (((rfl | rfl) | rfl) | rfl) | rfl <;> decide
  all_goals decide

end Lexer

/-- The characters that a number may be written in. -/
def isNumeric (c : Char) : Bool :=
  c.isDigit || c == '.' || c == 'e' || c == 'E' || c == '+' || c == '-'

theorem isNumeric_of_isDigit {c : Char} (h : c.isDigit = true) : isNumeric c = true := by
  simp [isNumeric, h]

theorem endsWord_of_isNumeric {c : Char} (h : isNumeric c = true) : Lexer.endsWord c = false := by
  rw [← Bool.not_eq_true]
  intro h_ends
  have h_enders : Lexer.enders.all (fun c => !isNumeric c) = true := by decide
  have h_not := List.all_eq_true.mp h_enders c (Lexer.mem_enders_of_endsWord h_ends)
  rw [h] at h_not
  cases h_not

/-! ### The characters of a number -/

theorem all_isNumeric_append (front : List Char) {ds : List Char}
    (h_front : front.all isNumeric = true) (h_digits : isDigits ds = true) :
    (front ++ ds).all isNumeric = true := by
  rw [List.all_append, h_front, Bool.true_and, List.all_eq_true]
  intro c hc
  obtain ⟨-, h_all⟩ := Bool.and_eq_true _ _ ▸ h_digits
  exact isNumeric_of_isDigit (List.all_eq_true.mp h_all c hc)

/-- An exponent is a front of one or two characters, and digits. -/
theorem all_isNumeric_of_isExponent {cs : List Char} (h : isExponent cs = true) :
    cs.all isNumeric = true := by
  unfold isExponent at h
  split at h
  case h_1 => rfl
  case h_2 => exact all_isNumeric_append ['e', '+'] rfl h
  case h_3 => exact all_isNumeric_append ['e', '-'] rfl h
  case h_4 => exact all_isNumeric_append ['E', '+'] rfl h
  case h_5 => exact all_isNumeric_append ['E', '-'] rfl h
  case h_6 => exact all_isNumeric_append ['e'] rfl h
  case h_7 => exact all_isNumeric_append ['E'] rfl h
  case h_8 => cases h

theorem all_isNumeric_of_isFractionAndExponent {cs : List Char}
    (h : isFractionAndExponent cs = true) : cs.all isNumeric = true := by
  unfold isFractionAndExponent at h
  split at h
  case h_1 rest =>
    obtain ⟨h_digits, h_exponent⟩ := Bool.and_eq_true _ _ ▸ h
    rw [← List.takeWhile_append_dropWhile (p := Char.isDigit) (l := rest), ← List.cons_append,
      List.all_append, all_isNumeric_of_isExponent h_exponent, Bool.and_true]
    exact all_isNumeric_append ['.'] rfl h_digits
  case h_2 => exact all_isNumeric_of_isExponent h

theorem all_isNumeric_of_dropWhile {cs : List Char}
    (h : (cs.dropWhile Char.isDigit).all isNumeric = true) : cs.all isNumeric = true := by
  rw [← List.takeWhile_append_dropWhile (p := Char.isDigit) (l := cs), List.all_append, h,
    Bool.and_true, List.all_eq_true]
  intro c hc
  exact isNumeric_of_isDigit (List.mem_takeWhile_imp hc)

/-- The sign of a number, if there is one, stands in front of its digits. -/
theorem all_isNumeric_of_sign {word : List Char}
    (h : (if word.head? == some '-' then word.drop 1 else word).all isNumeric = true) :
    word.all isNumeric = true := by
  split at h
  · next h_sign =>
    obtain ⟨digits, rfl⟩ := List.head?_eq_some_iff.mp (beq_iff_eq.mp h_sign)
    rw [List.all_cons]
    exact (Bool.and_eq_true _ _).mpr ⟨rfl, h⟩
  · exact h

theorem all_isNumeric_of_number? {word : List Char} {s : Scalar} (h : number? word = some s) :
    word.all isNumeric = true := by
  unfold number? at h
  simp only at h
  -- behind the sign and the digits only the rest is left to look at
  refine all_isNumeric_of_sign (all_isNumeric_of_dropWhile ?_)
  generalize (if word.head? == some '-' then word.drop 1 else word) = unsigned at h ⊢
  generalize unsigned.dropWhile Char.isDigit = rest at h ⊢
  split at h
  · cases h
  split at h
  · split at h
    · next h_rest => exact all_isNumeric_of_isFractionAndExponent h_rest
    · cases h
  · next h_rest =>
    have h_nil : rest = [] := by simpa using h_rest
    rw [h_nil]
    rfl

/-- **A word that is a scalar is collected as a whole:** none of its characters ends a word. -/
theorem endsWord_of_scalar? {word : List Char} {s : Scalar} (h : scalar? word = some s) {c : Char}
    (hc : c ∈ word) : Lexer.endsWord c = false := by
  have h_names : ["null", "true", "false"].all (fun name =>
      name.toList.all fun c => !Lexer.endsWord c) = true := by decide
  have h_name {name : String} (h_mem : name ∈ ["null", "true", "false"])
      (h_word : word = name.toList) : Lexer.endsWord c = false := by
    have h_chars := List.all_eq_true.mp h_names name h_mem
    rw [← h_word] at h_chars
    exact Bool.not_eq_true' _ ▸ List.all_eq_true.mp h_chars c hc
  unfold scalar? at h
  split at h
  · next h_word => exact h_name (.head _) h_word
  split at h
  · next h_word => exact h_name (.tail _ (.head _)) h_word
  split at h
  · next h_word => exact h_name (.tail _ (.tail _ (.head _))) h_word
  · have h_numeric := List.all_eq_true.mp (all_isNumeric_of_number? h)
    exact endsWord_of_isNumeric (h_numeric c hc)

/-! ### Integers -/

theorem takeWhile_toDigits (n : Nat) :
    (Text.toDigits n).takeWhile Char.isDigit = Text.toDigits n :=
  List.takeWhile_eq_self_iff.mpr fun _ hc => Text.isDigit_of_mem_toDigits hc

theorem dropWhile_toDigits (n : Nat) : (Text.toDigits n).dropWhile Char.isDigit = [] :=
  List.dropWhile_eq_nil_iff.mpr fun _ hc => Text.isDigit_of_mem_toDigits hc

/-- The digits of a number are the whole part of a number. -/
theorem isWhole_toDigits (n : Nat) :
    (!(Text.toDigits n).isEmpty &&
      ((Text.toDigits n).head? != some '0' || (Text.toDigits n).length == 1)) = true := by
  refine (Bool.and_eq_true _ _).mpr ⟨?_, ?_⟩
  · simpa using Text.toDigits_ne_nil n
  · rcases Text.head?_toDigits n with h_head | h_length
    · exact (Bool.or_eq_true _ _).mpr (.inl (bne_iff_ne.mpr h_head))
    · exact (Bool.or_eq_true _ _).mpr (.inr (beq_iff_eq.mpr h_length))

theorem number?_toDigits (n : Nat) : number? (Text.toDigits n) = some (.int n) := by
  -- the first character is a digit, and so no sign
  have h_unsigned : ((Text.toDigits n).head? == some '-') = false := by
    rw [beq_eq_false_iff_ne]
    intro h
    have h_digit := Text.isDigit_of_mem_toDigits (List.mem_of_head? h)
    revert h_digit
    decide
  simp only [number?, h_unsigned, Bool.false_eq_true, if_false, takeWhile_toDigits,
    dropWhile_toDigits, isWhole_toDigits, Text.ofDigits_toDigits]
  rfl

theorem number?_negative (n : Nat) :
    number? ('-' :: Text.toDigits (n + 1)) = some (.int (.negSucc n)) := by
  simp only [number?, List.head?_cons, BEq.rfl, if_true, List.drop_one, List.tail_cons,
    takeWhile_toDigits, dropWhile_toDigits, isWhole_toDigits, Text.ofDigits_toDigits]
  rfl

/-! ### Scalars that are words -/

theorem scalar?_of_number? {word : List Char} {s : Scalar} (h : number? word = some s) :
    scalar? word = some s := by
  have h_null : number? "null".toList = none := by decide
  have h_true : number? "true".toList = none := by decide
  have h_false : number? "false".toList = none := by decide
  unfold scalar?
  -- the word is none of the names, as these are no numbers
  rw [if_neg, if_neg, if_neg, h]
  · intro h_word
    rw [h_word, h_false] at h
    cases h
  · intro h_word
    rw [h_word, h_true] at h
    cases h
  · intro h_word
    rw [h_word, h_null] at h
    cases h

theorem number?_writeInt (n : Int) : number? (writeInt n) = some (.int n) := by
  cases n with
  | ofNat n => exact number?_toDigits n
  | negSucc n => exact number?_negative n

/-- **A scalar is written as a string or as a word that is read as it.** -/
theorem writeScalar_cases {s : Scalar} (h : s.IsWellFormed) :
    (∃ text, s = .string text) ∨ scalar? (writeScalar s) = some s := by
  cases s with
  | null => exact .inr (by decide)
  | bool b => exact .inr (by cases b <;> decide)
  | int n => exact .inr (scalar?_of_number? (number?_writeInt n))
  | decimal written => exact .inr (scalar?_of_number? h)
  | string text => exact .inl ⟨text, rfl⟩

end Json

end FileProfile
