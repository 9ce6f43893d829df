import Mathlib.Data.List.Induction
import Mathlib.Data.Nat.Digits.Defs
import FileProfile.Limits
import FileProfile.Proofs.Text.Decimal

/-!
# Numbers of at most 64 bits

A text writes a number, `Writes`, if it has ASCII digits only, at least one of them, and perhaps a
plus sign in front; the number is the one that the digits stand for by their places, so zeros in
front count for nothing. `number?_eq_some_iff` says that exactly the numbers below 2⁶⁴ are read.

Reading asks for the whole number before it compares. A machine has words of 64 bits only: it goes
on digit by digit, and gives up when a step runs over (`word?`). It finds the same
(`number?_eq_map_word?`). What carries the induction is that no digit makes a number smaller, so a
number that has become too large stays too large (`le_continued`).
-/

namespace FileProfile.Limits

/-- The number that a digit stands for. -/
def digitValue (c : Char) : ℕ := c.toNat - '0'.toNat

/-- A text writes a number in decimal digits, with a plus sign in front or without. -/
def Writes (text : String) (n : ℕ) : Prop :=
  ∃ sign digits, text.toList = sign ++ digits ∧ sign ∈ [[], ['+']] ∧ digits ≠ [] ∧
    (∀ c ∈ digits, c.isDigit = true) ∧ n = Nat.ofDigits 10 (digits.reverse.map digitValue)

/-- The number that digits lead to when they go on behind those of another number. -/
def continued (n : ℕ) (digits : List Char) : ℕ := digits.foldl (fun n c => n * 10 + digitValue c) n

/-- The characters of a text behind a plus sign in front, if there is one. -/
def unsigned (text : String) : List Char :=
  if text.toList.head? = some '+' then text.toList.drop 1 else text.toList

variable {text : String} {digits : List Char} {c : Char} {n : ℕ}

/-! ### Digits by their places -/

theorem ofDigits_eq_continued (digits : List Char) : Text.ofDigits digits = continued 0 digits := rfl

/-- A number does not become smaller by further digits. -/
theorem le_continued (n : ℕ) (digits : List Char) : n ≤ continued n digits := by
  induction digits generalizing n with
  | nil => exact le_refl n
  | cons c digits ih =>
    calc n ≤ n * 10 + digitValue c := by omega
      _ ≤ continued (n * 10 + digitValue c) digits := ih _

/-- **The places of digits:** the last one counts ones, and each of the others counts ten times as
much as the one behind it. The induction is from the end of the digits. -/
theorem ofDigits_eq_places (digits : List Char) :
    Text.ofDigits digits = Nat.ofDigits 10 (digits.reverse.map digitValue) := by
  induction digits using List.reverseRecOn with
  | nil => rfl
  | append_singleton digits c ih =>
    rw [List.reverse_append, List.reverse_singleton, List.singleton_append, List.map_cons,
      Nat.ofDigits_cons, ← ih, ofDigits_eq_continued, continued, List.foldl_append]
    show continued 0 digits * 10 + digitValue c = digitValue c + 10 * Text.ofDigits digits
    rw [ofDigits_eq_continued, Nat.add_comm, Nat.mul_comm]

theorem digitValue_lt (h : c.isDigit = true) : digitValue c < 10 := by
  have h_within : 48 ≤ c.val ∧ c.val ≤ 57 := by simpa [Char.isDigit] using h
  have h_le : c.toNat ≤ 57 := UInt32.le_iff_toNat_le.mp h_within.2
  show c.toNat - 48 < 10
  omega

/-! ### Reading a number -/

theorem unsigned_of_plus (h : text.toList = '+' :: digits) : unsigned text = digits := by
  rw [unsigned, h]
  exact if_pos rfl

theorem unsigned_of_ne (h : text.toList.head? ≠ some '+') : unsigned text = text.toList := if_neg h

theorem number?_eq (text : String) :
    number? text =
      if !(unsigned text).isEmpty && (unsigned text).all Char.isDigit &&
        decide (Text.ofDigits (unsigned text) < bound)
      then some (Text.ofDigits (unsigned text)) else none := by
  -- the two branches differ in what they leave to be read
  unfold number?
  split
  · next digits h =>
    rw [unsigned_of_plus h]
  · next h =>
    rw [unsigned_of_ne]
    intro h_head
    obtain ⟨rest, h_plus⟩ := List.head?_eq_some_iff.mp h_head
    exact h rest h_plus

/-- What is behind the sign is what the number is read from. -/
theorem number?_eq_some_iff_unsigned : number? text = some n ↔
    unsigned text ≠ [] ∧ (∀ c ∈ unsigned text, c.isDigit = true) ∧
      Text.ofDigits (unsigned text) = n ∧ n < bound := by
  rw [number?_eq, Option.ite_none_right_eq_some, Bool.and_eq_true, Bool.and_eq_true,
    decide_eq_true_eq, List.all_eq_true, Bool.not_eq_true', List.isEmpty_eq_false_iff,
    Option.some.injEq]
  constructor
  · rintro ⟨⟨⟨h_ne, h_digits⟩, h_lt⟩, rfl⟩
    exact ⟨h_ne, h_digits, rfl, h_lt⟩
  · rintro ⟨h_ne, h_digits, rfl, h_lt⟩
    exact ⟨⟨⟨h_ne, h_digits⟩, h_lt⟩, rfl⟩

/-- A text writes the number that is behind its sign. -/
theorem writes_iff_unsigned : Writes text n ↔
    unsigned text ≠ [] ∧ (∀ c ∈ unsigned text, c.isDigit = true) ∧
      Text.ofDigits (unsigned text) = n := by
  constructor
  · rintro ⟨sign, digits, h_text, h_sign, h_ne, h_digits, h_n⟩
    have h_unsigned : unsigned text = digits := by
      rcases List.mem_cons.mp h_sign with rfl | h_plus
      · -- the first digit is no plus sign
        rw [unsigned_of_ne, h_text, List.nil_append]
        intro h_head
        rw [h_text, List.nil_append] at h_head
        exact absurd (h_digits '+' (List.mem_of_head? h_head)) (by decide)
      · rw [List.mem_singleton.mp h_plus] at h_text
        exact unsigned_of_plus h_text
    rw [h_unsigned, ofDigits_eq_places, h_n]
    exact ⟨h_ne, h_digits, rfl⟩
  · rintro ⟨h_ne, h_digits, h_n⟩
    rw [ofDigits_eq_places] at h_n
    by_cases h_plus : text.toList.head? = some '+'
    · obtain ⟨rest, h_text⟩ := List.head?_eq_some_iff.mp h_plus
      rw [unsigned_of_plus h_text] at h_ne h_digits h_n
      exact ⟨['+'], rest, h_text, by decide, h_ne, h_digits, h_n.symm⟩
    · rw [unsigned_of_ne h_plus] at h_ne h_digits h_n
      exact ⟨[], text.toList, rfl, by decide, h_ne, h_digits, h_n.symm⟩

/-- **What is read** are the numbers below 2⁶⁴ that texts write. -/
theorem number?_eq_some_iff : number? text = some n ↔ Writes text n ∧ n < 2 ^ 64 := by
  rw [number?_eq_some_iff_unsigned, writes_iff_unsigned, and_assoc, and_assoc]
  rfl

/-! ### Words of 64 bits -/

/-- Ten times a word, if that is a word: what has run over does not divide back. -/
def timesTen? (m : UInt64) : Option UInt64 := if m * 10 / 10 = m then some (m * 10) else none

/-- The sum of two words, if that is a word: what has run over is less than a part of it. -/
def plus? (m d : UInt64) : Option UInt64 := if m ≤ m + d then some (m + d) else none

/-- The word for the number that goes on with a digit, if it is a digit and there is a word. -/
def pushDigit? (m : UInt64) (c : Char) : Option UInt64 :=
  if c.isDigit then (timesTen? m).bind (plus? · (UInt64.ofNat (digitValue c))) else none

/-- The word that digits write, read one by one, if there is one. -/
def word? (digits : List Char) : Option UInt64 :=
  if digits = [] then none else digits.foldlM pushDigit? 0

variable {m m' d : UInt64}

theorem toNat_ofNat_of_lt (h : n < 2 ^ 64) : (UInt64.ofNat n).toNat = n := UInt64.toNat_ofNat_of_lt' h

theorem timesTen?_eq_some_iff : timesTen? m = some m' ↔ m'.toNat = m.toNat * 10 := by
  have h_mul : (m * 10).toNat = m.toNat * 10 % 2 ^ 64 := UInt64.toNat_mul m 10
  have h_div : (m * 10 / 10).toNat = (m * 10).toNat / 10 := UInt64.toNat_div _ 10
  have h_m := m.toNat_lt
  have h_m' := m'.toNat_lt
  rw [timesTen?, Option.ite_none_right_eq_some, Option.some.injEq, ← UInt64.toNat_inj,
    ← UInt64.toNat_inj, h_div, h_mul]
  omega

theorem plus?_eq_some_iff : plus? m d = some m' ↔ m'.toNat = m.toNat + d.toNat := by
  have h_add : (m + d).toNat = (m.toNat + d.toNat) % 2 ^ 64 := UInt64.toNat_add m d
  have h_m := m.toNat_lt
  have h_d := d.toNat_lt
  have h_m' := m'.toNat_lt
  rw [plus?, Option.ite_none_right_eq_some, Option.some.injEq, ← UInt64.toNat_inj,
    UInt64.le_iff_toNat_le, h_add]
  omega

/-- **One step** goes on to the number with the further digit, or there is no word for that. -/
theorem pushDigit?_eq_some_iff :
    pushDigit? m c = some m' ↔ c.isDigit = true ∧ m'.toNat = m.toNat * 10 + digitValue c := by
  rw [pushDigit?, Option.ite_none_right_eq_some]
  refine and_congr_right fun h_digit => ?_
  have h_lt := digitValue_lt h_digit
  have h_digit : (UInt64.ofNat (digitValue c)).toNat = digitValue c :=
    toNat_ofNat_of_lt (by omega)
  rw [Option.bind_eq_some_iff]
  constructor
  · rintro ⟨tens, h_tens, h_sum⟩
    rw [plus?_eq_some_iff, timesTen?_eq_some_iff.mp h_tens, h_digit] at h_sum
    exact h_sum
  · intro h_sum
    -- the tens are less than the sum, so there is a word for them
    have h_m' := m'.toNat_lt
    have h_tens : (UInt64.ofNat (m.toNat * 10)).toNat = m.toNat * 10 :=
      toNat_ofNat_of_lt (by omega)
    refine ⟨UInt64.ofNat (m.toNat * 10), timesTen?_eq_some_iff.mpr h_tens, ?_⟩
    rw [plus?_eq_some_iff, h_tens, h_digit, h_sum]

/-- **A whole run** ends in the number that the digits lead to, or there is no word for it. -/
theorem foldlM_pushDigit?_eq_some_iff : digits.foldlM pushDigit? m = some m' ↔
    (∀ c ∈ digits, c.isDigit = true) ∧ m'.toNat = continued m.toNat digits := by
  induction digits generalizing m with
  | nil =>
    rw [List.foldlM_nil, Option.pure_def, Option.some.injEq, continued, List.foldl_nil,
      UInt64.toNat_inj]
    exact ⟨fun h => ⟨fun c hc => absurd hc List.not_mem_nil, h.symm⟩, fun h => h.2.symm⟩
  | cons c digits ih =>
    rw [List.foldlM_cons, Option.bind_eq_bind, Option.bind_eq_some_iff, List.forall_mem_cons]
    constructor
    · rintro ⟨next, h_step, h_rest⟩
      obtain ⟨h_digit, h_next⟩ := pushDigit?_eq_some_iff.mp h_step
      obtain ⟨h_digits, h_end⟩ := ih.mp h_rest
      rw [h_next] at h_end
      exact ⟨⟨h_digit, h_digits⟩, h_end⟩
    · rintro ⟨⟨h_digit, h_digits⟩, h_end⟩
      -- the number so far is not more than the last one, which a word holds
      have h_le := le_continued (m.toNat * 10 + digitValue c) digits
      have h_m' := m'.toNat_lt
      have h_lt : m.toNat * 10 + digitValue c < 2 ^ 64 := by
        calc m.toNat * 10 + digitValue c
            ≤ continued (m.toNat * 10 + digitValue c) digits := h_le
          _ = m'.toNat := h_end.symm
          _ < 2 ^ 64 := h_m'
      have h_next := toNat_ofNat_of_lt h_lt
      refine ⟨_, pushDigit?_eq_some_iff.mpr ⟨h_digit, h_next⟩, ih.mpr ⟨h_digits, ?_⟩⟩
      rw [h_next]
      exact h_end

/-- **Words are enough:** reading digit by digit in words of 64 bits finds the same numbers. -/
theorem number?_eq_map_word? (text : String) :
    number? text = (word? (unsigned text)).map UInt64.toNat := by
  ext n
  rw [number?_eq_some_iff_unsigned, Option.map_eq_some_iff, word?]
  constructor
  · rintro ⟨h_ne, h_digits, h_n, h_lt⟩
    refine ⟨UInt64.ofNat n, ?_, toNat_ofNat_of_lt h_lt⟩
    rw [if_neg h_ne, foldlM_pushDigit?_eq_some_iff, toNat_ofNat_of_lt h_lt, ← h_n]
    exact ⟨h_digits, rfl⟩
  · rintro ⟨m, h_word, rfl⟩
    obtain ⟨h_ne, h_run⟩ := Option.ite_none_left_eq_some.mp h_word
    obtain ⟨h_digits, h_end⟩ := foldlM_pushDigit?_eq_some_iff.mp h_run
    exact ⟨h_ne, h_digits, h_end.symm, m.toNat_lt⟩

end FileProfile.Limits
