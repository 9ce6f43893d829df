import FileProfile.Proofs.Bytes.Detection
import FileProfile.Proofs.Text.Split
import FileProfile.Subject

/-!
# Names in the content disposition

An escaped name is a token of form data, `IsToken`, and reads back as the name
(`escape_readsBack`).

The escaping goes byte by byte, but the plus signs are put in afterwards, by a replacement in the
whole text. What is replaced there is always one escaped byte, the space: a percent sign stands only
at the start of an escaped byte, so that the text replaced does not begin inside one, and it is as
long as one, so that it does not go on into the next (`replaceFound_escapeByte_append`).
-/

namespace FileProfile.Disposition

variable {b : UInt8} {c : Char} {cs l r : List Char}

/-! ### Escaped bytes -/

/-- The characters of a token of form data. -/
def isTokenChar (c : Char) : Bool := c.isAlphanum || ['-', '_', '.', '~', '+', '%'].contains c

theorem toNat_lt_of_isUnreserved (h : isUnreserved b = true) : b.toNat < 128 := by
  simp only [isUnreserved, Bool.and_eq_true, decide_eq_true_eq] at h
  exact UInt8.lt_iff_toNat_lt.mp h.1

theorem isTokenChar_of_isUnreserved (h : isUnreserved b = true) :
    isTokenChar (Char.ofNat b.toNat) = true := by
  simp only [isUnreserved, Bool.and_eq_true, Bool.or_eq_true, beq_iff_eq] at h
  rcases h.2 with (((h_alphanum | h_eq) | h_eq) | h_eq) | h_eq
  · rw [isTokenChar, h_alphanum, Bool.true_or]
  all_goals rw [h_eq]; decide

/-- The characters with a meaning of their own in a token do not stand for themselves. -/
theorem ne_of_isUnreserved (h : isUnreserved b = true) :
    Char.ofNat b.toNat ≠ '%' ∧ Char.ofNat b.toNat ≠ '+' := by
  simp only [isUnreserved, Bool.and_eq_true] at h
  constructor <;> intro h_eq <;> rw [h_eq] at h <;> exact absurd h.2 (by decide)

theorem hexDigit_upper {n : Nat} (h : n < 16) :
    (Text.hexDigit 'A' n).isAlphanum = true ∧ Text.hexDigit 'A' n ≠ '%' := by
  have h_all : ∀ n : Fin 16,
      (Text.hexDigit 'A' n).isAlphanum = true ∧ Text.hexDigit 'A' n ≠ '%' := by decide
  exact h_all ⟨n, h⟩

theorem high_lt (b : UInt8) : b.toNat / 16 < 16 := by
  have := b.toNat_lt
  omega

theorem low_lt (b : UInt8) : b.toNat % 16 < 16 := Nat.mod_lt _ (by decide)

/-! ### The space -/

/-- The escaped form of a byte in a token. -/
def formByte (b : UInt8) : List Char := if b = 32 then ['+'] else escapeByte b

theorem replaceFound_cons (h : ¬ escapedSpace <+: c :: cs) :
    Text.replaceFound escapedSpace ['+'] (c :: cs) =
      c :: Text.replaceFound escapedSpace ['+'] cs := by
  rw [← List.isPrefixOf_iff_prefix, Bool.not_eq_true] at h
  rw [Text.replaceFound, Text.replaceFrom, h]
  rfl

theorem not_prefix_of_ne (h : c ≠ '%') (cs : List Char) : ¬ escapedSpace <+: c :: cs := by
  rintro ⟨r, h_eq⟩
  exact h (List.cons.inj h_eq).1.symm

/-- The digits of another byte are not those of the space. -/
theorem not_prefix_of_ne_space (h : b ≠ 32) (cs : List Char) :
    ¬ escapedSpace <+: '%' :: Text.hexDigit 'A' (b.toNat / 16) ::
      Text.hexDigit 'A' (b.toNat % 16) :: cs := by
  rintro ⟨r, h_eq⟩
  obtain ⟨-, h_eq⟩ := List.cons.inj h_eq
  obtain ⟨h_two, h_eq⟩ := List.cons.inj h_eq
  obtain ⟨h_zero, -⟩ := List.cons.inj h_eq
  -- the digits tell the byte
  have h_high : some 2 = some (b.toNat / 16) := by
    rw [← Text.hexValue?_hexDigit (.inr rfl) (high_lt b), ← h_two]
    rfl
  have h_low : some 0 = some (b.toNat % 16) := by
    rw [← Text.hexValue?_hexDigit (.inr rfl) (low_lt b), ← h_zero]
    rfl
  apply h
  apply UInt8.toNat_inj.mp
  have h_toNat : (32 : UInt8).toNat = 32 := rfl
  have := Option.some.inj h_high
  have := Option.some.inj h_low
  omega

/-- **The replacement sees whole bytes only.** -/
theorem replaceFound_escapeByte_append (b : UInt8) (cs : List Char) :
    Text.replaceFound escapedSpace ['+'] (escapeByte b ++ cs) =
      formByte b ++ Text.replaceFound escapedSpace ['+'] cs := by
  by_cases h_space : b = 32
  · -- the escaped space is found here, and the search goes on right behind it
    rw [h_space]
    rfl
  · rw [formByte, if_neg h_space, escapeByte]
    split
    · next h => exact replaceFound_cons (not_prefix_of_ne (ne_of_isUnreserved h).1 cs)
    · -- nothing is found at the percent sign, and nothing at the two digits
      have h_high := (hexDigit_upper (high_lt b)).2
      have h_low := (hexDigit_upper (low_lt b)).2
      rw [List.cons_append, List.cons_append, List.cons_append, List.nil_append,
        replaceFound_cons (not_prefix_of_ne_space h_space cs),
        replaceFound_cons (not_prefix_of_ne h_high _), replaceFound_cons (not_prefix_of_ne h_low _)]
      rfl

theorem toList_escape (name : String) :
    (escape name).toList = (Bytes.Utf8.encode name).flatMap formByte := by
  rw [escape, escapeForUrl, String.toList_ofList]
  induction Bytes.Utf8.encode name with
  | nil => rfl
  | cons b bytes ih =>
    rw [List.flatMap_cons, List.flatMap_cons, replaceFound_escapeByte_append, ih]

/-! ### Tokens -/

/-- A token of form data: it has characters of tokens only, and behind each percent sign it has two
hexadecimal digits. -/
structure IsToken (cs : List Char) : Prop where
  chars : ∀ c ∈ cs, isTokenChar c = true
  escapes : ∀ l r, cs = l ++ '%' :: r → ∃ high low rest, r = high :: low :: rest ∧
    (Text.hexValue? high).isSome = true ∧ (Text.hexValue? low).isSome = true

theorem isToken_of_not_mem (h : ∀ c ∈ cs, isTokenChar c = true) (h_percent : '%' ∉ cs) :
    IsToken cs where
  chars := h
  escapes := by
    rintro l r rfl
    exact absurd (List.mem_append_right l List.mem_cons_self) h_percent

theorem IsToken.append (hl : IsToken l) (hr : IsToken r) : IsToken (l ++ r) where
  chars := by
    intro c hc
    rcases List.mem_append.mp hc with hc | hc
    · exact hl.chars c hc
    · exact hr.chars c hc
  escapes := by
    intro front rest h_eq
    rcases Text.cut_of_append_eq h_eq with ⟨more, h_left, rfl⟩ | ⟨more, -, h_right⟩
    · -- a percent sign on the left has its digits on the left
      obtain ⟨high, low, more, rfl, h_high, h_low⟩ := hl.escapes front more h_left
      exact ⟨high, low, more ++ r, rfl, h_high, h_low⟩
    · exact hr.escapes more rest h_right

/-- The digits of a byte behind a percent sign. -/
theorem isToken_digits {m n : Nat} (hm : m < 16) (hn : n < 16) :
    IsToken ['%', Text.hexDigit 'A' m, Text.hexDigit 'A' n] where
  chars := by
    obtain ⟨h_high, -⟩ := hexDigit_upper hm
    obtain ⟨h_low, -⟩ := hexDigit_upper hn
    simp [isTokenChar, h_high, h_low]
  escapes := by
    intro front rest h_eq
    cases front with
    | nil =>
      obtain ⟨-, rfl⟩ := List.cons.inj h_eq
      refine ⟨_, _, [], rfl, ?_, ?_⟩
      · rw [Text.hexValue?_hexDigit (.inr rfl) hm]
        rfl
      · rw [Text.hexValue?_hexDigit (.inr rfl) hn]
        rfl
    | cons c front =>
      -- the digits are no percent signs
      have h_mem : '%' ∈ [Text.hexDigit 'A' m, Text.hexDigit 'A' n] := by
        rw [(List.cons.inj h_eq).2]
        exact List.mem_append_right front List.mem_cons_self
      rcases List.mem_cons.mp h_mem with h_digit | h_mem
      · exact absurd h_digit.symm (hexDigit_upper hm).2
      · exact absurd (List.mem_singleton.mp h_mem).symm (hexDigit_upper hn).2

theorem isToken_formByte (b : UInt8) : IsToken (formByte b) := by
  rw [formByte, escapeByte]
  split
  · -- the plus sign
    exact isToken_of_not_mem (List.forall_mem_singleton.mpr (by decide)) (by decide)
  · split
    · -- a character that stands for itself
      next h =>
      refine isToken_of_not_mem ?_ ?_
      · intro c hc
        rw [List.mem_singleton.mp hc]
        exact isTokenChar_of_isUnreserved h
      · intro h_mem
        exact (ne_of_isUnreserved h).1 (List.mem_singleton.mp h_mem).symm
    · exact isToken_digits (high_lt b) (low_lt b)

theorem isToken_escape (name : String) : IsToken (escape name).toList := by
  rw [toList_escape]
  induction Bytes.Utf8.encode name with
  | nil => exact isToken_of_not_mem (by simp) (by simp)
  | cons b bytes ih =>
    rw [List.flatMap_cons]
    exact (isToken_formByte b).append ih

/-! ### Reading a token back -/

/-- The byte that a character stands for in a token of form data, if it stands for one by itself. -/
def plainByte? (c : Char) : Option UInt8 :=
  if c = '+' then some 32
  else if c ≠ '%' ∧ c.toNat < 128 then some (UInt8.ofNat c.toNat)
  else none

/-- The bytes that a token of form data stands for, if it is one. -/
def formBytes? : List Char → Option (List UInt8)
  | [] => some []
  | '%' :: high :: low :: cs => do
    let m ← Text.hexValue? high
    let n ← Text.hexValue? low
    let bytes ← formBytes? cs
    return UInt8.ofNat (16 * m + n) :: bytes
  | c :: cs => do
    let byte ← plainByte? c
    let bytes ← formBytes? cs
    return byte :: bytes

/-- The text that a token of form data stands for: its bytes, read as UTF-8. -/
def formText? (token : String) : Option String := do
  let bytes ← formBytes? token.toList
  if Bytes.Utf8.isWellFormed bytes then some (String.ofList (Bytes.Utf8.decode bytes)) else none

theorem formBytes?_cons_of_ne (h : c ≠ '%') (cs : List Char) :
    formBytes? (c :: cs) = do return (← plainByte? c) :: (← formBytes? cs) := by
  rw [formBytes?]
  rintro high low rest rfl
  exact absurd rfl h

theorem plainByte?_of_isUnreserved (h : isUnreserved b = true) :
    plainByte? (Char.ofNat b.toNat) = some b := by
  obtain ⟨h_percent, h_plus⟩ := ne_of_isUnreserved h
  have h_lt := toNat_lt_of_isUnreserved h
  rw [plainByte?, if_neg h_plus, Encoding.toNat_ofNat_toNat, if_pos ⟨h_percent, h_lt⟩,
    UInt8.ofNat_toNat]

theorem formBytes?_formByte_append (b : UInt8) (cs : List Char) :
    formBytes? (formByte b ++ cs) = (formBytes? cs).map (b :: ·) := by
  rw [formByte, escapeByte]
  split
  · next h =>
    rw [h, List.singleton_append, formBytes?_cons_of_ne (by decide)]
    cases formBytes? cs <;> rfl
  · split
    · next h =>
      rw [List.singleton_append, formBytes?_cons_of_ne (ne_of_isUnreserved h).1,
        plainByte?_of_isUnreserved h]
      cases formBytes? cs <;> rfl
    · -- the two digits make up the byte
      have h_byte : UInt8.ofNat (16 * (b.toNat / 16) + b.toNat % 16) = b := by
        rw [Nat.div_add_mod, UInt8.ofNat_toNat]
      rw [List.cons_append, List.cons_append, List.cons_append, List.nil_append, formBytes?,
        Text.hexValue?_hexDigit (.inr rfl) (high_lt b), Text.hexValue?_hexDigit (.inr rfl) (low_lt b)]
      rw [Option.bind_eq_bind, Option.bind_some, Option.bind_eq_bind, Option.bind_some, h_byte]
      cases formBytes? cs <;> rfl

theorem formText?_escape (name : String) : formText? (escape name) = some name := by
  have h_bytes : ∀ bytes : List UInt8, formBytes? (bytes.flatMap formByte) = some bytes := by
    intro bytes
    induction bytes with
    | nil => rfl
    | cons b bytes ih =>
      rw [List.flatMap_cons, formBytes?_formByte_append, ih]
      rfl
  rw [formText?, toList_escape, h_bytes, Option.bind_eq_bind, Option.bind_some,
    Bytes.Utf8.isWellFormed_encode, if_pos rfl, Bytes.Utf8.decode_encode, String.ofList_toList]

/-! ### Tokens in the header -/

theorem toNat_bounds_of_within {least most : UInt32} (h : least ≤ c.val ∧ c.val ≤ most)
    (h_least : 0x30 ≤ least.toNat) (h_most : most.toNat ≤ 0x7a) :
    0x30 ≤ c.toNat ∧ c.toNat ≤ 0x7a :=
  ⟨Nat.le_trans h_least (UInt32.le_iff_toNat_le.mp h.1),
    Nat.le_trans (UInt32.le_iff_toNat_le.mp h.2) h_most⟩

theorem toNat_bounds_of_isAlphanum (h : c.isAlphanum = true) : 0x30 ≤ c.toNat ∧ c.toNat ≤ 0x7a := by
  have h_kinds : (c.isUpper = true ∨ c.isLower = true) ∨ c.isDigit = true :=
    ((Bool.or_eq_true _ _).mp h).imp_left (Bool.or_eq_true _ _).mp
  rcases h_kinds with (h_upper | h_lower) | h_digit
  · exact toNat_bounds_of_within (of_decide_eq_true h_upper) (by decide) (by decide)
  · obtain ⟨h_ge, h_le⟩ := (Bool.and_eq_true _ _).mp h_lower
    have h_within := And.intro (of_decide_eq_true h_ge) (of_decide_eq_true h_le)
    exact toNat_bounds_of_within h_within (by decide) (by decide)
  · obtain ⟨h_ge, h_le⟩ := (Bool.and_eq_true _ _).mp h_digit
    have h_within := And.intro (of_decide_eq_true h_ge) (of_decide_eq_true h_le)
    exact toNat_bounds_of_within h_within (by decide) (by decide)

/-- The character can be seen, and it neither quotes a parameter nor ends one. -/
def IsHarmless (c : Char) : Prop := 0x20 < c.toNat ∧ c.toNat < 0x7f ∧ c ∉ ['"', '\'', ';']

theorem isHarmless_of_isTokenChar (h : isTokenChar c = true) : IsHarmless c := by
  have h_mark : c ∉ ['"', '\'', ';'] := by
    intro h_mem
    simp only [List.mem_cons, List.not_mem_nil, or_false] at h_mem
    rcases h_mem with rfl | rfl | rfl <;> exact absurd h (by decide)
  simp only [isTokenChar, Bool.or_eq_true, List.contains_iff_mem, List.mem_cons, List.not_mem_nil,
    or_false] at h
  rcases h with h_alphanum | rfl | rfl | rfl | rfl | rfl | rfl
  · obtain ⟨h_least, h_most⟩ := toNat_bounds_of_isAlphanum h_alphanum
    exact ⟨by omega, by omega, h_mark⟩
  all_goals exact ⟨by decide, by decide, h_mark⟩

/-- The header offers an attachment under a name that a token stands for, and the token cannot be
taken for more than a name. -/
structure Offers (header name : String) (token : String) : Prop where
  header_eq : header = "attachment; filename=" ++ token
  isToken : IsToken token.toList
  reads : formText? token = some name
  isHarmless : ∀ c ∈ token.toList, IsHarmless c

theorem offers_attachment (name : String) : Offers (attachment name) name (escape name) where
  header_eq := rfl
  isToken := isToken_escape name
  reads := formText?_escape name
  isHarmless c hc := isHarmless_of_isTokenChar ((isToken_escape name).chars c hc)

theorem escape_inj {name name' : String} : escape name = escape name' ↔ name = name' := by
  refine ⟨?_, congrArg escape⟩
  intro h_eq
  have h_read := formText?_escape name
  rw [h_eq, formText?_escape] at h_read
  exact (Option.some.inj h_read).symm

/-- **A name survives the header and cannot break out of it.** Its escaped form is a token that reads
back as the name, so no two names have the same; and a file is shown in place if it can be shown, or
else offered under its base name in that form. -/
theorem escape_readsBack :
    (∀ name : String, IsToken (escape name).toList ∧ formText? (escape name) = some name) ∧
    (∀ name name' : String, escape name = escape name' ↔ name = name') ∧
    ∀ s : Subject, s.isViewable = true ∧ s.disposition = "inline" ∨
      s.isViewable = false ∧ ∃ token, Offers s.disposition (FileName.base s.path) token := by
  refine ⟨?_, fun _ _ => escape_inj, ?_⟩
  · intro name
    exact ⟨isToken_escape name, formText?_escape name⟩
  · intro s
    rw [Subject.disposition]
    cases s.isViewable with
    | true => exact .inl ⟨rfl, rfl⟩
    | false => exact .inr ⟨rfl, _, offers_attachment s.name⟩

/-- What looks like an escaped space in a name is escaped itself. -/
example : escape "a b%20+c.zip" = "a+b%2520%2Bc.zip" := by decide +kernel

end FileProfile.Disposition
