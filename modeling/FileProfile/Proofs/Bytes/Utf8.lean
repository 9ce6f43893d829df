import FileProfile.Bytes.Encoding

/-!
# Reading UTF-8 back

The reader of `Bytes/Utf8` undoes the encoder: `read_encode` says that the bytes of a text read as
its characters, one by one and with nothing refused. The text is arbitrary, so this is a statement
about every character, those of four bytes included.

* `foldl_step_utf8EncodeChar` is the step: between characters, the reader takes the one to four
  bytes of a character and is between characters again. The four cases differ in the bounds that
  the reader puts on the second byte. They are met because a character is no surrogate, is at most
  U+10FFFF, and is encoded in the shortest way.
* `lt_of_mem_encode` says which bytes are not in the encoding of any text.
* `head?_of_prefix_encode`: only a text that starts with U+FEFF is encoded with the byte-order
  mark at its front.
-/

namespace FileProfile.Bytes

/-! ### Characters and their codes -/

/-- The code of a character is a code: at most the last one, and no surrogate. -/
theorem toNat_valid (c : Char) : c.toNat < 0xD800 ∨ 0xDFFF < c.toNat ∧ c.toNat < 0x110000 := c.valid

@[simp] theorem charOfCode_toNat (c : Char) : charOfCode c.toNat = c := by
  have h : c.toNat.isValidChar := c.valid
  have h_ofNat : Char.ofNat c.toNat = c := Char.ofNat_toNat c
  rw [Char.ofNat, dif_pos h] at h_ofNat
  rw [charOfCode, dif_pos h, h_ofNat]

namespace Utf8

/-! ### Bytes by their place in a sequence -/

theorem lead_ascii {b : UInt8} (h : b.toNat < 0x80) : lead b = .char (charOfCode b.toNat) := by
  unfold lead
  simp only [UInt8.lt_iff_toNat_lt, UInt8.reduceToNat]
  rw [if_pos h]

theorem lead_two {b : UInt8} (h : 0xC2 ≤ b.toNat) (h' : b.toNat < 0xE0) :
    lead b = .opens ⟨b.toNat - 0xC0, 0x80, 0xBF, 0⟩ := by
  unfold lead
  simp only [UInt8.lt_iff_toNat_lt, UInt8.reduceToNat]
  rw [if_neg (by omega), if_neg (by omega), if_pos h']

theorem lead_three {b : UInt8} (h : 0xE0 ≤ b.toNat) (h' : b.toNat < 0xF0) :
    lead b = .opens ⟨b.toNat - 0xE0, if b = 0xE0 then 0xA0 else 0x80,
      if b = 0xED then 0x9F else 0xBF, 1⟩ := by
  unfold lead
  simp only [UInt8.lt_iff_toNat_lt, UInt8.reduceToNat]
  rw [if_neg (by omega), if_neg (by omega), if_neg (by omega), if_pos h']

theorem lead_four {b : UInt8} (h : 0xF0 ≤ b.toNat) (h' : b.toNat < 0xF5) :
    lead b = .opens ⟨b.toNat - 0xF0, if b = 0xF0 then 0x90 else 0x80,
      if b = 0xF4 then 0x8F else 0xBF, 2⟩ := by
  unfold lead
  simp only [UInt8.lt_iff_toNat_lt, UInt8.reduceToNat]
  rw [if_neg (by omega), if_neg (by omega), if_neg (by omega), if_neg (by omega), if_pos h']

/-- **The three ways in which a sequence begins.** -/
theorem opens_cases {b : UInt8} {a : Awaited} (h : lead b = .opens a) :
    (0xC2 ≤ b.toNat ∧ b.toNat < 0xE0) ∧ a = ⟨b.toNat - 0xC0, 0x80, 0xBF, 0⟩ ∨
    (0xE0 ≤ b.toNat ∧ b.toNat < 0xF0) ∧ a = ⟨b.toNat - 0xE0, if b = 0xE0 then 0xA0 else 0x80,
      if b = 0xED then 0x9F else 0xBF, 1⟩ ∨
    (0xF0 ≤ b.toNat ∧ b.toNat < 0xF5) ∧ a = ⟨b.toNat - 0xF0, if b = 0xF0 then 0x90 else 0x80,
      if b = 0xF4 then 0x8F else 0xBF, 2⟩ := by
  unfold lead at h
  simp only [UInt8.lt_iff_toNat_lt, UInt8.reduceToNat] at h
  split at h
  · cases h
  split at h
  · cases h
  -- each bound that was passed is where the next kind begins
  split at h
  · next h_least h_most => exact .inl ⟨⟨by omega, h_most⟩, (Lead.opens.inj h).symm⟩
  split at h
  · next h_least h_most => exact .inr (.inl ⟨⟨by omega, h_most⟩, (Lead.opens.inj h).symm⟩)
  split at h
  · next h_least h_most => exact .inr (.inr ⟨⟨by omega, h_most⟩, (Lead.opens.inj h).symm⟩)
  · cases h

namespace Reader

variable (items : List (Option Char))

theorem step_opens {b : UInt8} {a : Awaited} (h : lead b = .opens a) :
    step ⟨items, none⟩ b = ⟨items, some a⟩ := by
  change begin items b = _
  rw [begin, h]

variable {bits : Nat} {least greatest b : UInt8}

/-- A byte within the bounds, where more are to come. -/
theorem step_more (more : Nat) (h : least ≤ b) (h' : b ≤ greatest) :
    step ⟨items, some ⟨bits, least, greatest, more + 1⟩⟩ b =
      ⟨items, some ⟨bits * 64 + (b.toNat - 0x80), 0x80, 0xBF, more⟩⟩ := by
  unfold step
  simp only
  rw [if_pos ⟨h, h'⟩]

/-- The last byte of a sequence, within the bounds. -/
theorem step_last (h : least ≤ b) (h' : b ≤ greatest) :
    step ⟨items, some ⟨bits, least, greatest, 0⟩⟩ b =
      ⟨some (charOfCode (bits * 64 + (b.toNat - 0x80))) :: items, none⟩ := by
  unfold step
  simp only
  rw [if_pos ⟨h, h'⟩]

/-- A byte out of the bounds breaks the sequence off and is read anew. -/
theorem step_broken {a : Awaited} (h : ¬ (a.least ≤ b ∧ b ≤ a.greatest)) :
    step ⟨items, some a⟩ b = begin (none :: items) b := if_neg h

end Reader

/-! ### Characters of one to four bytes -/

section Encoded

variable {n : Nat}

theorem toNat_tail : (UInt8.ofNat (n % 0x40 + 0x80)).toNat = n % 0x40 + 0x80 :=
  UInt8.toNat_ofNat_of_lt' (by change _ < 256; omega)

theorem le_tail : 0x80 ≤ UInt8.ofNat (n % 0x40 + 0x80) := by
  rw [UInt8.le_iff_toNat_le, toNat_tail]
  exact Nat.le_add_left _ _

theorem tail_le : UInt8.ofNat (n % 0x40 + 0x80) ≤ 0xBF := by
  rw [UInt8.le_iff_toNat_le, toNat_tail]
  change _ ≤ 191
  omega

/-- The byte that opens a sequence, where `lowest` is that of the lowest code with as many bytes. -/
theorem toNat_opening (n lowest : Nat) {k : Nat} (h : lowest + k ≤ 256) (hk : 0 < k) :
    (UInt8.ofNat (n % k + lowest)).toNat = n % k + lowest := by
  have h_mod := Nat.mod_lt n hk
  exact UInt8.toNat_ofNat_of_lt' (by change _ < 256; omega)

/-- Three bytes are only used for codes that two do not hold, and for no surrogate. -/
theorem second_of_three (h_least : 0x7FF < n) (h_most : n ≤ 0xFFFF)
    (h_valid : n < 0xD800 ∨ 0xDFFF < n) {b : UInt8} (hb : b.toNat = n / 4096 % 0x10 + 0xE0) :
    (if b = 0xE0 then 0xA0 else 0x80) ≤ UInt8.ofNat (n / 64 % 0x40 + 0x80) ∧
      UInt8.ofNat (n / 64 % 0x40 + 0x80) ≤ (if b = 0xED then 0x9F else 0xBF) := by
  simp only [← UInt8.toNat_inj, UInt8.le_iff_toNat_le, toNat_tail, hb]
  refine ⟨?_, ?_⟩ <;> split <;> simp only [UInt8.reduceToNat] at * <;> omega

/-- Four bytes are only used for codes that three do not hold, up to the last. -/
theorem second_of_four (h_least : 0xFFFF < n) (h_most : n < 0x110000) {b : UInt8}
    (hb : b.toNat = n / 262144 % 0x08 + 0xF0) :
    (if b = 0xF0 then 0x90 else 0x80) ≤ UInt8.ofNat (n / 4096 % 0x40 + 0x80) ∧
      UInt8.ofNat (n / 4096 % 0x40 + 0x80) ≤ (if b = 0xF4 then 0x8F else 0xBF) := by
  simp only [← UInt8.toNat_inj, UInt8.le_iff_toNat_le, toNat_tail, hb]
  refine ⟨?_, ?_⟩ <;> split <;> simp only [UInt8.reduceToNat] at * <;> omega

end Encoded

open Reader in
/-- **A character is read back from its bytes.** -/
theorem foldl_step_utf8EncodeChar (c : Char) (items : List (Option Char)) :
    (String.utf8EncodeChar c).foldl step ⟨items, none⟩ = ⟨some c :: items, none⟩ := by
  have h_valid := toNat_valid c
  have h_code : charOfCode c.toNat = c := charOfCode_toNat c
  have h_val : c.val.toNat = c.toNat := rfl
  unfold String.utf8EncodeChar
  simp only [h_val]
  generalize c.toNat = n at h_valid h_code
  split
  · -- the byte is the code
    next h₁ =>
    have h_lead : (UInt8.ofNat n).toNat = n := UInt8.toNat_ofNat_of_lt' (by change _ < 256; omega)
    change begin items (UInt8.ofNat n) = _
    rw [begin, lead_ascii (by omega), h_lead, h_code]
  split
  · -- two bytes; the bounds of the first keep out codes that one byte holds
    next h₁ h₂ =>
    have h_lead := toNat_opening (k := 0x20) (n / 64) 0xC0 (by omega) (by omega)
    rw [List.foldl_cons, List.foldl_cons, List.foldl_nil,
      step_opens _ (lead_two (by omega) (by omega)), step_last _ le_tail tail_le, h_lead,
      toNat_tail]
    have h_sum : (n / 64 % 0x20 + 0xC0 - 0xC0) * 64 + (n % 0x40 + 0x80 - 0x80) = n := by omega
    rw [h_sum, h_code]
  split
  · -- three bytes; the bounds of the second keep out shorter codes and surrogates
    next h₁ h₂ h₃ =>
    have h_lead := toNat_opening (k := 0x10) (n / 4096) 0xE0 (by omega) (by omega)
    obtain ⟨h_least, h_greatest⟩ := second_of_three (by omega) h₃ (by omega) h_lead
    rw [List.foldl_cons, List.foldl_cons, List.foldl_cons, List.foldl_nil,
      step_opens _ (lead_three (by omega) (by omega)), step_more _ 0 h_least h_greatest,
      step_last _ le_tail tail_le, h_lead, toNat_tail, toNat_tail]
    have h_sum : ((n / 4096 % 0x10 + 0xE0 - 0xE0) * 64 + (n / 64 % 0x40 + 0x80 - 0x80)) * 64 +
        (n % 0x40 + 0x80 - 0x80) = n := by omega
    rw [h_sum, h_code]
  · -- four bytes; the bounds of the second keep out shorter codes and those beyond the last
    next h₁ h₂ h₃ =>
    have h_lead := toNat_opening (k := 0x08) (n / 262144) 0xF0 (by omega) (by omega)
    obtain ⟨h_least, h_greatest⟩ := second_of_four (by omega) (by omega) h_lead
    rw [List.foldl_cons, List.foldl_cons, List.foldl_cons, List.foldl_cons, List.foldl_nil,
      step_opens _ (lead_four (by omega) (by omega)), step_more _ 1 h_least h_greatest,
      step_more _ 0 le_tail tail_le, step_last _ le_tail tail_le, h_lead, toNat_tail,
      toNat_tail, toNat_tail]
    have h_sum : (((n / 262144 % 0x08 + 0xF0 - 0xF0) * 64 + (n / 4096 % 0x40 + 0x80 - 0x80)) * 64 +
        (n / 64 % 0x40 + 0x80 - 0x80)) * 64 + (n % 0x40 + 0x80 - 0x80) = n := by omega
    rw [h_sum, h_code]

/-! ### Texts -/

open Reader in
theorem foldl_step_encode (cs : List Char) (items : List (Option Char)) :
    (cs.flatMap String.utf8EncodeChar).foldl step ⟨items, none⟩ =
      ⟨(cs.map some).reverse ++ items, none⟩ := by
  induction cs generalizing items with
  | nil => rfl
  | cons c cs ih =>
    rw [List.flatMap_cons, List.foldl_append, foldl_step_utf8EncodeChar, ih, List.map_cons,
      List.reverse_cons, List.append_assoc, List.singleton_append]

/-- **The bytes of a text read as its characters.** -/
theorem read_encode (text : String) : read (encode text) = text.toList.map some := by
  -- the reader ends between characters, with the last character on top
  have h := foldl_step_encode text.toList []
  rw [List.append_nil] at h
  unfold read encode
  change (List.foldl Reader.step ⟨[], none⟩ _).finish = _
  rw [h]
  exact List.reverse_reverse _

theorem isWellFormed_encode (text : String) : isWellFormed (encode text) = true := by
  rw [isWellFormed, read_encode, List.all_map]
  exact List.all_eq_true.mpr fun _ _ => rfl

theorem decode_encode (text : String) : decode (encode text) = text.toList := by
  rw [decode, read_encode, List.map_map]
  exact List.map_id _

/-! ### Which bytes are there -/

/-- The bytes 0xF8 to 0xFF do not occur. -/
theorem lt_of_mem_utf8EncodeChar {c : Char} {b : UInt8} (h : b ∈ String.utf8EncodeChar c) :
    b.toNat < 0xF8 := by
  unfold String.utf8EncodeChar at h
  simp only at h
  generalize c.val.toNat = n at h
  split at h
  · simp only [List.mem_singleton] at h
    rw [h, UInt8.toNat_ofNat']
    omega
  split at h
  · simp only [List.mem_cons, List.not_mem_nil, or_false] at h
    rcases h with rfl | rfl <;> rw [UInt8.toNat_ofNat'] <;> omega
  split at h
  · simp only [List.mem_cons, List.not_mem_nil, or_false] at h
    rcases h with rfl | rfl | rfl <;> rw [UInt8.toNat_ofNat'] <;> omega
  · simp only [List.mem_cons, List.not_mem_nil, or_false] at h
    rcases h with rfl | rfl | rfl | rfl <;> rw [UInt8.toNat_ofNat'] <;> omega

theorem lt_of_mem_encode {text : String} {b : UInt8} (h : b ∈ encode text) : b.toNat < 0xF8 := by
  obtain ⟨c, _, hb⟩ := List.mem_flatMap.mp h
  exact lt_of_mem_utf8EncodeChar hb

/-! ### The byte-order mark -/

theorem utf8EncodeChar_mark : String.utf8EncodeChar '\ufeff' = Encoding.utf8Mark := rfl

/-- Only U+FEFF is written as the byte-order mark. -/
theorem eq_mark_of_prefix {c : Char} {rest : List UInt8}
    (h : Encoding.utf8Mark <+: String.utf8EncodeChar c ++ rest) : c = '\ufeff' := by
  have h_code : charOfCode c.toNat = c := charOfCode_toNat c
  have h_val : c.val.toNat = c.toNat := rfl
  unfold String.utf8EncodeChar Encoding.utf8Mark at h
  simp only [h_val] at h
  generalize c.toNat = n at h h_code
  -- the first byte settles how many there are, and the three then settle the code
  have h_n : n = 0xFEFF := by
    split at h
    · simp [List.cons_prefix_cons, ← UInt8.toNat_inj] at h
      omega
    split at h
    · simp [List.cons_prefix_cons, ← UInt8.toNat_inj] at h
      omega
    split at h
    · simp [List.cons_prefix_cons, ← UInt8.toNat_inj] at h
      omega
    · simp [List.cons_prefix_cons, ← UInt8.toNat_inj] at h
      omega
  rw [← h_code, h_n]
  rfl

theorem head?_of_prefix_encode {text : String} (h : Encoding.utf8Mark <+: encode text) :
    text.toList.head? = some '\ufeff' := by
  unfold encode at h
  cases h_text : text.toList with
  | nil => simp [h_text, Encoding.utf8Mark] at h
  | cons c cs =>
    rw [h_text, List.flatMap_cons] at h
    rw [List.head?_cons, eq_mark_of_prefix h]

end Utf8

end FileProfile.Bytes
