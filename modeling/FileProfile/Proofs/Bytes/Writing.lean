import FileProfile.Proofs.Bytes.Ascii
import FileProfile.Proofs.Bytes.Utf16

/-!
# The ways to write a text

A text can be written in UTF-8, bare or behind the byte-order mark, and in UTF-16 in either order
behind the mark of that order. Each of these is detected as what it is, however few bytes are looked
at for signs of binary content (`Writing.detect?_bytes`), and reads as the text
(`Writing.decode_bytes`).

The two conditions on the text are met where they are needed. A text with a NUL is binary in UTF-8,
though not in UTF-16, where half of the bytes of most texts are NUL. A text that starts with U+FEFF
loses it to the mark when it is written bare.
-/

namespace FileProfile

open Bytes

/-- A way to write a text. -/
inductive Writing where
  /-- UTF-8 without a byte-order mark. -/
  | bare
  /-- UTF-8 behind its byte-order mark. -/
  | marked
  /-- UTF-16 behind the byte-order mark of its order. -/
  | utf16 (order : ByteOrder)
  deriving DecidableEq, Repr

namespace Writing

/-- The encoding that a way of writing uses. -/
def encoding : Writing → Encoding
  | bare => .utf8
  | marked => .utf8
  | utf16 order => .utf16 order

/-- The bytes that a text is written as. -/
def bytes (text : String) : Writing → List UInt8
  | bare => Utf8.encode text
  | marked => Encoding.utf8Mark ++ Utf8.encode text
  | utf16 order => Encoding.utf16Mark order ++ Utf16.encode order text

end Writing

namespace Encoding

/-! ### Marks -/

theorem isPrefixOf_append (mark rest : List UInt8) : mark.isPrefixOf (mark ++ rest) = true :=
  List.isPrefixOf_iff_prefix.mpr (List.prefix_append mark rest)

/-- The mark is a character like others to the encoder. -/
theorem utf8Mark_append_encode (text : String) :
    utf8Mark ++ Utf8.encode text = Utf8.encode (String.ofList ('\ufeff' :: text.toList)) := by
  rw [Utf8.encode, Utf8.encode, String.toList_ofList, List.flatMap_cons, Utf8.utf8EncodeChar_mark]

/-- The bytes of a text in UTF-8 do not start like UTF-16. -/
theorem isMarkedUtf16_encode (order : ByteOrder) (text : String) :
    isMarkedUtf16 order (Utf8.encode text) = false := by
  have h_prefix : (utf16Mark order).isPrefixOf (Utf8.encode text) = false := by
    rw [Bool.eq_false_iff]
    intro h
    -- both marks have the byte 0xFF, which no character is encoded with
    obtain ⟨rest, h_rest⟩ := List.isPrefixOf_iff_prefix.mp h
    have h_ff : 0xFF ∈ Utf8.encode text := by
      rw [← h_rest, List.mem_append]
      exact .inl (by cases order <;> decide)
    exact absurd (Utf8.lt_of_mem_encode h_ff) (by decide)
  rw [isMarkedUtf16, h_prefix, Bool.false_and]

/-- The bytes of a text in UTF-16 behind the mark start like UTF-16 in that order. -/
theorem isMarkedUtf16_utf16Mark_append (order : ByteOrder) (text : String) :
    isMarkedUtf16 order (utf16Mark order ++ Utf16.encode order text) = true := by
  have h_mark : (utf16Mark order).length = 2 := by cases order <;> rfl
  have h_even : (utf16Mark order ++ Utf16.encode order text).length % 2 = 0 := by
    rw [List.length_append, h_mark, Nat.add_mod, Utf16.length_encode_mod_two]
  rw [isMarkedUtf16, isPrefixOf_append, h_even]
  rfl

/-- The two marks of UTF-16 are not mistaken for each other. -/
theorem isMarkedUtf16_littleEndian_bigEndian (rest : List UInt8) :
    isMarkedUtf16 .littleEndian (utf16Mark .bigEndian ++ rest) = false := rfl

/-! ### Detection and decoding -/

variable (sampleLength : Nat) {text : String}

theorem detect?_encode (h_nul : '\x00' ∉ text.toList) :
    detect? sampleLength (Utf8.encode text) = some .utf8 := by
  have h_sample : ((Utf8.encode text).take sampleLength).contains 0 = false := by
    rw [Bool.eq_false_iff, ne_eq, List.contains_iff_mem]
    intro h
    exact h_nul ((Utf8.mem_encode_ascii_iff (by decide)).mp (List.mem_of_mem_take h))
  unfold detect?
  simp only [isMarkedUtf16_encode, h_sample, Utf8.isWellFormed_encode]
  rfl

theorem detect?_utf16 (order : ByteOrder) :
    detect? sampleLength (utf16Mark order ++ Utf16.encode order text) = some (.utf16 order) := by
  have h_marked := isMarkedUtf16_utf16Mark_append order text
  unfold detect?
  cases order with
  | littleEndian => rw [if_pos h_marked]
  | bigEndian => rw [if_neg (by rw [isMarkedUtf16_littleEndian_bigEndian]; decide), if_pos h_marked]

/-- Nothing is taken for a mark in bytes that were written without one. -/
theorem dropUtf8Mark_encode (h_mark : text.toList.head? ≠ some '\ufeff') :
    dropUtf8Mark (Utf8.encode text) = Utf8.encode text := by
  unfold dropUtf8Mark
  rw [if_neg]
  intro h
  exact h_mark (Utf8.head?_of_prefix_encode (List.isPrefixOf_iff_prefix.mp h))

theorem dropUtf8Mark_append (rest : List UInt8) : dropUtf8Mark (utf8Mark ++ rest) = rest := by
  rw [dropUtf8Mark, if_pos (isPrefixOf_append _ _)]
  rfl

/-- A text without the mark that may start it. -/
def dropMark (cs : List Char) : List Char :=
  if cs.head? = some '\ufeff' then cs.tail else cs

/-- What a text reads as that was written in UTF-8 without a mark. -/
theorem decode_utf8_encode (text : String) :
    utf8.decode (Utf8.encode text) = String.ofList (dropMark text.toList) := by
  unfold dropMark
  split
  · next h_mark =>
    obtain ⟨cs, h_text⟩ := List.head?_eq_some_iff.mp h_mark
    have h_encode := utf8Mark_append_encode (String.ofList cs)
    rw [String.toList_ofList, ← h_text, String.ofList_toList] at h_encode
    change String.ofList (Utf8.decode (dropUtf8Mark (Utf8.encode text))) = _
    rw [← h_encode, dropUtf8Mark_append, Utf8.decode_encode, String.toList_ofList, h_text]
    rfl
  · next h_mark =>
    change String.ofList (Utf8.decode (dropUtf8Mark (Utf8.encode text))) = _
    rw [dropUtf8Mark_encode h_mark, Utf8.decode_encode]

theorem drop_utf16Mark (order : ByteOrder) (rest : List UInt8) :
    (utf16Mark order ++ rest).drop 2 = rest := by
  cases order <;> rfl

end Encoding

namespace Writing

variable {text : String}

/-- **Every way of writing a text is detected.** -/
theorem detect?_bytes (w : Writing) (sampleLength : Nat) (h_nul : '\x00' ∉ text.toList) :
    Encoding.detect? sampleLength (w.bytes text) = some w.encoding := by
  cases w with
  | bare => exact Encoding.detect?_encode sampleLength h_nul
  | marked =>
    -- the mark is a character in front of the text, and no NUL
    have h_nul' : '\x00' ∉ (String.ofList ('\ufeff' :: text.toList)).toList := by
      rw [String.toList_ofList, List.mem_cons, not_or]
      exact ⟨by decide, h_nul⟩
    rw [bytes, Encoding.utf8Mark_append_encode]
    exact Encoding.detect?_encode sampleLength h_nul'
  | utf16 order => exact Encoding.detect?_utf16 sampleLength order

/-- **Every way of writing a text reads as the text.** -/
theorem decode_bytes (w : Writing) (h_mark : text.toList.head? ≠ some '\ufeff') :
    w.encoding.decode (w.bytes text) = text := by
  cases w with
  | bare =>
    change String.ofList (Utf8.decode (Encoding.dropUtf8Mark (Utf8.encode text))) = text
    rw [Encoding.dropUtf8Mark_encode h_mark, Utf8.decode_encode, String.ofList_toList]
  | marked =>
    change String.ofList (Utf8.decode (Encoding.dropUtf8Mark (Encoding.utf8Mark ++ _))) = text
    rw [Encoding.dropUtf8Mark_append, Utf8.decode_encode, String.ofList_toList]
  | utf16 order =>
    change String.ofList (Utf16.decode order ((Encoding.utf16Mark order ++ _).drop 2)) = text
    rw [Encoding.drop_utf16Mark, Utf16.decode_encode, String.ofList_toList]

end Writing

end FileProfile
