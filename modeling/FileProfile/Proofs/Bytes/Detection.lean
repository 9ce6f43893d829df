import FileProfile.Proofs.Bytes.Empty
import FileProfile.Proofs.Bytes.Halves
import FileProfile.Proofs.Bytes.Writing

/-!
# The encoding that is detected loses nothing

A decoder takes any bytes, and those that have no meaning in its encoding are lost on it. The
encoding that is detected is one in which the text keeps the bytes (`keepsBytes_of_detect?`), as
far as the encoding lets it:

* bytes taken for UTF-8 are well-formed, and what they read as is encoded as them;
* in ISO 8859-1 every byte is a character;
* bytes taken for UTF-16 are whole units behind the mark. A unit is lost only if it is a half
  without its other half, and it still keeps its place.
-/

namespace FileProfile.Encoding

open Bytes

/-- What the text keeps that bytes read as in an encoding. -/
def KeepsBytes (bytes : List UInt8) : Encoding → Prop
  | utf8 =>
    -- the mark in front is not part of the text
    if utf8Mark.isPrefixOf bytes then utf8Mark ++ Utf8.encode (utf8.decode bytes) = bytes
    else Utf8.encode (utf8.decode bytes) = bytes
  | utf16 order =>
    let units := Utf16.units order (bytes.drop 2)
    let written := Utf16.units order (Utf16.encode order ((utf16 order).decode bytes))
    utf16Mark order ++ units.flatMap order.bytes = bytes ∧
      written.length = (bytes.length - 2) / 2 ∧
      ∀ i, written[i]? =
        units[i]?.map fun u => if Utf16.isLoneAt units i then Utf16.replacementUnit else u
  | latin1 =>
    (latin1.decode bytes).toList.length = bytes.length ∧
      (latin1.decode bytes).toList.map Char.toNat = bytes.map UInt8.toNat

variable {sampleLength : Nat} {bytes : List UInt8}

/-- Only well-formed bytes are taken for UTF-8. -/
theorem isWellFormed_of_detect? (h : detect? sampleLength bytes = some utf8) :
    Utf8.isWellFormed bytes = true := by
  cases h_formed : Utf8.isWellFormed bytes with
  | true => rfl
  | false =>
    unfold detect? at h
    simp only [h_formed, Bool.false_eq_true, if_false] at h
    repeat' split at h
    all_goals cases h

/-- Well-formed bytes lose at most the mark. -/
theorem keepsBytes_utf8 (h : Utf8.isWellFormed bytes = true) : utf8.KeepsBytes bytes := by
  -- the bytes are the encoding of a text, which may start with the mark
  obtain ⟨text, rfl⟩ : ∃ text, bytes = Utf8.encode text := ⟨_, (Utf8.encode_decode h).symm⟩
  unfold KeepsBytes
  rw [decode_utf8_encode]
  by_cases h_mark : text.toList.head? = some '\ufeff'
  · obtain ⟨cs, h_text⟩ := List.head?_eq_some_iff.mp h_mark
    have h_encode := utf8Mark_append_encode (String.ofList cs)
    rw [String.toList_ofList, ← h_text, String.ofList_toList] at h_encode
    have h_drop : dropMark text.toList = cs := by
      rw [dropMark, if_pos h_mark, h_text]
      rfl
    have h_prefix : utf8Mark.isPrefixOf (Utf8.encode text) = true := by
      rw [← h_encode]
      exact isPrefixOf_append _ _
    rw [if_pos h_prefix, h_drop]
    exact h_encode
  · have h_drop : dropMark text.toList = text.toList := if_neg h_mark
    have h_prefix : ¬ utf8Mark.isPrefixOf (Utf8.encode text) = true := fun h_prefix =>
      h_mark (Utf8.head?_of_prefix_encode (List.isPrefixOf_iff_prefix.mp h_prefix))
    rw [if_neg h_prefix, h_drop, String.ofList_toList]

/-- Whole units behind the mark lose only lone halves. -/
theorem keepsBytes_utf16 {order : ByteOrder} (h : isMarkedUtf16 order bytes = true) :
    (utf16 order).KeepsBytes bytes := by
  obtain ⟨h_mark, h_even⟩ := Bool.and_eq_true _ _ ▸ h
  obtain ⟨rest, rfl⟩ := List.isPrefixOf_iff_prefix.mp h_mark
  have h_length : (utf16Mark order).length = 2 := by cases order <;> rfl
  rw [beq_iff_eq, List.length_append, h_length] at h_even
  unfold KeepsBytes decode
  simp only [drop_utf16Mark]
  refine ⟨?_, ?_, Utf16.getElem?_encode_decode order rest⟩
  · rw [Utf16.flatMap_bytes_units order (by omega)]
  · rw [Utf16.length_encode_decode, Utf16.units, Utf16.length_unitsBehind, List.length_append,
      h_length, List.length_nil, Nat.zero_add, Nat.add_sub_cancel_left]

theorem toNat_ofNat_toNat (b : UInt8) : (Char.ofNat b.toNat).toNat = b.toNat := by
  have h_lt : b.toNat < 256 := b.toNat_lt
  have h_valid : b.toNat.isValidChar := .inl (by omega)
  rw [Char.ofNat, dif_pos h_valid]
  rfl

/-- Every byte is a character. -/
theorem keepsBytes_latin1 : latin1.KeepsBytes bytes := by
  have h_text : (latin1.decode bytes).toList = bytes.map fun b => Char.ofNat b.toNat :=
    String.toList_ofList
  refine ⟨?_, ?_⟩
  · rw [h_text, List.length_map]
  · rw [h_text, List.map_map]
    exact List.map_congr_left fun b _ => toNat_ofNat_toNat b

/-- **The encoding that is detected loses nothing,** whatever the bytes are and however few of them
are looked at for signs of binary content. -/
theorem keepsBytes_of_detect? {encoding : Encoding}
    (h : detect? sampleLength bytes = some encoding) : encoding.KeepsBytes bytes := by
  cases encoding with
  | utf8 => exact keepsBytes_utf8 (isWellFormed_of_detect? h)
  | utf16 order => exact keepsBytes_utf16 (isMarkedUtf16_of_detect? h)
  | latin1 => exact keepsBytes_latin1

/-- A letter, a leading half without its other half, the two halves of a character, and a trailing
half, behind the mark of UTF-16. -/
def loneHalves : List UInt8 :=
  [0xFF, 0xFE, 0x41, 0, 0x3D, 0xD8, 0x3D, 0xD8, 0, 0xDE, 0, 0xDE]

theorem keepsBytes_loneHalves : detect? 0 loneHalves = some (utf16 .littleEndian) ∧
    (utf16 .littleEndian).KeepsBytes loneHalves := by
  have h_detect : detect? 0 loneHalves = some (utf16 .littleEndian) := by decide
  exact ⟨h_detect, keepsBytes_of_detect? h_detect⟩

end FileProfile.Encoding
