import FileProfile.Bytes.Encoding

/-!
# Bytes that read as the empty text

A decoder never swallows bytes: what has no meaning still leaves a replacement character. So the
only bytes that read as the empty text are none at all and a byte-order mark with nothing behind it
(`Encoding.eq_mark_of_decode_eq_empty`). That holds of bytes in the encoding that is detected; in
UTF-16 the two bytes of the mark are dropped unseen, and a single byte behind them would be too, but
bytes of an odd number are never taken for UTF-16.
-/

namespace FileProfile

namespace Bytes

namespace Utf8

theorem Reader.finish_begin_ne_nil (items : List (Option Char)) (b : UInt8) :
    (Reader.begin items b).finish ≠ [] := by
  unfold Reader.begin
  split <;> simp [Reader.finish]

/-- Behind a byte there is always something to show for it. -/
theorem Reader.finish_step_ne_nil (r : Reader) (b : UInt8) : (r.step b).finish ≠ [] := by
  unfold Reader.step
  split
  · exact finish_begin_ne_nil _ b
  · next a _ =>
    by_cases h_fits : a.least ≤ b ∧ b ≤ a.greatest
    · -- the sequence goes on or is complete
      rw [if_pos h_fits]
      cases h_more : a.more with
      | zero => simp [Reader.finish]
      | succ more => simp [Reader.finish]
    · -- it is broken off, and the byte begins another
      rw [if_neg h_fits]
      exact finish_begin_ne_nil _ b

theorem eq_nil_of_decode_eq_nil {bytes : List UInt8} (h : decode bytes = []) : bytes = [] := by
  rcases List.eq_nil_or_concat bytes with h_nil | ⟨front, b, rfl⟩
  · exact h_nil
  · rw [decode, List.map_eq_nil_iff, read, List.concat_eq_append, List.foldl_append] at h
    exact absurd h (Reader.finish_step_ne_nil _ b)

end Utf8

namespace Utf16

theorem Reader.finish_begin_ne_nil (items : List (Option Char)) (u : UInt16) :
    (Reader.begin items u).finish ≠ [] := by
  unfold Reader.begin
  split
  · simp [Reader.finish]
  · split <;> simp [Reader.finish]

/-- Behind a unit there is always something to show for it. -/
theorem Reader.finish_step_ne_nil (r : Reader) (u : UInt16) : (r.step u).finish ≠ [] := by
  unfold Reader.step
  split
  · exact finish_begin_ne_nil _ u
  · split
    · simp [Reader.finish]
    · exact finish_begin_ne_nil _ u

theorem eq_nil_of_read_eq_nil {us : List UInt16} (h : read us = []) : us = [] := by
  rcases List.eq_nil_or_concat us with h_nil | ⟨front, u, rfl⟩
  · exact h_nil
  · rw [read, List.concat_eq_append, List.foldl_append] at h
    exact absurd h (Reader.finish_step_ne_nil _ u)

theorem length_unitsBehind (order : ByteOrder) (done : List UInt16) (bytes : List UInt8) :
    (unitsBehind order done bytes).length = done.length + bytes.length / 2 := by
  induction done, bytes using unitsBehind.induct order with
  | case1 done a b rest ih =>
    rw [unitsBehind, ih, List.length_cons, List.length_cons, List.length_cons]
    omega
  | case2 bytes done h_short =>
    have h_length : bytes.length < 2 := by
      rcases bytes with _ | ⟨a, _ | ⟨b, rest⟩⟩
      · exact Nat.zero_lt_two
      · exact Nat.one_lt_two
      · exact absurd rfl (h_short a b rest)
    rw [unitsBehind, List.length_reverse]
    · omega
    · exact h_short

/-- Only a single byte is dropped. -/
theorem length_lt_of_decode_eq_nil {order : ByteOrder} {bytes : List UInt8}
    (h : decode order bytes = []) : bytes.length < 2 := by
  rw [decode, List.map_eq_nil_iff] at h
  have h_units := congrArg List.length (eq_nil_of_read_eq_nil h)
  rw [units, length_unitsBehind, List.length_nil] at h_units
  omega

end Utf16

end Bytes

namespace Encoding

open Bytes

/-- The byte-order marks. -/
def marks : List (List UInt8) := [utf8Mark, utf16Mark .littleEndian, utf16Mark .bigEndian]

theorem length_le_of_mem_marks {mark : List UInt8} (h : mark ∈ marks) : mark.length ≤ 3 := by
  revert mark
  decide

variable {sampleLength : Nat} {bytes : List UInt8}

theorem isMarkedUtf16_of_detect? {order : ByteOrder}
    (h : detect? sampleLength bytes = some (utf16 order)) : isMarkedUtf16 order bytes = true := by
  unfold detect? at h
  by_cases h_little : isMarkedUtf16 .littleEndian bytes = true
  · rw [if_pos h_little] at h
    cases h
    exact h_little
  · rw [if_neg h_little] at h
    by_cases h_big : isMarkedUtf16 .bigEndian bytes = true
    · rw [if_pos h_big] at h
      cases h
      exact h_big
    · -- what is not marked is never taken for UTF-16
      rw [if_neg h_big] at h
      repeat' split at h
      all_goals cases h

/-- Bytes that start like UTF-16 are the mark if fewer than two follow it. -/
theorem eq_utf16Mark {order : ByteOrder} (h : isMarkedUtf16 order bytes = true)
    (h_short : (bytes.drop 2).length < 2) : bytes = utf16Mark order := by
  obtain ⟨h_marked, h_even⟩ := Bool.and_eq_true _ _ ▸ h
  obtain ⟨rest, rfl⟩ := List.isPrefixOf_iff_prefix.mp h_marked
  have h_mark : (utf16Mark order).length = 2 := by cases order <;> rfl
  rw [beq_iff_eq, List.length_append, h_mark] at h_even
  rw [List.length_drop, List.length_append, h_mark] at h_short
  have h_rest : rest.length = 0 := by omega
  rw [List.length_eq_zero_iff.mp h_rest, List.append_nil]

/-- **Only a byte-order mark alone reads as the empty text,** besides no bytes at all. -/
theorem eq_mark_of_decode_eq_empty {encoding : Encoding}
    (h_detect : detect? sampleLength bytes = some encoding) (h : encoding.decode bytes = "") :
    bytes = [] ∨ bytes ∈ marks := by
  have h_chars := congrArg String.toList h
  unfold decode at h_chars
  rw [String.toList_ofList] at h_chars
  cases encoding with
  | utf8 =>
    -- nothing is left without the mark
    have h_nil : dropUtf8Mark bytes = [] := Utf8.eq_nil_of_decode_eq_nil h_chars
    unfold dropUtf8Mark at h_nil
    split at h_nil
    · next h_marked =>
      obtain ⟨rest, rfl⟩ := List.isPrefixOf_iff_prefix.mp h_marked
      have h_rest : rest = [] := h_nil
      rw [h_rest]
      exact .inr (by decide)
    · exact .inl h_nil
  | utf16 order =>
    -- the two bytes in front are dropped unseen, but they are the mark
    have h_short := Utf16.length_lt_of_decode_eq_nil h_chars
    rw [eq_utf16Mark (isMarkedUtf16_of_detect? h_detect) h_short]
    exact .inr (by cases order <;> decide)
  | latin1 => exact .inl (List.map_eq_nil_iff.mp h_chars)

end Encoding

end FileProfile
