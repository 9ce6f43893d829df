import FileProfile.Proofs.Bytes.Utf8

/-!
# Writing UTF-16, and reading it back

`Utf16.encode` is the other side of the reader in `Bytes/Utf16`: a character below U+10000 is one
unit, any other two halves, and each unit two bytes in one of the two orders. Reading gives the text
back (`Utf16.decode_encode`), which takes two steps:

* `units_flatMap_bytes`: the bytes of units make these units, in either order;
* `foldl_step_encodeChar`: where no half is open, the reader takes the one or two units of a
  character and leaves no half open.
-/

namespace FileProfile.Bytes

/-- The two bytes of a unit. -/
def ByteOrder.bytes (order : ByteOrder) (u : UInt16) : List UInt8 :=
  let high := UInt8.ofNat (u.toNat / 256)
  let low := UInt8.ofNat (u.toNat % 256)
  match order with
  | .littleEndian => [low, high]
  | .bigEndian => [high, low]

theorem ByteOrder.length_bytes (order : ByteOrder) (u : UInt16) : (order.bytes u).length = 2 := by
  cases order <;> rfl

/-- A unit is made of its two bytes. -/
theorem unit_of_bytes (u : UInt16) :
    (UInt8.ofNat (u.toNat / 256)).toUInt16 * 256 + (UInt8.ofNat (u.toNat % 256)).toUInt16 = u := by
  have h_lt : u.toNat < 65536 := u.toNat_lt
  have h_high : (UInt8.ofNat (u.toNat / 256)).toNat = u.toNat / 256 :=
    UInt8.toNat_ofNat_of_lt' (by change _ < 256; omega)
  have h_low : (UInt8.ofNat (u.toNat % 256)).toNat = u.toNat % 256 :=
    UInt8.toNat_ofNat_of_lt' (by change _ < 256; omega)
  rw [← UInt16.toNat_inj, UInt16.toNat_add, UInt16.toNat_mul, UInt8.toNat_toUInt16,
    UInt8.toNat_toUInt16, h_high, h_low]
  change (u.toNat / 256 * 256 % 65536 + u.toNat % 256) % 65536 = u.toNat
  omega

namespace Utf16

/-- The units of a character. -/
def encodeChar (c : Char) : List UInt16 :=
  if c.toNat < 0x10000 then [UInt16.ofNat c.toNat]
  else
    let beyond := c.toNat - 0x10000
    [UInt16.ofNat (0xD800 + beyond / 0x400), UInt16.ofNat (0xDC00 + beyond % 0x400)]

/-- The bytes of a text, without a byte-order mark. -/
def encode (order : ByteOrder) (text : String) : List UInt8 :=
  (text.toList.flatMap encodeChar).flatMap order.bytes

/-! ### Units and bytes -/

theorem unitsBehind_flatMap_bytes (order : ByteOrder) (us done : List UInt16) :
    unitsBehind order done (us.flatMap order.bytes) = done.reverse ++ us := by
  induction us generalizing done with
  | nil =>
    rw [List.flatMap_nil, List.append_nil]
    rfl
  | cons u us ih =>
    have h_bytes : unitsBehind order done (order.bytes u ++ us.flatMap order.bytes) =
        unitsBehind order (u :: done) (us.flatMap order.bytes) := by
      cases order with
      | littleEndian =>
        change unitsBehind _ (_ :: done) (us.flatMap _) = _
        rw [ByteOrder.unit, unit_of_bytes]
      | bigEndian =>
        change unitsBehind _ (_ :: done) (us.flatMap _) = _
        rw [ByteOrder.unit, unit_of_bytes]
    rw [List.flatMap_cons, h_bytes, ih, List.reverse_cons, List.append_assoc,
      List.singleton_append]

/-- **The bytes of units make these units.** -/
theorem units_flatMap_bytes (order : ByteOrder) (us : List UInt16) :
    units order (us.flatMap order.bytes) = us :=
  unitsBehind_flatMap_bytes order us []

/-- Two bytes are those of the unit that they make. -/
theorem bytes_unit (order : ByteOrder) (a b : UInt8) : order.bytes (order.unit a b) = [a, b] := by
  have h_toNat : ∀ high low : UInt8,
      (high.toUInt16 * 256 + low.toUInt16).toNat = high.toNat * 256 + low.toNat := by
    intro high low
    have h_high : high.toNat < 256 := high.toNat_lt
    have h_low : low.toNat < 256 := low.toNat_lt
    rw [UInt16.toNat_add, UInt16.toNat_mul, UInt8.toNat_toUInt16, UInt8.toNat_toUInt16]
    change (high.toNat * 256 % 65536 + low.toNat) % 65536 = _
    omega
  have h_bytes : ∀ high low : UInt8,
      UInt8.ofNat ((high.toNat * 256 + low.toNat) / 256) = high ∧
        UInt8.ofNat ((high.toNat * 256 + low.toNat) % 256) = low := by
    intro high low
    have h_low : low.toNat < 256 := low.toNat_lt
    have h_div : (high.toNat * 256 + low.toNat) / 256 = high.toNat := by omega
    have h_mod : (high.toNat * 256 + low.toNat) % 256 = low.toNat := by omega
    rw [h_div, h_mod, UInt8.ofNat_toNat, UInt8.ofNat_toNat]
    exact ⟨rfl, rfl⟩
  cases order with
  | littleEndian =>
    rw [ByteOrder.unit, ByteOrder.bytes, h_toNat, (h_bytes b a).1, (h_bytes b a).2]
  | bigEndian =>
    rw [ByteOrder.unit, ByteOrder.bytes, h_toNat, (h_bytes a b).1, (h_bytes a b).2]

theorem flatMap_bytes_unitsBehind (order : ByteOrder) (done : List UInt16) {bytes : List UInt8}
    (h_even : bytes.length % 2 = 0) :
    (unitsBehind order done bytes).flatMap order.bytes =
      done.reverse.flatMap order.bytes ++ bytes := by
  induction done, bytes using unitsBehind.induct order with
  | case1 done a b rest ih =>
    have h_rest : rest.length % 2 = 0 := by
      rw [List.length_cons, List.length_cons] at h_even
      omega
    rw [unitsBehind, ih h_rest, List.reverse_cons, List.flatMap_append, List.flatMap_singleton,
      bytes_unit, List.append_assoc]
    rfl
  | case2 bytes done h_short =>
    -- fewer than two bytes, and not a single one
    rcases bytes with _ | ⟨a, _ | ⟨b, rest⟩⟩
    · exact (List.append_nil _).symm
    · cases h_even
    · exact absurd rfl (h_short a b rest)

/-- **Whole units are made of their bytes.** -/
theorem flatMap_bytes_units (order : ByteOrder) {bytes : List UInt8}
    (h_even : bytes.length % 2 = 0) : (units order bytes).flatMap order.bytes = bytes :=
  flatMap_bytes_unitsBehind order [] h_even

theorem length_flatMap_bytes (order : ByteOrder) (us : List UInt16) :
    (us.flatMap order.bytes).length = 2 * us.length := by
  induction us with
  | nil => rfl
  | cons u us ih =>
    rw [List.flatMap_cons, List.length_append, ByteOrder.length_bytes, ih, List.length_cons]
    omega

/-! ### Characters and units -/

theorem isLeading_iff {u : UInt16} :
    isLeading u = true ↔ 0xD800 ≤ u.toNat ∧ u.toNat < 0xDC00 := by
  rw [isLeading, Bool.and_eq_true, decide_eq_true_eq, decide_eq_true_eq,
    UInt16.le_iff_toNat_le, UInt16.lt_iff_toNat_lt]
  rfl

theorem isTrailing_iff {u : UInt16} :
    isTrailing u = true ↔ 0xDC00 ≤ u.toNat ∧ u.toNat < 0xE000 := by
  rw [isTrailing, Bool.and_eq_true, decide_eq_true_eq, decide_eq_true_eq,
    UInt16.le_iff_toNat_le, UInt16.lt_iff_toNat_lt]
  rfl

theorem isLeading_eq_false {u : UInt16} (h : u.toNat < 0xD800 ∨ 0xDC00 ≤ u.toNat) :
    isLeading u = false := by
  rw [Bool.eq_false_iff, ne_eq, isLeading_iff]
  omega

theorem isTrailing_eq_false {u : UInt16} (h : u.toNat < 0xDC00 ∨ 0xE000 ≤ u.toNat) :
    isTrailing u = false := by
  rw [Bool.eq_false_iff, ne_eq, isTrailing_iff]
  omega

/-- **A character is read back from its units.** -/
theorem foldl_step_encodeChar (c : Char) (items : List (Option Char)) :
    (encodeChar c).foldl Reader.step ⟨items, none⟩ = ⟨some c :: items, none⟩ := by
  have h_valid := toNat_valid c
  have h_code : charOfCode c.toNat = c := charOfCode_toNat c
  unfold encodeChar
  generalize c.toNat = n at h_valid h_code
  split
  · -- one unit, which is no half: no character is a surrogate
    next h_one =>
    have h_unit : (UInt16.ofNat n).toNat = n := UInt16.toNat_ofNat_of_lt' h_one
    change Reader.begin items (UInt16.ofNat n) = _
    rw [Reader.begin, isLeading_eq_false (by omega), isTrailing_eq_false (by omega), h_unit, h_code]
    rfl
  · -- two halves, each with ten of the twenty bits beyond the first plane
    next h_two =>
    have h_high : (UInt16.ofNat (0xD800 + (n - 0x10000) / 0x400)).toNat =
        0xD800 + (n - 0x10000) / 0x400 :=
      UInt16.toNat_ofNat_of_lt' (by change _ < 65536; omega)
    have h_low : (UInt16.ofNat (0xDC00 + (n - 0x10000) % 0x400)).toNat =
        0xDC00 + (n - 0x10000) % 0x400 :=
      UInt16.toNat_ofNat_of_lt' (by change _ < 65536; omega)
    have h_open : Reader.step ⟨items, none⟩ (UInt16.ofNat (0xD800 + (n - 0x10000) / 0x400)) =
        ⟨items, some (UInt16.ofNat (0xD800 + (n - 0x10000) / 0x400))⟩ := by
      change Reader.begin items _ = _
      rw [Reader.begin, isLeading_iff.mpr (by omega), if_pos rfl]
    have h_pair : pairChar (UInt16.ofNat (0xD800 + (n - 0x10000) / 0x400))
        (UInt16.ofNat (0xDC00 + (n - 0x10000) % 0x400)) = c := by
      have h_sum : 0x10000 + (0xD800 + (n - 0x10000) / 0x400 - 0xD800) * 0x400 +
          (0xDC00 + (n - 0x10000) % 0x400 - 0xDC00) = n := by omega
      rw [pairChar, h_high, h_low, h_sum, h_code]
    rw [List.foldl_cons, List.foldl_cons, List.foldl_nil, h_open, Reader.step]
    simp only
    rw [isTrailing_iff.mpr (by omega), if_pos rfl, h_pair]

/-! ### Texts -/

theorem foldl_step_flatMap_encodeChar (cs : List Char) (items : List (Option Char)) :
    (cs.flatMap encodeChar).foldl Reader.step ⟨items, none⟩ =
      ⟨(cs.map some).reverse ++ items, none⟩ := by
  induction cs generalizing items with
  | nil => rfl
  | cons c cs ih =>
    rw [List.flatMap_cons, List.foldl_append, foldl_step_encodeChar, ih, List.map_cons,
      List.reverse_cons, List.append_assoc, List.singleton_append]

theorem read_flatMap_encodeChar (cs : List Char) : read (cs.flatMap encodeChar) = cs.map some := by
  -- no half is left open
  have h := foldl_step_flatMap_encodeChar cs []
  rw [List.append_nil] at h
  unfold read
  change (List.foldl Reader.step ⟨[], none⟩ _).finish = _
  rw [h]
  exact List.reverse_reverse _

/-- **The bytes of a text read as the text,** in the order in which they were written. -/
theorem decode_encode (order : ByteOrder) (text : String) :
    decode order (encode order text) = text.toList := by
  rw [decode, encode, units_flatMap_bytes, read_flatMap_encodeChar, List.map_map]
  exact List.map_id _

theorem length_encode_mod_two (order : ByteOrder) (text : String) :
    (encode order text).length % 2 = 0 := by
  rw [encode, length_flatMap_bytes, Nat.mul_mod_right]

end Utf16

end FileProfile.Bytes
