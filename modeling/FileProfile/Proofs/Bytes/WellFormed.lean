import FileProfile.Proofs.Bytes.Utf8

/-!
# Well-formed UTF-8 is written back

`encode_decode` says that well-formed bytes are the encoding of what they read as. Together with
`read_encode` this makes well-formed bytes and texts the same thing: the reader accepts nothing but
what the encoder writes, no over-long form, no surrogate, and no sequence that breaks off.

The reader goes byte by byte, and its state holds only the bits of a sequence that it is in the
middle of. What ties them to the bytes is `Awaited.IsFor`: however the sequence is completed within
the bounds that the reader puts on it, its bytes are the encoding of its code.

* `isFor_of_lead` is where the arithmetic is: it holds behind the first byte of a sequence, for each
  of the three lengths. Behind the later bytes it holds because it held before.
* `Reader.Holds.step` is the step, and `Reader.Holds.foldl` the run: as long as nothing was refused,
  the bytes so far are the encoding of the characters so far and the bytes of the open sequence.
-/

namespace FileProfile.Bytes

theorem toNat_charOfCode {n : Nat} (h : n < 0xD800 ∨ 0xDFFF < n ∧ n < 0x110000) :
    (charOfCode n).toNat = n := by
  have h_valid : n.isValidChar := h
  rw [charOfCode, dif_pos h_valid]
  exact UInt32.toNat_ofNatLT

namespace Utf8

/-! ### The bytes of a code -/

/-- What the encoder makes of a code. -/
theorem utf8EncodeChar_charOfCode {n : Nat} (h : n < 0xD800 ∨ 0xDFFF < n ∧ n < 0x110000) :
    String.utf8EncodeChar (charOfCode n) =
      if n ≤ 0x7F then [UInt8.ofNat n]
      else if n ≤ 0x7FF then [UInt8.ofNat (n / 64 % 0x20 + 0xC0), UInt8.ofNat (n % 0x40 + 0x80)]
      else if n ≤ 0xFFFF then [UInt8.ofNat (n / 4096 % 0x10 + 0xE0),
        UInt8.ofNat (n / 64 % 0x40 + 0x80), UInt8.ofNat (n % 0x40 + 0x80)]
      else [UInt8.ofNat (n / 262144 % 0x08 + 0xF0), UInt8.ofNat (n / 4096 % 0x40 + 0x80),
        UInt8.ofNat (n / 64 % 0x40 + 0x80), UInt8.ofNat (n % 0x40 + 0x80)] := by
  have h_val : (charOfCode n).val.toNat = n := toNat_charOfCode h
  unfold String.utf8EncodeChar
  simp only [h_val]

theorem ofNat_eq_of_toNat {n : Nat} {b : UInt8} (h : n = b.toNat) : UInt8.ofNat n = b := by
  rw [h, UInt8.ofNat_toNat]

section Encoded

variable {b c d e : UInt8}

theorem utf8EncodeChar_ascii (hb : b.toNat < 0x80) :
    String.utf8EncodeChar (charOfCode b.toNat) = [b] := by
  rw [utf8EncodeChar_charOfCode (by omega), if_pos (by omega), UInt8.ofNat_toNat]

/-- The first byte of two keeps out the codes that one byte holds. -/
theorem utf8EncodeChar_two (hb : 0xC2 ≤ b.toNat ∧ b.toNat < 0xE0)
    (hc : 0x80 ≤ c.toNat ∧ c.toNat ≤ 0xBF) :
    String.utf8EncodeChar (charOfCode ((b.toNat - 0xC0) * 64 + (c.toNat - 0x80))) = [b, c] := by
  rw [utf8EncodeChar_charOfCode (by omega), if_neg (by omega), if_pos (by omega),
    ofNat_eq_of_toNat (b := b) (by omega), ofNat_eq_of_toNat (b := c) (by omega)]

/-- The second byte of three keeps out shorter codes and surrogates. -/
theorem utf8EncodeChar_three (hb : 0xE0 ≤ b.toNat ∧ b.toNat < 0xF0)
    (hc : 0x80 ≤ c.toNat ∧ c.toNat ≤ 0xBF) (hd : 0x80 ≤ d.toNat ∧ d.toNat ≤ 0xBF)
    (h_least : b.toNat = 0xE0 → 0xA0 ≤ c.toNat) (h_greatest : b.toNat = 0xED → c.toNat ≤ 0x9F) :
    String.utf8EncodeChar (charOfCode
      (((b.toNat - 0xE0) * 64 + (c.toNat - 0x80)) * 64 + (d.toNat - 0x80))) = [b, c, d] := by
  rw [utf8EncodeChar_charOfCode (by omega), if_neg (by omega), if_neg (by omega),
    if_pos (by omega), ofNat_eq_of_toNat (b := b) (by omega),
    ofNat_eq_of_toNat (b := c) (by omega), ofNat_eq_of_toNat (b := d) (by omega)]

/-- The second byte of four keeps out shorter codes and those beyond the last. -/
theorem utf8EncodeChar_four (hb : 0xF0 ≤ b.toNat ∧ b.toNat < 0xF5)
    (hc : 0x80 ≤ c.toNat ∧ c.toNat ≤ 0xBF) (hd : 0x80 ≤ d.toNat ∧ d.toNat ≤ 0xBF)
    (he : 0x80 ≤ e.toNat ∧ e.toNat ≤ 0xBF) (h_least : b.toNat = 0xF0 → 0x90 ≤ c.toNat)
    (h_greatest : b.toNat = 0xF4 → c.toNat ≤ 0x8F) :
    String.utf8EncodeChar (charOfCode
      ((((b.toNat - 0xF0) * 64 + (c.toNat - 0x80)) * 64 + (d.toNat - 0x80)) * 64 +
        (e.toNat - 0x80))) = [b, c, d, e] := by
  rw [utf8EncodeChar_charOfCode (by omega), if_neg (by omega), if_neg (by omega),
    if_neg (by omega), ofNat_eq_of_toNat (b := b) (by omega),
    ofNat_eq_of_toNat (b := c) (by omega), ofNat_eq_of_toNat (b := d) (by omega),
    ofNat_eq_of_toNat (b := e) (by omega)]

end Encoded

/-! ### Sequences that are begun -/

/-- These bytes, each within its bounds, complete what is awaited to a code. -/
inductive Awaited.Completes : Awaited → List UInt8 → Nat → Prop where
  | last {bits : Nat} {least greatest b : UInt8} (h_least : least ≤ b) (h_greatest : b ≤ greatest) :
      Completes ⟨bits, least, greatest, 0⟩ [b] (bits * 64 + (b.toNat - 0x80))
  | more {bits more code : Nat} {least greatest b : UInt8} {rest : List UInt8} (h_least : least ≤ b)
      (h_greatest : b ≤ greatest)
      (h_rest : Completes ⟨bits * 64 + (b.toNat - 0x80), 0x80, 0xBF, more⟩ rest code) :
      Completes ⟨bits, least, greatest, more + 1⟩ (b :: rest) code

section Completes

variable {bits more code : Nat} {least greatest : UInt8} {rest : List UInt8}

theorem Awaited.completes_last_iff : Completes ⟨bits, least, greatest, 0⟩ rest code ↔
    ∃ b : UInt8, (least ≤ b ∧ b ≤ greatest) ∧ rest = [b] ∧
      code = bits * 64 + (b.toNat - 0x80) := by
  constructor
  · intro h
    cases h with
    | @last _ _ _ b h_least h_greatest => exact ⟨b, ⟨h_least, h_greatest⟩, rfl, rfl⟩
  · rintro ⟨b, ⟨h_least, h_greatest⟩, rfl, h_code⟩
    rw [h_code]
    exact .last h_least h_greatest

theorem Awaited.completes_more_iff : Completes ⟨bits, least, greatest, more + 1⟩ rest code ↔
    ∃ (b : UInt8) (behind : List UInt8), (least ≤ b ∧ b ≤ greatest) ∧ rest = b :: behind ∧
      Completes ⟨bits * 64 + (b.toNat - 0x80), 0x80, 0xBF, more⟩ behind code := by
  constructor
  · intro h
    cases h with
    | @more _ _ _ _ _ b behind h_least h_greatest h_rest =>
      exact ⟨b, behind, ⟨h_least, h_greatest⟩, rfl, h_rest⟩
  · rintro ⟨b, behind, ⟨h_least, h_greatest⟩, rfl, h_rest⟩
    exact .more h_least h_greatest h_rest

end Completes

/-- What is awaited behind `front`: however it is completed, the bytes are the encoding of their
code. -/
def Awaited.IsFor (a : Awaited) (front : List UInt8) : Prop :=
  ∀ rest code, a.Completes rest code → String.utf8EncodeChar (charOfCode code) = front ++ rest

theorem toNat_bounds {b least greatest : UInt8} (h : least ≤ b ∧ b ≤ greatest) :
    least.toNat ≤ b.toNat ∧ b.toNat ≤ greatest.toNat :=
  ⟨UInt8.le_iff_toNat_le.mp h.1, UInt8.le_iff_toNat_le.mp h.2⟩

/-- The bounds of a second byte are those of any later byte, but for two values of the first. -/
theorem toNat_second_bounds {b c low high least greatest : UInt8}
    (h : (if b = low then least else 0x80) ≤ c ∧ c ≤ if b = high then greatest else 0xBF)
    (h_least : 0x80 ≤ least.toNat) (h_greatest : greatest.toNat ≤ 0xBF) :
    (0x80 ≤ c.toNat ∧ c.toNat ≤ 0xBF) ∧ (b.toNat = low.toNat → least.toNat ≤ c.toNat) ∧
      (b.toNat = high.toNat → c.toNat ≤ greatest.toNat) := by
  obtain ⟨h_from, h_to⟩ := toNat_bounds h
  simp only [UInt8.toNat_inj]
  refine ⟨⟨?_, ?_⟩, fun h_low => ?_, fun h_high => ?_⟩
  · refine Nat.le_trans ?_ h_from
    split
    · exact h_least
    · exact Nat.le_refl _
  · refine Nat.le_trans h_to ?_
    split
    · exact h_greatest
    · exact Nat.le_refl _
  · rw [if_pos h_low] at h_from
    exact h_from
  · rw [if_pos h_high] at h_to
    exact h_to

/-- **Behind the first byte of a sequence,** what is awaited is what completes it. -/
theorem isFor_of_lead {b : UInt8} {a : Awaited} (h : lead b = .opens a) : a.IsFor [b] := by
  intro rest code h_completes
  obtain ⟨hb, rfl⟩ | ⟨hb, rfl⟩ | ⟨hb, rfl⟩ := opens_cases h
  · -- one byte is awaited
    obtain ⟨c, hc, rfl, h_code⟩ := Awaited.completes_last_iff.mp h_completes
    rw [h_code]
    exact utf8EncodeChar_two hb (toNat_bounds hc)
  · -- two bytes are awaited
    obtain ⟨c, _, hc, rfl, h_one⟩ := Awaited.completes_more_iff.mp h_completes
    obtain ⟨d, hd, rfl, h_code⟩ := Awaited.completes_last_iff.mp h_one
    obtain ⟨h_tail, h_low, h_high⟩ := toNat_second_bounds hc (by decide) (by decide)
    rw [h_code]
    exact utf8EncodeChar_three hb h_tail (toNat_bounds hd) h_low h_high
  · -- three bytes are awaited
    obtain ⟨c, _, hc, rfl, h_two⟩ := Awaited.completes_more_iff.mp h_completes
    obtain ⟨d, _, hd, rfl, h_one⟩ := Awaited.completes_more_iff.mp h_two
    obtain ⟨e, he, rfl, h_code⟩ := Awaited.completes_last_iff.mp h_one
    obtain ⟨h_tail, h_low, h_high⟩ := toNat_second_bounds hc (by decide) (by decide)
    rw [h_code]
    exact utf8EncodeChar_four hb h_tail (toNat_bounds hd) (toNat_bounds he) h_low h_high

/-- A byte within the bounds, where more are to come, is part of the sequence. -/
theorem Awaited.IsFor.more {bits more : Nat} {least greatest b : UInt8} {front : List UInt8}
    (h : IsFor ⟨bits, least, greatest, more + 1⟩ front) (h_least : least ≤ b)
    (h_greatest : b ≤ greatest) :
    IsFor ⟨bits * 64 + (b.toNat - 0x80), 0x80, 0xBF, more⟩ (front ++ [b]) := by
  intro rest code h_rest
  rw [List.append_assoc, List.singleton_append]
  exact h (b :: rest) code (.more h_least h_greatest h_rest)

/-- The last byte, within the bounds, completes the sequence. -/
theorem Awaited.IsFor.last {bits : Nat} {least greatest b : UInt8} {front : List UInt8}
    (h : IsFor ⟨bits, least, greatest, 0⟩ front) (h_least : least ≤ b) (h_greatest : b ≤ greatest) :
    String.utf8EncodeChar (charOfCode (bits * 64 + (b.toNat - 0x80))) = front ++ [b] :=
  h [b] _ (.last h_least h_greatest)

/-- A byte that is a character by itself is its encoding. -/
theorem utf8EncodeChar_of_lead {b : UInt8} {c : Char} (h : lead b = .char c) :
    String.utf8EncodeChar c = [b] := by
  unfold lead at h
  simp only [UInt8.lt_iff_toNat_lt, UInt8.reduceToNat] at h
  split at h
  · next h_ascii =>
    obtain rfl := Lead.char.inj h
    exact utf8EncodeChar_ascii h_ascii
  repeat' split at h
  all_goals cases h

/-! ### Readers -/

namespace Reader

/-- The bytes of a sequence that a reader is in the middle of. -/
def IsOpen : Option Awaited → List UInt8 → Prop
  | none, front => front = []
  | some a, front => a.IsFor front

/-- What a reader has read of `bytes`, if it refused nothing: characters, and the front of a
sequence. -/
def Holds (r : Reader) (bytes : List UInt8) : Prop :=
  ∀ cs : List Char, r.items = cs.map some →
    ∃ front, IsOpen r.awaited front ∧ bytes = cs.reverse.flatMap String.utf8EncodeChar ++ front

/-- Nothing more is asked of a reader that has refused something. -/
theorem holds_of_none_mem {r : Reader} (h : none ∈ r.items) (bytes : List UInt8) :
    r.Holds bytes := by
  intro cs h_items
  rw [h_items] at h
  obtain ⟨_, _, h_none⟩ := List.mem_map.mp h
  cases h_none

theorem none_mem_begin {items : List (Option Char)} (h : none ∈ items) (b : UInt8) :
    none ∈ (begin items b).items := by
  unfold begin
  split
  · exact List.mem_cons_of_mem _ h
  · exact h
  · exact List.mem_cons_of_mem _ h

variable {items : List (Option Char)} {bytes : List UInt8}

/-- The byte that completes a character. -/
theorem Holds.complete {awaited : Option Awaited} {b : UInt8} {c : Char}
    (h : Holds ⟨items, awaited⟩ bytes)
    (h_char : ∀ front, IsOpen awaited front → String.utf8EncodeChar c = front ++ [b]) :
    Holds ⟨some c :: items, none⟩ (bytes ++ [b]) := by
  intro cs h_items
  obtain ⟨d, cs, rfl, h_c, h_rest⟩ := List.map_eq_cons_iff.mp h_items.symm
  obtain rfl := Option.some.inj h_c
  obtain ⟨front, h_open, rfl⟩ := h cs h_rest.symm
  refine ⟨[], rfl, ?_⟩
  rw [List.reverse_cons, List.flatMap_append, List.flatMap_singleton, h_char front h_open,
    List.append_nil, List.append_assoc]

/-- A byte where no sequence is open. -/
theorem Holds.begin (h : Holds ⟨items, none⟩ bytes) (b : UInt8) :
    (Reader.begin items b).Holds (bytes ++ [b]) := by
  unfold Reader.begin
  split
  · next c h_lead =>
    refine h.complete fun front h_open => ?_
    rw [show front = [] from h_open]
    exact utf8EncodeChar_of_lead h_lead
  · next a h_lead =>
    intro cs h_items
    obtain ⟨front, h_open, h_bytes⟩ := h cs h_items
    have h_front : front = [] := h_open
    rw [h_front, List.append_nil] at h_bytes
    exact ⟨[b], isFor_of_lead h_lead, by rw [h_bytes]⟩
  · exact holds_of_none_mem List.mem_cons_self _

/-- **The step:** with each byte, what a reader has read of the bytes so far grows by that byte. -/
theorem Holds.step {r : Reader} (h : r.Holds bytes) (b : UInt8) :
    (r.step b).Holds (bytes ++ [b]) := by
  obtain ⟨items, awaited⟩ := r
  cases awaited with
  | none => exact h.begin b
  | some a =>
    obtain ⟨bits, least, greatest, more⟩ := a
    by_cases h_fits : least ≤ b ∧ b ≤ greatest
    · cases more with
      | zero =>
        rw [step_last items h_fits.1 h_fits.2]
        exact h.complete fun front h_open => h_open.last h_fits.1 h_fits.2
      | succ more =>
        rw [step_more items more h_fits.1 h_fits.2]
        intro cs h_items
        obtain ⟨front, h_open, rfl⟩ := h cs h_items
        exact ⟨front ++ [b], h_open.more h_fits.1 h_fits.2, List.append_assoc _ _ _⟩
    · -- the sequence breaks off, which is never forgotten
      rw [step_broken items h_fits]
      exact holds_of_none_mem (none_mem_begin List.mem_cons_self b) _

/-- **The run:** what holds of a reader holds behind further bytes. -/
theorem Holds.foldl {r : Reader} (h : r.Holds bytes) (rest : List UInt8) :
    (rest.foldl Reader.step r).Holds (bytes ++ rest) := by
  induction rest generalizing r bytes with
  | nil =>
    rw [List.append_nil]
    exact h
  | cons b rest ih =>
    rw [List.foldl_cons, List.append_cons]
    exact ih (h.step b)

/-- If all that a reader has read are characters, no sequence is left open. -/
theorem exists_of_all_isSome_finish {r : Reader} (h : r.finish.all Option.isSome = true) :
    ∃ cs : List Char, r = ⟨cs.map some, none⟩ := by
  obtain ⟨items, awaited⟩ := r
  cases awaited with
  | some a =>
    have h_none := List.all_eq_true.mp h none (List.mem_reverse.mpr List.mem_cons_self)
    cases h_none
  | none =>
    have h_items : (items.map (·.getD replacement)).map some = items := by
      rw [List.map_map]
      refine (List.map_congr_left fun item h_item => ?_).trans (List.map_id items)
      obtain ⟨c, rfl⟩ := Option.isSome_iff_exists.mp
        (List.all_eq_true.mp h item (List.mem_reverse.mpr h_item))
      rfl
    exact ⟨items.map (·.getD replacement), by rw [h_items]⟩

end Reader

/-- **Well-formed bytes are the encoding of what they read as.** -/
theorem encode_decode {bytes : List UInt8} (h : isWellFormed bytes = true) :
    encode (String.ofList (decode bytes)) = bytes := by
  obtain ⟨cs, h_reader⟩ := Reader.exists_of_all_isSome_finish h
  have h_start : Reader.Holds {} [] := by
    intro cs h_items
    rw [List.map_eq_nil_iff.mp h_items.symm]
    exact ⟨[], rfl, rfl⟩
  have h_holds := h_start.foldl bytes
  rw [h_reader] at h_holds
  obtain ⟨front, h_open, h_bytes⟩ := h_holds cs rfl
  have h_front : front = [] := h_open
  rw [h_front, List.append_nil, List.nil_append] at h_bytes
  have h_read : read bytes = (cs.map some).reverse := by
    rw [read, h_reader]
    rfl
  have h_decode : decode bytes = cs.reverse := by
    rw [decode, h_read, ← List.map_reverse, List.map_map]
    exact List.map_id _
  rw [encode, String.toList_ofList, h_decode, ← h_bytes]

end Utf8
end FileProfile.Bytes
