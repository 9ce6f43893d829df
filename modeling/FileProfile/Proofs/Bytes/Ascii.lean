import FileProfile.Proofs.Bytes.WellFormed

/-!
# ASCII bytes in UTF-8

A byte below 0x80 is a character by itself wherever it stands, also behind a sequence that it breaks
off. So bytes read the same in front of it and behind it as they do alone: `decode_append_ascii`.
What carries this is that the reader waits for bytes from 0x80 on only (`Reader.AwaitsTail`), and
that what it has read before has no part in what it reads from then on (`Reader.foldl_step_above`).

The other way round, an ASCII byte is in the encoding of a text only where the character is
(`mem_encode_ascii_iff`).
-/

namespace FileProfile.Bytes.Utf8

variable {b : UInt8}

namespace Reader

/-- The next byte of a sequence is none below 0x80. -/
def AwaitsTail (r : Reader) : Prop := ∀ a, r.awaited = some a → 0x80 ≤ a.least

/-- The reader with earlier items below its own. -/
def above (r : Reader) (earlier : List (Option Char)) : Reader :=
  { r with items := r.items ++ earlier }

variable {r : Reader} {earlier items : List (Option Char)}

theorem le_least_of_lead {a : Awaited} (h : lead b = .opens a) : 0x80 ≤ a.least := by
  obtain ⟨-, rfl⟩ | ⟨-, rfl⟩ | ⟨-, rfl⟩ := opens_cases h
  · exact UInt8.le_refl _
  · dsimp only
    split <;> decide
  · dsimp only
    split <;> decide

theorem awaitsTail_begin (items : List (Option Char)) (b : UInt8) :
    (begin items b).AwaitsTail := by
  intro a h
  unfold begin at h
  split at h
  · cases h
  · next a' h_lead =>
    obtain rfl := Option.some.inj h
    exact le_least_of_lead h_lead
  · cases h

/-- **The step:** whatever is awaited next begins at 0x80. -/
theorem awaitsTail_step (r : Reader) (b : UInt8) : (r.step b).AwaitsTail := by
  obtain ⟨items, awaited⟩ := r
  cases awaited with
  | none => exact awaitsTail_begin items b
  | some a =>
    obtain ⟨bits, least, greatest, more⟩ := a
    by_cases h_fits : least ≤ b ∧ b ≤ greatest
    · cases more with
      | zero =>
        -- the sequence is complete, and nothing is awaited
        rw [step_last items h_fits.1 h_fits.2]
        exact fun a h => (by cases h)
      | succ more =>
        rw [step_more items more h_fits.1 h_fits.2]
        intro a h
        obtain rfl := Option.some.inj h
        exact UInt8.le_refl _
    · rw [step_broken items h_fits]
      exact awaitsTail_begin _ b

/-- The run. -/
theorem AwaitsTail.foldl (h : r.AwaitsTail) (bytes : List UInt8) :
    (bytes.foldl Reader.step r).AwaitsTail := by
  induction bytes generalizing r with
  | nil => exact h
  | cons b bytes ih => exact ih (awaitsTail_step r b)

theorem awaitsTail_empty : AwaitsTail {} := fun _ h => (by cases h)

theorem above_begin (items earlier : List (Option Char)) (b : UInt8) :
    (begin items b).above earlier = begin (items ++ earlier) b := by
  unfold begin
  split <;> rfl

theorem step_above (r : Reader) (earlier : List (Option Char)) (b : UInt8) :
    (r.above earlier).step b = (r.step b).above earlier := by
  obtain ⟨items, awaited⟩ := r
  cases awaited with
  | none => exact (above_begin items earlier b).symm
  | some a =>
    obtain ⟨bits, least, greatest, more⟩ := a
    by_cases h_fits : least ≤ b ∧ b ≤ greatest
    · cases more with
      | zero =>
        rw [step_last items h_fits.1 h_fits.2]
        exact step_last _ h_fits.1 h_fits.2
      | succ more =>
        rw [step_more items more h_fits.1 h_fits.2]
        exact step_more _ more h_fits.1 h_fits.2
    · rw [step_broken items h_fits, above_begin]
      exact step_broken _ h_fits

/-- **What has been read before** has no part in what is read from then on. -/
theorem foldl_step_above (bytes : List UInt8) (r : Reader) (earlier : List (Option Char)) :
    bytes.foldl step (r.above earlier) = (bytes.foldl step r).above earlier := by
  induction bytes generalizing r with
  | nil => rfl
  | cons b bytes ih => rw [List.foldl_cons, List.foldl_cons, step_above, ih]

theorem finish_above (r : Reader) (earlier : List (Option Char)) :
    (r.above earlier).finish = earlier.reverse ++ r.finish := by
  obtain ⟨items, awaited⟩ := r
  cases awaited with
  | none => exact List.reverse_append
  | some a => exact @List.reverse_append _ (none :: items) earlier

/-- An ASCII byte ends whatever was begun, and is a character. -/
theorem step_ascii (h : r.AwaitsTail) (hb : b.toNat < 0x80) :
    r.step b = Reader.above {} (some (charOfCode b.toNat) :: r.finish.reverse) := by
  obtain ⟨items, awaited⟩ := r
  have h_begin (items : List (Option Char)) :
      begin items b = ⟨some (charOfCode b.toNat) :: items, none⟩ := by
    rw [begin, lead_ascii hb]
  cases awaited with
  | none =>
    refine (h_begin items).trans ?_
    rw [finish, List.reverse_reverse]
    rfl
  | some a =>
    -- an ASCII byte is below all that can be awaited, so the sequence breaks off
    have h_least := UInt8.le_iff_toNat_le.mp (h a rfl)
    have h_out : ¬ (a.least ≤ b ∧ b ≤ a.greatest) := by
      rintro ⟨h_from, -⟩
      have h_le := Nat.le_trans h_least (UInt8.le_iff_toNat_le.mp h_from)
      exact absurd hb (Nat.not_lt.mpr h_le)
    rw [step_broken items h_out, h_begin, finish, List.reverse_reverse]
    rfl

end Reader

open Reader in
/-- **Around an ASCII byte** bytes read as they do alone. -/
theorem read_append_ascii (hb : b.toNat < 0x80) (l r : List UInt8) :
    read (l ++ b :: r) = read l ++ some (charOfCode b.toNat) :: read r := by
  rw [read, List.foldl_append, List.foldl_cons, step_ascii (awaitsTail_empty.foldl l) hb,
    foldl_step_above, finish_above, List.reverse_cons, List.reverse_reverse, List.append_assoc,
    List.singleton_append, read, read]

theorem decode_append_ascii (hb : b.toNat < 0x80) (l r : List UInt8) :
    decode (l ++ b :: r) = decode l ++ charOfCode b.toNat :: decode r := by
  rw [decode, read_append_ascii hb, List.map_append, List.map_cons, Option.getD_some, decode,
    decode]

/-- In the encoding of a character, an ASCII byte is the character: behind or in front of it there
would be another one. -/
theorem eq_of_mem_utf8EncodeChar {c : Char} (hb : b.toNat < 0x80)
    (h : b ∈ String.utf8EncodeChar c) : charOfCode b.toNat = c := by
  obtain ⟨l, r, h_cut⟩ := List.append_of_mem h
  -- the bytes of a character read as that character, but also as what the cut at `b` says
  have h_single : decode (String.utf8EncodeChar c) = [c] := by
    have h_decode := decode_encode (String.ofList [c])
    rw [encode, String.toList_ofList, List.flatMap_singleton] at h_decode
    exact h_decode
  rw [h_cut, decode_append_ascii hb] at h_single
  obtain ⟨-, h_rest⟩ | ⟨h_left, h_right⟩ := List.append_eq_singleton_iff.mp h_single
  · exact (List.cons.inj h_rest).1
  · cases h_right

/-- **ASCII bytes** are in the encoding of a text exactly if the characters are in the text. -/
theorem mem_encode_ascii_iff {text : String} (hb : b.toNat < 0x80) :
    b ∈ encode text ↔ charOfCode b.toNat ∈ text.toList := by
  rw [encode, List.mem_flatMap]
  constructor
  · rintro ⟨c, hc, h_mem⟩
    rw [eq_of_mem_utf8EncodeChar hb h_mem]
    exact hc
  · intro hc
    refine ⟨_, hc, ?_⟩
    rw [utf8EncodeChar_ascii hb]
    exact List.mem_singleton.mpr rfl

end FileProfile.Bytes.Utf8
