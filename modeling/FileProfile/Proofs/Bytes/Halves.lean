import FileProfile.Proofs.Bytes.Utf16
import FileProfile.Proofs.Bytes.WellFormed

/-!
# What UTF-16 loses

Units are not always the encoding of a text: a half of a character can be without its other half.
Such a half reads as the replacement character, which is a unit by itself, and so every unit keeps
its place. `getElem?_encode_decode` says that nothing else is lost: what units read as is written
with these units again, but for the lone halves.

Which halves are lone is said by places (`isLoneAt`): two places make a pair if a leading half is at
the first and a trailing half at the second. The reader knows nothing of places, only the leading
half that it has yet to complete. `mended` stands between the two. It goes through the units once and
looks at the unit in front and at the one behind: `getElem?_mended` ties it to places, and
`writtenAsMended` to the reader, in which an open half is as good as one that is still to come.
-/

namespace FileProfile.Bytes.Utf16

/-! ### Halves -/

theorem isTrailing_eq_false_of_isLeading {u : UInt16} (h : isLeading u = true) :
    isTrailing u = false := by
  have h_bounds := isLeading_iff.mp h
  exact isTrailing_eq_false (.inl h_bounds.2)

/-- A unit that is no half is the encoding of its character. -/
theorem encodeChar_charOfCode {u : UInt16} (h_leading : isLeading u = false)
    (h_trailing : isTrailing u = false) : encodeChar (charOfCode u.toNat) = [u] := by
  have h_lt : u.toNat < 65536 := u.toNat_lt
  rw [Bool.eq_false_iff, ne_eq, isLeading_iff] at h_leading
  rw [Bool.eq_false_iff, ne_eq, isTrailing_iff] at h_trailing
  have h_code : (charOfCode u.toNat).toNat = u.toNat := toNat_charOfCode (by omega)
  rw [encodeChar, h_code, if_pos h_lt, UInt16.ofNat_toNat]

/-- Two halves are the encoding of their character. -/
theorem encodeChar_pairChar {l t : UInt16} (hl : isLeading l = true) (ht : isTrailing t = true) :
    encodeChar (pairChar l t) = [l, t] := by
  obtain ⟨h_least, h_most⟩ := isLeading_iff.mp hl
  obtain ⟨h_least', h_most'⟩ := isTrailing_iff.mp ht
  have h_code : (pairChar l t).toNat =
      0x10000 + (l.toNat - 0xD800) * 0x400 + (t.toNat - 0xDC00) := toNat_charOfCode (by omega)
  have h_high : 0xD800 + (0x10000 + (l.toNat - 0xD800) * 0x400 + (t.toNat - 0xDC00) - 0x10000) /
      0x400 = l.toNat := by omega
  have h_low : 0xDC00 + (0x10000 + (l.toNat - 0xD800) * 0x400 + (t.toNat - 0xDC00) - 0x10000) %
      0x400 = t.toNat := by omega
  rw [encodeChar, h_code, if_neg (by omega)]
  simp only [h_high, h_low, UInt16.ofNat_toNat]

/-! ### Pairs by their places -/

/-- Whether the units at a place and behind it are the two halves of a character. -/
def isPairAt (us : List UInt16) (i : Nat) : Bool :=
  us[i]?.any isLeading && us[i + 1]?.any isTrailing

/-- Whether the unit at a place is a half without its other half. -/
def isLoneAt (us : List UInt16) (i : Nat) : Bool :=
  us[i]?.any (fun u => isLeading u || isTrailing u) &&
    !(isPairAt us i || (0 < i && isPairAt us (i - 1)))

/-- The unit of the replacement character. -/
def replacementUnit : UInt16 := 0xFFFD

/-- Units with lone halves replaced, behind a unit that is a leading half or is not. -/
def mended (behindLeading : Bool) : List UInt16 → List UInt16
  | [] => []
  | u :: us =>
    (if isLeading u then if us.head?.any isTrailing then u else replacementUnit
      else if isTrailing u then if behindLeading then u else replacementUnit
      else u) :: mended (isLeading u) us

theorem length_mended (behindLeading : Bool) (us : List UInt16) :
    (mended behindLeading us).length = us.length := by
  induction us generalizing behindLeading with
  | nil => rfl
  | cons u us ih => rw [mended, List.length_cons, List.length_cons, ih]

/-- Whether a half is lone does not depend on what stands two places in front of it. -/
theorem isLoneAt_cons (before : UInt16) (us : List UInt16) (i : Nat) :
    isLoneAt (before :: us) (i + 2) = isLoneAt us (i + 1) := by
  unfold isLoneAt isPairAt
  simp

/-- Behind a unit that is no leading half, a half is as lone as behind none. -/
theorem isLoneAt_cons_of_not_isLeading {before : UInt16} (h : isLeading before = false)
    (us : List UInt16) (i : Nat) : isLoneAt (before :: us) (i + 1) = isLoneAt us i := by
  cases i with
  | zero =>
    unfold isLoneAt isPairAt
    simp [h]
  | succ i => exact isLoneAt_cons before us i

/-- Whether a half is lone depends on the unit in front of it and on the one behind it. -/
theorem isLoneAt_second (before u : UInt16) (us : List UInt16) :
    isLoneAt (before :: u :: us) 1 = ((isLeading u || isTrailing u) &&
      !((isLeading u && us.head?.any isTrailing) || (isLeading before && isTrailing u))) := by
  unfold isLoneAt isPairAt
  simp [List.head?_eq_getElem?]

/-- **Unit by unit,** behind a unit `before`. -/
theorem getElem?_mended_behind (before : UInt16) (us : List UInt16) (i : Nat) :
    (mended (isLeading before) us)[i]? =
      us[i]?.map fun u => if isLoneAt (before :: us) (i + 1) then replacementUnit else u := by
  induction us generalizing before i with
  | nil => rfl
  | cons u us ih =>
    cases i with
    | zero =>
      rw [mended, List.getElem?_cons_zero, List.getElem?_cons_zero, Option.map_some,
        isLoneAt_second]
      congr 1
      cases h_leading : isLeading u with
      | true =>
        -- a leading half needs its other half behind it
        rw [isTrailing_eq_false_of_isLeading h_leading]
        cases us.head?.any isTrailing <;> cases isLeading before <;> rfl
      | false =>
        -- a trailing half needs its other half in front of it
        cases isTrailing u <;> cases isLeading before <;> rfl
    | succ i => rw [mended, List.getElem?_cons_succ, List.getElem?_cons_succ, ih, isLoneAt_cons]

theorem getElem?_mended (us : List UInt16) (i : Nat) :
    (mended false us)[i]? =
      us[i]?.map fun u => if isLoneAt us i then replacementUnit else u := by
  have h_zero : isLeading 0 = false := by decide
  have h_behind := getElem?_mended_behind 0 us i
  rw [h_zero, isLoneAt_cons_of_not_isLeading h_zero] at h_behind
  exact h_behind

/-! ### What the reader makes of halves -/

/-- The units of what was read, the replacement character for what has no meaning. -/
def written (items : List (Option Char)) : List UInt16 :=
  items.flatMap fun item => encodeChar (item.getD replacement)

theorem written_append (front back : List (Option Char)) :
    written (front ++ back) = written front ++ written back := List.flatMap_append

theorem written_none : written [none] = [replacementUnit] := by decide

theorem written_some (c : Char) : written [some c] = encodeChar c := by
  rw [written, List.flatMap_singleton, Option.getD_some]

namespace Reader

variable (items : List (Option Char)) {u l : UInt16}

/-- A leading half is kept open. -/
theorem step_leading (h : isLeading u = true) : step ⟨items, none⟩ u = ⟨items, some u⟩ :=
  if_pos h

/-- A unit that is no leading half is read at once. -/
theorem step_of_not_isLeading (h : isLeading u = false) : step ⟨items, none⟩ u =
    ⟨(if isTrailing u then none else some (charOfCode u.toNat)) :: items, none⟩ := by
  change begin items u = _
  rw [begin, if_neg (by rw [h]; decide)]
  split <;> rfl

/-- The other half completes an open half. -/
theorem step_other_half (h : isTrailing u = true) :
    step ⟨items, some l⟩ u = ⟨some (pairChar l u) :: items, none⟩ := if_pos h

/-- An open half that is not completed is refused, and the unit is read where no half is open. -/
theorem step_not_other_half (h : isTrailing u = false) :
    step ⟨items, some l⟩ u = step ⟨none :: items, none⟩ u := if_neg (by rw [h]; decide)

end Reader

/-- What a reader makes of units that are still to come, where no half is open: they are written
again with their lone halves replaced. -/
def WrittenAsMended (us : List UInt16) : Prop :=
  ∀ items : List (Option Char), written (us.foldl Reader.step ⟨items, none⟩).finish =
    written items.reverse ++ mended false us

/-- An item that is read in front is written in front. -/
theorem WrittenAsMended.behind {us : List UInt16} (h : WrittenAsMended us) (item : Option Char)
    (items : List (Option Char)) :
    written (us.foldl Reader.step ⟨item :: items, none⟩).finish =
      written items.reverse ++ (written [item] ++ mended false us) := by
  rw [h, List.reverse_cons, written_append, List.append_assoc]

/-- Behind a leading half, too, units are mended by themselves if they do not complete it. -/
theorem mended_of_not_isTrailing {us : List UInt16} (h : us.head?.any isTrailing = false)
    (behindLeading : Bool) : mended behindLeading us = mended false us := by
  cases us with
  | nil => rfl
  | cons u us =>
    have h_u : isTrailing u = false := h
    rw [mended, mended, h_u]
    rfl

/-- A leading half that is not completed is replaced. -/
theorem mended_cons_lone {l : UInt16} (hl : isLeading l = true) {us : List UInt16}
    (h : us.head?.any isTrailing = false) :
    mended false (l :: us) = replacementUnit :: mended false us := by
  rw [mended, hl, h, mended_of_not_isTrailing h]
  rfl

/-- Two halves are kept. -/
theorem mended_cons_pair {l t : UInt16} (hl : isLeading l = true) (ht : isTrailing t = true)
    (us : List UInt16) : mended false (l :: t :: us) = l :: t :: mended false us := by
  have h_not : isLeading t = false := by
    cases h : isLeading t with
    | false => rfl
    | true => rw [isTrailing_eq_false_of_isLeading h] at ht; cases ht
  rw [mended, mended, hl, h_not, ht, List.head?_cons, Option.any_some, ht]
  rfl

/-- Behind no half, a unit that is no leading half is replaced if it is a trailing one. -/
theorem mended_cons_of_not_isLeading {u : UInt16} (h : isLeading u = false) (us : List UInt16) :
    mended false (u :: us) =
      written [if isTrailing u then none else some (charOfCode u.toNat)] ++ mended false us := by
  rw [mended, h]
  cases h_trailing : isTrailing u with
  | true =>
    change replacementUnit :: _ = written [none] ++ _
    rw [written_none]
    rfl
  | false =>
    change u :: _ = written [some (charOfCode u.toNat)] ++ _
    rw [written_some, encodeChar_charOfCode h h_trailing]
    rfl

/-- **What is read is written as mended.** Along with units, the induction takes units behind a
leading half, because a reader keeps such a half open until it sees the next unit. -/
theorem writtenAsMended (us : List UInt16) :
    WrittenAsMended us ∧ ∀ l, isLeading l = true → WrittenAsMended (l :: us) := by
  induction us with
  | nil =>
    refine ⟨fun items => (List.append_nil _).symm, fun l hl items => ?_⟩
    -- no unit follows that could complete the half
    rw [List.foldl_cons, Reader.step_leading items hl, mended_cons_lone hl rfl]
    change written (none :: items).reverse = _
    rw [List.reverse_cons, written_append, written_none]
    rfl
  | cons u us ih =>
    obtain ⟨h_us, h_open⟩ := ih
    have h_cons : WrittenAsMended (u :: us) := by
      cases h_leading : isLeading u with
      | true => exact h_open u h_leading
      | false =>
        intro items
        rw [List.foldl_cons, Reader.step_of_not_isLeading items h_leading, h_us.behind,
          mended_cons_of_not_isLeading h_leading]
    refine ⟨h_cons, fun l hl items => ?_⟩
    rw [List.foldl_cons, Reader.step_leading items hl, List.foldl_cons]
    cases h_trailing : isTrailing u with
    | true =>
      rw [Reader.step_other_half items h_trailing, h_us.behind, written_some,
        encodeChar_pairChar hl h_trailing, mended_cons_pair hl h_trailing]
      rfl
    | false =>
      -- the half is refused, and the unit is read as if it came next
      have h_head : (u :: us).head?.any isTrailing = false := h_trailing
      rw [Reader.step_not_other_half items h_trailing, ← List.foldl_cons, h_cons.behind,
        written_none, mended_cons_lone hl h_head]
      rfl

/-! ### Texts -/

/-- The units of the bytes that a text is written as are the units of its characters. -/
theorem units_encode (order : ByteOrder) (text : String) :
    units order (encode order text) = text.toList.flatMap encodeChar :=
  units_flatMap_bytes order _

/-- What bytes read as is written with their units, lone halves replaced. -/
theorem units_encode_decode (order : ByteOrder) (bytes : List UInt8) :
    units order (encode order (String.ofList (decode order bytes))) =
      mended false (units order bytes) := by
  have h_read : written (read (units order bytes)) = mended false (units order bytes) :=
    (writtenAsMended (units order bytes)).1 []
  rw [units_encode, String.toList_ofList, decode, List.flatMap_map, ← h_read]
  rfl

/-- **Nothing is lost but lone halves:** what bytes read as is written with the same units, unit by
unit, but that each half without its other half is replaced. -/
theorem getElem?_encode_decode (order : ByteOrder) (bytes : List UInt8) (i : Nat) :
    (units order (encode order (String.ofList (decode order bytes))))[i]? =
      (units order bytes)[i]?.map fun u =>
        if isLoneAt (units order bytes) i then replacementUnit else u := by
  rw [units_encode_decode, getElem?_mended]

theorem length_encode_decode (order : ByteOrder) (bytes : List UInt8) :
    (units order (encode order (String.ofList (decode order bytes)))).length =
      (units order bytes).length := by
  rw [units_encode_decode, length_mended]

end FileProfile.Bytes.Utf16
