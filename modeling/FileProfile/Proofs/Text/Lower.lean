import FileProfile.Text.Lower

/-!
# Lower case beyond ASCII

Full lower case replaces a character by one or by several, and the sigma by one of two letters that
depend on what stands around it. All that keys in ASCII need to know of it is in `LowerForm`: there
is one form of a character in ASCII and of the Kelvin sign, and any form of another character has
something in it that is not in ASCII. So whatever full lower case does to a text, it makes a text in
ASCII of it exactly if `Text.lower` does, and then the same one (`IsLowering.eq_iff`).
-/

namespace FileProfile.Text

/-- All characters are in ASCII. -/
def IsAscii (cs : List Char) : Prop := ∀ c ∈ cs, c.toNat < 128

/-- What a character may become in lower case. -/
inductive LowerForm : Char → List Char → Prop
  | ascii {c} : c.toNat < 128 → LowerForm c [c.toLower]
  | kelvin : LowerForm '\u212A' ['k']
  | other {c d form} : 128 ≤ c.toNat → c ≠ '\u212A' → d ∈ form → 128 ≤ d.toNat → LowerForm c form

/-- What a text may become in lower case: forms of its characters, in order. -/
inductive LowerForms : List Char → List Char → Prop
  | nil : LowerForms [] []
  | cons {c form cs rest} : LowerForm c form → LowerForms cs rest →
      LowerForms (c :: cs) (form ++ rest)

/-- A way of lower-casing texts, such as the full one. -/
def IsLowering (lower : String → String) : Prop := ∀ s, LowerForms s.toList (lower s).toList

variable {c : Char} {form cs w : List Char} {lower : String → String} {s key : String}

/-! ### Characters -/

theorem toLower_of_le (h : 128 ≤ c.toNat) : c.toLower = c := by
  have h_capital : ¬ (c.val ≥ 'A'.val ∧ c.val ≤ 'Z'.val) := by
    rintro ⟨-, h_Z⟩
    have h_nat : c.toNat ≤ 90 := h_Z
    omega
  exact dif_neg h_capital

theorem toNat_toLower_lt (h : c.toNat < 128) : c.toLower.toNat < 128 := by
  have h_all : ∀ n < 128, (Char.ofNat n).toLower.toNat < 128 := by decide
  have h_char := h_all c.toNat h
  rwa [Char.ofNat_toNat] at h_char

theorem lowerChar_of_lt (h : c.toNat < 128) : lowerChar c = c.toLower := by
  apply if_neg
  rintro rfl
  exact absurd h (by decide)

theorem lowerChar_of_le (h : 128 ≤ c.toNat) (h_kelvin : c ≠ '\u212A') : lowerChar c = c := by
  rw [lowerChar, if_neg h_kelvin, toLower_of_le h]

theorem toNat_lowerChar_lt (h : c.toNat < 128) : (lowerChar c).toNat < 128 := by
  rw [lowerChar_of_lt h]
  exact toNat_toLower_lt h

theorem lowerForm_lowerChar (c : Char) : LowerForm c [lowerChar c] := by
  by_cases h : c.toNat < 128
  · rw [lowerChar_of_lt h]
    exact .ascii h
  · by_cases h_kelvin : c = '\u212A'
    · subst h_kelvin
      exact .kelvin
    · have h_le : 128 ≤ c.toNat := Nat.le_of_not_lt h
      rw [lowerChar_of_le h_le h_kelvin]
      exact .other h_le h_kelvin (List.mem_singleton_self c) h_le

/-- There is one form of a character, unless no form of it is in ASCII. -/
theorem LowerForm.eq (h : LowerForm c form)
    (h_ascii : IsAscii form ∨ (lowerChar c).toNat < 128) : form = [lowerChar c] := by
  cases h with
  | ascii h_lt => rw [lowerChar_of_lt h_lt]
  | kelvin => rfl
  | other h_le h_kelvin hd h_d =>
    -- neither this form nor the character itself is in ASCII
    rw [lowerChar_of_le h_le h_kelvin] at h_ascii
    rcases h_ascii with h_form | h_char
    · exact absurd (h_form _ hd) (Nat.not_lt_of_le h_d)
    · exact absurd h_char (Nat.not_lt_of_le h_le)

/-! ### Texts -/

theorem isAscii_cons : IsAscii (c :: cs) ↔ c.toNat < 128 ∧ IsAscii cs := List.forall_mem_cons

theorem isAscii_append : IsAscii (form ++ cs) ↔ IsAscii form ∧ IsAscii cs :=
  List.forall_mem_append

theorem LowerForms.eq (h : LowerForms cs w) (h_ascii : IsAscii w ∨ IsAscii (cs.map lowerChar)) :
    w = cs.map lowerChar := by
  induction h with
  | nil => rfl
  | cons h_form _ ih =>
    rw [List.map_cons, isAscii_append, isAscii_cons] at h_ascii
    rw [h_form.eq (h_ascii.imp And.left And.left), ih (h_ascii.imp And.right And.right)]
    rfl

theorem isLowering_lower : IsLowering Text.lower := by
  intro s
  rw [Text.lower, String.toList_map]
  induction s.toList with
  | nil => exact .nil
  | cons c cs ih => exact .cons (lowerForm_lowerChar c) ih

theorem isAscii_lower (h : IsAscii s.toList) : IsAscii (Text.lower s).toList := by
  rw [Text.lower, String.toList_map]
  intro c hc
  obtain ⟨d, hd, rfl⟩ := List.mem_map.mp hc
  exact toNat_lowerChar_lt (h d hd)

/-- **For a key in ASCII, there is one lower case.** -/
theorem IsLowering.eq_iff (h : IsLowering lower) (h_key : IsAscii key.toList) :
    lower s = key ↔ Text.lower s = key := by
  have h_forms := h s
  have h_map : (Text.lower s).toList = s.toList.map lowerChar := String.toList_map
  -- either way one of the two is the key, and so in ASCII
  constructor
  · rintro rfl
    apply String.toList_inj.mp
    rw [h_map]
    exact (h_forms.eq (.inl h_key)).symm
  · rintro rfl
    apply String.toList_inj.mp
    rw [h_map] at h_key ⊢
    exact h_forms.eq (.inr h_key)

/-- Which texts are the same as one in ASCII but for their case does not depend on the lower case
either. -/
theorem IsLowering.eq_lower_iff (h : IsLowering lower) (h_key : IsAscii key.toList) :
    lower s = lower key ↔ Text.lower s = Text.lower key := by
  have h_lower := isAscii_lower h_key
  have h_same : lower key = Text.lower key := (h.eq_iff h_lower).mpr rfl
  rw [h_same]
  exact h.eq_iff h_lower

end FileProfile.Text
