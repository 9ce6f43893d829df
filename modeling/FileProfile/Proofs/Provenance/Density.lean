import Mathlib
import FileProfile.Provenance.Minified

/-!
# The share of white space as a double

Whether less than a tenth of a line is white space is told by whole numbers, `isDense`. A machine
that divides finds the same: for a line of fewer than 2⁵³ characters, the double nearest to the
share of white space is less than the one nearest to a tenth exactly where the line is dense
(`isDense_iff_quotient_lt`).

A tenth lies between two neighbouring doubles, and nearer to the upper one. A share of exactly a
tenth is rounded as the tenth is. A share below a tenth is so by more than a tenth of 2⁻⁵³, which is
more than the lower of the two doubles is; so it is not rounded up beyond that one.
-/

namespace FileProfile.Provenance

/-! ### Doubles -/

/-- The doubles that are not negative and not infinite. -/
def IsDouble (x : ℚ) : Prop :=
  ∃ (m : ℕ) (e : ℤ), m < 2 ^ 53 ∧ -1074 ≤ e ∧ e ≤ 971 ∧ x = m * 2 ^ e

/-- `y` is a double, and none is nearer to `x`. -/
def IsNearest (x y : ℚ) : Prop := IsDouble y ∧ ∀ z, IsDouble z → |x - y| ≤ |x - z|

variable {x x' y y' : ℚ}

theorem isDouble_natCast {n : ℕ} (h : n < 2 ^ 53) : IsDouble n :=
  ⟨n, 0, h, by norm_num, by norm_num, by norm_num⟩

theorem isNearest_self (h : IsDouble x) : IsNearest x x := by
  refine ⟨h, fun z _ => ?_⟩
  rw [sub_self, abs_zero]
  exact abs_nonneg _

theorem IsNearest.eq_of_isDouble (h : IsNearest x y) (hx : IsDouble x) : y = x := by
  have h_le := h.2 x hx
  rw [sub_self, abs_zero] at h_le
  exact (sub_eq_zero.mp (abs_nonpos_iff.mp h_le)).symm

/-- A double below the nearest one is too far below. -/
theorem IsNearest.add_le (h : IsNearest x y) {z : ℚ} (hz : IsDouble z) (h_lt : z < y) :
    y + z ≤ 2 * x := by
  have h_near := sq_le_sq.mpr (h.2 z hz)
  nlinarith

/-- A double above the nearest one is too far above. -/
theorem IsNearest.le_add (h : IsNearest x y) {z : ℚ} (hz : IsDouble z) (h_lt : y < z) :
    2 * x ≤ y + z := by
  have h_near := sq_le_sq.mpr (h.2 z hz)
  nlinarith

/-- Rounding keeps the order. -/
theorem IsNearest.le_of_lt (h : IsNearest x y) (h' : IsNearest x' y') (h_lt : x < x') : y ≤ y' := by
  by_contra h_not
  have h_below := h.add_le h'.1 (lt_of_not_ge h_not)
  have h_above := h'.le_add h.1 (lt_of_not_ge h_not)
  linarith

/-! ### Doubles near a tenth -/

/-- The greatest double below a tenth. -/
def belowTenth : ℚ := 7205759403792793 * 2 ^ (-56 : ℤ)

/-- The least double above a tenth. -/
def aboveTenth : ℚ := 7205759403792794 * 2 ^ (-56 : ℤ)

theorem isDouble_belowTenth : IsDouble belowTenth :=
  ⟨7205759403792793, -56, by norm_num, by norm_num, by norm_num, rfl⟩

theorem isDouble_aboveTenth : IsDouble aboveTenth :=
  ⟨7205759403792794, -56, by norm_num, by norm_num, by norm_num, rfl⟩

/-- There is no double between these two. -/
theorem IsDouble.le_or_le (h : IsDouble x) : x ≤ belowTenth ∨ aboveTenth ≤ x := by
  obtain ⟨m, e, h_m, -, -, rfl⟩ := h
  have h_unit : (0 : ℚ) < 2 ^ (-56 : ℤ) := by positivity
  by_cases h_e : -56 ≤ e
  · -- with such an exponent, a double is a whole number of the same parts
    obtain ⟨k, h_k⟩ := Int.eq_ofNat_of_zero_le (show 0 ≤ e + 56 by omega)
    have h_whole : (m * 2 ^ e : ℚ) = (m * 2 ^ k : ℕ) * 2 ^ (-56 : ℤ) := by
      rw [show e = k + -56 by omega, zpow_add₀ two_ne_zero, zpow_natCast, ← mul_assoc]
      push_cast
      rfl
    rw [h_whole, belowTenth, aboveTenth, mul_le_mul_iff_left₀ h_unit, mul_le_mul_iff_left₀ h_unit]
    norm_cast
    exact (Nat.lt_or_ge 7205759403792793 (m * 2 ^ k)).symm
  · -- with a smaller one, it is not even half as large
    have h_small : (2 : ℚ) ^ e ≤ 2 ^ (-57 : ℤ) := zpow_le_zpow_right₀ one_le_two (by omega)
    have h_few : (m : ℚ) ≤ 2 ^ 53 := by exact_mod_cast h_m.le
    left
    calc (m * 2 ^ e : ℚ) ≤ 2 ^ 53 * 2 ^ (-57 : ℤ) := by gcongr
      _ ≤ belowTenth := by norm_num [belowTenth]

/-- **A tenth is rounded up,** and no other double is as near to it. -/
theorem isNearest_tenth_iff : IsNearest (1 / 10) y ↔ y = aboveTenth := by
  have h_above : |1 / 10 - aboveTenth| = aboveTenth - 1 / 10 := by
    rw [abs_sub_comm, abs_of_pos]
    norm_num [aboveTenth]
  have h_closer : aboveTenth - 1 / 10 < 1 / 10 - belowTenth := by
    norm_num [aboveTenth, belowTenth]
  constructor
  · intro h
    have h_near := h.2 aboveTenth isDouble_aboveTenth
    rw [h_above] at h_near
    -- a double below the tenth is farther away than the one above it
    rcases h.1.le_or_le with h_le | h_le
    · linarith [le_abs_self (1 / 10 - y)]
    · linarith [neg_abs_le (1 / 10 - y)]
  · rintro rfl
    refine ⟨isDouble_aboveTenth, ?_⟩
    intro z hz
    rw [h_above]
    rcases hz.le_or_le with h_le | h_le
    · linarith [le_abs_self (1 / 10 - z)]
    · linarith [neg_abs_le (1 / 10 - z)]

theorem IsNearest.lt_aboveTenth (h : IsNearest x y) (h_le : x ≤ belowTenth) : y < aboveTenth := by
  have h_lt : belowTenth < aboveTenth := by norm_num [aboveTenth, belowTenth]
  by_contra h_not
  linarith [h.add_le isDouble_belowTenth (lt_of_lt_of_le h_lt (le_of_not_gt h_not))]

theorem IsNearest.aboveTenth_le (h : IsNearest x y) (h_le : 1 / 10 ≤ x) : aboveTenth ≤ y := by
  rcases h_le.eq_or_lt with rfl | h_lt
  · exact (isNearest_tenth_iff.mp h).ge
  · exact (isNearest_tenth_iff.mpr rfl).le_of_lt h h_lt

/-- A share of few parts that is less than a tenth is less by a double at least. -/
theorem div_le_belowTenth {b n : ℕ} (h_short : n < 2 ^ 53) (h_lt : 10 * b < n) :
    (b / n : ℚ) ≤ belowTenth := by
  have h_pos : (0 : ℚ) < n := by exact_mod_cast Nat.zero_lt_of_lt h_lt
  have h_parts : (10 * b + 1 : ℚ) ≤ n := by exact_mod_cast h_lt
  have h_few : (n : ℚ) < 9007199254740992 := by exact_mod_cast h_short
  rw [div_le_iff₀ h_pos, belowTenth]
  norm_num
  linarith

/-! ### Dense lines -/

theorem isDense_iff {line : String} : isDense line = true ↔
    10 * line.toList.countP Text.isBlank < line.toList.length :=
  decide_eq_true_iff

/-- **A line is dense where its share of white space is less than a tenth in doubles.** -/
theorem isDense_iff_quotient_lt {line : String} (h_short : line.toList.length < 2 ^ 53)
    {blanks length quotient tenth : ℚ} (h_blanks : IsNearest (line.toList.countP Text.isBlank) blanks)
    (h_length : IsNearest line.toList.length length) (h_quotient : IsNearest (blanks / length) quotient)
    (h_tenth : IsNearest (1 / 10) tenth) :
    isDense line = true ↔ line ≠ "" ∧ quotient < tenth := by
  -- both numbers are doubles themselves
  have h_le := List.countP_le_length (p := Text.isBlank) (l := line.toList)
  obtain rfl := h_blanks.eq_of_isDouble (isDouble_natCast (Nat.lt_of_le_of_lt h_le h_short))
  obtain rfl := h_length.eq_of_isDouble (isDouble_natCast h_short)
  have h_empty : line ≠ "" ↔ 0 < line.toList.length := by
    rw [List.length_pos_iff, ne_eq, ne_eq, String.toList_eq_nil_iff]
  obtain rfl := isNearest_tenth_iff.mp h_tenth
  rw [isDense_iff, h_empty]
  constructor
  · intro h_dense
    exact ⟨Nat.zero_lt_of_lt h_dense, h_quotient.lt_aboveTenth (div_le_belowTenth h_short h_dense)⟩
  · -- a share of a tenth or more is not rounded to less than a tenth is
    rintro ⟨h_pos, h_quot⟩
    by_contra h_not
    have h_share : (1 / 10 : ℚ) ≤ line.toList.countP Text.isBlank / line.toList.length := by
      rw [div_le_div_iff₀ (by norm_num) (by exact_mod_cast h_pos)]
      rw [one_mul, mul_comm]
      exact_mod_cast Nat.le_of_not_lt h_not
    exact absurd h_quot (h_quotient.aboveTenth_le h_share).not_gt

end FileProfile.Provenance
