import FileProfile.Text.Decimal
import Mathlib.Data.List.Basic

/-!
# Decimal digits, written and read back

What `toDigits` writes is read back by `ofDigits`, consists of digits, and has no zero in front
unless it is zero itself. These are the facts about numbers that a reader of words has to know.
-/

namespace FileProfile.Text

/-- The digits of a number write it. -/
theorem ofDigits_toDigits (n : Nat) : ofDigits (toDigits n) = n := by
  have h_step : (fun (n : Nat) (c : Char) => n * 10 + (c.toNat - '0'.toNat)) =
      fun n c => 10 * n + (c.toNat - '0'.toNat) := by
    funext n c
    rw [Nat.mul_comm]
  rw [ofDigits, h_step]
  exact Nat.ofDigitChars_toDigits (by decide) (by decide)

theorem isDigit_of_mem_toDigits {n : Nat} {c : Char} (h : c ∈ toDigits n) : c.isDigit = true :=
  Nat.isDigit_of_mem_toDigits (by decide) (by decide) h

theorem toDigits_ne_nil (n : Nat) : toDigits n ≠ [] := Nat.toDigits_ne_nil

/-- Only zero is written with a zero in front. The induction is on the number, by its leading
digits. -/
theorem eq_zero_of_head?_toDigits {n : Nat} (h : (toDigits n).head? = some '0') : n = 0 := by
  induction n using Nat.strongRecOn with
  | ind n ih =>
    by_cases h_small : n < 10
    · have h_digit : toDigits n = [n.digitChar] := Nat.toDigits_of_lt_base h_small
      rw [h_digit] at h
      have h_digits : ∀ m : Fin 10, m.1.digitChar = '0' → m.1 = 0 := by decide
      exact h_digits ⟨n, h_small⟩ (Option.some.inj h)
    · have h_large : 10 ≤ n := Nat.le_of_not_lt h_small
      have h_split : toDigits n = toDigits (n / 10) ++ [(n % 10).digitChar] :=
        Nat.toDigits_of_base_le (by decide) h_large
      rw [h_split, List.head?_append_of_ne_nil _ (toDigits_ne_nil _)] at h
      have h_zero : n / 10 = 0 := ih (n / 10) (by omega) h
      omega

/-- A number is a single zero, or starts with another digit. -/
theorem head?_toDigits (n : Nat) : (toDigits n).head? ≠ some '0' ∨ (toDigits n).length = 1 := by
  by_cases h : (toDigits n).head? = some '0'
  · rw [eq_zero_of_head?_toDigits h]
    exact .inr rfl
  · exact .inl h

end FileProfile.Text
