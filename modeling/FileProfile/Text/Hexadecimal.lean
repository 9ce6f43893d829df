/-!
# Hexadecimal digits

The sixteen digits and their values. Digits beyond nine are letters, written from `a` or from `A` on
as the format asks; both cases are read (`hexValue?_hexDigit`).
-/

namespace FileProfile.Text

/-- The digit of a value below sixteen, with `ten` as the digit of ten. -/
def hexDigit (ten : Char) (n : Nat) : Char :=
  Char.ofNat (if n < 10 then '0'.toNat + n else ten.toNat + (n - 10))

/-- The value of a digit. -/
def hexValue? (c : Char) : Option Nat :=
  if c.isDigit then some (c.toNat - '0'.toNat)
  else if 'a' ≤ c && c ≤ 'f' then some (c.toNat - 'a'.toNat + 10)
  else if 'A' ≤ c && c ≤ 'F' then some (c.toNat - 'A'.toNat + 10)
  else none

/-- A digit that was written is read as its value. -/
theorem hexValue?_hexDigit {ten : Char} (h : ten = 'a' ∨ ten = 'A') {n : Nat} (hn : n < 16) :
    hexValue? (hexDigit ten n) = some n := by
  have : ∀ m : Fin 16, hexValue? (hexDigit 'a' m) = some m.1 ∧
      hexValue? (hexDigit 'A' m) = some m.1 := by decide
  rcases h with rfl | rfl
  · exact (this ⟨n, hn⟩).1
  · exact (this ⟨n, hn⟩).2

end FileProfile.Text
