/-!
# Numbers in decimal digits

How a number is written in the ten ASCII digits, and which number digits write.
-/

namespace FileProfile.Text

/-- The number that a list of digits writes. -/
def ofDigits (digits : List Char) : Nat :=
  digits.foldl (fun n c => n * 10 + (c.toNat - '0'.toNat)) 0

/-- The digits of a number, without leading zeros. -/
def toDigits (n : Nat) : List Char := Nat.toDigits 10 n

/-- The text of a number. -/
def decimal (n : Nat) : String := String.ofList (toDigits n)

end FileProfile.Text
