import FileProfile.Bytes.Utf8

/-!
# UTF-16

Two bytes make a unit, in one of two orders; a byte left over is ignored. A unit is a character by
itself, or half of one: a leading surrogate and the trailing surrogate behind it make one character.
A surrogate without its other half has no meaning, and is read as `none`.
-/

namespace FileProfile.Bytes

/-- Which byte of a pair comes first. -/
inductive ByteOrder where
  | littleEndian
  | bigEndian
  deriving DecidableEq, Repr

/-- The unit that two bytes make. -/
def ByteOrder.unit : ByteOrder → UInt8 → UInt8 → UInt16
  | .littleEndian, low, high | .bigEndian, high, low => high.toUInt16 * 256 + low.toUInt16

namespace Utf16

/-- The units of a list of bytes behind those of `done`, which lists its units last first. -/
def unitsBehind (order : ByteOrder) (done : List UInt16) : List UInt8 → List UInt16
  | a :: b :: rest => unitsBehind order (order.unit a b :: done) rest
  | _ => done.reverse

/-- The units of a list of bytes. -/
def units (order : ByteOrder) (bytes : List UInt8) : List UInt16 := unitsBehind order [] bytes

/-- Whether a unit is the first half of a character. -/
def isLeading (u : UInt16) : Bool := 0xD800 ≤ u && u < 0xDC00

/-- Whether a unit is the second half of a character. -/
def isTrailing (u : UInt16) : Bool := 0xDC00 ≤ u && u < 0xE000

/-- The character of two halves. -/
def pairChar (leading trailing : UInt16) : Char :=
  charOfCode (0x10000 + (leading.toNat - 0xD800) * 0x400 + (trailing.toNat - 0xDC00))

/-- A reader: what it has read, last item first, and the first half it has yet to complete. -/
structure Reader where
  items : List (Option Char) := []
  leading : Option UInt16 := none

namespace Reader

/-- Reads a unit where no half is open. -/
def begin (items : List (Option Char)) (u : UInt16) : Reader :=
  if isLeading u then ⟨items, some u⟩
  else if isTrailing u then ⟨none :: items, none⟩
  else ⟨some (charOfCode u.toNat) :: items, none⟩

/-- Reads a unit. -/
def step (r : Reader) (u : UInt16) : Reader :=
  match r.leading with
  | none => begin r.items u
  | some leading =>
    if isTrailing u then ⟨some (pairChar leading u) :: r.items, none⟩
    else begin (none :: r.items) u

/-- All that was read, a half that was not completed included. -/
def finish (r : Reader) : List (Option Char) :=
  match r.leading with
  | none => r.items.reverse
  | some _ => (none :: r.items).reverse

end Reader

/-- What the units read as. -/
def read (units : List UInt16) : List (Option Char) := (units.foldl Reader.step {}).finish

/-- The characters that the bytes read as, with the replacement character for half characters. -/
def decode (order : ByteOrder) (bytes : List UInt8) : List Char :=
  (read (units order bytes)).map (·.getD replacement)

end Utf16

end FileProfile.Bytes
