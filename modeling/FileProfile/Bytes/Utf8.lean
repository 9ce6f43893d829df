/-!
# UTF-8

Bytes are read one at a time. Behind the first byte of a sequence the reader waits for the bytes
that complete it, and knows which values the next one may have, so that over-long forms, surrogates
and codes beyond the last are refused at the earliest byte that gives them away.

The result is the list of what was read: a character for a complete sequence, `none` for a stretch
that starts like one and does not go on, or for a byte that starts none. A text is well-formed when
there is no `none`, and reads leniently when each `none` becomes the replacement character.
-/

namespace FileProfile.Bytes

/-- The character that stands where bytes have no meaning. -/
def replacement : Char := '\ufffd'

/-- The character of a code, and the replacement character for a code that has none. -/
def charOfCode (code : Nat) : Char :=
  if h : code.isValidChar then Char.ofNatAux code h else replacement

namespace Utf8

/-- What completes a sequence: the bits read so far, the bounds of the next byte, and how many bytes
follow that one. -/
structure Awaited where
  bits : Nat
  least : UInt8
  greatest : UInt8
  more : Nat
  deriving DecidableEq, Repr

/-- What a byte means where no sequence is begun. -/
inductive Lead where
  | char (c : Char)
  | opens (awaited : Awaited)
  | stray
  deriving DecidableEq, Repr

/-- The meaning of a byte where no sequence is begun. -/
def lead (b : UInt8) : Lead :=
  if b < 0x80 then .char (charOfCode b.toNat)
  else if b < 0xC2 then .stray
  else if b < 0xE0 then .opens ⟨b.toNat - 0xC0, 0x80, 0xBF, 0⟩
  else if b < 0xF0 then
    .opens ⟨b.toNat - 0xE0, if b = 0xE0 then 0xA0 else 0x80, if b = 0xED then 0x9F else 0xBF, 1⟩
  else if b < 0xF5 then
    .opens ⟨b.toNat - 0xF0, if b = 0xF0 then 0x90 else 0x80, if b = 0xF4 then 0x8F else 0xBF, 2⟩
  else .stray

/-- A reader: what it has read, last item first, and the sequence it is in the middle of. -/
structure Reader where
  items : List (Option Char) := []
  awaited : Option Awaited := none

namespace Reader

/-- Reads a byte where no sequence is begun. -/
def begin (items : List (Option Char)) (b : UInt8) : Reader :=
  match lead b with
  | .char c => ⟨some c :: items, none⟩
  | .opens awaited => ⟨items, some awaited⟩
  | .stray => ⟨none :: items, none⟩

/-- Reads a byte. -/
def step (r : Reader) (b : UInt8) : Reader :=
  match r.awaited with
  | none => begin r.items b
  | some a =>
    if a.least ≤ b ∧ b ≤ a.greatest then
      let bits := a.bits * 64 + (b.toNat - 0x80)
      match a.more with
      | 0 => ⟨some (charOfCode bits) :: r.items, none⟩
      | more + 1 => ⟨r.items, some ⟨bits, 0x80, 0xBF, more⟩⟩
    else begin (none :: r.items) b

/-- All that was read, a sequence that was not completed included. -/
def finish (r : Reader) : List (Option Char) :=
  match r.awaited with
  | none => r.items.reverse
  | some _ => (none :: r.items).reverse

end Reader

/-- What the bytes read as. -/
def read (bytes : List UInt8) : List (Option Char) := (bytes.foldl Reader.step {}).finish

/-- Whether the bytes are well-formed. -/
def isWellFormed (bytes : List UInt8) : Bool := (read bytes).all Option.isSome

/-- The characters that the bytes read as, with the replacement character where they have no
meaning. -/
def decode (bytes : List UInt8) : List Char := (read bytes).map (·.getD replacement)

/-- The bytes of a text. -/
def encode (text : String) : List UInt8 := text.toList.flatMap String.utf8EncodeChar

end Utf8

end FileProfile.Bytes
