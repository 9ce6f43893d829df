import FileProfile.Bytes.Utf16

/-!
# Text encodings

The encodings that text comes in, and how each is recognised and read. A byte-order mark settles the
encoding first; bytes without one are binary if there is a NUL among the first of them, UTF-8 if
they are well-formed, and else either binary or ISO 8859-1 by the share of control characters.
-/

namespace FileProfile

open Bytes

/-- An encoding of text. -/
inductive Encoding where
  | utf8
  | utf16 (order : ByteOrder)
  | latin1
  deriving DecidableEq, Repr

namespace Encoding

/-- The name of an encoding in a content type. -/
def charset : Encoding → String
  | utf8 => "utf-8"
  | utf16 .littleEndian => "utf-16le"
  | utf16 .bigEndian => "utf-16be"
  | latin1 => "iso-8859-1"

/-- The encodings. -/
def all : List Encoding := [utf8, utf16 .littleEndian, utf16 .bigEndian, latin1]

/-- The encoding of a name. -/
def ofCharset? (name : String) : Option Encoding := all.find? (·.charset == name)

/-- The byte-order mark of UTF-8. -/
def utf8Mark : List UInt8 := [0xEF, 0xBB, 0xBF]

/-- The byte-order mark of UTF-16. -/
def utf16Mark : ByteOrder → List UInt8
  | .littleEndian => [0xFF, 0xFE]
  | .bigEndian => [0xFE, 0xFF]

/-- Bytes without the byte-order mark of UTF-8 that may start them. -/
def dropUtf8Mark (bytes : List UInt8) : List UInt8 :=
  if utf8Mark.isPrefixOf bytes then bytes.drop 3 else bytes

/-- The text of bytes in an encoding, byte-order mark left out. Bytes without meaning in the
encoding read as replacement characters. -/
def decode (encoding : Encoding) (bytes : List UInt8) : String :=
  String.ofList <|
    match encoding with
    | utf8 => Utf8.decode (dropUtf8Mark bytes)
    | utf16 order => Utf16.decode order (bytes.drop 2)
    | latin1 => bytes.map fun b => Char.ofNat b.toNat

/-- Whether a byte is a control character that text does not use. -/
def isControl (b : UInt8) : Bool := b < 32 && !([9, 10, 12, 13, 27].contains b)

/-- Whether more than a tenth of the bytes are control characters that text does not use. -/
def isControlHeavy (bytes : List UInt8) : Bool := 10 * bytes.countP isControl > bytes.length

/-- Whether the bytes start with the byte-order mark of UTF-16 in this order and are whole units. -/
def isMarkedUtf16 (order : ByteOrder) (bytes : List UInt8) : Bool :=
  (utf16Mark order).isPrefixOf bytes && bytes.length % 2 == 0

/-- The encoding of bytes, of which the first `sampleLength` are looked at for signs of binary
content; `none` if they are binary. -/
def detect? (sampleLength : Nat) (bytes : List UInt8) : Option Encoding :=
  let sample := bytes.take sampleLength
  if isMarkedUtf16 .littleEndian bytes then some (utf16 .littleEndian)
  else if isMarkedUtf16 .bigEndian bytes then some (utf16 .bigEndian)
  else if sample.contains 0 then none
  else if Utf8.isWellFormed bytes then some utf8
  else if isControlHeavy sample then none
  else some latin1

end Encoding

end FileProfile
