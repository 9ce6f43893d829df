import FileProfile.Bytes.Utf8
import FileProfile.Text.Hexadecimal
import FileProfile.Text.Occurrence

/-!
# The content disposition

A file is offered either inline or as an attachment under its name. In the header the name is
escaped as form data: letters, digits and `-_.~` stand for themselves, and every other byte of its
UTF-8 is a percent sign and two hexadecimal digits. In the text that results, the escaped form of
the space is then replaced by a plus sign. Nothing in a name can therefore end the header or the
parameter.
-/

namespace FileProfile.Disposition

/-- Whether a byte stands for itself. -/
def isUnreserved (b : UInt8) : Bool :=
  let c := Char.ofNat b.toNat
  b < 128 && (c.isAlphanum || c == '-' || c == '_' || c == '.' || c == '~')

/-- The escaped form of a byte in a URL. -/
def escapeByte (b : UInt8) : List Char :=
  if isUnreserved b then [Char.ofNat b.toNat]
  else ['%', Text.hexDigit 'A' (b.toNat / 16), Text.hexDigit 'A' (b.toNat % 16)]

/-- The escaped form of a name in a URL. -/
def escapeForUrl (name : String) : List Char := (Bytes.Utf8.encode name).flatMap escapeByte

/-- The escaped form of a space in a URL. -/
def escapedSpace : List Char := "%20".toList

/-- The escaped form of a name. -/
def escape (name : String) : String :=
  String.ofList (Text.replaceFound escapedSpace ['+'] (escapeForUrl name))

/-- The disposition of a file that is shown. -/
def inline : String := "inline"

/-- The disposition of a file that is offered under a name. -/
def attachment (name : String) : String := "attachment; filename=" ++ escape name

end FileProfile.Disposition
