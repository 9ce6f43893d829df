import FileProfile.Bytes.Utf8

/-!
# Raw texts

What the system calls things by is bytes: the names of files, paths, the arguments of a command.
Mostly these are the UTF-8 of a text, but nothing sees to that. To be shown, or to be looked at as
text, a raw text is read leniently, so that different raw texts can read as one text.
-/

namespace FileProfile

/-- A text as the system has it: bytes, which need not be UTF-8. -/
abbrev RawText := List UInt8

/-- The raw text of a text. -/
def raw (text : String) : RawText := Bytes.Utf8.encode text

namespace RawText

/-- The text that a raw text reads as, with the replacement character where bytes have no
meaning. -/
def toText (bytes : RawText) : String := String.ofList (Bytes.Utf8.decode bytes)

end RawText

end FileProfile
