import FileProfile.Text.Lower

/-!
# Image formats

The image formats that are shown as images, and the two ways to recognise one: by the extension of
the file name, and by the bytes that a file of the format starts with.
-/

namespace FileProfile

/-- An image format. -/
inductive ImageFormat where
  | png
  | jpeg
  | gif
  | bmp
  | webp
  deriving DecidableEq, Repr

namespace ImageFormat

/-- The name of a format. -/
def name : ImageFormat → String
  | png => "png"
  | jpeg => "jpeg"
  | gif => "gif"
  | bmp => "bmp"
  | webp => "webp"

/-- The formats. -/
def all : List ImageFormat := [png, jpeg, gif, bmp, webp]

/-- The format of a name. -/
def ofName? (name : String) : Option ImageFormat := all.find? (·.name == name)

/-- The format that an extension announces, in any case. -/
def ofExtension? (extension : String) : Option ImageFormat :=
  match Text.lower extension with
  | "png" => some png
  | "jpg" | "jpeg" => some jpeg
  | "gif" => some gif
  | _ => none

/-- The bytes of a text in ASCII. -/
def asciiBytes (text : String) : List UInt8 := text.toList.map fun c => c.toNat.toUInt8

/-- The format whose signature the bytes start with. -/
def ofSignature? (bytes : List UInt8) : Option ImageFormat :=
  let startsWith (signature : List UInt8) := signature.isPrefixOf bytes
  if startsWith (0x89 :: asciiBytes "PNG\r\n\x1a\n") then some png
  else if startsWith [0xFF, 0xD8, 0xFF] then some jpeg
  else if startsWith (asciiBytes "GIF87a") || startsWith (asciiBytes "GIF89a") then some gif
  else if startsWith (asciiBytes "BM") && 14 ≤ bytes.length then some bmp
  else if startsWith (asciiBytes "RIFF") && (asciiBytes "WEBP").isPrefixOf (bytes.drop 8) then
    some webp
  else none

end ImageFormat

end FileProfile
