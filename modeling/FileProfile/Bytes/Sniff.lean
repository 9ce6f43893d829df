import FileProfile.Bytes.Encoding
import FileProfile.Bytes.Image
import FileProfile.FileName

/-!
# Sniffing

What the bytes of a file are, at first sight: text in some encoding or binary, and an image or not.
An extension that only binary files have settles the first question whatever the bytes say. An
extension of an image format settles the second; a signature counts only in binary content.
-/

namespace FileProfile

/-- The extensions, in lower case, of files that are always binary. -/
def binaryExtensions : List String := [
  -- compiled code
  "o", "obj", "a", "lib", "so", "dll", "dylib", "exe", "bin", "class",
  "pyc", "pyo", "pyd", "elc", "beam", "wasm",
  -- archives and packages
  "zip", "tar", "gz", "tgz", "bz2", "xz", "rar", "7z", "jar", "war", "ear",
  "gem", "deb", "rpm", "dmg", "iso", "apk", "msi", "egg", "whl", "nupkg",
  -- documents
  "pdf", "doc", "docx", "xls", "xlsx", "ppt", "pptx", "odt", "psd", "ai",
  -- sound and film
  "mp3", "mp4", "avi", "mov", "wav", "flac", "mkv", "wmv", "ogg", "webm",
  -- databases
  "db", "sqlite", "sqlite3", "mdb",
  -- fonts
  "woff", "woff2", "ttf", "eot", "otf"]

/-- Whether files with an extension are always binary. -/
def isBinaryExtension (extension : String) : Bool :=
  binaryExtensions.contains (Text.lower extension)

/-- What the content of a file is at first sight. -/
structure Sniff where
  /-- The encoding of the text; binary content has none. -/
  encoding : Option Encoding
  image : Option ImageFormat
  deriving DecidableEq, Repr

namespace Sniff

/-- Content without an encoding is binary. -/
def binary (sniff : Sniff) : Bool := sniff.encoding.isNone

/-- Content in an encoding is text. -/
def text (sniff : Sniff) : Bool := !sniff.binary

/-- What a file of this name with these bytes is, of which the first `sampleLength` are looked at
for signs of binary content. -/
def of (sampleLength : Nat) (name : String) (bytes : List UInt8) : Sniff :=
  let extension := FileName.extension? name
  let encoding :=
    if extension.any isBinaryExtension then none else Encoding.detect? sampleLength bytes
  let image := (extension.bind ImageFormat.ofExtension?).or
    (if encoding.isNone then ImageFormat.ofSignature? bytes else none)
  ⟨encoding, image⟩

end Sniff

end FileProfile
