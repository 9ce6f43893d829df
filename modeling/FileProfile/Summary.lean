import FileProfile.Bytes.Sniff
import FileProfile.Json.Record
import FileProfile.Json.Text
import FileProfile.Limits

/-!
# Summaries

A summary holds everything that is known about a file, flat and by itself. It is written as a JSON
object; attributes that a file does not have are left out. `Summary.ofJson?` reads a summary back,
and `Limits.ofJson?` does so for limits.
-/

namespace FileProfile

/-- Everything that is known about a file. -/
structure Summary where
  path : String
  name : String
  size : Nat
  mediaType : String
  contentType : String
  disposition : String
  encoding : Option Encoding
  binary : Bool
  text : Bool
  image : Option ImageFormat
  viewable : Bool
  generated : Bool
  thirdParty : Bool
  indexable : Bool
  /-- The name of the language. -/
  language : Option String
  lexer : String
  shebangScript : Option String
  loc : Nat
  sloc : Nat
  deriving DecidableEq, Repr

namespace Summary

/-- The name of the language, or `unknown` without one. -/
def languageOrUnknown (summary : Summary) : String := summary.language.getD "unknown"

/-- The names of the fields, in order. -/
def fieldNames : List String := [
  "path", "name", "size", "mime_type", "content_type", "disposition", "encoding", "binary", "text",
  "image", "viewable", "generated", "vendored", "indexable", "language", "lexer", "shebang_script",
  "loc", "sloc"]

/-- The values of the fields, in order; an attribute that the file does not have has none. -/
def fieldValues (s : Summary) : List (Option Json) := [
  some (.string s.path), some (.string s.name), some (.nat s.size), some (.string s.mediaType),
  some (.string s.contentType), some (.string s.disposition),
  s.encoding.map (.string ·.charset), some (.bool s.binary), some (.bool s.text),
  s.image.map (.string ·.name), some (.bool s.viewable), some (.bool s.generated),
  some (.bool s.thirdParty), some (.bool s.indexable), s.language.map .string,
  some (.string s.lexer), s.shebangScript.map .string, some (.nat s.loc), some (.nat s.sloc)]

/-- The JSON object of a summary. -/
def toJson (s : Summary) : Json :=
  .object ((fieldNames.zip s.fieldValues).filterMap fun (name, value) => value.map (name, ·))

/-- The summary that a JSON value holds, if it holds one. -/
def ofJson? (json : Json) : Option Summary := do
  let record ← json.record? fieldNames
  return {
    path := ← record.required? "path" Json.string?
    name := ← record.required? "name" Json.string?
    size := ← record.required? "size" Json.size?
    mediaType := ← record.required? "mime_type" Json.string?
    contentType := ← record.required? "content_type" Json.string?
    disposition := ← record.required? "disposition" Json.string?
    encoding := ← record.optional? "encoding" fun v => v.alternative?.bind Encoding.ofCharset?
    binary := ← record.required? "binary" Json.bool?
    text := ← record.required? "text" Json.bool?
    image := ← record.optional? "image" fun v => v.alternative?.bind ImageFormat.ofName?
    viewable := ← record.required? "viewable" Json.bool?
    generated := ← record.required? "generated" Json.bool?
    thirdParty := ← record.required? "vendored" Json.bool?
    indexable := ← record.required? "indexable" Json.bool?
    language := ← record.optional? "language" Json.string?
    lexer := ← record.required? "lexer" Json.string?
    shebangScript := ← record.optional? "shebang_script" Json.string?
    loc := ← record.required? "loc" Json.size?
    sloc := ← record.required? "sloc" Json.size? }

end Summary

namespace Limits

/-- The names of the fields, in order. -/
def fieldNames : List String :=
  ["sniff_len", "minified_line_length", "large_blob_size", "max_indexable_size"]

/-- The JSON object of limits. -/
def toJson (limits : Limits) : Json :=
  .object (fieldNames.zip
    [.nat limits.sampleLength, .nat limits.longLine, .nat limits.viewableSize,
      .nat limits.indexableSize])

/-- The limits that a JSON value holds, if it holds any. -/
def ofJson? (json : Json) : Option Limits := do
  let record ← json.record? fieldNames
  return {
    sampleLength := ← record.required? "sniff_len" Json.size?
    longLine := ← record.required? "minified_line_length" Json.size?
    viewableSize := ← record.required? "large_blob_size" Json.size?
    indexableSize := ← record.required? "max_indexable_size" Json.size? }

end Limits

end FileProfile
