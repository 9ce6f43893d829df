import FileProfile.Http.Disposition
import FileProfile.Http.MediaType
import FileProfile.Language.Resolution
import FileProfile.Language.Shebang
import FileProfile.Markup.Highlighter
import FileProfile.Provenance.Generated
import FileProfile.Provenance.ThirdParty
import FileProfile.Summary
import FileProfile.Text.Quoted

/-!
# Subjects and their attributes

A subject is a file to be classified: its path in the repository and its bytes, together with the
limits, the table of media types and the further third-party rules by which it is judged. Everything
that is known about the file is a function of these; this module says which. Attributes that rest on
others take them from the subject again, so each stands for itself; computing an attribute once only
is left to profiles.
-/

namespace FileProfile

/-- A file and what it is judged by. -/
structure Subject where
  path : String
  bytes : List UInt8
  limits : Limits := {}
  mediaTable : MediaTable := .standard
  /-- Rules for third-party files besides the standard ones. -/
  thirdPartyRules : List Pattern := []

namespace Subject

/-! ### Identity -/

/-- The last segment of the path. -/
def name (s : Subject) : String := FileName.base s.path

/-- The extension of the name, without the dot, if it has one. -/
def extension? (s : Subject) : Option String := FileName.extension? s.name

/-- The number of bytes. -/
def size (s : Subject) : Nat := s.bytes.length

/-- The subject in one line, as it is shown to developers. -/
def describe (s : Subject) : String :=
  "Blob \x7b path: " ++ Text.quoted s.path ++ ", size: " ++ Text.decimal s.size ++ " \x7d"

/-! ### Content -/

/-- What the bytes are at first sight. -/
def sniff (s : Subject) : Sniff := Sniff.of s.limits.sampleLength s.name s.bytes

/-- Whether the file is too large to be shown. -/
def isLarge (s : Subject) : Bool := s.size > s.limits.viewableSize

/-- Whether a file that was sniffed as `sniff` can be shown as text. -/
def isViewableAs (s : Subject) (sniff : Sniff) : Bool :=
  sniff.text && sniff.image.isNone && !s.isLarge

/-- Whether the file can be shown as text. -/
def isViewable (s : Subject) : Bool := s.isViewableAs s.sniff

/-- The text of the file; binary files have none. -/
def text? (s : Subject) : Option String := s.sniff.encoding.map (·.decode s.bytes)

/-- The spans of the lines of the text; binary files have none. -/
def lineSpans (s : Subject) : List Text.Span := (s.text?.map Text.lineSpans).getD []

/-- The lines of the text, cut out by their spans. -/
def lines (s : Subject) : List String := (s.text?.map (Text.cutLines · s.lineSpans)).getD []

/-- The number of lines. -/
def loc (s : Subject) : Nat := s.lineSpans.length

/-- The number of lines with ink. -/
def sloc (s : Subject) : Nat := s.lines.countP Text.isInked

/-! ### Language -/

/-- The shebang line of the text, if it begins with one. -/
def shebang? (s : Subject) : Option Shebang := s.text?.bind Shebang.of?

/-- The language of a text, given its shebang line. -/
def resolve (s : Subject) (text : String) (shebang : Option Shebang) : Option Language :=
  Language.resolve (Catalogue.candidates s.name) (shebang.bind (·.language)) text

/-- The language; binary files have none. -/
def language? (s : Subject) : Option Language := do s.resolve (← s.text?) s.shebang?

/-- The name of the lexer for the text. -/
def lexer (s : Subject) : String := Language.lexerOf s.language?

/-! ### Provenance -/

/-- Whether the file was written by a program; binary files have no lines to tell it by. -/
def isGenerated (s : Subject) : Bool :=
  Provenance.isGenerated s.limits.longLine s.name s.lines

/-- Whether the path is one at which code of others is kept. -/
def isThirdParty (s : Subject) : Bool := Provenance.isThirdParty s.thirdPartyRules s.path

/-- Whether the file belongs in a search index. -/
def isIndexable (s : Subject) : Bool :=
  s.sniff.text && s.size ≤ s.limits.indexableSize && !s.isGenerated && !s.isThirdParty &&
    s.language?.any Language.searchable

/-! ### Presentation -/

/-- The media type of the file, given whether it is binary. -/
def mediaTypeIf (s : Subject) (binary : Bool) : String := s.mediaTable.typeOf s.extension? binary

/-- The media type of the file. -/
def mediaType (s : Subject) : String := s.mediaTypeIf s.sniff.binary

/-- The content type of text in an encoding, or of binary content. All text is served as plain text,
so that it is shown and not saved. -/
def contentTypeIn : Option Encoding → String
  | some encoding => MediaTable.plainText ++ "; charset=" ++ encoding.charset
  | none => MediaTable.octetStream

/-- The content type that the file is served with. -/
def contentType (s : Subject) : String := contentTypeIn s.sniff.encoding

/-- The disposition of the file, given whether it is viewable. -/
def dispositionIf (s : Subject) (viewable : Bool) : String :=
  if viewable then Disposition.inline else Disposition.attachment s.name

/-- Whether the file is shown in place or saved under its name. -/
def disposition (s : Subject) : String := s.dispositionIf s.isViewable

/-- The markup of the text, in the container of the highlighter or bare; files that are not viewable
have none. -/
def markup (s : Subject) (highlighter : Highlighter) (contained : Bool) :
    Except Error (Option String) :=
  match (if s.isViewable then s.text? else none) with
  | none => .ok none
  | some text =>
    ((if contained then highlighter.contained else highlighter.bare) text s.lexer).map some

/-! ### Summary -/

/-- Everything that is known about the file. -/
def summary (s : Subject) : Summary where
  path := s.path
  name := s.name
  size := s.size
  mediaType := s.mediaType
  contentType := s.contentType
  disposition := s.disposition
  encoding := s.sniff.encoding
  binary := s.sniff.binary
  text := s.sniff.text
  image := s.sniff.image
  viewable := s.isViewable
  generated := s.isGenerated
  thirdParty := s.isThirdParty
  indexable := s.isIndexable
  language := s.language?.map (·.name)
  lexer := s.lexer
  shebangScript := s.shebang?.map (·.script)
  loc := s.loc
  sloc := s.sloc

end Subject

end FileProfile
