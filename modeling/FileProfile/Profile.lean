import FileProfile.Subject

/-!
# Profiles

A profile answers questions about a subject and remembers what it has worked out: what the content
is at first sight, the decoded text, the spans of its lines, and so on are each computed when they
are first needed and kept in a cell. Changing what the subject is judged by empties all cells.

Asking is a computation in the state monad over profiles, `Session`. The answers do not depend on
what is remembered: they are the attributes of the subject.
-/

namespace FileProfile

/-- What a profile remembers; an empty cell is `none`. -/
structure Cells where
  sniff : Option Sniff := none
  text : Option (Option String) := none
  lineSpans : Option (List Text.Span) := none
  sloc : Option Nat := none
  shebang : Option (Option Shebang) := none
  language : Option (Option Language) := none
  generated : Option Bool := none
  thirdParty : Option Bool := none
  mediaType : Option String := none

/-- A subject and what is remembered about it. -/
structure Profile where
  subject : Subject
  cells : Cells := {}

namespace Profile

/-- The profile of a file that is judged by the defaults. -/
def of (path : String) (bytes : List UInt8) : Profile := ⟨{ path, bytes }, {}⟩

/-- The profile with its subject changed and nothing remembered. -/
def change (f : Subject → Subject) (p : Profile) : Profile := ⟨f p.subject, {}⟩

/-- A computation that asks a profile and may fill its cells. -/
abbrev Session (α : Type) := StateM Profile α

namespace Session

/-- The subject of the profile. -/
def subject : Session Subject := return (← get).subject

/-- The content of a cell, computed and put there if the cell is empty. -/
def remember {α : Type} (cell : Cells → Option α) (fill : Cells → α → Cells)
    (compute : Session α) : Session α := do
  match cell (← get).cells with
  | some value => return value
  | none =>
    let value ← compute
    modify fun p => { p with cells := fill p.cells value }
    return value

/-- What the bytes are at first sight, remembered. -/
def sniff : Session Sniff :=
  remember (·.sniff) (fun cells value => { cells with sniff := some value }) do
    return (← subject).sniff

/-- Whether the file can be shown as text. -/
def isViewable : Session Bool := do return (← subject).isViewableAs (← sniff)

/-- The decoded text, remembered. -/
def text? : Session (Option String) :=
  remember (·.text) (fun cells value => { cells with text := some value }) do
    return (← sniff).encoding.map (·.decode (← subject).bytes)

/-- The spans of the lines, remembered; the lines themselves are not. -/
def lineSpans : Session (List Text.Span) :=
  remember (·.lineSpans) (fun cells value => { cells with lineSpans := some value }) do
    return ((← text?).map Text.lineSpans).getD []

/-- The lines, cut out of the text anew each time. -/
def lines : Session (List String) := do
  match ← text? with
  | none => return []
  | some text => return Text.cutLines text (← lineSpans)

/-- The number of lines. -/
def loc : Session Nat := return (← lineSpans).length

/-- The number of lines with ink, remembered. -/
def sloc : Session Nat :=
  remember (·.sloc) (fun cells value => { cells with sloc := some value }) do
    return (← lines).countP Text.isInked

/-- The shebang line, remembered. -/
def shebang? : Session (Option Shebang) :=
  remember (·.shebang) (fun cells value => { cells with shebang := some value }) do
    return (← text?).bind Shebang.of?

/-- The language, remembered. The shebang line is only read where there is text. -/
def language? : Session (Option Language) :=
  remember (·.language) (fun cells value => { cells with language := some value }) do
    match ← text? with
    | none => return none
    | some text => return (← subject).resolve text (← shebang?)

/-- The name of the lexer. -/
def lexer : Session String := return Language.lexerOf (← language?)

/-- Whether the file was written by a program, remembered. -/
def isGenerated : Session Bool :=
  remember (·.generated) (fun cells value => { cells with generated := some value }) do
    let s ← subject
    return Provenance.isGenerated s.limits.longLine s.name (← lines)

/-- Whether the path is one at which code of others is kept, remembered. -/
def isThirdParty : Session Bool :=
  remember (·.thirdParty) (fun cells value => { cells with thirdParty := some value }) do
    return (← subject).isThirdParty

/-- Whether the file belongs in a search index. What comes later is only worked out if it
matters. -/
def isIndexable : Session Bool := do
  let s ← subject
  if !(← sniff).text || s.size > s.limits.indexableSize then return false
  if ← isGenerated then return false
  if ← isThirdParty then return false
  return (← language?).any Language.searchable

/-- The media type, remembered. -/
def mediaType : Session String :=
  remember (·.mediaType) (fun cells value => { cells with mediaType := some value }) do
    return (← subject).mediaTypeIf (← sniff).binary

/-- The content type. -/
def contentType : Session String := return Subject.contentTypeIn (← sniff).encoding

/-- The disposition. -/
def disposition : Session String := do return (← subject).dispositionIf (← isViewable)

/-- The markup of the text; no lexer is looked for unless the file is viewable. -/
def markup (highlighter : Highlighter) (contained : Bool) :
    Session (Except Error (Option String)) := do
  if !(← isViewable) then return .ok none
  match ← text? with
  | none => return .ok none
  | some text =>
    let render := if contained then highlighter.contained else highlighter.bare
    return (render text (← lexer)).map some

/-- Everything that is known about the file. -/
def summary : Session Summary := do
  let s ← subject
  let sniff ← sniff
  return {
    path := s.path
    name := s.name
    size := s.size
    mediaType := ← mediaType
    contentType := ← contentType
    disposition := ← disposition
    encoding := sniff.encoding
    binary := sniff.binary
    text := sniff.text
    image := sniff.image
    viewable := ← isViewable
    generated := ← isGenerated
    thirdParty := ← isThirdParty
    indexable := ← isIndexable
    language := (← language?).map (·.name)
    lexer := ← lexer
    shebangScript := (← shebang?).map (·.script)
    loc := ← loc
    sloc := ← sloc }

end Session

end Profile

end FileProfile
