import FileProfile.Profile

/-!
# Questions and steps

Everything that can be asked about a file is a `Query`, and each query has its type of answer. A
step is a query or a change of what the file is judged by; `Profile.take` takes one and
`Profile.run` takes several in turn. Each query can be answered from a subject alone
(`Query.answer`) and from a profile (`Query.ask`).
-/

namespace FileProfile

/-- A question about a file. -/
inductive Query where
  | path
  | name
  | extension
  | bytes
  | size
  | describe
  | encoding
  | image
  | isBinary
  | isText
  | isImage
  | isLarge
  | isViewable
  | text
  | lineSpans
  | lines
  | loc
  | sloc
  | shebang
  | shebangScript
  | shebangLanguage
  | language
  | lexer
  | isGenerated
  | isThirdParty
  | isIndexable
  | mediaType
  | contentType
  | disposition
  | markup (highlighter : Highlighter) (contained : Bool)
  | summary

namespace Query

/-- The type of the answer to a query. -/
@[reducible] def Answer : Query → Type
  | path | name | describe | lexer | mediaType | contentType | disposition => String
  | extension | text | shebangScript => Option String
  | bytes => List UInt8
  | size | loc | sloc => Nat
  | encoding => Option Encoding
  | image => Option ImageFormat
  | isBinary | isText | isImage | isLarge | isViewable => Bool
  | isGenerated | isThirdParty | isIndexable => Bool
  | lineSpans => List Text.Span
  | lines => List String
  | shebang => Option Shebang
  | shebangLanguage | language => Option Language
  | markup _ _ => Except Error (Option String)
  | summary => Summary

/-- The answer to a query about a subject. -/
def answer (s : Subject) : (q : Query) → q.Answer
  | path => s.path
  | name => s.name
  | extension => s.extension?
  | bytes => s.bytes
  | size => s.size
  | describe => s.describe
  | encoding => s.sniff.encoding
  | image => s.sniff.image
  | isBinary => s.sniff.binary
  | isText => s.sniff.text
  | isImage => s.sniff.image.isSome
  | isLarge => s.isLarge
  | isViewable => s.isViewable
  | text => s.text?
  | lineSpans => s.lineSpans
  | lines => s.lines
  | loc => s.loc
  | sloc => s.sloc
  | shebang => s.shebang?
  | shebangScript => s.shebang?.map (·.script)
  | shebangLanguage => s.shebang?.bind (·.language)
  | language => s.language?
  | lexer => s.lexer
  | isGenerated => s.isGenerated
  | isThirdParty => s.isThirdParty
  | isIndexable => s.isIndexable
  | mediaType => s.mediaType
  | contentType => s.contentType
  | disposition => s.disposition
  | markup highlighter contained => s.markup highlighter contained
  | summary => s.summary

open Profile in
/-- Asks a profile. -/
def ask : (q : Query) → Session q.Answer
  | path => return (← Session.subject).path
  | name => return (← Session.subject).name
  | extension => return (← Session.subject).extension?
  | bytes => return (← Session.subject).bytes
  | size => return (← Session.subject).size
  | describe => return (← Session.subject).describe
  | encoding => return (← Session.sniff).encoding
  | image => return (← Session.sniff).image
  | isBinary => return (← Session.sniff).binary
  | isText => return (← Session.sniff).text
  | isImage => return (← Session.sniff).image.isSome
  | isLarge => return (← Session.subject).isLarge
  | isViewable => Session.isViewable
  | text => Session.text?
  | lineSpans => Session.lineSpans
  | lines => Session.lines
  | loc => Session.loc
  | sloc => Session.sloc
  | shebang => Session.shebang?
  | shebangScript => return (← Session.shebang?).map (·.script)
  | shebangLanguage => return (← Session.shebang?).bind (·.language)
  | language => Session.language?
  | lexer => Session.lexer
  | isGenerated => Session.isGenerated
  | isThirdParty => Session.isThirdParty
  | isIndexable => Session.isIndexable
  | mediaType => Session.mediaType
  | contentType => Session.contentType
  | disposition => Session.disposition
  | markup highlighter contained => Session.markup highlighter contained
  | summary => Session.summary

end Query

/-- A step in the use of a profile. -/
inductive Step where
  | ask (q : Query)
  | setLimits (limits : Limits)
  | setMediaTable (table : MediaTable)
  | setThirdPartyRules (rules : List Pattern)

/-- A query with its answer. -/
structure Answered where
  query : Query
  answer : query.Answer

namespace Profile

/-- Takes a step. A change of what the subject is judged by has no answer. -/
def take (p : Profile) : Step → Option Answered × Profile
  | .ask q => let (answer, p) := q.ask p; (some ⟨q, answer⟩, p)
  | .setLimits limits => (none, p.change ({ · with limits }))
  | .setMediaTable mediaTable => (none, p.change ({ · with mediaTable }))
  | .setThirdPartyRules thirdPartyRules => (none, p.change ({ · with thirdPartyRules }))

/-- Takes several steps, and collects what each of them answers. -/
def run (p : Profile) (steps : List Step) : List (Option Answered) × Profile :=
  let (answers, p) := steps.foldl (fun (answers, p) step =>
    let (answer, p) := take p step
    (answer :: answers, p)) ([], p)
  (answers.reverse, p)

end Profile

end FileProfile
