/-!
# Languages

A language is a record of what identifies its files and how they are treated: the extensions and the
exact file names that it claims, the interpreters that run it, the lexer that highlights it, and
whether its files belong in a search index.
-/

namespace FileProfile

/-- The broad category of a language. -/
inductive LanguageKind where
  | programming
  | markup
  | data
  | prose
  deriving DecidableEq, Repr

/-- The name of a category. -/
def LanguageKind.name : LanguageKind → String
  | programming => "programming"
  | markup => "markup"
  | data => "data"
  | prose => "prose"

/-- The lexer of text in no language. -/
def plainTextLexer : String := "Text only"

/-- A language. -/
structure Language where
  name : String
  kind : LanguageKind := .programming
  lexer : String := name
  /-- Extensions, without the dot. -/
  extensions : List String := []
  /-- Exact base names. -/
  filenames : List String := []
  /-- Interpreters, without version. -/
  interpreters : List String := []
  /-- Whether files in the language belong in a search index. -/
  searchable : Bool := true
  /-- Whether the extensions hold in any case. -/
  ignoreCase : Bool := false
  deriving DecidableEq, Repr

namespace Language

/-- Whether the language is one that programs are written in. -/
def isProgramming (language : Language) : Bool := language.kind = .programming

/-- The lexer for text in a language, or in none. -/
def lexerOf (language : Option Language) : String :=
  (language.map Language.lexer).getD plainTextLexer

end Language

end FileProfile
