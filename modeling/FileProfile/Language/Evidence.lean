import FileProfile.Language.Registry
import FileProfile.Pattern.Search

/-!
# Evidence in the text

Where several languages claim a file, its text may decide between them. Each rule of evidence is for
one language and asks for some or for all of several patterns; the rules are tried in order. In most
of them a pattern begins a line, but for white space; that white space may itself span lines.
-/

namespace FileProfile

/-- How many of several patterns have to stand in a text. -/
inductive Quorum where
  | some
  | all
  deriving DecidableEq, Repr

/-- A rule by which the text of a file speaks for a language. -/
structure Evidence where
  language : Language
  quorum : Quorum
  patterns : List Pattern
  deriving DecidableEq

namespace Evidence

/-- Whether the text speaks for the language of the rule. -/
def holds (rule : Evidence) (text : List Char) : Bool :=
  match rule.quorum with
  | .some => rule.patterns.any (·.foundIn text)
  | .all => rule.patterns.all (·.foundIn text)

section Rules

open Pattern

/-- The given patterns in order, at the start of a line but for white space. -/
def leading (ps : List Pattern) : Pattern := inOrder (edge .lineStart :: blanks :: ps)

/-- White space, at least one character. -/
def gap : Pattern := plus blank

/-- One of several words. -/
def oneWord (words : List String) : Pattern := oneOf (words.map text)

/-- Class and protocol directives of Objective-C. -/
def directive : Pattern :=
  leading [char '@',
    oneWord ["interface", "implementation", "protocol", "property", "synthesize", "end", "class"],
    edge .wordEdge]

/-- An import, and white space behind it. -/
def spacedImport : Pattern := leading [text "#import", blank]

/-- An import. -/
def anyImport : Pattern := leading [text "#import", edge .wordEdge]

/-- A name with the prefix of one of the Cocoa frameworks. -/
def cocoaName : Pattern :=
  inOrder [edge .wordEdge, oneWord ["NS", "UI", "CF", "CG"], one (.between 'A' 'Z'), plus wordChar]

/-- A template, a namespace or a class of C++. -/
def cPlusPlusDeclaration : Pattern :=
  leading [oneOf [
    inOrder [text "template", blanks, char '<'],
    inOrder [text "namespace", edge .wordEdge],
    inOrder [text "class", gap, plus wordChar]]]

/-- A label that sets the access to members. -/
def accessLabel : Pattern := leading [oneWord ["public", "protected", "private"], blanks, char ':']

/-- A name qualified by another. -/
def qualifiedName : Pattern := inOrder [wordChar, text "::", wordChar]

/-- A header of the C++ library. -/
def libraryHeader : Pattern :=
  leading [text "#include", blanks, char '<',
    oneWord ["iostream", "string", "vector", "map", "memory", "algorithm", "cstdio", "cstdlib"],
    char '>']

/-- The head of a function with results. -/
def functionHead : Pattern :=
  leading [text "function", gap,
    oneOf [inOrder [char '[', star (one (.compl (.single ']'))), char ']'], plus wordChar],
    blanks, char '=']

/-- A comment that a percent sign begins. -/
def percentComment : Pattern := leading [char '%', one (.compl (.single '\x7b'))]

/-- An `end` alone on its line. -/
def loneEnd : Pattern := leading [text "end", blanks, edge .lineEnd]

/-- A directive of Prolog. -/
def clauseDirective : Pattern := leading [text ":-"]

/-- The neck of a clause. -/
def clauseNeck : Pattern := inOrder [char ')', blanks, text ":-"]

/-- The header of a Rebol script. -/
def rebolHeader : Pattern :=
  inOrder [edge .wordEdge, textInAnyCase "rebol", blanks, char '[']

/-- A function, an object or a context of Rebol. -/
def rebolBlock : Pattern :=
  inOrder [oneOf [
      inOrder [char ':', gap, textInAnyCase "func"],
      inOrder [textInAnyCase "make", gap, textInAnyCase "object!"],
      leading [textInAnyCase "context"]],
    blanks, char '[']

/-- A command of Coq. -/
def vernacular : Pattern :=
  leading [oneOf [text "Theorem", text "Lemma", text "Proof", text "Qed",
      inOrder [text "Require", gap, text "Import"], text "Inductive", text "Fixpoint"],
    edge .wordEdge]

/-- The declaration that begins an XML document. -/
def xmlDeclaration : Pattern := inOrder [edge .textStart, blanks, text "<?xml"]

/-- The root of a file of localised messages in XML. -/
def translationRoot : Pattern := leading [text "<TS", gap, text "version="]

/-- The rules, in the order in which they are tried. -/
def rules : List Evidence := [
  ⟨.objectiveC, .some, [directive]⟩,
  ⟨.objectiveC, .all, [spacedImport, cocoaName]⟩,
  ⟨.cPlusPlus, .some, [cPlusPlusDeclaration, accessLabel, qualifiedName, libraryHeader]⟩,
  ⟨.objectiveC, .some, [anyImport]⟩,
  ⟨.matlab, .some, [functionHead, percentComment, loneEnd]⟩,
  ⟨.prolog, .some, [clauseDirective, clauseNeck]⟩,
  ⟨.rebol, .some, [rebolHeader, rebolBlock]⟩,
  ⟨.coq, .some, [vernacular]⟩,
  ⟨.xml, .some, [xmlDeclaration, translationRoot]⟩]

end Rules

/-- The language of the first rule that holds among those for one of the candidates. -/
def language? (candidates : List Language) (text : String) : Option Language :=
  let cs := text.toList
  (rules.find? fun rule => candidates.contains rule.language && rule.holds cs).map (·.language)

end Evidence

end FileProfile
