import FileProfile.Pattern.Search

/-!
# Third-party files

Files that a project only carries along are told by their paths: by the directories that dependency
managers fill, and by the names of well-known libraries. A rule is a pattern that stands somewhere
in the path; a project can add rules of its own.
-/

namespace FileProfile.Provenance

open Pattern

section Rules

/-- The start of a path component. -/
def componentStart : Pattern := oneOf [edge .textStart, char '/']

/-- A directory of this name at any depth. -/
def anyFolder (name : String) : Pattern := inOrder [componentStart, text name, char '/']

/-- A directory of this name at the root. -/
def topFolder (name : String) : Pattern := inOrder [edge .textStart, text name, char '/']

/-- A path that ends in a component with these parts. -/
def file (parts : List Pattern) : Pattern := inOrder (componentStart :: parts ++ [edge .textEnd])

/-- A path that ends in this text. -/
def ending (name : String) : Pattern := inOrder [text name, edge .textEnd]

/-- Any number of characters other than dots. -/
def noDots : Pattern := star (one (.compl (.single '.')))

/-- The mark of a minified script, or nothing. -/
def minMark : Pattern := optional (text ".min")

/-- At least one digit. -/
def digits : Pattern := plus digit

/-- A dot and digits behind it. -/
def dotDigits : Pattern := inOrder [char '.', digits]

/-- The extensions of scripts and style sheets. -/
def scriptOrStyle : Pattern := inOrder [char '.', oneOf [text "js", text "css"]]

/-- The rules that always hold. -/
def standardRules : List Pattern := [
  -- directories of dependency managers
  anyFolder "vendor",
  anyFolder "node_modules",
  -- dependencies in native code
  topFolder "deps",
  topFolder "tools",
  -- Prototype and script.aculo.us
  file [text "prototype", star inLine, text ".js"],
  file [text "effects.js"],
  file [text "controls.js"],
  file [text "dragdrop.js"],
  -- jQuery
  file [text "jquery", noDots, minMark, text ".js"],
  file [text "jquery-", digit, dotDigits, optional dotDigits, minMark, text ".js"],
  -- jQuery UI
  file [text "jquery-ui", optional (inOrder [char '-', digit, dotDigits, optional dotDigits]),
    optional (inOrder [char '.', plus wordChar]), minMark, scriptOrStyle],
  file [text "jquery.", oneOf [text "ui", text "effects"], char '.', noDots, minMark,
    scriptOrStyle],
  -- MooTools
  file [text "mootools", noDots, digits, dotDigits, dotDigits, noDots, text ".js"],
  -- Dojo
  file [text "dojo.js"],
  -- MochiKit
  file [text "MochiKit.js"],
  -- YUI
  file [text "yahoo-", noDots, text ".js"],
  file [text "yui", noDots, text ".js"],
  -- LESS
  file [text "less", noDots, minMark, text ".js"],
  file [text "less-", digits, dotDigits, dotDigits, minMark, text ".js"],
  -- editors
  file [text "ckeditor.js"],
  file [text "tiny_mce", noDots, text ".js"],
  inOrder [componentStart, text "tiny_mce/",
    oneOf [text "langs", text "plugins", text "themes", text "utils"]],
  -- MathJax
  anyFolder "MathJax",
  -- SyntaxHighlighter
  file [text "shBrush", noDots, text ".js"],
  file [text "shCore.js"],
  file [text "shLegacy.js"],
  -- Fabric
  file [text "fabfile.py"],
  -- Waf
  file [text "waf"],
  -- Visual Studio
  ending ".intellisense.js",
  file [text "jquery", noDots, text ".validate", optional (text ".unobtrusive"), minMark,
    text ".js"],
  -- Sublime Text
  ending ".sublime-project",
  ending ".sublime-workspace"]

end Rules

/-- A path without the `./` that it may start with, however often. -/
def dropHere : List Char → List Char
  | '.' :: '/' :: path => dropHere path
  | path => path

/-- Whether the file at a path is third-party, by the standard rules and these further ones. -/
def isThirdParty (further : List Pattern) (path : String) : Bool :=
  let cs := dropHere path.toList
  (standardRules ++ further).any (·.foundIn cs)

end FileProfile.Provenance
