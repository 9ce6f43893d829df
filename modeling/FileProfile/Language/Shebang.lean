import FileProfile.Language.Catalogue
import FileProfile.Text.Lines
import FileProfile.Text.Word
import FileProfile.Text.Words

/-!
# The shebang line

A script names its interpreter on its first line, behind `#!`: by its path, or as an argument of
`env` behind the options and assignments that are meant for `env` itself. The interpreter's name may
end in a version.

A script for `sh` may at once hand over to another interpreter, by a line such as

    exec tclsh "$0" "$@"

among its first five. It then counts as a script for that interpreter.
-/

namespace FileProfile

/-- What the shebang line of a script says. -/
structure Shebang where
  /-- The interpreter that runs the script in the end, without version. -/
  script : String
  /-- The interpreter as the shebang line gives it. -/
  raw : String
  version : Option String
  /-- The language that the interpreter runs. -/
  language : Option Language
  deriving DecidableEq, Repr

namespace Shebang

/-- How many lines of a script are searched for one that hands over to another interpreter. -/
def relaunchLines : Nat := 5

/-- Whether a word behind `env` is meant for `env` itself. -/
def isForEnv (word : List Char) : Bool := word.head? == some '-' || word.contains '='

/-- The interpreter that a line gives, if it is a shebang line that gives one. -/
def interpreter? (line : List Char) : Option (List Char) :=
  if "#!".toList.isPrefixOf line then
    match Text.words (line.drop 2) with
    | [] => none
    | program :: arguments =>
      let name := Text.lastPiece '/' program
      if name = "env".toList then arguments.find? (!isForEnv ·)
      else if name.isEmpty then none
      else some name
  else none

/-- Whether a character can stand in a version. -/
def isVersionChar (c : Char) : Bool := c.isDigit || c == '.'

/-- The name and the version of an interpreter: the digits and dots that it ends in are its version,
unless it consists of nothing else. -/
def splitVersion (raw : List Char) : List Char × Option (List Char) :=
  let backwards := raw.reverse
  let name := (backwards.dropWhile isVersionChar).reverse
  let version := (backwards.takeWhile isVersionChar).reverse
  if name.isEmpty || version.isEmpty then (raw, none) else (name, some version)

/-- What stands in a text behind the first occurrence of `word`. -/
def behind? (word : List Char) : List Char → Option (List Char)
  | [] => if word.isEmpty then some [] else none
  | c :: cs =>
    if word.isPrefixOf (c :: cs) then some ((c :: cs).drop word.length) else behind? word cs

/-- Whether a text hands the script and its arguments on: something, `$0`, something, `$@`. -/
def handsOn (cs : List Char) : Bool :=
  (behind? "$0".toList (cs.drop 1)).any fun rest => (behind? "$@".toList (rest.drop 1)).isSome

/-- The longest of the first `n` or fewer characters of a text, at least one, behind which it hands
the script on. -/
def programOfLength? (cs : List Char) : Nat → Option (List Char)
  | 0 => none
  | n + 1 => if handsOn (cs.drop (n + 1)) then some (cs.take (n + 1)) else programOfLength? cs n

/-- The interpreter that a text behind `exec` hands over to, if it does. -/
def program? (cs : List Char) : Option (List Char) :=
  programOfLength? cs (cs.takeWhile Text.isWord).length

/-- The interpreter that a line hands over to, if it does. -/
def relaunchIn? : List Char → Option (List Char)
  | [] => none
  | c :: cs =>
    let here := if "exec ".toList.isPrefixOf (c :: cs) then program? ((c :: cs).drop 5) else none
    match here with
    | some program => some program
    | none => relaunchIn? cs

/-- The interpreter that one of the first lines of a script hands over to, if one does. -/
def relaunch? (lines : List String) : Option (List Char) :=
  (lines.take relaunchLines).findSome? (relaunchIn? ·.toList)

/-- What the shebang line of a text says, if it has one. -/
def of? (text : String) : Option Shebang := do
  let lines := Text.lines text
  let raw ← interpreter? (← lines.head?).toList
  let (name, version) := splitVersion raw
  let script := if name = "sh".toList then (relaunch? lines).getD name else name
  return {
    script := String.ofList script
    raw := String.ofList raw
    version := version.map String.ofList
    language := Catalogue.runBy? (String.ofList script) }

end Shebang

end FileProfile
