import FileProfile.Text.Raw
import FileProfile.Text.Split

/-!
# Paths

A path is a raw text whose segments are separated by slashes; a name is any raw text without a
slash, whether it is UTF-8 or not. Empty segments and segments that are a single dot name nothing,
except that a slash at the very start names the root of the disk and a dot at the very start names
the place that relative paths start from. What the others name are the components of the path: steps
up, and names.

`Path.under? root path` is what is left of a path once the components of a root are taken off its
front. It looks at the bytes alone, so a step up is a component like any other. What is left keeps
its spelling. Only when a file is known by it, `Path.known`, is it read as text.
-/

namespace FileProfile.Path

/-- The byte between segments. -/
def slash : UInt8 := 0x2F

/-- The byte that is read as if it were a slash when a path becomes a text. -/
def backslash : UInt8 := 0x5C

/-- The segment that stands for where one is. -/
def here : RawText := [0x2E]

/-- The segment that steps up. -/
def up : RawText := [0x2E, 0x2E]

/-- A component of a path. -/
inductive Component where
  | root
  | here
  | up
  | name (s : RawText)
  deriving DecidableEq, Repr

/-- The segments of a path. -/
def segments (path : RawText) : List RawText := Text.pieces slash path

/-- The path with these segments. -/
def ofSegments (segments : List RawText) : RawText := [slash].intercalate segments

/-- Whether a segment names nothing. -/
def isIdle (segment : RawText) : Bool := segment == [] || segment == here

/-- The component that a segment names. -/
def component (segment : RawText) : Component := if segment = up then .up else .name segment

/-- How a path starts, if that is a component of its own, and the segments behind it. -/
def start (path : RawText) : Option Component × List RawText :=
  match segments path with
  | [] => (none, [])
  | [] :: segment :: rest => (some .root, segment :: rest)
  | segment :: rest => if segment = here then (some .here, rest) else (none, segment :: rest)

/-- The components that segments name, at the start of a path apart. -/
def body (segments : List RawText) : List Component := (segments.filter (!isIdle ·)).map component

/-- The components of a path. -/
def components (path : RawText) : List Component := (start path).1.toList ++ body (start path).2

/-- Whether the path begins with a slash. -/
def isAbsolute (path : RawText) : Bool := (start path).1 = some .root

/-- The segments that are left once these components are taken off the front. -/
def dropBody? : List Component → List RawText → Option (List RawText)
  | [], segments => some segments
  | _ :: _, [] => none
  | c :: cs, segment :: rest =>
    if isIdle segment then dropBody? (c :: cs) rest
    else if component segment = c then dropBody? cs rest
    else none

/-- What is left of a path once the components of `root` are taken off its front, if they are there.
An empty root leaves every path as it is. Idle segments at the end are kept as well: a path that has
them does not lead to a file, so no file is ever known by what is left of it then. -/
def under? (root path : RawText) : Option RawText :=
  if components root = [] then some path
  else if (start root).1 = (start path).1 then
    (dropBody? (body (start root).2) (start path).2).map fun segments =>
      ofSegments (segments.dropWhile isIdle)
  else none

/-- A path as seen from a root: an absolute path is left as it is. -/
def join (root path : RawText) : RawText :=
  if isAbsolute path || root == [] then path
  else if root.getLast? = some slash then root ++ path
  else root ++ slash :: path

/-- A text with slashes in place of backslashes. -/
def withSlashes (text : String) : String := text.map fun c => if c = '\\' then '/' else c

/-- The text that a file is known by, if this is its path: the path read as text, with slashes in
place of backslashes. -/
def known (path : RawText) : String := withSlashes path.toText

end FileProfile.Path
