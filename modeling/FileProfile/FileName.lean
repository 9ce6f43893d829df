import FileProfile.Text.Split

/-!
# File names

The base name of a path is what stands behind its last slash; the extension of a base name is what
stands behind its last dot, if there is something on both sides of that dot. A name that only begins
with a dot, such as `.profile`, therefore has no extension.
-/

namespace FileProfile.FileName

/-- What stands behind the last slash of a path. -/
def base (path : String) : String := String.ofList (Text.lastPiece '/' path.toList)

/-- The extension of a base name, if it has one. -/
def extension? (name : String) : Option String :=
  let backwards := name.toList.reverse
  let extension := backwards.takeWhile (· != '.')
  -- the last dot, if there is one, and what stands in front of it
  let stem := backwards.dropWhile (· != '.')
  if extension.isEmpty || stem.length < 2 then none else some (String.ofList extension.reverse)

end FileProfile.FileName
