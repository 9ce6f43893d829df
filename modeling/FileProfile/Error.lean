import FileProfile.Text.Raw

/-!
# What can go wrong

Classifying never fails. What can fail is reading a file, placing it under a root, and highlighting.
-/

namespace FileProfile

/-- Why a path could not be followed to the bytes of a file. -/
inductive PathFault where
  | notFound
  | notADirectory
  | isADirectory
  deriving DecidableEq, Repr

/-- An error, by its cause. -/
inductive Error where
  /-- The path could not be followed. -/
  | unreadable (path : RawText) (fault : PathFault)
  /-- The path leads to a place outside the root. -/
  | outsideRoot (path root : RawText)
  /-- The highlighter refused the text or the lexer. -/
  | highlighter (lexer reason : String)
  deriving DecidableEq, Repr

/-- The text of an error. -/
def Error.message : Error → String
  | unreadable path _ => "failed to read blob " ++ path.toText
  | outsideRoot path root => "path " ++ path.toText ++ " is not inside root " ++ root.toText
  | highlighter lexer reason => "highlighter failed for lexer '" ++ lexer ++ "': " ++ reason

end FileProfile
