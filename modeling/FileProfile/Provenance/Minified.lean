import FileProfile.Text.Lines

/-!
# Minified scripts

Minified code stands on few long lines with little white space. A script counts as minified when its
lines are longer than a threshold on average, or when its first line with ink is and either the file
is named as minified or that line is less than a tenth white space. Lengths are in bytes, the share
of white space is in characters.
-/

namespace FileProfile.Provenance

/-- The bytes of all lines together. -/
def totalBytes (lines : List String) : Nat := lines.foldl (fun n line => n + line.utf8ByteSize) 0

/-- Whether less than a tenth of the characters of a line are white space. -/
def isDense (line : String) : Bool :=
  let cs := line.toList
  10 * cs.countP Text.isBlank < cs.length

/-- The ending of the names of minified scripts. -/
def minifiedEnding : String := ".min.js"

/-- Whether a name says that the file is minified. -/
def isNamedMinified (name : String) : Bool := minifiedEnding.toList.isSuffixOf name.toList

/-- Whether a script of this name and with these lines is minified, long lines being those of more
than `threshold` bytes. -/
def isMinified (threshold : Nat) (name : String) (lines : List String) : Bool :=
  totalBytes lines / lines.length > threshold ||
    (lines.find? Text.isInked).any fun first =>
      first.utf8ByteSize > threshold && (isNamedMinified name || isDense first)

end FileProfile.Provenance
