import FileProfile.FileName
import FileProfile.Provenance.CoffeeScript
import FileProfile.Provenance.Minified

/-!
# Generated files

Project files of development environments are generated by their extension alone. A script in
JavaScript is generated if it is minified or compiled, unless it has too little ink to judge.
-/

namespace FileProfile.Provenance

/-- Extensions of project files. -/
def projectExtensions : List String := ["xib", "nib", "pbxproj"]

/-- How many characters that are not white space a script needs to be judged. -/
def leastInk : Nat := 16

/-- The number of characters in a list of lines that are not white space. -/
def ink (lines : List String) : Nat :=
  lines.foldl (fun n line => n + line.toList.countP fun c => !Text.isBlank c) 0

/-- Whether a file of this name and with these lines is generated, `threshold` being the length in
bytes above which lines count as long. -/
def isGenerated (threshold : Nat) (name : String) (lines : List String) : Bool :=
  match FileName.extension? name with
  | none => false
  | some extension =>
    projectExtensions.contains extension ||
      extension == "js" && ink lines ≥ leastInk &&
        (isMinified threshold name lines || isCompiledCoffeeScript lines)

end FileProfile.Provenance
