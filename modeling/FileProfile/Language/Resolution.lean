import FileProfile.Language.Evidence

/-!
# Deciding on a language

Three things speak for the language of a file: the languages that claim its name, its shebang line,
and its text. A shebang line decides where no language claims the name, and where its language is
one of those that do. Otherwise a single claimant has the file, and several are told apart by the
evidence in the text; without any, the first has it.
-/

namespace FileProfile.Language

/-- The language of a file, given the languages that claim its name in the order of their
declaration, the language of its shebang line, and its text. -/
def resolve (candidates : List Language) (shebang : Option Language) (text : String) :
    Option Language :=
  match candidates with
  | [] => shebang
  | first :: others =>
    if shebang.any candidates.contains then shebang
    else if others.isEmpty then some first
    else some ((Evidence.language? candidates text).getD first)

end FileProfile.Language
