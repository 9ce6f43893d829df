import FileProfile.FileName
import FileProfile.Language.Registry
import FileProfile.Text.Lower

/-!
# Looking languages up

The catalogue turns the list of languages round: from a base name, an extension, a name or an
interpreter to the languages that declare it. It is entered once, from the list, and then answers
without walking the list.

* `Catalogue.candidates` — the languages that claim a base name. A language that lists the exact
  name takes precedence over all that list the extension.
* `Catalogue.named?`, `Catalogue.runBy?` — the language of a name in any case, and the first
  language run by an interpreter.
-/

namespace FileProfile

/-- Keys, and the values entered under each in the order of their entry. -/
structure Multimap (κ α : Type) where
  entries : List (κ × List α) := []

namespace Multimap

variable {κ α : Type} [DecidableEq κ]

/-- The values under a key. -/
def find (m : Multimap κ α) (key : κ) : List α := (m.entries.lookup key).getD []

/-- Enters a value under a key, behind the values already there. -/
def enterIn (key : κ) (value : α) : List (κ × List α) → List (κ × List α)
  | [] => [(key, [value])]
  | (k, values) :: rest =>
    if k = key then (k, values ++ [value]) :: rest else (k, values) :: enterIn key value rest

/-- The map of a list of keys with their values. -/
def ofPairs (pairs : List (κ × α)) : Multimap κ α :=
  ⟨pairs.foldl (fun entries (key, value) => enterIn key value entries) []⟩

theorem lookup_enterIn (key : κ) (value : α) (entries : List (κ × List α)) (k : κ) :
    ((enterIn key value entries).lookup k).getD [] =
      (entries.lookup k).getD [] ++ if key = k then [value] else [] := by
  induction entries with
  | nil =>
    by_cases h : key = k
    · simp [enterIn, h]
    · simp [enterIn, h, List.lookup_cons, beq_false_of_ne (Ne.symm h)]
  | cons e rest ih =>
    obtain ⟨k', values⟩ := e
    rw [enterIn]
    split
    · next h =>
      subst h
      by_cases hk : k = k'
      · simp [hk]
      · simp [List.lookup_cons, beq_false_of_ne hk, Ne.symm hk]
    · next h =>
      by_cases hk : k = k'
      · subst hk; simp [Ne.symm h]
      · simp [List.lookup_cons, beq_false_of_ne hk, ih]

/-- Under a key stand the values that were entered under it, in order. -/
theorem find_ofPairs (pairs : List (κ × α)) (k : κ) :
    (ofPairs pairs).find k = (pairs.filter (·.1 = k)).map (·.2) := by
  have go : ∀ entries : List (κ × List α),
      ((pairs.foldl (fun es p => enterIn p.1 p.2 es) entries).lookup k).getD [] =
        (entries.lookup k).getD [] ++ (pairs.filter (·.1 = k)).map (·.2) := by
    induction pairs with
    | nil => simp
    | cons p pairs ih =>
      intro entries
      rw [List.foldl_cons, ih, lookup_enterIn, List.filter_cons]
      by_cases h : p.1 = k <;> simp [h]
  simpa [find, ofPairs] using go []

end Multimap

namespace Catalogue

open FileProfile.Language

/-- The pairs of each language with each of the keys that it declares. -/
def declarations (keys : Language → List String) : List (String × Language) :=
  all.flatMap fun language => (keys language).map (·, language)

/-- The languages under each exact base name. -/
def byFilename : Multimap String Language := .ofPairs (declarations filenames)

/-- The languages under each extension as written. -/
def byExtension : Multimap String Language := .ofPairs (declarations extensions)

/-- The languages whose extensions hold in any case, under each of them in lower case. -/
def byLowerExtension : Multimap String Language :=
  .ofPairs (declarations fun language =>
    if language.ignoreCase then language.extensions.map Text.lower else [])

/-- The languages under their names in lower case. -/
def byLowerName : Multimap String Language :=
  .ofPairs (declarations fun language => [Text.lower language.name])

/-- The languages under each interpreter. -/
def byInterpreter : Multimap String Language := .ofPairs (declarations interpreters)

/-- A list of languages, with those of others behind it that it does not have. -/
def addMissing (languages others : List Language) : List Language :=
  others.foldl
    (fun found language => if found.contains language then found else found ++ [language])
    languages

/-- Puts a language in front of the first one that is not declared before it. -/
def insertDeclared (language : Language) : List Language → List Language
  | [] => [language]
  | l :: rest =>
    if language.index ≤ l.index then language :: l :: rest else l :: insertDeclared language rest

/-- Languages in the order in which they are declared. -/
def inDeclaredOrder (languages : List Language) : List Language :=
  languages.foldr insertDeclared []

/-- The languages that claim an extension, as it is written or in any case. -/
def candidatesForExtension (extension : String) : List Language :=
  inDeclaredOrder
    (addMissing (byExtension.find extension) (byLowerExtension.find (Text.lower extension)))

/-- The languages that claim a base name. -/
def candidates (name : String) : List Language :=
  match byFilename.find name with
  | [] => ((FileName.extension? name).map candidatesForExtension).getD []
  | languages => languages

/-- Whether several languages claim a base name. -/
def isAmbiguous (name : String) : Bool := (candidates name).length > 1

/-- The language of a name, in any case: the last that is entered under it. -/
def named? (name : String) : Option Language := (byLowerName.find (Text.lower name)).getLast?

/-- The first language that lists an interpreter. -/
def runBy? (interpreter : String) : Option Language := (byInterpreter.find interpreter).head?

end Catalogue

end FileProfile
