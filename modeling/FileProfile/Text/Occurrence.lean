/-!
# Occurrences of words in a text

Whether a word stands in a text, how many of several words are found when the text is read once from
left to right, and the text with another word in place of one that is found. A word that is found is
passed over as a whole, so that one that begins inside it is not found; where several begin at one
place, the first listed is the one that is found.
-/

namespace FileProfile.Text

/-- Whether `word` stands somewhere in a text. -/
def occurs (word : List Char) : List Char → Bool
  | [] => word.isEmpty
  | c :: cs => word.isPrefixOf (c :: cs) || occurs word cs

/-- The first of `words` that stands at the start of a text. -/
def wordAt? (words : List (List Char)) (cs : List Char) : Option (List Char) :=
  words.find? (·.isPrefixOf cs)

/-- `n` and the number of `words` that are found in a text behind its first `passed` characters. -/
def addFound (words : List (List Char)) (n passed : Nat) : List Char → Nat
  | [] => n
  | c :: cs =>
    match passed with
    | passed + 1 => addFound words n passed cs
    | 0 =>
      match wordAt? words (c :: cs) with
      | some word => addFound words (n + 1) (word.length - 1) cs
      | none => addFound words n 0 cs

/-- How many of `words` are found in a text. -/
def countFound (words : List (List Char)) (cs : List Char) : Nat := addFound words 0 0 cs

/-- A text behind its first `passed` characters, with `new` in place of each `old` that is found. -/
def replaceFrom (old new : List Char) (passed : Nat) : List Char → List Char
  | [] => []
  | c :: cs =>
    match passed with
    | passed + 1 => replaceFrom old new passed cs
    | 0 =>
      if old.isPrefixOf (c :: cs) then new ++ replaceFrom old new (old.length - 1) cs
      else c :: replaceFrom old new 0 cs

/-- A text with `new` in place of each `old` that is found. -/
def replaceFound (old new cs : List Char) : List Char := replaceFrom old new 0 cs

/-- A word stands in a text exactly when the text is the word with something before and after it. -/
theorem occurs_iff (word cs : List Char) : occurs word cs = true ↔ word <:+: cs := by
  induction cs with
  | nil => simp [occurs]
  | cons c cs ih =>
    rw [occurs, Bool.or_eq_true, ih, List.isPrefixOf_iff_prefix, List.infix_cons_iff]

end FileProfile.Text
