import FileProfile.Text.Blank
import FileProfile.Text.CaseFold
import FileProfile.Text.Digit
import FileProfile.Text.Word

/-!
# Sets of characters

A pattern consumes a text one character at a time, each from a set. Sets are built from ranges and
the three Unicode classes by the operations of set algebra, and by closure under change of case:
`caseless s` holds a character as soon as one of its case variants is in `s`.
-/

namespace FileProfile

/-- A set of characters. -/
inductive CharSet where
  | all
  | between (first last : Char)
  | blank
  | digit
  | word
  | union (s t : CharSet)
  | inter (s t : CharSet)
  | compl (s : CharSet)
  | caseless (s : CharSet)
  deriving DecidableEq, Repr

namespace CharSet

/-- Whether a set holds a character. -/
def contains : CharSet → Char → Bool
  | all, _ => true
  | between first last, c => first ≤ c && c ≤ last
  | blank, c => Text.isBlank c
  | digit, c => Text.isDigit c
  | word, c => Text.isWord c
  | union s t, c => s.contains c || t.contains c
  | inter s t, c => s.contains c && t.contains c
  | compl s, c => !s.contains c
  | caseless s, c => (Text.caseVariants c).any s.contains

/-- The set of one character. -/
def single (c : Char) : CharSet := between c c

/-- The set with no characters. -/
def none : CharSet := compl all

/-- The characters of `s` that are not in `t`. -/
def diff (s t : CharSet) : CharSet := inter s (compl t)

/-- The characters in one of `s` and `t` but not in both. -/
def symmDiff (s t : CharSet) : CharSet := union (diff s t) (diff t s)

/-- The characters in one of several sets. -/
def unions : List CharSet → CharSet
  | [] => none
  | [s] => s
  | s :: ss => union s (unions ss)

/-- The characters of a text, as a set. -/
def ofChars (cs : String) : CharSet := unions (cs.toList.map single)

@[simp] theorem contains_single (c d : Char) : (single c).contains d = decide (c = d) := by
  simp only [single, contains]
  rw [← Bool.decide_and]
  exact decide_eq_decide.2
    ⟨fun h => Char.le_antisymm h.1 h.2, fun h => h ▸ ⟨Char.le_refl _, Char.le_refl _⟩⟩

@[simp] theorem contains_none (c : Char) : none.contains c = false := rfl

end CharSet

end FileProfile
