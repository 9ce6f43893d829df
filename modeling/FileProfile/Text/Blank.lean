import FileProfile.Text.Ranges

/-!
# Blank characters

The characters with the Unicode property `White_Space`. The zero-width characters and the separators
U+001C to U+001F are not among them; the next-line and no-break characters are.
-/

namespace FileProfile.Text

/-- The code ranges of `White_Space`. -/
def blankRanges : List (Nat × Nat) :=
  [(0x9, 0xD), (0x20, 0x20), (0x85, 0x85), (0xA0, 0xA0), (0x1680, 0x1680), (0x2000, 0x200A),
  (0x2028, 0x2029), (0x202F, 0x202F), (0x205F, 0x205F), (0x3000, 0x3000)]

/-- Whether a character is white space. -/
def isBlank (c : Char) : Bool := inRanges c.toNat blankRanges

/-- Whether a text has a character that is not white space. -/
def hasInk (cs : List Char) : Bool := cs.any fun c => !isBlank c

@[simp] theorem hasInk_append (cs ds : List Char) :
    hasInk (cs ++ ds) = (hasInk cs || hasInk ds) := List.any_append

end FileProfile.Text
