/-!
# Lower case, as a key in ASCII letters sees it

Names and extensions are looked up in tables whose keys are ASCII. Besides the ASCII capitals, the
Kelvin sign U+212A is the only character with a lower-case form in ASCII; every other character
keeps a non-ASCII character in its lower-case form, and so meets no key either way. Lower-casing
these twenty-seven and leaving the rest alone therefore finds the keys that full lower-casing finds.
-/

namespace FileProfile.Text

/-- The lower-case form of a character, where that form is in ASCII; else the character itself. -/
def lowerChar (c : Char) : Char := if c = '\u212A' then 'k' else c.toLower

/-- A text with `lowerChar` applied to each character. -/
def lower (s : String) : String := s.map lowerChar

end FileProfile.Text
