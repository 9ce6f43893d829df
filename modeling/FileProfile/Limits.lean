import FileProfile.Text.Decimal

/-!
# Limits

The sizes and lengths that classification depends on. A limit can be set by a variable of the
environment, as an unsigned decimal number of at most 64 bits; a variable that is missing or holds
anything else leaves the default.
-/

namespace FileProfile

/-- The thresholds of classification. -/
structure Limits where
  /-- How many bytes at the start of a file are looked at for signs of binary content. -/
  sampleLength : Nat := 8192
  /-- Lines with more bytes are long for a script. -/
  longLine : Nat := 110
  /-- Files with more bytes are not shown. -/
  viewableSize : Nat := 1024 * 1024
  /-- Files with more bytes are not indexed. -/
  indexableSize : Nat := 100 * 1024
  deriving DecidableEq, Repr

namespace Limits

/-- The least number that is too large for 64 bits. -/
def bound : Nat := 0x10000000000000000

/-- The number of at most 64 bits that a text writes in decimal digits, a plus sign allowed. -/
def number? (text : String) : Option Nat :=
  let digits :=
    match text.toList with
    | '+' :: digits => digits
    | digits => digits
  let value := Text.ofDigits digits
  if !digits.isEmpty && digits.all Char.isDigit && value < bound then some value else none

/-- The variable for the length of the sample. -/
def sampleLengthVariable : String := "BLOBSNIFF_SNIFF_LEN"

/-- The variable for the length of a long line. -/
def longLineVariable : String := "BLOBSNIFF_MINIFIED_LINE_LENGTH"

/-- The variable for the size of viewable files. -/
def viewableSizeVariable : String := "BLOBSNIFF_LARGE_BLOB_SIZE"

/-- The variable for the size of indexable files. -/
def indexableSizeVariable : String := "BLOBSNIFF_MAX_INDEXABLE_SIZE"

/-- The variables that set limits. -/
def variableNames : List String :=
  [sampleLengthVariable, longLineVariable, viewableSizeVariable, indexableSizeVariable]

/-- The limits that an environment sets, given by what each of its variables holds. -/
def ofEnvironment (get? : String → Option String) : Limits :=
  let read (name : String) (default : Nat) := ((get? name).bind number?).getD default
  let defaults : Limits := {}
  { sampleLength := read sampleLengthVariable defaults.sampleLength
    longLine := read longLineVariable defaults.longLine
    viewableSize := read viewableSizeVariable defaults.viewableSize
    indexableSize := read indexableSizeVariable defaults.indexableSize }

end Limits

end FileProfile
