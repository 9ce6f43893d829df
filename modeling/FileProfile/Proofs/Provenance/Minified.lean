import FileProfile.Proofs.Provenance.Density
import FileProfile.Provenance.Generated

/-!
# Long lines at the threshold

The average length of the lines of a script is a whole number, so it exceeds the threshold only if
the lines together have as many bytes as lines that are all longer by one would have
(`lt_totalBytes_div_iff`). A script whose lines are longer than the threshold by less than one on
average is not minified for that; like one with shorter lines it is judged by its first line with
ink, or by the compiler it comes from (`isGenerated_iff_of_longLines`).
-/

namespace FileProfile.Provenance

variable {threshold : Nat} {name first : String} {lines : List String}

/-! ### The average -/

theorem lt_totalBytes_div_iff (h : lines ≠ []) : threshold < totalBytes lines / lines.length ↔
    (threshold + 1) * lines.length ≤ totalBytes lines :=
  Nat.le_div_iff_mul_le (List.length_pos_iff.mpr h)

theorem not_lt_totalBytes_div (h : totalBytes lines ≤ threshold * lines.length) :
    ¬ threshold < totalBytes lines / lines.length :=
  Nat.not_lt.mpr (Nat.div_le_of_le_mul (Nat.mul_comm threshold _ ▸ h))

/-! ### The first line with ink -/

/-- The first of the lines that has ink. -/
def IsFirstInked (first : String) (lines : List String) : Prop :=
  Text.isInked first = true ∧
    ∃ blanks others, lines = blanks ++ first :: others ∧ ∀ line ∈ blanks, Text.isInked line = false

theorem find?_isInked_eq_some_iff :
    lines.find? Text.isInked = some first ↔ IsFirstInked first lines := by
  simp only [List.find?_eq_some_iff_append, IsFirstInked, Bool.not_eq_true']

/-- The first line with ink is longer than the threshold, and the file is named as minified or less
than a tenth of the line is white space. -/
def BeginsLong (threshold : Nat) (name : String) (lines : List String) : Prop :=
  ∃ first, IsFirstInked first lines ∧ threshold < first.utf8ByteSize ∧
    (".min.js".toList <:+ name.toList ∨
      10 * first.toList.countP Text.isBlank < first.toList.length)

theorem any_find?_isInked_iff : ((lines.find? Text.isInked).any fun first =>
    first.utf8ByteSize > threshold && (isNamedMinified name || isDense first)) = true ↔
      BeginsLong threshold name lines := by
  simp only [Option.any_eq_true, find?_isInked_eq_some_iff, Bool.and_eq_true, Bool.or_eq_true,
    decide_eq_true_eq, isDense_iff, isNamedMinified, List.isSuffixOf_iff_suffix, minifiedEnding,
    BeginsLong, gt_iff_lt]

theorem isMinified_iff : isMinified threshold name lines = true ↔
    threshold < totalBytes lines / lines.length ∨ BeginsLong threshold name lines := by
  rw [isMinified, Bool.or_eq_true, any_find?_isInked_iff, decide_eq_true_eq, gt_iff_lt]

theorem isGenerated_script_iff (h_name : FileName.extension? name = some "js")
    (h_ink : leastInk ≤ ink lines) : isGenerated threshold name lines = true ↔
      isMinified threshold name lines = true ∨ isCompiledCoffeeScript lines = true := by
  have h_project : projectExtensions.contains "js" = false := by decide
  rw [isGenerated, h_name]
  simp only [h_project, beq_self_eq_true, h_ink, decide_true, Bool.false_or, Bool.true_and,
    Bool.or_eq_true]

/-- **Long lines at the threshold.** A script with ink whose lines are longer than the threshold on
average is generated if they are so by one at least; else, as a script with shorter lines, it is if
its first line with ink is long and named or packed as a minified one is, or if it is compiled. The
share of white space in that line may as well be taken in doubles. -/
theorem isGenerated_iff_of_longLines (threshold : Nat) (name : String) (lines : List String) :
    (FileName.extension? name = some "js" → 16 ≤ ink lines →
      threshold * lines.length < totalBytes lines →
      (isGenerated threshold name lines = true ↔
        (threshold + 1) * lines.length ≤ totalBytes lines ∨ BeginsLong threshold name lines ∨
          isCompiledCoffeeScript lines = true)) ∧
    (totalBytes lines ≤ threshold * lines.length →
      (isMinified threshold name lines = true ↔ BeginsLong threshold name lines)) ∧
    ∀ first : String, first.toList.length < 2 ^ 53 → ∀ blanks length quotient tenth : ℚ,
      IsNearest (first.toList.countP Text.isBlank) blanks → IsNearest first.toList.length length →
      IsNearest (blanks / length) quotient → IsNearest (1 / 10) tenth →
      (10 * first.toList.countP Text.isBlank < first.toList.length ↔
        first ≠ "" ∧ quotient < tenth) := by
  refine ⟨?_, ?_, ?_⟩
  · intro h_name h_ink h_long
    have h_lines : lines ≠ [] := by
      rintro rfl
      exact absurd h_long (Nat.not_lt_zero _)
    rw [isGenerated_script_iff h_name h_ink, isMinified_iff, lt_totalBytes_div_iff h_lines, or_assoc]
  · intro h_short
    rw [isMinified_iff, or_iff_right (not_lt_totalBytes_div h_short)]
  · intro first h_first blanks length quotient tenth h_blanks h_length h_quotient h_tenth
    rw [← isDense_iff]
    exact isDense_iff_quotient_lt h_first h_blanks h_length h_quotient h_tenth

/-- Two lines of nine and a half bytes on average. A tenth of the first is white space. -/
def nearlyLongLines : List String := ["var a=111;", "var b=22;"]

/-- Above a threshold of nine they are not minified, and below one of ten only the first line is
looked at; its share of white space is not less than a tenth, in doubles either. -/
theorem isGenerated_iff_of_longLines_nearly :
    (FileName.extension? "a.js" = some "js" ∧ 16 ≤ ink nearlyLongLines ∧
      9 * nearlyLongLines.length < totalBytes nearlyLongLines ∧
      isGenerated 9 "a.js" nearlyLongLines = false) ∧
    (totalBytes nearlyLongLines ≤ 10 * nearlyLongLines.length ∧
      isMinified 10 "a.js" nearlyLongLines = false) ∧
    "var a=111;".toList.length < 2 ^ 53 ∧
      IsNearest ("var a=111;".toList.countP Text.isBlank) 1 ∧
      IsNearest "var a=111;".toList.length 10 ∧ IsNearest (1 / 10) aboveTenth ∧
      ¬ 10 * "var a=111;".toList.countP Text.isBlank < "var a=111;".toList.length := by
  have h_name : FileName.extension? "a.js" = some "js" := by decide +kernel
  have h_ink : 16 ≤ ink nearlyLongLines := by decide +kernel
  have h_long : 9 * nearlyLongLines.length < totalBytes nearlyLongLines := by decide +kernel
  have h_below : totalBytes nearlyLongLines ≤ 10 * nearlyLongLines.length := by decide +kernel
  have h_first : ∀ threshold ∈ [9, 10], ¬ BeginsLong threshold "a.js" nearlyLongLines := by
    simp only [← any_find?_isInked_iff]
    decide +kernel
  have h_length : "var a=111;".toList.length = 10 := by decide +kernel
  have h_blanks : "var a=111;".toList.countP Text.isBlank = 1 := by decide +kernel
  have h_one : IsNearest ("var a=111;".toList.countP Text.isBlank) 1 := by
    rw [h_blanks, Nat.cast_one]
    exact isNearest_self (by exact_mod_cast isDouble_natCast (n := 1) (by norm_num))
  have h_ten : IsNearest "var a=111;".toList.length 10 := by
    rw [h_length]
    exact isNearest_self (isDouble_natCast (n := 10) (by norm_num))
  have h_tenth : IsNearest (1 / 10) aboveTenth := isNearest_tenth_iff.mpr rfl
  have h_few : "var a=111;".toList.length < 2 ^ 53 := by
    rw [h_length]
    norm_num
  refine ⟨⟨h_name, h_ink, h_long, ?_⟩, ⟨h_below, ?_⟩, h_few, h_one, h_ten, h_tenth, ?_⟩
  · rw [← Bool.not_eq_true, (isGenerated_iff_of_longLines 9 "a.js" _).1 h_name h_ink h_long]
    rintro (h_average | h_begins | h_compiled)
    · exact absurd h_average (by decide +kernel)
    · exact h_first 9 (by decide) h_begins
    · exact absurd h_compiled (by decide +kernel)
  · rw [← Bool.not_eq_true, (isGenerated_iff_of_longLines 10 "a.js" _).2.1 h_below]
    exact h_first 10 (by decide)
  · rw [(isGenerated_iff_of_longLines 9 "a.js" nearlyLongLines).2.2 _ h_few _ _ _ _ h_one h_ten
      h_tenth h_tenth]
    exact fun h => absurd h.2 (lt_irrefl _)

/-- So an average above the threshold is not enough. -/
theorem not_isGenerated_of_longLines :
    ¬ ∀ (threshold : Nat) (name : String) (lines : List String),
      FileName.extension? name = some "js" → 16 ≤ ink lines →
      threshold * lines.length < totalBytes lines → isGenerated threshold name lines = true := by
  intro h
  have h_name : FileName.extension? "a.js" = some "js" := by decide +kernel
  have h_ink : 16 ≤ ink nearlyLongLines := by decide +kernel
  have h_long : 9 * nearlyLongLines.length < totalBytes nearlyLongLines := by decide +kernel
  have h_false : isGenerated 9 "a.js" nearlyLongLines = false := by decide +kernel
  exact absurd ((h 9 "a.js" nearlyLongLines h_name h_ink h_long).symm.trans h_false) (by decide)

end FileProfile.Provenance
