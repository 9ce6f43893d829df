import FileProfile.Proofs.Pattern.Returns
import FileProfile.Proofs.Subject.Encodings
import FileProfile.Proofs.Subject.Language
import FileProfile.Proofs.Subject.Lines
import Mathlib.Data.List.Find

/-!
# What a file is does not depend on how its lines end

A text can end its lines in a line feed alone, or in a return and a line feed. Nothing that is told
about the file but its size tells the two apart (`lineEndings_agree`). What is told from the text
comes from it in two ways:

* from its lines, which drop the return (`Text.lines_withReturns`) and from which the shebang line
  and the traces of generated code are read;
* from the patterns that are evidence for a language. They are looked for in the text as it is,
  returns and all, and none of them sees the returns (`Evidence.ignoresReturns_rules`).

`agree_of_lines` says that there is no third way.
-/

namespace FileProfile

/-! ### Evidence -/

namespace Evidence

/-- The rules ask for no pattern that sees the returns at the ends of lines. -/
theorem ignoresReturns_rules :
    ∀ rule ∈ rules, ∀ p ∈ rule.patterns, p.ignoresReturnsThroughout = true := by
  decide +kernel

/-- A rule holds with returns exactly if it holds without. -/
theorem holds_withReturns {rule : Evidence} (h : rule ∈ rules) (cs : List Char) :
    rule.holds (Text.withReturns cs) = rule.holds cs := by
  have h_found : ∀ p ∈ rule.patterns, p.foundIn (Text.withReturns cs) = p.foundIn cs :=
    fun p hp => Pattern.foundIn_withReturns (ignoresReturns_rules rule h p hp) cs
  unfold holds
  cases rule.quorum with
  | some =>
    rw [Bool.eq_iff_iff, List.any_eq_true, List.any_eq_true]
    exact exists_congr fun p => and_congr_right fun hp => by rw [h_found p hp]
  | all =>
    rw [Bool.eq_iff_iff, List.all_eq_true, List.all_eq_true]
    exact forall₂_congr fun p hp => by rw [h_found p hp]

/-- **The evidence in a text does not depend on how its lines end.** -/
theorem language?_withReturns (candidates : List Language) (cs : List Char) :
    language? candidates (String.ofList (Text.withReturns cs)) =
      language? candidates (String.ofList cs) := by
  unfold language?
  rw [String.toList_ofList, String.toList_ofList]
  refine congrArg (Option.map Evidence.language) (List.find?_congr fun rule h => ?_)
  rw [holds_withReturns h]

end Evidence

/-- The shebang line is read from the lines of a text. -/
theorem Shebang.of?_congr {text text' : String} (h : Text.lines text = Text.lines text') :
    of? text = of? text' := by
  unfold of?
  rw [h]

/-- The mark at the start of a text is none of the characters at the end of a line. -/
theorem Encoding.dropMark_withReturns (cs : List Char) :
    dropMark (Text.withReturns cs) = Text.withReturns (dropMark cs) := by
  cases cs with
  | nil => rfl
  | cons c cs =>
    by_cases h : c = '\n'
    · rw [h]
      rfl
    · rw [Text.withReturns_cons_of_ne h]
      unfold dropMark
      rw [List.head?_cons, List.head?_cons, List.tail_cons, List.tail_cons]
      split
      · rfl
      · rw [Text.withReturns_cons_of_ne h]

theorem Encoding.mem_of_mem_dropMark {c : Char} {cs : List Char} (h : c ∈ dropMark cs) :
    c ∈ cs := by
  unfold dropMark at h
  split at h
  · exact List.mem_of_mem_tail h
  · exact h

namespace Subject

/-! ### Files with the same lines -/

section Lines

variable {s t : Subject} {text text' : String}

/-- **Texts with the same lines and the same evidence agree,** if their paths and the rules for them
are the same. -/
theorem agree_of_lines (h_path : s.path = t.path) (h_long : s.limits.longLine = t.limits.longLine)
    (h_rules : s.thirdPartyRules = t.thirdPartyRules) (h_text : s.text? = some text)
    (h_text' : t.text? = some text') (h_lines : Text.lines text = Text.lines text')
    (h_evidence : ∀ candidates,
      Evidence.language? candidates text = Evidence.language? candidates text') :
    Agree s t := by
  have h_name : s.name = t.name := by rw [name, name, h_path]
  -- the shebang line and all counts are told from the lines
  have h_same : s.lines = t.lines := by rw [lines_of_text h_text, lines_of_text h_text', h_lines]
  have h_shebang : s.shebang? = t.shebang? := by
    rw [shebang?, shebang?, h_text, h_text']
    exact Shebang.of?_congr h_lines
  -- the text itself is read for evidence only
  have h_resolve : ∀ candidates shebang,
      Language.resolve candidates shebang text = Language.resolve candidates shebang text' := by
    intro candidates shebang
    unfold Language.resolve
    simp only [h_evidence]
  have h_language : s.language? = t.language? := by
    rw [language?_of_text h_text, language?_of_text h_text', h_name, h_shebang, h_resolve]
  exact {
    lines := h_same
    loc := by rw [loc_of_text h_text, loc_of_text h_text', h_lines]
    sloc := by rw [sloc, sloc, h_same]
    shebang? := h_shebang
    language? := h_language
    lexer := by rw [lexer, lexer, h_language]
    isGenerated := by rw [isGenerated, isGenerated, h_long, h_name, h_same]
    isThirdParty := by rw [isThirdParty, isThirdParty, h_rules, h_path] }

end Lines

/-! ### Line endings -/

/-- What a text reads as that was written in UTF-8: itself, without the mark that may start it. -/
theorem text?_written_bare (f : Subject) {text : String}
    (h_name : f.extension?.any isBinaryExtension = false) (h_nul : '\x00' ∉ text.toList) :
    (f.written text .bare).text? =
      some (String.ofList (Encoding.dropMark text.toList)) := by
  rw [text?, sniff_written f .bare h_name h_nul]
  exact congrArg some (Encoding.decode_utf8_encode text)

/-- **What a file is does not depend on how its lines end.** A file that holds a text in UTF-8 and
one that holds it with a return in front of every line feed are sniffed as the same and agree on all
that is told from the text, and so they have the same media type. -/
theorem lineEndings_agree (f : Subject) (text : String)
    (h_name : f.extension?.any isBinaryExtension = false) (h_nul : '\x00' ∉ text.toList)
    (h_return : '\r' ∉ text.toList) :
    let s := f.written text .bare
    let t := f.written (String.ofList (Text.withReturns text.toList)) .bare
    (s.sniff.encoding = some .utf8 ∧ t.sniff.encoding = some .utf8) ∧
      s.sniff.image = t.sniff.image ∧ s.mediaType = t.mediaType ∧ Agree s t := by
  intro s t
  -- neither text has a NUL, so both are taken for UTF-8
  have h_nul' : '\x00' ∉ (String.ofList (Text.withReturns text.toList)).toList := by
    rw [String.toList_ofList]
    intro h
    rcases Text.of_mem_withReturns h with h | ⟨h, -⟩
    · exact h_nul h
    · cases h
  have h_sniff : s.sniff = ⟨some .utf8, f.extension?.bind ImageFormat.ofExtension?⟩ :=
    sniff_written f .bare h_name h_nul
  have h_sniff' : t.sniff = ⟨some .utf8, f.extension?.bind ImageFormat.ofExtension?⟩ :=
    sniff_written f .bare h_name h_nul'
  -- both lose the mark that may start them, and what is left differs in the returns alone
  have h_text := text?_written_bare f h_name h_nul
  have h_text' := text?_written_bare f h_name h_nul'
  rw [String.toList_ofList, Encoding.dropMark_withReturns] at h_text'
  have h_kept : '\r' ∉ Encoding.dropMark text.toList := mt Encoding.mem_of_mem_dropMark h_return
  refine ⟨⟨by rw [h_sniff], by rw [h_sniff']⟩, by rw [h_sniff, h_sniff'], ?_, ?_⟩
  · rw [mediaType, mediaType, h_sniff, h_sniff']
    rfl
  · refine agree_of_lines rfl rfl rfl h_text h_text' ?_ fun candidates => ?_
    · exact (Text.lines_withReturns h_kept).symm
    · exact (Evidence.language?_withReturns candidates _).symm

/-- A script for `sh` that hands over to another interpreter. -/
def scriptFile : Subject := { path := "bin/run", bytes := [] }

/-- The interpreter is found behind a return too. -/
theorem lineEndings_agree_script :
    let text := "#!/bin/sh\nexec tclsh \"$0\" \"$@\"\n"
    let s := scriptFile.written text .bare
    let t := scriptFile.written (String.ofList (Text.withReturns text.toList)) .bare
    (s.sniff.encoding = some .utf8 ∧ t.sniff.encoding = some .utf8) ∧
      s.sniff.image = t.sniff.image ∧ s.mediaType = t.mediaType ∧ Agree s t :=
  lineEndings_agree scriptFile _ (by decide +kernel) (by decide) (by decide)

end Subject

end FileProfile
