import FileProfile.Proofs.Bytes.Writing
import FileProfile.Subject

/-!
# What a file is does not depend on how its text is written

Of the bytes of a file, the attributes in `Subject.Agree` use the text only:

* `agree_of_text?` carries equal texts to equal attributes, for files of the same name that are
  judged alike;
* `sniff_of_not_binaryExtension` and `text?_written` say what is sniffed and read where the
  extension does not settle that the file is binary.

`written_agree` puts them together for the four ways of writing a text.
-/

namespace FileProfile.Subject

/-! ### Files with the same text -/

/-- Two files agree on all that is told from their text. -/
structure Agree (s t : Subject) : Prop where
  lines : s.lines = t.lines
  loc : s.loc = t.loc
  sloc : s.sloc = t.sloc
  shebang? : s.shebang? = t.shebang?
  language? : s.language? = t.language?
  lexer : s.lexer = t.lexer
  isGenerated : s.isGenerated = t.isGenerated
  isThirdParty : s.isThirdParty = t.isThirdParty

variable {s t : Subject}

theorem lineSpans_congr (h : s.text? = t.text?) : s.lineSpans = t.lineSpans := by
  rw [lineSpans, lineSpans, h]

theorem lines_congr (h : s.text? = t.text?) : s.lines = t.lines := by
  rw [lines, lines, h, lineSpans_congr h]

theorem shebang?_congr (h : s.text? = t.text?) : s.shebang? = t.shebang? := by
  rw [shebang?, shebang?, h]

theorem language?_congr (h_name : s.name = t.name) (h : s.text? = t.text?) :
    s.language? = t.language? := by
  have h_resolve : s.resolve = t.resolve := by
    funext text shebang
    rw [resolve, resolve, h_name]
  rw [language?, language?, h, shebang?_congr h, h_resolve]

/-- **Files with the same text agree,** if their paths and the rules for them are the same. -/
theorem agree_of_text? (h_path : s.path = t.path) (h_long : s.limits.longLine = t.limits.longLine)
    (h_rules : s.thirdPartyRules = t.thirdPartyRules) (h_text : s.text? = t.text?) :
    Agree s t := by
  have h_name : s.name = t.name := by rw [name, name, h_path]
  have h_lines := lines_congr h_text
  have h_language := language?_congr h_name h_text
  exact {
    lines := h_lines
    loc := by rw [loc, loc, lineSpans_congr h_text]
    sloc := by rw [sloc, sloc, h_lines]
    shebang? := shebang?_congr h_text
    language? := h_language
    lexer := by rw [lexer, lexer, h_language]
    isGenerated := by rw [isGenerated, isGenerated, h_long, h_name, h_lines]
    isThirdParty := by rw [isThirdParty, isThirdParty, h_rules, h_path] }

/-! ### Sniffing a text -/

/-- Where the extension leaves it open whether a file is binary, an encoding that its bytes show is
its encoding, and only the extension makes it an image. -/
theorem sniff_of_not_binaryExtension {encoding : Encoding}
    (h_name : s.extension?.any isBinaryExtension = false)
    (h_detect : Encoding.detect? s.limits.sampleLength s.bytes = some encoding) :
    s.sniff = ⟨some encoding, s.extension?.bind ImageFormat.ofExtension?⟩ := by
  unfold extension? at *
  unfold sniff Sniff.of
  simp only [h_name, h_detect, Option.isNone_some, Bool.false_eq_true, if_false, Option.or_none]

/-! ### The ways to write a text -/

/-- The file that holds a text, written in one of the ways, in place of its bytes. -/
def written (f : Subject) (text : String) (w : Writing) : Subject :=
  { f with bytes := w.bytes text }

section Written

variable (f : Subject) {text : String} (w : Writing)

theorem sniff_written (h_name : f.extension?.any isBinaryExtension = false)
    (h_nul : '\x00' ∉ text.toList) :
    (f.written text w).sniff = ⟨some w.encoding, f.extension?.bind ImageFormat.ofExtension?⟩ :=
  sniff_of_not_binaryExtension h_name (w.detect?_bytes f.limits.sampleLength h_nul)

theorem text?_written (h_name : f.extension?.any isBinaryExtension = false)
    (h_nul : '\x00' ∉ text.toList) (h_mark : text.toList.head? ≠ some '\ufeff') :
    (f.written text w).text? = some text := by
  rw [text?, sniff_written f w h_name h_nul]
  change some (w.encoding.decode (w.bytes text)) = some text
  rw [w.decode_bytes h_mark]

end Written

/-- **What a file is does not depend on how its text is written.** Each of the four ways is detected
and reads as the text, so that files which differ in nothing else agree. -/
theorem written_agree (f : Subject) (text : String)
    (h_name : f.extension?.any isBinaryExtension = false) (h_nul : '\x00' ∉ text.toList)
    (h_mark : text.toList.head? ≠ some '\ufeff') :
    (∀ w : Writing, (f.written text w).sniff.encoding = some w.encoding ∧
      (f.written text w).text? = some text) ∧
    ∀ w w' : Writing, Agree (f.written text w) (f.written text w') ∧
      (f.written text w).sniff.image = (f.written text w').sniff.image := by
  refine ⟨fun w => ⟨?_, ?_⟩, fun w w' => ⟨?_, ?_⟩⟩
  · rw [sniff_written f w h_name h_nul]
  · exact text?_written f w h_name h_nul h_mark
  · have h_text := text?_written f w h_name h_nul h_mark
    have h_text' := text?_written f w' h_name h_nul h_mark
    exact agree_of_text? rfl rfl rfl (h_text.trans h_text'.symm)
  · rw [sniff_written f w h_name h_nul, sniff_written f w' h_name h_nul]

/-- A file for notes. -/
def noteFile : Subject := { path := "doc/note.txt", bytes := [] }

/-- A note with a character beyond U+FFFF, which UTF-16 writes in two halves. -/
theorem written_agree_note :
    (∀ w : Writing, (noteFile.written "𝄞 la\n" w).sniff.encoding = some w.encoding ∧
      (noteFile.written "𝄞 la\n" w).text? = some "𝄞 la\n") ∧
    ∀ w w' : Writing, Agree (noteFile.written "𝄞 la\n" w) (noteFile.written "𝄞 la\n" w') ∧
      (noteFile.written "𝄞 la\n" w).sniff.image = (noteFile.written "𝄞 la\n" w').sniff.image :=
  written_agree noteFile "𝄞 la\n" (by decide +kernel) (by decide) (by decide)

end FileProfile.Subject
