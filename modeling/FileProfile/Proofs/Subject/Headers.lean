import FileProfile.Proofs.Language.Headers
import FileProfile.Proofs.Subject.Language

/-!
# The language of a header

A file with the extension `h` is a header of C, of C++ or of Objective-C. None of these is run by an
interpreter, so a shebang line has no say (`not_speaksFor_header`), and what the text has of the
others' words decides (`language?_header`). It is one of C where there are none.
-/

namespace FileProfile.Subject

variable {s : Subject} {text : String}

/-- No language lists the whole name of a header. -/
theorem not_listed_of_header (h : s.extension? = some "h") :
    ∀ l ∈ Language.all, s.name ∉ l.filenames := by
  have h_listed : ∀ l ∈ Language.all, ∀ name ∈ l.filenames,
      FileName.extension? name ≠ some "h" := by
    decide +kernel
  exact fun l hl h_name => h_listed l hl s.name h_name h

theorem candidates_header (h : s.extension? = some "h") :
    Catalogue.candidates s.name = Header.languages := by
  have h_extension : FileName.extension? s.name = some "h" := h
  have h_candidates : Catalogue.candidatesForExtension "h" = Header.languages := by
    decide +kernel
  rw [Catalogue.candidates_of_not_listed (not_listed_of_header h), h_extension, Option.map_some,
    Option.getD_some, h_candidates]

/-- No shebang line speaks for one of the languages of headers. -/
theorem not_speaksFor_header (s : Subject) :
    (s.shebang?.bind (·.language)).any Header.languages.contains = false := by
  have h_none : ∀ l ∈ Header.languages, l.interpreters = [] := by decide +kernel
  rw [Bool.eq_false_iff, ne_eq, Option.any_eq_true, shebang?_language]
  rintro ⟨l, h_some, h_mem⟩
  obtain ⟨b, -, h_find⟩ := Option.bind_eq_some_iff.mp h_some
  have h_decide := List.find?_some h_find
  have h_listed : b.script ∈ l.interpreters := of_decide_eq_true h_decide
  rw [h_none l (List.contains_iff_mem.mp h_mem)] at h_listed
  cases h_listed

/-- **The language of a header** is told from its text: it is Objective-C where there is a directive
or an import with a name of Cocoa, else C++ where there is a declaration, a label, a qualified name
or a header of C++, else Objective-C where there is another import, and else C. -/
theorem language?_header (h_name : s.extension? = some "h") (h_text : s.text? = some text) :
    s.language? = some (
      if Header.IsObjectiveC text.toList then .objectiveC
      else if Header.IsCPlusPlus text.toList then .cPlusPlus
      else if Header.OnSomeLine Header.Import text.toList then .objectiveC
      else .c) := by
  have h_evidence := Language.resolve_of_not_candidate (not_speaksFor_header s)
    (List.cons_ne_nil _ _) text
  rw [language?_of_text h_text, candidates_header h_name, ← Header.evidence_getD]
  exact h_evidence

/-- A header of C++ that imports. -/
def importingHeader : Subject where
  path := "src/a.h"
  bytes := [0x23, 0x69, 0x6D, 0x70, 0x6F, 0x72, 0x74, 0x20, 0x3C, 0x62, 0x3E, 0x0A, 0x63, 0x6C, 0x61,
    0x73, 0x73, 0x20, 0x43, 0x3B]

theorem language?_importingHeader : importingHeader.language? = some .cPlusPlus := by
  have h_text : importingHeader.text? = some "#import <b>\nclass C;" := by decide +kernel
  have h_other : ¬ Header.IsObjectiveC "#import <b>\nclass C;".toList := by decide +kernel
  have h_class : Header.IsCPlusPlus "#import <b>\nclass C;".toList := by decide +kernel
  rw [language?_header (by decide +kernel) h_text, if_neg h_other, if_pos h_class]

end FileProfile.Subject
