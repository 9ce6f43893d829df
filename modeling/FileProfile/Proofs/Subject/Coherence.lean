import FileProfile.Proofs.Bytes.Empty
import FileProfile.Proofs.Subject.Language
import FileProfile.Proofs.Subject.Lines
import Mathlib.Data.List.Nodup

/-!
# The fields of a summary do not contradict each other

A summary joins what several parts of the library tell about a file, each by itself and by
thresholds of its own. `Summary.IsCoherent` lists how its fields hang together, and
`summary_isCoherent` says that they do in the summary of every file, whatever it is judged by.

Some of the laws are conditions that the attribute is defined by. The others come from two facts:

* binary content has no text, and all that is told from the text takes the value for none;
* a language is given by its name only, and the name leads back to the one language that has it
  (`Language.eq_of_name_eq`), so that a summary says what it says about that language.

The last law is about the bytes. A text without lines is empty, and only a byte-order mark is
dropped on the way to the text (`Encoding.eq_mark_of_decode_eq_empty`).
-/

namespace FileProfile

/-- **The fields of a summary do not contradict each other.** The file is judged by `limits`. -/
structure Summary.IsCoherent (c : Summary) (limits : Limits) : Prop where
  text_iff : c.text = true ↔ c.binary = false
  encoding_iff : c.encoding = none ↔ c.binary = true
  /-- Binary content has no text, and nothing that is told from one. -/
  of_binary : c.binary = true →
    c.language = none ∧ c.lexer = plainTextLexer ∧ c.shebangScript = none ∧ c.loc = 0 ∧
      c.sloc = 0 ∧ c.viewable = false ∧ c.indexable = false ∧
      c.contentType = MediaTable.octetStream
  viewable_iff : c.viewable = true ↔
    c.text = true ∧ c.image = none ∧ c.size ≤ limits.viewableSize
  disposition_iff : c.disposition = Disposition.inline ↔ c.viewable = true
  indexable_iff : c.indexable = true ↔
    c.text = true ∧ c.generated = false ∧ c.thirdParty = false ∧ c.size ≤ limits.indexableSize ∧
      ∃ l ∈ Language.all, c.language = some l.name ∧ l.searchable = true
  lexer_of_language : ∀ name, c.language = some name →
    ∃ l ∈ Language.all, l.name = name ∧ c.lexer = l.lexer
  lexer_of_none : c.language = none → c.lexer = plainTextLexer
  /-- These formats are known by their signature only, which counts in binary content only. -/
  binary_of_image : c.image = some .bmp ∨ c.image = some .webp → c.binary = true
  sloc_le_loc : c.sloc ≤ c.loc
  of_loc_eq_zero : c.text = true → c.loc = 0 → c.sloc = 0 ∧ c.size ≤ 3

namespace Language

/-- No two languages have the same name. -/
theorem nodup_names : (all.map (·.name)).Nodup := by decide +kernel

theorem eq_of_name_eq {l l' : Language} (hl : l ∈ all) (hl' : l' ∈ all) (h : l.name = l'.name) :
    l = l' := List.inj_on_of_nodup_map nodup_names hl hl' h

end Language

theorem Disposition.attachment_ne_inline (name : String) : attachment name ≠ inline := by
  unfold attachment
  generalize escape name = escaped
  intro h
  -- what stands in front of the name is too long already
  have h_length := congrArg String.length h
  rw [String.length_append] at h_length
  have h_front : "attachment; filename=".length = 21 := by decide
  have h_inline : inline.length = 6 := by decide
  omega

namespace Sniff

variable {sampleLength : Nat} {name : String} {bytes : List UInt8}

theorem detect?_of_encoding {encoding : Encoding}
    (h : (Sniff.of sampleLength name bytes).encoding = some encoding) :
    Encoding.detect? sampleLength bytes = some encoding := by
  unfold Sniff.of at h
  simp only at h
  split at h
  · cases h
  · exact h

/-- An extension announces only some of the formats. -/
theorem ofExtension?_ne {extension : String} {image : ImageFormat}
    (h : ImageFormat.ofExtension? extension = some image) : image ≠ .bmp ∧ image ≠ .webp := by
  unfold ImageFormat.ofExtension? at h
  split at h <;> cases h <;> exact ⟨by decide, by decide⟩

/-- The other formats are seen in binary content only. -/
theorem binary_of_image {image : ImageFormat}
    (h : (Sniff.of sampleLength name bytes).image = some image)
    (h_image : image = .bmp ∨ image = .webp) :
    (Sniff.of sampleLength name bytes).binary = true := by
  rw [← Bool.not_eq_false]
  intro h_text
  rw [binary] at h_text
  unfold Sniff.of at h h_text
  simp only at h h_text
  rw [h_text, if_neg Bool.false_ne_true, Option.or_none] at h
  obtain ⟨extension, -, h_extension⟩ := Option.bind_eq_some_iff.mp h
  obtain ⟨h_bmp, h_webp⟩ := ofExtension?_ne h_extension
  rcases h_image with rfl | rfl
  · exact h_bmp rfl
  · exact h_webp rfl

end Sniff

namespace Subject

variable {s : Subject}

/-! ### Binary content -/

theorem shebang?_of_binary (h : s.sniff.binary = true) : s.shebang? = none := by
  rw [shebang?, text?_eq_none_iff.mpr h]
  rfl

theorem lineSpans_of_binary (h : s.sniff.binary = true) : s.lineSpans = [] := by
  rw [lineSpans, text?_eq_none_iff.mpr h]
  rfl

theorem lines_of_binary (h : s.sniff.binary = true) : s.lines = [] := by
  rw [lines, text?_eq_none_iff.mpr h]
  rfl

/-! ### Languages -/

theorem mem_all_of_language? {l : Language} (h : s.language? = some l) : l ∈ Language.all := by
  by_cases h_claimed : ∃ l' ∈ Language.all, l'.Claims s.name
  -- a claimed name leads to one of the claimants, another to the interpreter of the shebang
  · exact (claimCounts_of_language? h h_claimed).1
  · have h_free : ∀ l' ∈ Language.all, ¬ l'.Claims s.name :=
      fun l' hl' h' => h_claimed ⟨l', hl', h'⟩
    obtain ⟨b, -, h_find⟩ := interpreter_of_language? h h_free
    exact List.mem_of_find?_eq_some h_find

theorem name_language?_iff {l : Language} (hl : l ∈ Language.all) :
    s.language?.map (·.name) = some l.name ↔ s.language? = some l := by
  refine ⟨?_, ?_⟩
  · intro h
    obtain ⟨l', h_some, h_name⟩ := Option.map_eq_some_iff.mp h
    rw [h_some, Language.eq_of_name_eq (mem_all_of_language? h_some) hl h_name]
  · intro h
    rw [h]
    rfl

/-! ### Lines -/

theorem length_lines (s : Subject) : s.lines.length = s.loc := by
  cases h : s.text? with
  | none => rw [loc, lines, lineSpans, h]; rfl
  | some text =>
    rw [loc, lines, lineSpans, h]
    exact List.length_map _

theorem sloc_le_loc (s : Subject) : s.sloc ≤ s.loc := by
  rw [sloc, ← length_lines]
  exact List.countP_le_length

theorem eq_empty_of_loc_eq_zero {text : String} (h_text : s.text? = some text) (h : s.loc = 0) :
    text = "" := by
  refine Decidable.byContradiction fun h_ne => ?_
  rw [loc_of_text h_text, Text.lines_eq h_ne, List.length_map] at h
  exact Text.pieces_ne_nil _ _ (List.length_eq_zero_iff.mp h)

/-- A text without lines comes from no bytes, or from a byte-order mark alone. -/
theorem eq_mark_of_loc_eq_zero (h_text : s.sniff.text = true) (h : s.loc = 0) :
    s.bytes = [] ∨ s.bytes ∈ Encoding.marks := by
  have h_some : s.sniff.encoding.isSome = true := by
    simpa [Sniff.text, Sniff.binary] using h_text
  obtain ⟨encoding, h_encoding⟩ := Option.isSome_iff_exists.mp h_some
  have h_read : s.text? = some (encoding.decode s.bytes) := by
    rw [text?, h_encoding]
    rfl
  exact Encoding.eq_mark_of_decode_eq_empty (Sniff.detect?_of_encoding h_encoding)
    (eq_empty_of_loc_eq_zero h_read h)

theorem size_le_of_loc_eq_zero (h_text : s.sniff.text = true) (h : s.loc = 0) : s.size ≤ 3 := by
  rw [size]
  rcases eq_mark_of_loc_eq_zero h_text h with h_nil | h_mark
  · rw [h_nil]
    exact Nat.zero_le 3
  · exact Encoding.length_le_of_mem_marks h_mark

/-! ### The conditions for showing and indexing a file -/

theorem isViewable_iff : s.isViewable = true ↔
    s.sniff.text = true ∧ s.sniff.image = none ∧ s.size ≤ s.limits.viewableSize := by
  rw [isViewable, isViewableAs, isLarge, Bool.and_eq_true, Bool.and_eq_true, and_assoc,
    Option.isNone_iff_eq_none]
  simp

theorem disposition_eq_inline_iff : s.disposition = Disposition.inline ↔ s.isViewable = true := by
  rw [disposition, dispositionIf]
  cases s.isViewable with
  | true => simp
  | false => simpa using Disposition.attachment_ne_inline s.name

theorem isIndexable_iff : s.isIndexable = true ↔
    s.sniff.text = true ∧ s.isGenerated = false ∧ s.isThirdParty = false ∧
      s.size ≤ s.limits.indexableSize ∧
      ∃ l ∈ Language.all, s.language?.map (·.name) = some l.name ∧ l.searchable = true := by
  have h_language : s.language?.any Language.searchable = true ↔
      ∃ l ∈ Language.all, s.language?.map (·.name) = some l.name ∧ l.searchable = true := by
    rw [Option.any_eq_true]
    refine ⟨?_, ?_⟩
    · rintro ⟨l, h, h_search⟩
      exact ⟨l, mem_all_of_language? h, by rw [h]; rfl, h_search⟩
    · rintro ⟨l, hl, h_name, h_search⟩
      exact ⟨l, (name_language?_iff hl).mp h_name, h_search⟩
  rw [← h_language, isIndexable]
  simp only [Bool.and_eq_true, decide_eq_true_eq, Bool.not_eq_true']
  refine ⟨?_, ?_⟩
  · rintro ⟨⟨⟨⟨h_text, h_size⟩, h_written⟩, h_own⟩, h_search⟩
    exact ⟨h_text, h_written, h_own, h_size, h_search⟩
  · rintro ⟨h_text, h_written, h_own, h_size, h_search⟩
    exact ⟨⟨⟨⟨h_text, h_size⟩, h_written⟩, h_own⟩, h_search⟩

theorem summary_coherent_of_binary (h : s.sniff.binary = true) :
    s.language?.map (·.name) = none ∧ s.lexer = plainTextLexer ∧
      s.shebang?.map (·.script) = none ∧ s.loc = 0 ∧ s.sloc = 0 ∧ s.isViewable = false ∧
      s.isIndexable = false ∧ s.contentType = MediaTable.octetStream := by
  have h_text : s.sniff.text ≠ true := by simp [Sniff.text, h]
  have h_encoding : s.sniff.encoding = none := Option.isNone_iff_eq_none.mp h
  refine ⟨?_, ?_, ?_, ?_, ?_, ?_, ?_, ?_⟩
  · rw [language?_of_binary h]
    rfl
  · rw [lexer, language?_of_binary h]
    rfl
  · rw [shebang?_of_binary h]
    rfl
  · rw [loc, lineSpans_of_binary h]
    rfl
  · rw [sloc, lines_of_binary h]
    rfl
  · exact Bool.eq_false_iff.mpr fun h' => h_text (isViewable_iff.mp h').1
  · exact Bool.eq_false_iff.mpr fun h' => h_text (isIndexable_iff.mp h').1
  · rw [contentType, h_encoding]
    rfl

/-- **The summary of every file is coherent,** and a text without lines is that of an empty file or
of a byte-order mark alone. -/
theorem summary_isCoherent (s : Subject) :
    s.summary.IsCoherent s.limits ∧
      (s.summary.text = true → s.summary.loc = 0 → s.bytes = [] ∨ s.bytes ∈ Encoding.marks) := by
  unfold summary
  refine ⟨?_, ?_⟩
  · constructor
    all_goals dsimp only
    case text_iff => simp [Sniff.text]
    case encoding_iff => simp [Sniff.binary]
    case of_binary => exact summary_coherent_of_binary
    case viewable_iff => exact isViewable_iff
    case disposition_iff => exact disposition_eq_inline_iff
    case indexable_iff => exact isIndexable_iff
    case lexer_of_language =>
      -- the lexer is that of the language itself
      intro name h
      obtain ⟨l, h_some, h_name⟩ := Option.map_eq_some_iff.mp h
      refine ⟨l, mem_all_of_language? h_some, h_name, ?_⟩
      rw [lexer, h_some]
      rfl
    case lexer_of_none =>
      intro h
      rw [lexer, Option.map_eq_none_iff.mp h]
      rfl
    case binary_of_image =>
      rintro (h | h)
      · exact Sniff.binary_of_image h (.inl rfl)
      · exact Sniff.binary_of_image h (.inr rfl)
    case sloc_le_loc => exact sloc_le_loc s
    case of_loc_eq_zero =>
      intro h_text h
      have h_sloc := sloc_le_loc s
      rw [h] at h_sloc
      exact ⟨Nat.le_zero.mp h_sloc, size_le_of_loc_eq_zero h_text h⟩
  · dsimp only
    exact eq_mark_of_loc_eq_zero

end Subject

end FileProfile
