import FileProfile.Proofs.Subject.Coherence
import FileProfile.Proofs.Subject.Encodings

/-!
# Wider limits

Of the limits by which a file is judged, three are thresholds: the length of a long line, and the
sizes up to which a file is shown and indexed. `Limits.IsWiderThan` compares limits by them, the
length of the sample being the same. Under wider limits fewer files are generated, and more are
shown and indexed; beyond that and the disposition, which says whether a file is shown, the summary
stays as it is (`Summary.Widens`, `thresholds_monotone`).

That a file that is indexed stays so takes two of the thresholds at once: its size stays within the
limit, and it does not become generated, since `Provenance.isGenerated_antitone`. A minified script
is told by two comparisons of lengths with the threshold, on the average of all lines and on the
first one with ink, and both can only get harder to pass.
-/

namespace FileProfile

/-! ### Generated files -/

namespace Provenance

variable {threshold threshold' : Nat} {name : String} {lines : List String}

theorem isMinified_antitone (h : threshold ≤ threshold')
    (h_minified : isMinified threshold' name lines = true) :
    isMinified threshold name lines = true := by
  unfold isMinified at h_minified ⊢
  rcases (Bool.or_eq_true _ _).mp h_minified with h_average | h_first
  · have h_long : totalBytes lines / lines.length > threshold' := of_decide_eq_true h_average
    exact (Bool.or_eq_true _ _).mpr (.inl (decide_eq_true (Nat.lt_of_le_of_lt h h_long)))
  · obtain ⟨first, h_find, h_both⟩ := (Option.any_eq_true _ _).mp h_first
    obtain ⟨h_length, h_shape⟩ := Bool.and_eq_true _ _ ▸ h_both
    have h_long : first.utf8ByteSize > threshold' := of_decide_eq_true h_length
    refine (Bool.or_eq_true _ _).mpr (.inr ((Option.any_eq_true _ _).mpr ⟨first, h_find, ?_⟩))
    rw [h_shape, Bool.and_true]
    exact decide_eq_true (Nat.lt_of_le_of_lt h h_long)

/-- **Where longer lines pass for short ones, fewer files are generated.** Project files and the
output of the CoffeeScript compiler are told without the threshold. -/
theorem isGenerated_antitone (h : threshold ≤ threshold')
    (h_generated : isGenerated threshold' name lines = true) :
    isGenerated threshold name lines = true := by
  unfold isGenerated at h_generated ⊢
  cases h_extension : FileName.extension? name with
  | none => simp [h_extension] at h_generated
  | some extension =>
    simp only [h_extension, Bool.or_eq_true, Bool.and_eq_true] at h_generated ⊢
    rcases h_generated with h_project | ⟨h_script, h_minified | h_compiled⟩
    · exact .inl h_project
    · exact .inr ⟨h_script, .inl (isMinified_antitone h h_minified)⟩
    · exact .inr ⟨h_script, .inr h_compiled⟩

end Provenance

/-! ### Limits -/

/-- The limits `wide` have the same sample as `narrow`, and thresholds that are no lower. -/
structure Limits.IsWiderThan (wide narrow : Limits) : Prop where
  sampleLength : narrow.sampleLength = wide.sampleLength
  longLine : narrow.longLine ≤ wide.longLine
  viewableSize : narrow.viewableSize ≤ wide.viewableSize
  indexableSize : narrow.indexableSize ≤ wide.indexableSize

/-- The summary `wide` of a file, under wider limits than `narrow`: what the thresholds decide has
gone one way only, and all else is the same. -/
structure Summary.Widens (wide narrow : Summary) : Prop where
  generated : wide.generated = true → narrow.generated = true
  viewable : narrow.viewable = true → wide.viewable = true
  indexable : narrow.indexable = true → wide.indexable = true
  same : wide = { narrow with
    disposition := wide.disposition
    viewable := wide.viewable
    generated := wide.generated
    indexable := wide.indexable }

namespace Subject

/-- The file, judged by other limits. -/
def judgedBy (s : Subject) (limits : Limits) : Subject := { s with limits }

section Widen

variable (s : Subject) {narrow wide : Limits}

theorem sniff_judgedBy (h : wide.IsWiderThan narrow) :
    (s.judgedBy wide).sniff = (s.judgedBy narrow).sniff := by
  change Sniff.of wide.sampleLength s.name s.bytes = Sniff.of narrow.sampleLength s.name s.bytes
  rw [h.sampleLength]

theorem text?_judgedBy (h : wide.IsWiderThan narrow) :
    (s.judgedBy wide).text? = (s.judgedBy narrow).text? := by
  rw [text?, text?, sniff_judgedBy s h]
  rfl

theorem isGenerated_judgedBy (h : wide.IsWiderThan narrow)
    (h_generated : (s.judgedBy wide).isGenerated = true) :
    (s.judgedBy narrow).isGenerated = true := by
  rw [isGenerated, lines_congr (text?_judgedBy s h)] at h_generated
  exact Provenance.isGenerated_antitone h.longLine h_generated

theorem isViewable_judgedBy (h : wide.IsWiderThan narrow)
    (h_viewable : (s.judgedBy narrow).isViewable = true) :
    (s.judgedBy wide).isViewable = true := by
  obtain ⟨h_text, h_image, h_size⟩ := isViewable_iff.mp h_viewable
  have h_sniff := sniff_judgedBy s h
  refine isViewable_iff.mpr ⟨?_, ?_, ?_⟩
  · rw [h_sniff]
    exact h_text
  · rw [h_sniff]
    exact h_image
  · exact Nat.le_trans h_size h.viewableSize

theorem language?_judgedBy (h : wide.IsWiderThan narrow) :
    (s.judgedBy wide).language? = (s.judgedBy narrow).language? :=
  language?_congr rfl (text?_judgedBy s h)

/-- A file that is indexed stays so: it keeps within the size, and it is not generated if it was not
before. -/
theorem isIndexable_judgedBy (h : wide.IsWiderThan narrow)
    (h_indexable : (s.judgedBy narrow).isIndexable = true) :
    (s.judgedBy wide).isIndexable = true := by
  obtain ⟨h_text, h_written, h_own, h_size, h_language⟩ := isIndexable_iff.mp h_indexable
  refine isIndexable_iff.mpr ⟨?_, ?_, h_own, ?_, ?_⟩
  · rw [sniff_judgedBy s h]
    exact h_text
  · rw [Bool.eq_false_iff]
    intro h_generated
    rw [isGenerated_judgedBy s h h_generated] at h_written
    cases h_written
  · exact Nat.le_trans h_size h.indexableSize
  · rw [language?_judgedBy s h]
    exact h_language

/-- The summary under wider limits, but for what the thresholds decide. -/
theorem summary_judgedBy (h : wide.IsWiderThan narrow) :
    (s.judgedBy wide).summary = { (s.judgedBy narrow).summary with
      disposition := (s.judgedBy wide).disposition
      viewable := (s.judgedBy wide).isViewable
      generated := (s.judgedBy wide).isGenerated
      indexable := (s.judgedBy wide).isIndexable } := by
  have h_sniff := sniff_judgedBy s h
  have h_text := text?_judgedBy s h
  have h_language := language?_judgedBy s h
  have h_media : (s.judgedBy wide).mediaType = (s.judgedBy narrow).mediaType := by
    rw [mediaType, mediaType, h_sniff]
    rfl
  have h_content : (s.judgedBy wide).contentType = (s.judgedBy narrow).contentType := by
    rw [contentType, contentType, h_sniff]
  have h_lexer : (s.judgedBy wide).lexer = (s.judgedBy narrow).lexer := by
    rw [lexer, lexer, h_language]
  have h_loc : (s.judgedBy wide).loc = (s.judgedBy narrow).loc := by
    rw [loc, loc, lineSpans_congr h_text]
  have h_sloc : (s.judgedBy wide).sloc = (s.judgedBy narrow).sloc := by
    rw [sloc, sloc, lines_congr h_text]
  -- what rests on the path and the bytes alone
  have h_path : (s.judgedBy wide).path = (s.judgedBy narrow).path := rfl
  have h_name : (s.judgedBy wide).name = (s.judgedBy narrow).name := rfl
  have h_size : (s.judgedBy wide).size = (s.judgedBy narrow).size := rfl
  have h_third : (s.judgedBy wide).isThirdParty = (s.judgedBy narrow).isThirdParty := rfl
  unfold summary
  dsimp only
  rw [h_sniff, h_language, shebang?_congr h_text, h_media, h_content, h_lexer, h_loc, h_sloc,
    h_path, h_name, h_size, h_third]

/-- The fields that the thresholds act on. -/
theorem summary_thresholds (s : Subject) :
    s.summary.viewable = s.isViewable ∧ s.summary.generated = s.isGenerated ∧
      s.summary.indexable = s.isIndexable ∧ s.summary.disposition = s.disposition := by
  unfold summary
  dsimp only
  exact ⟨rfl, rfl, rfl, rfl⟩

end Widen

/-- **Thresholds act in one direction, and on nothing else.** Under wider limits a file may cease to
be generated and begin to be shown and to be indexed, never the other way round, and its summary
stays the same but for these three and the disposition. -/
theorem thresholds_monotone (s : Subject) {narrow wide : Limits} (h : wide.IsWiderThan narrow) :
    (s.judgedBy wide).summary.Widens (s.judgedBy narrow).summary := by
  obtain ⟨h_viewable, h_generated, h_indexable, h_disposition⟩ :=
    summary_thresholds (s.judgedBy wide)
  obtain ⟨h_viewable', h_generated', h_indexable', -⟩ := summary_thresholds (s.judgedBy narrow)
  constructor
  case viewable =>
    rw [h_viewable, h_viewable']
    exact isViewable_judgedBy s h
  case generated =>
    rw [h_generated, h_generated']
    exact isGenerated_judgedBy s h
  case indexable =>
    rw [h_indexable, h_indexable']
    exact isIndexable_judgedBy s h
  case same =>
    rw [h_viewable, h_generated, h_indexable, h_disposition]
    exact summary_judgedBy s h

/-- A script with one long line. -/
def denseScript : Subject where
  path := "lib/dense.js"
  bytes := Bytes.Utf8.encode "var total=first+second+third;"

/-- The script is long under narrow limits only. -/
theorem thresholds_monotone_denseScript :
    let narrow : Limits := { longLine := 10, viewableSize := 20, indexableSize := 20 }
    let wide : Limits := {}
    wide.IsWiderThan narrow ∧
      (denseScript.judgedBy wide).summary.Widens (denseScript.judgedBy narrow).summary := by
  intro narrow wide
  have h : wide.IsWiderThan narrow := ⟨rfl, by decide, by decide, by decide⟩
  exact ⟨h, thresholds_monotone denseScript h⟩

end Subject

end FileProfile
