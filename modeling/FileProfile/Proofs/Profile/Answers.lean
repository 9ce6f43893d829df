import FileProfile.Proofs.Profile.Cells

/-!
# What sessions answer

Every query, asked in a truthful profile, is answered with the attribute of the subject
(`Query.answers_ask`), and so is every request for a cell (`Cell.answers_request`). There is one
lemma for each session. It follows the session's definition: where the session asks another one, the
lemma cites that one's, and `Answers.remember` stands where the session remembers.
-/

namespace FileProfile

namespace Profile.Session

/-! ### Content -/

theorem answers_sniff : Answers sniff Subject.sniff := by
  have h_compute := Answers.subject.map Subject.sniff
  exact Answers.remember .sniff h_compute

theorem answers_isViewable : Answers isViewable Subject.isViewable := by
  have h := Answers.subject.bind fun s => answers_sniff.map s.isViewableAs
  exact h

theorem answers_text? : Answers text? Subject.text? := by
  have h_compute := answers_sniff.bind fun sniff =>
    Answers.subject.map fun s => sniff.encoding.map (·.decode s.bytes)
  exact Answers.remember .text h_compute

theorem answers_lineSpans : Answers lineSpans Subject.lineSpans := by
  have h_compute := answers_text?.map fun text => (text.map Text.lineSpans).getD []
  exact Answers.remember .lineSpans h_compute

/-- The lines of what was read as text, if it was. -/
theorem answers_cutLines (text : Option String) :
    Answers
      (match text with
        | none => pure []
        | some text => do return Text.cutLines text (← lineSpans))
      (fun s => (text.map (Text.cutLines · s.lineSpans)).getD []) := by
  cases text with
  | none => exact Answers.pure []
  | some text =>
    simp only [Option.map_some, Option.getD_some]
    have h := answers_lineSpans.map (Text.cutLines text)
    exact h

theorem answers_lines : Answers lines Subject.lines := by
  have h := answers_text?.bind answers_cutLines
  exact h

theorem answers_loc : Answers loc Subject.loc := by
  have h := answers_lineSpans.map List.length
  exact h

theorem answers_sloc : Answers sloc Subject.sloc := by
  have h_compute := answers_lines.map fun lines => lines.countP Text.isInked
  exact Answers.remember .sloc h_compute

/-! ### Language -/

theorem answers_shebang? : Answers shebang? Subject.shebang? := by
  have h_compute := answers_text?.map fun text => text.bind Shebang.of?
  exact Answers.remember .shebang h_compute

/-- The language of what was read as text, if it was. -/
theorem answers_resolve (text : Option String) :
    Answers
      (match text with
        | none => pure none
        | some text => do return (← subject).resolve text (← shebang?))
      (fun s => do s.resolve (← text) s.shebang?) := by
  cases text with
  | none => exact Answers.pure none
  | some text =>
    simp only [Option.bind_eq_bind, Option.bind_some]
    have h := Answers.subject.bind fun s => answers_shebang?.map (s.resolve text)
    exact h

theorem answers_language? : Answers language? Subject.language? := by
  have h_compute := answers_text?.bind answers_resolve
  exact Answers.remember .language h_compute

theorem answers_lexer : Answers lexer Subject.lexer := by
  have h := answers_language?.map Language.lexerOf
  exact h

/-! ### Provenance -/

theorem answers_isGenerated : Answers isGenerated Subject.isGenerated := by
  have h_compute := Answers.subject.bind fun s =>
    answers_lines.map (Provenance.isGenerated s.limits.longLine s.name)
  exact Answers.remember .generated h_compute

theorem answers_isThirdParty : Answers isThirdParty Subject.isThirdParty := by
  have h_compute := Answers.subject.map Subject.isThirdParty
  exact Answers.remember .thirdParty h_compute

/-- The conditions are asked for one by one, and the rest is left out once one fails. -/
theorem answers_isIndexable : Answers isIndexable Subject.isIndexable := by
  have h_language := answers_language?.map (Option.any Language.searchable)
  have h_thirdParty := answers_isThirdParty.bind fun c => h_language.stopIf c false
  have h_generated := answers_isGenerated.bind fun c => h_thirdParty.stopIf c false
  have h := Answers.subject.bind fun s => answers_sniff.bind fun sniff =>
    h_generated.stopIf (!sniff.text || decide (s.size > s.limits.indexableSize)) false
  refine Answers.congr h fun s => ?_
  rw [Subject.isIndexable]
  have h_size : decide (s.size > s.limits.indexableSize) =
      !decide (s.size ≤ s.limits.indexableSize) := by
    rw [← decide_not]
    simp only [Nat.not_le, gt_iff_lt]
  simp only [id, h_size]
  cases s.sniff.text <;> cases decide (s.size ≤ s.limits.indexableSize) <;>
    cases s.isGenerated <;> cases s.isThirdParty <;> simp

/-! ### Presentation -/

theorem answers_mediaType : Answers mediaType Subject.mediaType := by
  have h_compute := Answers.subject.bind fun s =>
    answers_sniff.map fun sniff => s.mediaTypeIf sniff.binary
  exact Answers.remember .mediaType h_compute

theorem answers_contentType : Answers contentType Subject.contentType := by
  have h := answers_sniff.map fun sniff => Subject.contentTypeIn sniff.encoding
  exact h

theorem answers_disposition : Answers disposition Subject.disposition := by
  have h := Answers.subject.bind fun s => answers_isViewable.map s.dispositionIf
  exact h

/-- The markup of a text under the lexer of a subject, if there is a text. -/
def markupOf (highlighter : Highlighter) (contained : Bool) (text : Option String) (s : Subject) :
    Except Error (Option String) :=
  match text with
  | none => .ok none
  | some text =>
    ((if contained then highlighter.contained else highlighter.bare) text s.lexer).map some

theorem markup_eq_markupOf (s : Subject) (highlighter : Highlighter) (contained : Bool) :
    s.markup highlighter contained =
      if s.isViewable then markupOf highlighter contained s.text? s else .ok none := by
  unfold Subject.markup
  generalize s.isViewable = viewable
  generalize s.text? = text
  cases viewable with
  | false => rfl
  | true => cases text <;> rfl

/-- The lexer is only asked for where there is text to be shown. -/
theorem answers_markup (highlighter : Highlighter) (contained : Bool) :
    Answers (markup highlighter contained) (Subject.markup · highlighter contained) := by
  have h_render : ∀ text : Option String,
      Answers
        (match text with
          | none => pure (.ok none)
          | some text => do
            let render := if contained then highlighter.contained else highlighter.bare
            return (render text (← lexer)).map some)
        (markupOf highlighter contained text) := by
    intro text
    cases text with
    | none => exact Answers.pure (Except.ok none)
    | some text =>
      have h := answers_lexer.map fun lexer =>
        ((if contained then highlighter.contained else highlighter.bare) text lexer).map some
      exact h
  have h_text := answers_text?.bind h_render
  have h := answers_isViewable.bind fun viewable => h_text.stopIf (!viewable) (Except.ok none)
  refine Answers.congr h fun s => ?_
  rw [markup_eq_markupOf]
  cases s.isViewable with
  | true => rfl
  | false => rfl

/-! ### Summary -/

theorem answers_summary : Answers summary Subject.summary := by
  have h := Answers.subject.bind fun s => answers_sniff.bind fun sniff =>
    answers_mediaType.bind fun mediaType => answers_contentType.bind fun contentType =>
    answers_disposition.bind fun disposition => answers_isViewable.bind fun viewable =>
    answers_isGenerated.bind fun generated => answers_isThirdParty.bind fun thirdParty =>
    answers_isIndexable.bind fun indexable => answers_language?.bind fun language =>
    answers_lexer.bind fun lexer => answers_shebang?.bind fun shebang =>
    answers_loc.bind fun loc => answers_sloc.map fun sloc =>
      ({ path := s.path, name := s.name, size := s.size, mediaType, contentType, disposition,
         encoding := sniff.encoding, binary := sniff.binary, text := sniff.text,
         image := sniff.image, viewable, generated, thirdParty, indexable,
         language := language.map (·.name), lexer, shebangScript := shebang.map (·.script),
         loc, sloc } : Summary)
  exact h

end Profile.Session

open Profile Profile.Session

/-- What a request for a cell is answered with is the attribute that the cell is for. -/
theorem Cell.answers_request (c : Cell) : Answers c.request c.value := by
  cases c with
  | sniff => exact answers_sniff
  | text => exact answers_text?
  | lineSpans => exact answers_lineSpans
  | sloc => exact answers_sloc
  | shebang => exact answers_shebang?
  | language => exact answers_language?
  | generated => exact answers_isGenerated
  | thirdParty => exact answers_isThirdParty
  | mediaType => exact answers_mediaType

/-- **Every query is answered with the attribute of the subject,** whatever the profile
remembers. -/
theorem Query.answers_ask (q : Query) : Answers q.ask fun s => q.answer s := by
  cases q with
  | path => exact Answers.subject.map Subject.path
  | name => exact Answers.subject.map Subject.name
  | extension => exact Answers.subject.map Subject.extension?
  | bytes => exact Answers.subject.map Subject.bytes
  | size => exact Answers.subject.map Subject.size
  | describe => exact Answers.subject.map Subject.describe
  | isLarge => exact Answers.subject.map Subject.isLarge
  | encoding => exact answers_sniff.map Sniff.encoding
  | image => exact answers_sniff.map Sniff.image
  | isBinary => exact answers_sniff.map Sniff.binary
  | isText => exact answers_sniff.map Sniff.text
  | isImage => exact answers_sniff.map fun sniff => sniff.image.isSome
  | isViewable => exact answers_isViewable
  | text => exact answers_text?
  | lineSpans => exact answers_lineSpans
  | lines => exact answers_lines
  | loc => exact answers_loc
  | sloc => exact answers_sloc
  | shebang => exact answers_shebang?
  | shebangScript => exact answers_shebang?.map fun shebang => shebang.map (·.script)
  | shebangLanguage => exact answers_shebang?.map fun shebang => shebang.bind (·.language)
  | language => exact answers_language?
  | lexer => exact answers_lexer
  | isGenerated => exact answers_isGenerated
  | isThirdParty => exact answers_isThirdParty
  | isIndexable => exact answers_isIndexable
  | mediaType => exact answers_mediaType
  | contentType => exact answers_contentType
  | disposition => exact answers_disposition
  | markup highlighter contained => exact answers_markup highlighter contained
  | summary => exact answers_summary

end FileProfile
