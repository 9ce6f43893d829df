import FileProfile.Proofs.Markup.Escape
import FileProfile.Proofs.Subject.Coherence

/-!
# The markup of a file

A file that is not viewable has no markup, whatever the highlighter; otherwise its markup is what
the highlighter makes of its text, and a refusal of the highlighter is handed on as it is. So there
is no markup exactly if the file is not viewable (`markup_eq_none_iff`), and an error exactly if the
highlighter fails on a text that is to be shown (`markup_eq_error_iff`).

Highlighters that bring no container of their own differ in the two kinds of markup by the usual
container alone (`markup_ofBare`). With the plain one, what is in the container is no markup and
reads back as the text of the file (`markup_readsBack`).
-/

namespace FileProfile.Subject

variable {s : Subject} {highlighter : Highlighter} {contained : Bool}

/-- What a highlighter makes of a text, contained or bare. -/
def render (s : Subject) (highlighter : Highlighter) (contained : Bool) (text : String) :
    Except Error String :=
  (if contained then highlighter.contained else highlighter.bare) text s.lexer

theorem exists_text_of_isViewable (h : s.isViewable = true) : ∃ text, s.text? = some text := by
  obtain ⟨h_text, -, -⟩ := isViewable_iff.mp h
  rw [Sniff.text, Bool.not_eq_true'] at h_text
  exact exists_text h_text

theorem markup_of_not_isViewable (h : s.isViewable = false) :
    s.markup highlighter contained = .ok none := by
  have h_shown : (if s.isViewable = true then s.text? else none) = none :=
    if_neg (Bool.eq_false_iff.mp h)
  unfold markup
  rw [h_shown]

theorem markup_of_text {text : String} (h : s.isViewable = true) (h_text : s.text? = some text) :
    s.markup highlighter contained = (s.render highlighter contained text).map some := by
  have h_shown : (if s.isViewable = true then s.text? else none) = some text :=
    (if_pos h).trans h_text
  unfold markup
  rw [h_shown]
  rfl

/-- **No markup:** neither an error nor markup comes from a file that is not viewable, and something
comes from every other. -/
theorem markup_eq_none_iff :
    s.markup highlighter contained = .ok none ↔ s.isViewable = false := by
  refine ⟨fun h_none => ?_, markup_of_not_isViewable⟩
  cases h : s.isViewable with
  | false => rfl
  | true =>
    obtain ⟨text, h_text⟩ := exists_text_of_isViewable h
    rw [markup_of_text h h_text] at h_none
    -- what is rendered is a refusal or some markup
    cases h_rendered : s.render highlighter contained text with
    | error e =>
      rw [h_rendered] at h_none
      cases h_none
    | ok markup =>
      rw [h_rendered] at h_none
      cases h_none

/-- **Errors** are those of the highlighter, on a text that is to be shown. -/
theorem markup_eq_error_iff {e : Error} :
    s.markup highlighter contained = .error e ↔
      s.isViewable = true ∧ ∃ text, s.text? = some text ∧
        s.render highlighter contained text = .error e := by
  cases h : s.isViewable with
  | false =>
    rw [markup_of_not_isViewable h]
    refine ⟨fun h_error => (by cases h_error), fun h_and => (by cases h_and.1)⟩
  | true =>
    obtain ⟨text, h_text⟩ := exists_text_of_isViewable h
    rw [markup_of_text h h_text]
    constructor
    · intro h_error
      refine ⟨rfl, text, h_text, ?_⟩
      cases h_rendered : s.render highlighter contained text with
      | error e' =>
        rw [h_rendered] at h_error
        rw [Except.error.inj h_error]
      | ok markup =>
        rw [h_rendered] at h_error
        cases h_error
    · rintro ⟨-, text', h_text', h_error⟩
      obtain rfl : text = text' := Option.some.inj (h_text.symm.trans h_text')
      rw [h_error]
      rfl

/-- The usual container is all that the two kinds of markup differ in. -/
theorem markup_ofBare (s : Subject) (bare : String → String → Except Error String) :
    s.markup (.ofBare bare) true =
      (s.markup (.ofBare bare) false).map (Option.map Highlighter.container) := by
  cases h : s.isViewable with
  | false =>
    rw [markup_of_not_isViewable h, markup_of_not_isViewable h]
    rfl
  | true =>
    obtain ⟨text, h_text⟩ := exists_text_of_isViewable h
    rw [markup_of_text h h_text, markup_of_text h h_text]
    -- around markup the container goes, and a refusal passes it by
    show ((bare text s.lexer).map Highlighter.container).map some =
      ((bare text s.lexer).map some).map (Option.map Highlighter.container)
    cases bare text s.lexer with
    | error e => rfl
    | ok markup => rfl

/-- The markup is that of a text that is shown as it stands: in the usual container there is no
further markup, and it reads back as the text. -/
structure ShowsPlain (markup text : String) (inner : String) : Prop where
  contained : markup = "<div class=\"highlight\"><pre>" ++ inner ++ "</pre>\n</div>\n"
  isInert : Markup.IsInert inner.toList
  reads : Markup.unescape inner = text

theorem markup_plain {text : String} (h : s.isViewable = true) (h_text : s.text? = some text) :
    ∃ markup, s.markup .plain true = .ok (some markup) ∧
      ShowsPlain markup text (Markup.escape text) := by
  refine ⟨Highlighter.container (Markup.escape text), ?_, ?_⟩
  · rw [markup_of_text h h_text]
    rfl
  · exact ⟨rfl, Markup.isInert_escape text, Markup.unescape_escape text⟩

/-- **Plain highlighting is safe and can be undone.** Escaped text is no markup and reads back as
the text, and texts put together are escaped one by one. A file has no plain markup exactly if it is
not viewable, and otherwise it is shown plain. And for every highlighter without a container of its
own, contained markup is bare markup in the usual container, its errors are handed on, and a file
that is not viewable has no markup and no error. -/
theorem markup_readsBack :
    (∀ text : String, Markup.IsInert (Markup.escape text).toList ∧
      Markup.unescape (Markup.escape text) = text) ∧
    (∀ a b : String, Markup.escape (a ++ b) = Markup.escape a ++ Markup.escape b) ∧
    (∀ s : Subject, s.isViewable = false ∧ s.markup .plain true = .ok none ∨
      s.isViewable = true ∧ ∃ markup text inner, s.markup .plain true = .ok (some markup) ∧
        s.text? = some text ∧ ShowsPlain markup text inner) ∧
    ∀ (s : Subject) (bare : String → String → Except Error String),
      s.markup (.ofBare bare) true =
        (s.markup (.ofBare bare) false).map (Option.map Highlighter.container) ∧
      ∀ contained : Bool,
        (s.markup (.ofBare bare) contained = .ok none ↔ s.isViewable = false) ∧
        ∀ e, s.markup (.ofBare bare) contained = .error e ↔
          s.isViewable = true ∧ ∃ text, s.text? = some text ∧ bare text s.lexer = .error e := by
  refine ⟨?_, Markup.escape_append, ?_, ?_⟩
  · intro text
    exact ⟨Markup.isInert_escape text, Markup.unescape_escape text⟩
  · intro s
    cases h : s.isViewable with
    | false => exact .inl ⟨rfl, markup_of_not_isViewable h⟩
    | true =>
      obtain ⟨text, h_text⟩ := exists_text_of_isViewable h
      obtain ⟨markup, h_markup, h_plain⟩ := markup_plain h h_text
      exact .inr ⟨rfl, markup, text, _, h_markup, h_text, h_plain⟩
  · intro s bare
    refine ⟨markup_ofBare s bare, fun contained => ⟨markup_eq_none_iff, fun e => ?_⟩⟩
    rw [markup_eq_error_iff]
    -- the container is put around markup only, so both kinds of markup fail together
    have h_fails (text : String) : s.render (.ofBare bare) contained text = .error e ↔
        bare text s.lexer = .error e := by
      cases contained with
      | false => exact Iff.rfl
      | true =>
        show (bare text s.lexer).map Highlighter.container = .error e ↔ _
        cases bare text s.lexer with
        | error e' => exact Iff.rfl
        | ok markup => exact ⟨fun h => (by cases h), fun h => (by cases h)⟩
    simp only [h_fails]

end FileProfile.Subject
