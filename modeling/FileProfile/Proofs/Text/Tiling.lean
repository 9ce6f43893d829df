import FileProfile.Proofs.Text.Split
import FileProfile.Text.Lines
import Mathlib.Data.List.Chain

/-!
# The spans of lines tile the text

The spans of a text's lines are found in one pass that keeps a byte offset, and lines are cut out
by them later on. What makes that safe is in `Tiles`: the spans lie in the text, end between
characters, follow one another, and leave out nothing but what ends lines.

The invariant of the pass is that the offset is the number of bytes in front of the next piece. It
shows in `Tiled`, which lays lines and what ends them side by side and has for each span the text in
front of it. `tiled_spansFrom` is the induction on the pieces. All else follows from `Tiled` by its
own induction, and none of it looks at how the spans were found.
-/

namespace FileProfile.Text

/-! ### Offsets -/

theorem utf8ByteSize_ofList (cs : List Char) : (String.ofList cs).utf8ByteSize = byteLength cs := by
  induction cs with
  | nil => rfl
  | cons c cs ih =>
    rw [String.ofList_cons, String.utf8ByteSize_append, String.utf8ByteSize_singleton, ih,
      byteLength_cons]

/-- The offset behind the front of a text is between two characters. -/
theorem isValid_byteLength (front back : List Char) :
    String.Pos.Raw.IsValid (String.ofList (front ++ back)) ⟨byteLength front⟩ := by
  rw [String.Pos.Raw.isValid_iff_exists_append]
  refine ⟨String.ofList front, String.ofList back, String.ofList_append, ?_⟩
  rw [String.Pos.Raw.ext_iff, String.byteIdx_rawEndPos, utf8ByteSize_ofList]

/-- A span that lies in a text and ends between characters, so that it can be cut out. -/
structure Span.IsWithin (span : Span) (text : String) : Prop where
  start_le_stop : span.start ≤ span.stop
  stop_le : span.stop ≤ text.utf8ByteSize
  isValid_start : String.Pos.Raw.IsValid text ⟨span.start⟩
  isValid_stop : String.Pos.Raw.IsValid text ⟨span.stop⟩

/-- What stands between two spans. -/
def between (text : String) (a b : Span) : String := Span.cut ⟨a.stop, b.start⟩ text

/-- What stands behind a span. -/
def behind (text : String) (a : Span) : String := Span.cut ⟨a.stop, text.utf8ByteSize⟩ text

/-- **The spans of lines tile a text** that is not empty. -/
structure Tiles (text : String) (spans : List Span) : Prop where
  /-- One span more than there are line feeds. -/
  length_eq : spans.length = 1 + text.toList.count '\n'
  isWithin : ∀ span ∈ spans, span.IsWithin text
  head_start : ∀ first, spans.head? = some first → first.start = 0
  /-- The spans are in order and have no byte in common. -/
  ordered : spans.Pairwise fun a b => a.stop < b.start
  /-- Between two spans there is what ends a line. -/
  isChain : spans.IsChain fun a b => between text a b = "\n" ∨ between text a b = "\r\n"
  /-- A return that nothing follows is left out as well. -/
  getLast : ∀ last, spans.getLast? = some last → behind text last = "" ∨ behind text last = "\r"

/-! ### Lines side by side -/

/-- The span of a line behind `front`. -/
def spanBehind (front line : List Char) : Span :=
  ⟨byteLength front, byteLength front + byteLength line⟩

theorem isWithin_spanBehind (front line back : List Char) :
    (spanBehind front line).IsWithin (String.ofList (front ++ (line ++ back))) where
  start_le_stop := Nat.le_add_right _ _
  stop_le := by
    rw [utf8ByteSize_ofList, byteLength_append, byteLength_append]
    show byteLength front + byteLength line ≤ _
    omega
  isValid_start := isValid_byteLength front (line ++ back)
  isValid_stop := by
    have h_valid := isValid_byteLength (front ++ line) back
    rw [byteLength_append, List.append_assoc] at h_valid
    exact h_valid

/-- What ends a line is what stands between its span and one that starts behind it. -/
theorem between_spanBehind {front line gap : List Char} {next : Span}
    (h : next.start = byteLength (front ++ line ++ gap)) (rest : List Char) :
    between (String.ofList (front ++ line ++ gap ++ rest)) (spanBehind front line) next =
      String.ofList gap := by
  rw [between, spanBehind, h, byteLength_append (front ++ line), ← byteLength_append front]
  exact cut_middle (front ++ line) gap rest

theorem behind_spanBehind (front line gap : List Char) :
    behind (String.ofList (front ++ (line ++ gap))) (spanBehind front line) =
      String.ofList gap := by
  have h_cut := cut_middle (front ++ line) gap []
  rw [List.append_nil, ← byteLength_append, ← utf8ByteSize_ofList (front ++ line ++ gap),
    byteLength_append front] at h_cut
  rw [← List.append_assoc]
  exact h_cut

/-- The text in front of the next line. -/
theorem append_line (front line gap rest : List Char) :
    front ++ (line ++ gap ++ rest) = front ++ line ++ gap ++ rest := by
  simp only [List.append_assoc]

/-- Behind `front`, the spans are those of lines that make up a text together with what ends
them. -/
inductive Tiled : List Char → List Span → List Char → Prop where
  | last {front line gap : List Char} (h_line : '\n' ∉ line) (h_gap : gap = [] ∨ gap = ['\r']) :
      Tiled front [spanBehind front line] (line ++ gap)
  | next {front line gap rest : List Char} {spans : List Span} (h_line : '\n' ∉ line)
      (h_gap : gap = ['\n'] ∨ gap = ['\r', '\n']) (h_rest : Tiled (front ++ line ++ gap) spans rest) :
      Tiled front (spanBehind front line :: spans) (line ++ gap ++ rest)

theorem not_mem_dropReturn {c : Char} {p : List Char} (h : c ∉ p) : c ∉ dropReturn p := by
  obtain ⟨r, h_p, -⟩ := exists_dropReturn_append p
  rw [h_p, List.mem_append, not_or] at h
  exact h.1

/-- **The pass over the pieces:** it starts each piece where the one before it ends. -/
theorem tiled_spansFrom (front : List Char) {ps : List (List Char)} (h_ne : ps ≠ [])
    (h_ps : ∀ p ∈ ps, '\n' ∉ p) :
    Tiled front (spansFrom (byteLength front) ps) (joined '\n' ps) := by
  induction ps generalizing front with
  | nil => exact absurd rfl h_ne
  | cons p ps ih =>
    obtain ⟨gap, h_p, h_gap⟩ := exists_dropReturn_append p
    have h_line : '\n' ∉ dropReturn p := not_mem_dropReturn (h_ps p List.mem_cons_self)
    rw [spansFrom_cons]
    cases ps with
    | nil =>
      have h_last : Tiled front [spanBehind front (dropReturn p)] (dropReturn p ++ gap) :=
        .last h_line h_gap
      rw [← h_p] at h_last
      exact h_last
    | cons q ps =>
      -- the next piece has this one and its line feed in front of it, and so has the offset
      have h_front : byteLength (front ++ dropReturn p ++ (gap ++ ['\n'])) =
          byteLength front + byteLength p + 1 := by
        have h_feed : byteLength ['\n'] = 1 := rfl
        conv => rhs; rw [h_p]
        simp only [byteLength_append, h_feed]
        omega
      have h_end : gap ++ ['\n'] = ['\n'] ∨ gap ++ ['\n'] = ['\r', '\n'] := by
        rcases h_gap with rfl | rfl
        · exact .inl rfl
        · exact .inr rfl
      have h_rest := ih (front ++ dropReturn p ++ (gap ++ ['\n'])) (List.cons_ne_nil q ps)
        fun r hr => h_ps r (List.mem_cons_of_mem _ hr)
      rw [h_front] at h_rest
      have h_next := Tiled.next h_line h_end h_rest
      have h_text : joined '\n' (p :: q :: ps) =
          dropReturn p ++ (gap ++ ['\n']) ++ joined '\n' (q :: ps) := by
        conv => lhs; rw [joined_cons (List.cons_ne_nil q ps), h_p]
        simp only [List.append_assoc, List.singleton_append]
      rw [h_text]
      exact h_next

namespace Tiled

variable {front rest : List Char} {spans : List Span}

theorem length_eq (h : Tiled front spans rest) : spans.length = 1 + rest.count '\n' := by
  induction h with
  | @last front line gap h_line h_gap =>
    have h_none : '\n' ∉ line ++ gap := by
      rw [List.mem_append, not_or]
      refine ⟨h_line, ?_⟩
      rcases h_gap with rfl | rfl <;> decide
    rw [List.count_eq_zero_of_not_mem h_none]
    rfl
  | @next front line gap rest spans h_line h_gap _ ih =>
    have h_feed : gap.count '\n' = 1 := by rcases h_gap with rfl | rfl <;> decide
    rw [List.count_append, List.count_append, List.count_eq_zero_of_not_mem h_line, h_feed,
      List.length_cons, ih]
    omega

/-- There is a first span, and it starts right behind the front. -/
theorem exists_cons (h : Tiled front spans rest) :
    ∃ first others, spans = first :: others ∧ first.start = byteLength front := by
  cases h with
  | last => exact ⟨_, _, rfl, rfl⟩
  | next => exact ⟨_, _, rfl, rfl⟩

theorem le_start (h : Tiled front spans rest) : ∀ span ∈ spans, byteLength front ≤ span.start := by
  induction h with
  | last =>
    intro span h_span
    rw [List.mem_singleton.mp h_span]
    exact Nat.le_refl _
  | next _ _ _ ih =>
    intro span h_span
    rcases List.mem_cons.mp h_span with rfl | h_span
    · exact Nat.le_refl _
    · have h_le := ih span h_span
      rw [byteLength_append, byteLength_append] at h_le
      omega

/-- The spans behind the first one start behind it and what ends its line. -/
theorem ordered (h : Tiled front spans rest) : spans.Pairwise fun a b => a.stop < b.start := by
  induction h with
  | last => exact List.pairwise_singleton _ _
  | @next front line gap rest spans h_line h_gap h_rest ih =>
    refine List.pairwise_cons.mpr ⟨fun span h_span => ?_, ih⟩
    have h_le := h_rest.le_start span h_span
    have h_pos : 0 < byteLength gap := by rcases h_gap with rfl | rfl <;> decide
    rw [byteLength_append, byteLength_append] at h_le
    show byteLength front + byteLength line < span.start
    omega

/-- Each line stands between two parts of the text. -/
theorem isWithin (h : Tiled front spans rest) :
    ∀ span ∈ spans, span.IsWithin (String.ofList (front ++ rest)) := by
  induction h with
  | @last front line gap h_line h_gap =>
    intro span h_span
    rw [List.mem_singleton.mp h_span]
    exact isWithin_spanBehind front line gap
  | @next front line gap rest spans h_line h_gap h_rest ih =>
    intro span h_span
    rcases List.mem_cons.mp h_span with rfl | h_span
    · rw [List.append_assoc line]
      exact isWithin_spanBehind front line (gap ++ rest)
    · rw [append_line]
      exact ih span h_span

theorem isChain (h : Tiled front spans rest) :
    spans.IsChain fun a b =>
      between (String.ofList (front ++ rest)) a b = "\n" ∨
        between (String.ofList (front ++ rest)) a b = "\r\n" := by
  induction h with
  | last => exact List.isChain_singleton _
  | @next front line gap rest spans h_line h_gap h_rest ih =>
    obtain ⟨first, others, h_spans, h_start⟩ := h_rest.exists_cons
    rw [append_line]
    rw [h_spans] at ih ⊢
    refine List.isChain_cons_cons.mpr ⟨?_, ih⟩
    -- the next line starts behind the gap
    rw [between_spanBehind h_start rest]
    rcases h_gap with rfl | rfl
    · exact .inl rfl
    · exact .inr rfl

theorem getLast (h : Tiled front spans rest) :
    ∀ last, spans.getLast? = some last →
      behind (String.ofList (front ++ rest)) last = "" ∨
        behind (String.ofList (front ++ rest)) last = "\r" := by
  induction h with
  | @last front line gap h_line h_gap =>
    intro last h_last
    obtain rfl : spanBehind front line = last := Option.some.inj h_last
    rw [behind_spanBehind]
    rcases h_gap with rfl | rfl
    · exact .inl rfl
    · exact .inr rfl
  | @next front line gap rest spans h_line h_gap h_rest ih =>
    obtain ⟨first, others, h_spans, -⟩ := h_rest.exists_cons
    intro last h_last
    rw [append_line]
    rw [h_spans, List.getLast?_cons_cons, ← h_spans] at h_last
    exact ih last h_last

/-- From the start of a text on, spans that are laid out so tile it. -/
theorem tiles (h : Tiled [] spans rest) : Tiles (String.ofList rest) spans where
  length_eq := by
    rw [String.toList_ofList]
    exact h.length_eq
  isWithin := h.isWithin
  head_start := by
    intro first h_first
    obtain ⟨span, others, h_spans, h_start⟩ := h.exists_cons
    rw [h_spans] at h_first
    obtain rfl : span = first := Option.some.inj h_first
    exact h_start
  ordered := h.ordered
  isChain := h.isChain
  getLast := h.getLast

end Tiled

/-- **The spans of the lines of a text tile it.** -/
theorem tiles_lineSpans {text : String} (h : text ≠ "") : Tiles text (lineSpans text) := by
  have h_pass := tiled_spansFrom [] (pieces_ne_nil '\n' text.toList) fun _ hp =>
    not_mem_of_mem_pieces hp
  rw [joined_pieces] at h_pass
  have h_tiles := h_pass.tiles
  rw [String.ofList_toList] at h_tiles
  rw [lineSpans, if_neg (by simpa using h)]
  exact h_tiles

end FileProfile.Text
