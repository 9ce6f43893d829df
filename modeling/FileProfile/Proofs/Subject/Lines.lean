import FileProfile.Proofs.Text.Split
import FileProfile.Proofs.Text.Tiling
import FileProfile.Subject

/-!
# The lines of a file

A file keeps the spans of its lines, and cuts its lines out of the text by them. `IsSplit` says what
that comes to: the spans tile the text (`Text.tiles_lineSpans`), and the lines cut out are the
pieces of the text between line feeds, but for the one return that may end a piece. The return is
white space, so a line has ink exactly if its piece has (`Text.hasInk_dropReturn`).
-/

namespace FileProfile

namespace Text

/-- A line is its piece of a text, but for one return that may end the piece. -/
def IsLineOf (line : String) (piece : List Char) : Prop :=
  piece = line.toList ++ ['\r'] ∨ piece = line.toList ∧ piece.getLast? ≠ some '\r'

theorem isLineOf_dropReturn (piece : List Char) :
    IsLineOf (String.ofList (dropReturn piece)) piece := by
  rw [IsLineOf, String.toList_ofList, dropReturn]
  split
  · next h =>
    obtain ⟨front, rfl⟩ := List.getLast?_eq_some_iff.mp h
    rw [List.dropLast_concat]
    exact .inl rfl
  · next h => exact .inr ⟨rfl, h⟩

theorem hasInk_dropReturn (piece : List Char) : hasInk (dropReturn piece) = hasInk piece := by
  obtain ⟨gap, h_piece, h_gap⟩ := exists_dropReturn_append piece
  have h_blank : hasInk gap = false := by rcases h_gap with rfl | rfl <;> decide
  conv => rhs; rw [h_piece, hasInk_append, h_blank, Bool.or_false]

end Text

namespace Subject

variable {s : Subject} {text : String}

theorem lineSpans_of_text (h : s.text? = some text) : s.lineSpans = Text.lineSpans text := by
  rw [lineSpans, h]
  rfl

theorem lines_of_text (h : s.text? = some text) : s.lines = Text.lines text := by
  rw [lines, lineSpans, h]
  rfl

theorem loc_of_text (h : s.text? = some text) : s.loc = (Text.lines text).length := by
  rw [loc, lineSpans, h]
  exact (List.length_map _).symm

theorem lines_eq_map_cut (h : s.text? = some text) :
    s.lines = s.lineSpans.map (·.cut text) := by
  rw [lines, h, Option.map_some, Option.getD_some, Text.cutLines]

/-- **The text of a file is split into lines** by their spans. -/
structure IsSplit (s : Subject) (text : String) : Prop where
  lineSpans_of_empty : text = "" → s.lineSpans = []
  tiles : text ≠ "" → Text.Tiles text s.lineSpans
  lines_eq : s.lines = s.lineSpans.map (·.cut text)
  not_mem_lines : ∀ line ∈ s.lines, '\n' ∉ line.toList
  /-- There are as many lines as pieces, and they are their lines in order. -/
  lines_pieces : text ≠ "" → List.Forall₂ Text.IsLineOf s.lines (text.toList.splitOn '\n')
  sloc_eq : s.sloc = (text.toList.splitOn '\n').countP (·.any fun c => !Text.isBlank c)

/-- **Every text is split into lines,** whatever its line endings. -/
theorem isSplit_of_text (h : s.text? = some text) : s.IsSplit text := by
  have h_spans := lineSpans_of_text h
  have h_lines := lines_of_text h
  by_cases h_empty : text = ""
  · -- the one piece of the empty text has no line
    subst h_empty
    have h_none : s.lines = [] := h_lines
    exact {
      lineSpans_of_empty := fun _ => h_spans
      tiles := fun h_ne => absurd rfl h_ne
      lines_eq := lines_eq_map_cut h
      not_mem_lines := by
        rw [h_none]
        exact fun _ h_line => absurd h_line List.not_mem_nil
      lines_pieces := fun h_ne => absurd rfl h_ne
      sloc_eq := by
        have h_piece : "".toList.splitOn '\n' = [[]] := List.splitOn_nil _
        rw [sloc, h_none, h_piece]
        rfl }
  · rw [Text.lines_eq h_empty] at h_lines
    exact {
      lineSpans_of_empty := fun h_eq => absurd h_eq h_empty
      tiles := fun _ => by
        rw [h_spans]
        exact Text.tiles_lineSpans h_empty
      lines_eq := lines_eq_map_cut h
      not_mem_lines := by
        intro line h_line
        rw [h_lines] at h_line
        obtain ⟨piece, h_piece, rfl⟩ := List.mem_map.mp h_line
        rw [String.toList_ofList]
        exact Text.not_mem_dropReturn (Text.not_mem_of_mem_pieces h_piece)
      lines_pieces := fun _ => by
        rw [h_lines, ← Text.pieces_eq_splitOn, List.forall₂_map_left_iff, List.forall₂_same]
        exact fun piece _ => Text.isLineOf_dropReturn piece
      sloc_eq := by
        rw [sloc, h_lines, ← Text.pieces_eq_splitOn, List.countP_map]
        refine List.countP_congr fun piece _ => ?_
        rw [Function.comp_apply, Text.isInked, String.toList_ofList, Text.hasInk_dropReturn]
        rfl }

/-- A file whose lines end in all ways, with a character of two bytes in front. -/
def mixedFile : Subject :=
  { path := "mixed.txt", bytes := [0xc3, 0xa9, 13, 10, 13, 13, 10, 120, 10, 121, 13] }

/-- Only one of two returns ends a line, and a return at the end of the text is dropped. -/
theorem isSplit_mixedFile :
    mixedFile.text? = some "é\r\n\r\r\nx\ny\r" ∧ mixedFile.IsSplit "é\r\n\r\r\nx\ny\r" :=
  have h_text : mixedFile.text? = some "é\r\n\r\r\nx\ny\r" := by decide +kernel
  ⟨h_text, isSplit_of_text h_text⟩

end Subject

end FileProfile
