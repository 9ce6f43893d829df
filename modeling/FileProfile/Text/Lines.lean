import FileProfile.Text.Blank
import FileProfile.Text.Split

/-!
# Lines

The lines of a text are its pieces between line feeds, each without the one carriage return that may
end it. The empty text has no lines; a text that ends in a line feed has an empty last line.

A line is kept as a `Span`, the byte offsets of its ends in the text, so that a text is split once
and its lines are cut out where they are wanted. That the spans cut out what they should is
`lines_eq`.
-/

namespace FileProfile.Text

/-- A stretch of a text, from byte offset `start` up to but without `stop`. -/
structure Span where
  start : Nat
  stop : Nat
  deriving DecidableEq, Repr

/-- The stretch of a text that a span delimits. -/
def Span.cut (span : Span) (text : String) : String :=
  String.Pos.Raw.extract text ⟨span.start⟩ ⟨span.stop⟩

/-- The number of bytes that a text takes. -/
def byteLength (cs : List Char) : Nat := cs.foldl (fun n c => n + c.utf8Size) 0

/-- A line without the carriage return that ends it, if one does. -/
def dropReturn (cs : List Char) : List Char :=
  if cs.getLast? = some '\r' then cs.dropLast else cs

/-- The spans of the lines whose pieces, before their returns are dropped, follow one another from
offset `start` on with one line feed between them. -/
def spansFrom (start : Nat) (pieces : List (List Char)) : List Span :=
  (pieces.foldl (fun (acc : Nat × List Span) piece =>
    (acc.1 + byteLength piece + 1,
      ⟨acc.1, acc.1 + byteLength (dropReturn piece)⟩ :: acc.2)) (start, [])).2.reverse

/-- The spans of the lines of a text. -/
def lineSpans (text : String) : List Span :=
  if text.isEmpty then [] else spansFrom 0 (pieces '\n' text.toList)

/-- The lines that the spans delimit. -/
def cutLines (text : String) (spans : List Span) : List String := spans.map (·.cut text)

/-- The lines of a text. -/
def lines (text : String) : List String := cutLines text (lineSpans text)

/-- Whether a line has a character that is not white space. -/
def isInked (line : String) : Bool := hasInk line.toList

/-! ### Byte lengths -/

/-- Counting bytes from `n` on adds `n`. -/
theorem foldl_utf8Size (n : Nat) (cs : List Char) :
    cs.foldl (fun n c => n + c.utf8Size) n = n + byteLength cs := by
  induction cs generalizing n with
  | nil => rfl
  | cons c cs ih =>
    rw [byteLength, List.foldl_cons, List.foldl_cons, ih, ih (0 + c.utf8Size)]
    omega

@[simp] theorem byteLength_nil : byteLength [] = 0 := rfl

@[simp] theorem byteLength_cons (c : Char) (cs : List Char) :
    byteLength (c :: cs) = c.utf8Size + byteLength cs := by
  rw [byteLength, List.foldl_cons, foldl_utf8Size]; omega

@[simp] theorem byteLength_append (cs ds : List Char) :
    byteLength (cs ++ ds) = byteLength cs + byteLength ds := by
  induction cs with
  | nil => simp
  | cons c cs ih => simp [ih]; omega

/-! ### Cutting a stretch out of a text

What lies between two byte offsets is found by walking the text twice, to the first offset and from
there to the second. Both walks are followed here over a text that is given in three parts. -/

theorem extract_eq (text : String) (first last : String.Pos.Raw) :
    String.Pos.Raw.extract text first last =
      if first.byteIdx ≥ last.byteIdx then ""
      else String.ofList (String.Pos.Raw.extract.go₁ text.toList 0 first last) := rfl

theorem go₁_cons (c : Char) (cs : List Char) (i first last : String.Pos.Raw) :
    String.Pos.Raw.extract.go₁ (c :: cs) i first last =
      if i = first then String.Pos.Raw.extract.go₂ (c :: cs) i last
      else String.Pos.Raw.extract.go₁ cs (i + c) first last := rfl

theorem go₂_cons (c : Char) (cs : List Char) (i last : String.Pos.Raw) :
    String.Pos.Raw.extract.go₂ (c :: cs) i last =
      if i = last then [] else c :: String.Pos.Raw.extract.go₂ cs (i + c) last := rfl

/-- The second walk takes the part that it is given the length of. -/
theorem extract_go₂_append (m r : List Char) (n : Nat) :
    String.Pos.Raw.extract.go₂ (m ++ r) ⟨n⟩ ⟨n + byteLength m⟩ = m := by
  induction m generalizing n with
  | nil =>
    cases r with
    | nil => rfl
    | cons c r => rw [List.nil_append, byteLength_nil, Nat.add_zero, go₂_cons, if_pos rfl]
  | cons c m ih =>
    have hc := c.utf8Size_pos
    rw [List.cons_append, go₂_cons, if_neg]
    · have hn : (⟨n⟩ : String.Pos.Raw) + c = ⟨n + c.utf8Size⟩ := rfl
      rw [hn, byteLength_cons, ← Nat.add_assoc, ih]
    · simp [String.Pos.Raw.ext_iff]; omega

/-- The first walk skips the part that it is given the length of. -/
theorem extract_go₁_append (l m r : List Char) (n : Nat) :
    String.Pos.Raw.extract.go₁ (l ++ m ++ r) ⟨n⟩ ⟨n + byteLength l⟩
      ⟨n + byteLength l + byteLength m⟩ = m := by
  induction l generalizing n with
  | nil =>
    simp only [List.nil_append, byteLength_nil, Nat.add_zero]
    cases hmr : m ++ r with
    | nil =>
      rw [(List.append_eq_nil_iff.1 hmr).1]
      rfl
    | cons c cs => rw [go₁_cons, if_pos rfl, ← hmr, extract_go₂_append]
  | cons c l ih =>
    have hc := c.utf8Size_pos
    rw [List.cons_append, List.cons_append, go₁_cons, if_neg]
    · have hn : (⟨n⟩ : String.Pos.Raw) + c = ⟨n + c.utf8Size⟩ := rfl
      rw [hn, byteLength_cons, ← Nat.add_assoc, ih]
    · simp [String.Pos.Raw.ext_iff]; omega

/-- The span of the middle of three parts cuts that part out. -/
theorem cut_middle (l m r : List Char) :
    Span.cut ⟨byteLength l, byteLength l + byteLength m⟩ (String.ofList (l ++ m ++ r)) =
      String.ofList m := by
  rw [Span.cut, extract_eq]
  split
  · next h =>
    have : m = [] := by
      cases m with
      | nil => rfl
      | cons c m => have := c.utf8Size_pos; simp at h; omega
    simp [this]
  · have := extract_go₁_append l m r 0
    simp only [Nat.zero_add] at this
    rw [String.toList_ofList]
    exact congrArg String.ofList this

/-! ### The lines -/

@[simp] theorem spansFrom_nil (start : Nat) : spansFrom start [] = [] := rfl

theorem spansFrom_cons (start : Nat) (p : List Char) (ps : List (List Char)) :
    spansFrom start (p :: ps) =
      ⟨start, start + byteLength (dropReturn p)⟩ :: spansFrom (start + byteLength p + 1) ps := by
  have go : ∀ (ps : List (List Char)) (n : Nat) (done : List Span),
      (ps.foldl (fun (acc : Nat × List Span) piece =>
        (acc.1 + byteLength piece + 1,
          ⟨acc.1, acc.1 + byteLength (dropReturn piece)⟩ :: acc.2)) (n, done)).2.reverse =
        done.reverse ++ spansFrom n ps := by
    intro ps
    induction ps with
    | nil => intro n done; simp [spansFrom]
    | cons q ps ih =>
      intro n done
      rw [spansFrom, List.foldl_cons, ih, List.foldl_cons, ih]
      simp
  rw [spansFrom, List.foldl_cons, go]
  simp

/-- A piece is its line and at most a carriage return. -/
theorem exists_dropReturn_append (p : List Char) :
    ∃ r, p = dropReturn p ++ r ∧ (r = [] ∨ r = ['\r']) := by
  rw [dropReturn]
  split
  · next h =>
    obtain ⟨q, rfl⟩ := List.getLast?_eq_some_iff.1 h
    exact ⟨['\r'], by simp, .inr rfl⟩
  · exact ⟨[], by simp, .inl rfl⟩

/-- Behind `l`, the spans of pieces that are joined by line feeds cut out these pieces' lines. -/
theorem cutLines_spansFrom (l : List Char) {ps : List (List Char)} (h : ps ≠ []) :
    cutLines (String.ofList (l ++ joined '\n' ps)) (spansFrom (byteLength l) ps) =
      ps.map fun p => String.ofList (dropReturn p) := by
  induction ps generalizing l with
  | nil => exact absurd rfl h
  | cons p ps ih =>
    obtain ⟨r, hp, -⟩ := exists_dropReturn_append p
    rw [spansFrom_cons, cutLines, List.map_cons, List.map_cons]
    cases ps with
    | nil =>
      have := cut_middle l (dropReturn p) r
      rw [List.append_assoc, ← hp] at this
      rw [spansFrom_nil, List.map_nil, List.map_nil, joined, this]
    | cons q qs =>
      rw [joined_cons (by simp)]
      congr 1
      · have := cut_middle l (dropReturn p) (r ++ '\n' :: joined '\n' (q :: qs))
        rw [← this]
        congr 2
        conv => lhs; rw [hp]
        simp
      · have := ih (l ++ p ++ ['\n']) (by simp)
        have hl : byteLength (l ++ p ++ ['\n']) = byteLength l + byteLength p + 1 := by
          simp; rfl
        rw [hl] at this
        rw [← cutLines]
        simpa using this

/-- **The lines of a text are its pieces between line feeds,** each without the return that ends
it. -/
theorem lines_eq {text : String} (h : text ≠ "") :
    lines text = (pieces '\n' text.toList).map fun p => String.ofList (dropReturn p) := by
  have := cutLines_spansFrom [] (pieces_ne_nil '\n' text.toList)
  rw [joined_pieces, List.nil_append, String.ofList_toList] at this
  rw [lines, lineSpans, if_neg (by simpa using h)]
  exact this

end FileProfile.Text
