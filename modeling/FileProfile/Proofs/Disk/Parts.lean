import FileProfile.FileName
import FileProfile.Proofs.Bytes.Ascii
import FileProfile.Proofs.Disk.Path

/-!
# Parts of what a file is known by

A file is known by a text, and the parts of that are what stands between its slashes, without what
names nothing. The text comes from a path, in which bytes without meaning have become replacement
characters and backslashes slashes, so that a single segment can have several parts, or none. Still,
each segment gives its parts alone (`parts_known_ofSegments`), and the base name comes from the last
one alone (`base_known_ofSegments`). The reason is that a slash reads as a slash whatever stands
around it (`toList_known_append_slash`). So idle segments make no difference, as long as none of
them is the last one (`parts_eq_filter`, `base_eq_filter`).
-/

namespace FileProfile.Path

/-- The parts of a text: what stands between its slashes, without what names nothing. -/
def parts (text : String) : List String :=
  ((Text.pieces '/' text.toList).map String.ofList).filter fun s => s != "" && s != "."

/-! ### Segment by segment -/

/-- **Slashes stay slashes,** and what stands around them is read alone. -/
theorem toList_known_append_slash (l r : RawText) :
    (known (l ++ slash :: r)).toList = (known l).toList ++ '/' :: (known r).toList := by
  have h_text : (RawText.toText (l ++ slash :: r)).toList =
      (RawText.toText l).toList ++ '/' :: (RawText.toText r).toList := by
    rw [RawText.toText, RawText.toText, RawText.toText, String.toList_ofList, String.toList_ofList,
      String.toList_ofList, Bytes.Utf8.decode_append_ascii (by decide)]
    rfl
  unfold known withSlashes
  rw [String.toList_map, h_text, List.map_append, List.map_cons, if_neg (by decide),
    String.toList_map, String.toList_map]

theorem ofSegments_singleton (s : RawText) : ofSegments [s] = s := List.intercalate_singleton

theorem ofSegments_cons (s : RawText) {rest : List RawText} (h : rest ≠ []) :
    ofSegments (s :: rest) = s ++ slash :: ofSegments rest := by
  obtain ⟨t, rest, rfl⟩ := List.exists_cons_of_ne_nil h
  rw [ofSegments, List.intercalate_cons_cons, List.append_assoc, List.singleton_append, ofSegments]

theorem parts_known_of_isIdle {s : RawText} (h : isIdle s = true) : parts (known s) = [] := by
  rw [isIdle, Bool.or_eq_true, beq_iff_eq, beq_iff_eq] at h
  rcases h with rfl | rfl
  · decide +kernel
  · decide +kernel

theorem parts_known_ofSegments (ss : List RawText) :
    parts (known (ofSegments ss)) = ss.flatMap fun s => parts (known s) := by
  induction ss with
  | nil => exact parts_known_of_isIdle rfl
  | cons s rest ih =>
    by_cases h : rest = []
    · rw [h, List.flatMap_singleton, ofSegments_singleton]
    · rw [List.flatMap_cons, ← ih, ofSegments_cons s h, parts, toList_known_append_slash,
        Text.pieces_append_sep, List.map_append, List.filter_append]
      rfl

/-- A step up in a path is one in what is known of it. -/
theorem up_mem_parts_known {path : RawText} (h : up ∈ segments path) :
    ".." ∈ parts (known path) := by
  have h_up : parts (known up) = [".."] := by decide +kernel
  rw [← ofSegments_segments path, parts_known_ofSegments]
  refine List.mem_flatMap.mpr ⟨up, h, ?_⟩
  rw [h_up]
  exact List.mem_singleton.mpr rfl

theorem base_known_ofSegments {ss : List RawText} {s : RawText} (h : ss.getLast? = some s) :
    FileName.base (known (ofSegments ss)) = FileName.base (known s) := by
  induction ss with
  | nil => cases h
  | cons t rest ih =>
    by_cases h_rest : rest = []
    · subst h_rest
      obtain rfl : t = s := Option.some.inj h
      rw [ofSegments_singleton]
    · -- a slash and the last segment stand further on
      have h_last : rest.getLast? = some s := by
        obtain ⟨u, rest, rfl⟩ := List.exists_cons_of_ne_nil h_rest
        exact h
      rw [← ih h_last, ofSegments_cons t h_rest, FileName.base, toList_known_append_slash,
        Text.lastPiece_append_sep, FileName.base]

/-! ### Idle segments -/

theorem filter_dropWhile_isIdle (ss : List RawText) :
    (ss.dropWhile isIdle).filter (!isIdle ·) = ss.filter (!isIdle ·) := by
  induction ss with
  | nil => rfl
  | cons s rest ih =>
    cases h : isIdle s with
    | true =>
      rw [List.dropWhile_cons_of_pos h, ih, List.filter_cons_of_neg (by rw [h]; decide)]
    | false => rw [List.dropWhile_cons_of_neg (by rw [h]; decide)]

/-- Idle segments have no part. -/
theorem parts_eq_filter (ss : List RawText) :
    parts (known (ofSegments ss)) =
      parts (known (ofSegments (ss.filter (!isIdle ·)))) := by
  rw [parts_known_ofSegments, parts_known_ofSegments]
  induction ss with
  | nil => rfl
  | cons s rest ih =>
    cases h : isIdle s with
    | true =>
      rw [List.flatMap_cons, parts_known_of_isIdle h, List.nil_append, ih,
        List.filter_cons_of_neg (by rw [h]; decide)]
    | false =>
      rw [List.flatMap_cons, ih, List.filter_cons_of_pos (by rw [h]; decide), List.flatMap_cons]

/-- Idle segments do not change the base name, unless one of them is the last segment. -/
theorem base_eq_filter {ss : List RawText} (h : ∀ s, ss.getLast? = some s → isIdle s = false) :
    FileName.base (known (ofSegments ss)) =
      FileName.base (known (ofSegments (ss.filter (!isIdle ·)))) := by
  cases h_last : ss.getLast? with
  | none =>
    rw [List.getLast?_eq_none_iff.mp h_last]
    rfl
  | some s =>
    obtain ⟨front, rfl⟩ := List.getLast?_eq_some_iff.mp h_last
    have h_kept : ((front ++ [s]).filter (!isIdle ·)).getLast? = some s := by
      rw [List.filter_append, List.filter_cons_of_pos (by rw [h s h_last]; decide),
        List.filter_nil, List.getLast?_concat]
    rw [base_known_ofSegments h_last, base_known_ofSegments h_kept]

end FileProfile.Path
