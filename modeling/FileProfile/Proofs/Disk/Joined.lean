import FileProfile.Proofs.Disk.Containment
import FileProfile.Proofs.Disk.Parts

/-!
# Relative paths, seen from a root

A relative path is put behind a root, and then the components of the root are taken off its front
again. What is left is the path as it was written, but for idle segments at its front
(`under?_join`). This does not depend on what is on the disk, so where the two lead is never asked
for: a file named by a relative path is known by the parts of that path, whatever the root is and
however it is written (`load_joined`).

The two steps meet in the segments. Those of the joined path are those of the root with those of the
path behind them, except that a slash at the end of the root takes the place of one between the two
(`segments_join`). And taking off components stops behind the last name of the root, so the only
segments of the root that can be left are idle (`dropBody?_body_append`).
-/

namespace FileProfile.Path

variable {root path : RawText}

/-! ### Segments of a joined path -/

theorem segments_append_slash (l r : RawText) :
    segments (l ++ slash :: r) = segments l ++ segments r := Text.pieces_append_sep slash l r

/-- **The segments of the path stand behind those of the root,** of which an idle one may be
missing at the end. -/
theorem segments_join (h_root : root ≠ []) (h_path : isAbsolute path = false) :
    ∃ first front idle, segments root = first :: front ++ idle ∧ (∀ s ∈ idle, isIdle s = true) ∧
      segments (join root path) = first :: front ++ segments path := by
  have h_relative : ¬ (isAbsolute path || root == []) = true := by
    rw [h_path, Bool.false_or, beq_iff_eq]
    exact h_root
  rw [join, if_neg h_relative]
  split
  · next h_slash =>
    -- the slash at the end of the root separates the two
    obtain ⟨l, rfl⟩ := List.getLast?_eq_some_iff.mp h_slash
    obtain ⟨first, front, h_segments⟩ := List.exists_cons_of_ne_nil (segments_ne_nil l)
    refine ⟨first, front, [[]], ?_, List.forall_mem_singleton.mpr rfl, ?_⟩
    · rw [segments_append_slash l [], h_segments]
      rfl
    · rw [List.append_assoc, List.singleton_append, segments_append_slash, h_segments]
  · -- a slash is put between the two
    obtain ⟨first, front, h_segments⟩ := List.exists_cons_of_ne_nil (segments_ne_nil root)
    refine ⟨first, front, [], ?_, fun s hs => absurd hs List.not_mem_nil, ?_⟩
    · rw [h_segments, List.append_nil]
    · rw [segments_append_slash, h_segments]

/-- How a path starts is told from its first segment, unless the path is empty. -/
theorem start_of_segments {first : RawText} {rest : List RawText} (h_ne : path ≠ [])
    (h : segments path = first :: rest) :
    start path =
      if first = [] then (some .root, rest)
      else if first = here then (some .here, rest)
      else (none, first :: rest) := by
  obtain ⟨s, rest', h_root, h_start⟩ | ⟨rest', h_here, h_start⟩ | ⟨h_root, h_here, h_start⟩ :=
    start_cases path
  · obtain ⟨rfl, rfl⟩ := List.cons.inj (h.symm.trans h_root)
    rw [h_start, if_pos rfl]
  · obtain ⟨rfl, rfl⟩ := List.cons.inj (h.symm.trans h_here)
    rw [h_start, if_neg (by decide), if_pos rfl]
  · have h_not_root : first ≠ [] := by
      rintro rfl
      -- an empty segment alone is the empty path
      cases rest with
      | nil =>
        apply h_ne
        rw [← ofSegments_segments path, h]
        rfl
      | cons s rest => exact h_root s rest h
    have h_not_here : first ≠ here := by
      rintro rfl
      exact h_here rest h
    rw [h_start, if_neg h_not_root, if_neg h_not_here, h]

/-- A joined path starts as its root does. -/
theorem start_join (h_root : root ≠ []) (h_path : isAbsolute path = false) :
    ∃ first front idle, start root = (first, front ++ idle) ∧ (∀ s ∈ idle, isIdle s = true) ∧
      start (join root path) = (first, front ++ segments path) := by
  obtain ⟨first, front, idle, h_segments, h_idle, h_joined⟩ := segments_join h_root h_path
  have h_ne : join root path ≠ [] := by
    intro h_empty
    rw [h_empty] at h_joined
    -- the segments of the path are behind at least one more
    have h_rest : [] = front ++ segments path := (List.cons.inj h_joined).2
    exact segments_ne_nil path (List.append_eq_nil_iff.mp h_rest.symm).2
  rw [start_of_segments h_root h_segments, start_of_segments h_ne h_joined]
  split
  · exact ⟨_, front, idle, rfl, h_idle, rfl⟩
  · split
    · exact ⟨_, front, idle, rfl, h_idle, rfl⟩
    · exact ⟨_, first :: front, idle, rfl, h_idle, rfl⟩

/-! ### Taking the root off again -/

theorem body_eq_nil_iff {ss : List RawText} : body ss = [] ↔ ∀ s ∈ ss, isIdle s = true := by
  rw [body, List.map_eq_nil_iff, List.filter_eq_nil_iff]
  simp

/-- **What names components is taken off with them,** but for idle segments behind the last name. -/
theorem dropBody?_body_append (front back : List RawText) :
    ∃ idle, dropBody? (body front) (front ++ back) = some (idle ++ back) ∧
      ∀ s ∈ idle, isIdle s = true := by
  -- along what names the components: idle segments are passed over only while names are left
  induction front with
  | nil => exact ⟨[], dropBody?.eq_1 back, fun s hs => absurd hs List.not_mem_nil⟩
  | cons s front ih =>
    cases h_idle : isIdle s with
    | true =>
      cases h_body : body front with
      | nil =>
        -- nothing is left to be taken off
        have h_all : body (s :: front) = [] := (body_cons_of_isIdle h_idle front).trans h_body
        rw [h_all]
        exact ⟨s :: front, dropBody?.eq_1 _, body_eq_nil_iff.mp h_all⟩
      | cons c cs =>
        obtain ⟨idle, h_drop, h_all⟩ := ih
        refine ⟨idle, ?_, h_all⟩
        rw [body_cons_of_isIdle h_idle, h_body, List.cons_append, dropBody?, if_pos h_idle,
          ← h_body, h_drop]
    | false =>
      obtain ⟨idle, h_drop, h_all⟩ := ih
      refine ⟨idle, ?_, h_all⟩
      rw [body_cons h_idle, List.cons_append, dropBody?, if_neg (Bool.eq_false_iff.mp h_idle),
        if_pos rfl, h_drop]

/-- **Putting a root in front and taking it off** leaves a relative path as it was written, but for
idle segments at its front. -/
theorem under?_join (root : RawText) (h_path : isAbsolute path = false) :
    under? root (join root path) =
      some (if root = [] then path else ofSegments ((segments path).dropWhile isIdle)) := by
  by_cases h_root : root = []
  · -- the empty root is not put in front, and every path starts with it
    have h_same : join root path = path := by
      rw [join, if_pos]
      rw [h_root, Bool.or_eq_true]
      exact .inr rfl
    rw [h_same, if_pos h_root, h_root, under?, if_pos (by decide +kernel)]
  · obtain ⟨first, front, idle, h_start, h_idle, h_joined⟩ := start_join h_root h_path
    obtain ⟨left, h_drop, h_left⟩ := dropBody?_body_append front (segments path)
    have h_body : body (start root).2 = body front := by
      rw [h_start, body_append, body_eq_nil_iff.mpr h_idle, List.append_nil]
    rw [under?, if_neg (fun h_nil => h_root (components_eq_nil h_nil)), h_body, h_start, h_joined,
      if_pos rfl, h_drop, Option.map_some, List.dropWhile_append_of_pos h_left, if_neg h_root]

/-- Idle segments at the front of a path have no part. -/
theorem parts_dropWhile_isIdle (path : RawText) :
    parts (known (ofSegments ((segments path).dropWhile isIdle))) =
      parts (known path) :=
  calc parts (known (ofSegments ((segments path).dropWhile isIdle)))
      = parts (known (ofSegments ((segments path).filter (!isIdle ·)))) := by
        rw [parts_eq_filter, filter_dropWhile_isIdle]
    _ = parts (known (ofSegments (segments path))) := (parts_eq_filter _).symm
    _ = parts (known path) := by rw [ofSegments_segments]

end FileProfile.Path

namespace FileProfile.Observation

open FileProfile.Path

/-- **A file is known by the path that it was named by.** If a relative path, seen from a root,
leads to a file that can be read, the file is loaded. It is found under the root by the bytes of the
path, whatever is seen of where root and path lead; and the path that it is known by has the parts of
the path that was given, read as text and with backslashes read as slashes, whatever the root is. -/
theorem load_joined (seen : Observation) {root path : RawText} {bytes : List UInt8}
    (h_relative : isAbsolute path = false) (h_bytes : seen.bytes = .ok bytes) :
    ∃ rest, under? root (join root path) = some rest ∧
      seen.load root (join root path) = .ok { path := known rest, bytes } ∧
      parts (known rest) = parts (known path) := by
  have h_under := under?_join root h_relative
  refine ⟨_, h_under, ?_, ?_⟩
  · unfold load relative
    rw [h_under, h_bytes]
    rfl
  · split
    · rfl
    · exact parts_dropWhile_isIdle path

/-- The root steps up and the path has idle segments in it. -/
theorem load_joined_besideRoot :
    let root := raw "./r/.."
    let path := raw ".//r/./a.txt"
    isAbsolute path = false ∧ (Disk.besideRoot.observe root (join root path)).bytes = .ok [120] ∧
      ∃ rest, under? root (join root path) = some rest ∧
        (Disk.besideRoot.observe root (join root path)).load root (join root path) =
          .ok { path := known rest, bytes := [120] } ∧
        parts (known rest) = parts (known path) :=
  have h_relative : isAbsolute (raw ".//r/./a.txt") = false := by decide +kernel
  have h_bytes : (Disk.besideRoot.observe (raw "./r/..")
      (join (raw "./r/..") (raw ".//r/./a.txt"))).bytes = .ok [120] := by decide +kernel
  ⟨h_relative, h_bytes, load_joined _ h_relative h_bytes⟩

end FileProfile.Observation
