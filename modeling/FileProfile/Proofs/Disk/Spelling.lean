import FileProfile.Proofs.Disk.Containment
import FileProfile.Proofs.Disk.Parts
import FileProfile.Proofs.Subject.Encodings

/-!
# How the root is written does not matter

Whether a file is placed under a root by the text of its path or by its place depends on how the
root is written. For a path without steps up it makes no difference: all ways to write a root that
lead to one place load the same files from it, and refuse the others for the same reason
(`load_respelled`).

* A path that is under the root by its text leads down from the place of the root, and what is left
  of it has the names on the way in order (`place_of_steady`). So it is under the root by its place
  as well, and neither way finds a file that the other does not (`relative?_eq_none_iff`).
* By its text, what is left of a path may have idle segments among the names. These change neither
  the parts nor the base name, because none of them comes last: a directory is needed to go through
  an idle segment, and a file is none (`isIdle_getLast_of_file`).
-/

namespace FileProfile

/-- Two subjects have the same parts in their paths, the same names and the same bytes, and agree on
all that is told from the name and the bytes. -/
structure Subject.SameFile (s t : Subject) : Prop where
  parts : Path.parts s.path = Path.parts t.path
  name : s.name = t.name
  bytes : s.bytes = t.bytes
  language? : s.language? = t.language?
  isGenerated : s.isGenerated = t.isGenerated
  sniff : s.sniff = t.sniff
  mediaType : s.mediaType = t.mediaType
  contentType : s.contentType = t.contentType
  disposition : s.disposition = t.disposition

/-- Files of the same name and with the same bytes are the same, wherever they are. -/
theorem Subject.sameFile_of_base {p q : String} (bytes : List UInt8)
    (h_parts : Path.parts p = Path.parts q) (h_base : FileName.base p = FileName.base q) :
    SameFile { path := p, bytes } { path := q, bytes } := by
  have h_name : name { path := p, bytes } = name { path := q, bytes } := h_base
  have h_extension : extension? { path := p, bytes } = extension? { path := q, bytes } := by
    rw [extension?, extension?, h_name]
  have h_sniff : sniff { path := p, bytes } = sniff { path := q, bytes } := by
    rw [sniff, sniff, h_name]
  have h_text : text? { path := p, bytes } = text? { path := q, bytes } := by
    rw [text?, text?, h_sniff]
  have h_viewable : isViewable { path := p, bytes } = isViewable { path := q, bytes } := by
    rw [isViewable, isViewable, h_sniff]
    rfl
  exact {
    parts := h_parts
    name := h_name
    bytes := rfl
    language? := language?_congr h_name h_text
    isGenerated := by rw [isGenerated, isGenerated, h_name, lines_congr h_text]
    sniff := h_sniff
    mediaType := by rw [mediaType, mediaType, mediaTypeIf, mediaTypeIf, h_extension, h_sniff]
    contentType := by rw [contentType, contentType, h_sniff]
    disposition := by
      rw [disposition, disposition, dispositionIf, dispositionIf, h_viewable, h_name] }

namespace Disk

open FileProfile.Path

variable {disk : Disk} {root path : RawText} {R P : List RawText}

/-! ### The last segment of the path of a file -/

theorem getLast?_cons_eq_some {α : Type} {a b : α} {l : List α} (h : (a :: l).getLast? = some b) :
    l = [] ∧ a = b ∨ l.getLast? = some b := by
  cases l with
  | nil => exact .inl ⟨rfl, Option.some.inj h⟩
  | cons c l => exact .inr h

/-- Segments of which the last one is idle lead to a directory. -/
theorem directory_of_follow {place segments : List RawText} {s : RawText}
    (h : disk.follow place segments = .ok P) (h_last : segments.getLast? = some s)
    (h_idle : isIdle s = true) : disk.entry? P = some .directory := by
  fun_induction disk.follow place segments with
  | case1 => cases h_last
  | case2 place segment rest h_dir _ ih =>
    rcases getLast?_cons_eq_some h_last with ⟨rfl, -⟩ | h_last
    · rw [← Except.ok.inj h]
      exact h_dir
    · exact ih h h_last
  | case3 place rest _ h_segment ih =>
    rcases getLast?_cons_eq_some h_last with ⟨-, rfl⟩ | h_last
    · exact absurd h_idle h_segment
    · exact ih h h_last
  | case4 place segment rest _ h_segment _ next _ ih =>
    rcases getLast?_cons_eq_some h_last with ⟨-, rfl⟩ | h_last
    · exact absurd h_idle h_segment
    · exact ih h h_last
  | case5 => cases h
  | case6 => cases h
  | case7 => cases h

/-- A path that leads somewhere is followed by segments at its end, from a place on the disk. -/
theorem exists_follow_of_resolve (h : disk.resolve path = .ok P) :
    ∃ place segs, disk.follow place segs = .ok P ∧ segs.getLast? = (segments path).getLast? := by
  unfold resolve isAbsolute at h
  split at h
  · cases h
  obtain ⟨s, rest, h_segments, h_start⟩ | ⟨rest, h_segments, h_start⟩ | ⟨-, -, h_start⟩ :=
    start_cases path
  · rw [h_start, if_pos (by rfl)] at h
    exact ⟨_, _, h, by rw [h_segments, List.getLast?_cons_cons]⟩
  · rw [h_start, if_neg (by simp)] at h
    exact ⟨_, _, h, rfl⟩
  · rw [h_start, if_neg (by simp)] at h
    exact ⟨_, _, h, rfl⟩

/-- **The path of a file does not end in an idle segment.** -/
theorem isIdle_getLast_of_file {bytes : List UInt8} (h_path : disk.resolve path = .ok P)
    (h_file : disk.entry? P = some (.file bytes)) {s : RawText}
    (h_last : (segments path).getLast? = some s) : isIdle s = false := by
  obtain ⟨place, segs, h_follow, h_end⟩ := exists_follow_of_resolve h_path
  refine Bool.eq_false_iff.mpr fun h_idle => ?_
  have h_directory := directory_of_follow h_follow (h_end.trans h_last) h_idle
  rw [h_file] at h_directory
  cases h_directory

/-! ### Paths without steps up -/

/-- **What is left of a path without steps up** are the names on the way from the place of the root,
with idle segments among them. -/
theorem place_of_steady {rest : RawText} (h_up : up ∉ segments path)
    (h_root : disk.resolve root = .ok R) (h_path : disk.resolve path = .ok P)
    (h : under? root path = some rest) :
    ∃ back, P = R ++ back.filter (!isIdle ·) ∧ rest = ofSegments (back.dropWhile isIdle) ∧
      back <:+ segments path := by
  obtain ⟨back, h_walk, h_rest, h_end⟩ := place_of_under? h_root h_path h
  refine ⟨back, ?_, h_rest, h_end⟩
  rw [h_walk, body_eq_map_name fun h_mem => h_up (h_end.subset h_mem), walk_names]

/-- Without steps up, the text of the path and its place decide alike. -/
theorem relative?_eq_none_iff (h_up : up ∉ segments path) (h_root : disk.resolve root = .ok R)
    (h_path : disk.resolve path = .ok P) : relative? root path R P = none ↔ ¬ R <+: P := by
  unfold relative?
  cases h : under? root path with
  | some rest =>
    obtain ⟨back, rfl, -, -⟩ := place_of_steady h_up h_root h_path h
    simp
  | none => simp

/-- What is left of the path of a file differs from the names on the way in idle segments only. -/
theorem parts_base_of_relative? {rest : RawText} {bytes : List UInt8} (h_up : up ∉ segments path)
    (h_root : disk.resolve root = .ok R) (h_path : disk.resolve path = .ok P)
    (h_file : disk.entry? P = some (.file bytes)) (h : relative? root path R P = some rest) :
    parts (known rest) = parts (known (ofSegments (P.drop R.length))) ∧
      FileName.base (known rest) =
        FileName.base (known (ofSegments (P.drop R.length))) := by
  unfold relative? at h
  cases h_under : under? root path with
  | none =>
    rw [h_under] at h
    obtain ⟨-, h_some⟩ := Option.ite_none_right_eq_some.mp h
    obtain rfl := Option.some.inj h_some
    exact ⟨rfl, rfl⟩
  | some rest' =>
    rw [h_under] at h
    obtain rfl : rest' = rest := Option.some.inj h
    obtain ⟨back, rfl, rfl, h_end⟩ := place_of_steady h_up h_root h_path h_under
    -- what is left ends the path
    have h_last : ∀ s, (back.dropWhile isIdle).getLast? = some s → isIdle s = false := by
      intro s h_s
      obtain ⟨front, h_front⟩ := (List.dropWhile_suffix isIdle).trans h_end
      refine isIdle_getLast_of_file h_path h_file ?_
      rw [← h_front, List.getLast?_append, h_s, Option.some_or]
    rw [List.drop_left, ← filter_dropWhile_isIdle]
    exact ⟨parts_eq_filter _, base_eq_filter h_last⟩

/-! ### Two spellings of a root -/

/-- Nothing is loaded by a path that leads nowhere. -/
theorem load_of_fault {fault : PathFault} (h_root : disk.resolve root = .ok R)
    (h_path : disk.resolve path = .error fault) :
    disk.load root path = .error (.unreadable path fault) := by
  have h_seen_root : disk.canonical root = .ok (pathOf R) := canonical_eq_ok.mpr ⟨R, h_root, rfl⟩
  have h_seen_path : disk.canonical path = .error fault := by
    rw [canonical, h_path]
    rfl
  have h_read : disk.read path = .error fault := by
    rw [read, h_path]
    rfl
  unfold load Observation.load Observation.relative observe
  cases under? root path with
  | some rest =>
    simp only [h_read]
    rfl
  | none =>
    simp only [h_seen_root, h_seen_path]
    rfl

theorem pathOf_inj (hR : ∀ n ∈ R, IsName n) (hP : ∀ n ∈ P, IsName n) (h : pathOf R = pathOf P) :
    R = P := by
  have h_components := congrArg components h
  rw [components_pathOf hR, components_pathOf hP] at h_components
  have h_names := (List.cons.inj h_components).2
  exact (List.map_inj_right fun _ _ => Component.name.inj).mp h_names

/-- **How the root is written does not matter** for a path without steps up. Under two roots that
lead to one place, either the same file is loaded, or loading fails for the same reason. -/
theorem load_respelled {root' r : RawText} (h_disk : disk.Named) (h_up : up ∉ segments path)
    (h_root : disk.canonical root = .ok r) (h_root' : disk.canonical root' = .ok r) :
    (∃ s t, disk.load root path = .ok s ∧ disk.load root' path = .ok t ∧ s.SameFile t) ∨
      ∃ e, disk.load root path = .error e ∧ disk.load root' path = .error e := by
  obtain ⟨R, hR, rfl⟩ := canonical_eq_ok.mp h_root
  obtain ⟨R', hR', h_same⟩ := canonical_eq_ok.mp h_root'
  obtain rfl : R = R' :=
    pathOf_inj (isName_of_resolve h_disk hR) (isName_of_resolve h_disk hR') h_same
  cases h_path : disk.resolve path with
  | error fault => exact .inr ⟨_, load_of_fault hR h_path, load_of_fault hR' h_path⟩
  | ok P =>
    rw [load_place h_disk hR h_path, load_place h_disk hR' h_path]
    have h_none := relative?_eq_none_iff h_up hR h_path
    have h_none' := relative?_eq_none_iff h_up hR' h_path
    by_cases h_in : R <+: P
    · -- the path is under both roots
      obtain ⟨rest, h_rest⟩ := Option.ne_none_iff_exists'.mp fun h => h_none.mp h h_in
      obtain ⟨rest', h_rest'⟩ := Option.ne_none_iff_exists'.mp fun h => h_none'.mp h h_in
      rw [h_rest, h_rest']
      cases h_read : disk.read path with
      | error fault => exact .inr ⟨_, rfl, rfl⟩
      | ok bytes =>
        obtain ⟨P', h_path', h_file⟩ := read_eq_ok.mp h_read
        obtain rfl : P = P' := Except.ok.inj (h_path.symm.trans h_path')
        have h_names := parts_base_of_relative? h_up hR h_path h_file h_rest
        have h_names' := parts_base_of_relative? h_up hR' h_path h_file h_rest'
        refine .inl ⟨_, _, rfl, rfl, Subject.sameFile_of_base bytes ?_ ?_⟩
        · exact h_names.1.trans h_names'.1.symm
        · exact h_names.2.trans h_names'.2.symm
    · -- the path is under neither root
      rw [h_none.mpr h_in, h_none'.mpr h_in]
      exact .inr ⟨_, rfl, rfl⟩

/-- The path is under the first root by its text, and under the second one by its place only. -/
theorem load_respelled_besideRoot :
    up ∉ segments (raw "r//./a.txt") ∧ besideRoot.canonical (raw "r") = .ok (raw "/home/r") ∧
      besideRoot.canonical (raw "./r/../r") = .ok (raw "/home/r") ∧
      ((∃ s t, besideRoot.load (raw "r") (raw "r//./a.txt") = .ok s ∧
        besideRoot.load (raw "./r/../r") (raw "r//./a.txt") = .ok t ∧ s.SameFile t) ∨
      ∃ e, besideRoot.load (raw "r") (raw "r//./a.txt") = .error e ∧
        besideRoot.load (raw "./r/../r") (raw "r//./a.txt") = .error e) :=
  have h_up : up ∉ segments (raw "r//./a.txt") := by decide +kernel
  have h_root : besideRoot.canonical (raw "r") = .ok (raw "/home/r") := by decide +kernel
  have h_root' : besideRoot.canonical (raw "./r/../r") = .ok (raw "/home/r") := by decide +kernel
  ⟨h_up, h_root, h_root', load_respelled besideRoot_named h_up h_root h_root'⟩

end Disk

end FileProfile
