import Mathlib.Control.Monad.Basic
import FileProfile.Disk.Load
import FileProfile.Proofs.Disk.Parts
import FileProfile.Proofs.Disk.Places

/-!
# Files under a root

What is asked of loading is in `Disk.Contained`: a file that is loaded is in the place of the root,
and is known by a path that never steps up; a file that is elsewhere is refused. Whether a file is
in the root is decided in two ways. Where the components of the root are not at the front of the
path, it is decided by places, which is right. Where they are, it is decided by the text of the
path, in which what is left may step up out of the root again; nothing looks for that.

`contained_iff` gives the exact condition, `LeadsDown`. It is about what is left of the path, in
which backslashes count as slashes, so that a single name can bring in a step up as well:

* `load_place` and `load_file` say what loading does, in both ways at once, and `load_eq_ok_iff`
  when a file is loaded;
* `prefix_of_under?` is the reason why nothing else is needed: without a step up, what is left of a
  path leads down from the place of the root.
-/

namespace FileProfile.Disk

open FileProfile.Path

/-- What is asked of loading the file at a path under a root. -/
structure Contained (disk : Disk) (root path : RawText) : Prop where
  /-- A file that is loaded is in the place of the root. -/
  inside : ∀ s, disk.load root path = .ok s → ∃ r p, disk.canonical root = .ok r ∧
    disk.canonical path = .ok p ∧ components r <+: components p ∧ disk.read path = .ok s.bytes
  /-- A file that is loaded is known by a path that never steps up. -/
  steady : ∀ s, disk.load root path = .ok s → ".." ∉ parts s.path
  /-- A file that is elsewhere is refused. -/
  refused : ∀ r p bytes, disk.canonical root = .ok r → disk.canonical path = .ok p →
    disk.read path = .ok bytes → ¬ components r <+: components p →
    disk.load root path = .error (.outsideRoot path r)

variable {disk : Disk} {root path : RawText} {R P : List RawText}

/-! ### What loading does -/

theorem canonical_eq_ok {p : RawText} : disk.canonical path = .ok p ↔
    ∃ P, disk.resolve path = .ok P ∧ p = pathOf P := by
  rw [canonical]
  cases disk.resolve path with
  | error fault =>
    refine ⟨fun h => (by cases h), ?_⟩
    rintro ⟨_, h, _⟩
    cases h
  | ok P =>
    refine ⟨fun h => ⟨P, rfl, (Except.ok.inj h).symm⟩, ?_⟩
    rintro ⟨P', h, rfl⟩
    rw [Except.ok.inj h]
    rfl

/-- What is read at a place depends on what is there. -/
theorem read_of_resolve (h : disk.resolve path = .ok P) : disk.read path =
    match disk.entry? P with
    | some (.file bytes) => .ok bytes
    | some .directory => .error .isADirectory
    | none => .error .notFound := by
  rw [read, h]
  rfl

theorem read_eq_ok {bytes : List UInt8} : disk.read path = .ok bytes ↔
    ∃ P, disk.resolve path = .ok P ∧ disk.entry? P = some (.file bytes) := by
  cases h_resolve : disk.resolve path with
  | error fault =>
    rw [read, h_resolve]
    refine ⟨fun h => (by cases h), ?_⟩
    rintro ⟨_, h, _⟩
    cases h
  | ok P =>
    rw [read_of_resolve h_resolve]
    refine ⟨fun h => ?_, ?_⟩
    · split at h
      · next h_file => exact ⟨P, rfl, Except.ok.inj h ▸ h_file⟩
      · cases h
      · cases h
    · rintro ⟨P', h, h_file⟩
      rw [Except.ok.inj h, h_file]

/-- What is left of the path of a file at `P` under a root at `R`: by its text if the components of
the root are at its front, and by its place otherwise. -/
def relative? (root path : RawText) (R P : List RawText) : Option RawText :=
  match under? root path with
  | some rest => some rest
  | none => if R <+: P then some (ofSegments (P.drop R.length)) else none

/-- **What loading does with a path that leads somewhere:** it is placed under the root first. -/
theorem load_place (h_disk : disk.Named) (h_root : disk.resolve root = .ok R)
    (h_path : disk.resolve path = .ok P) :
    disk.load root path =
      match relative? root path R P with
      | some rest => ((disk.read path).mapError (.unreadable path)).map fun bytes =>
          { path := known rest, bytes }
      | none => .error (.outsideRoot path (pathOf R)) := by
  have h_seen_root : disk.canonical root = .ok (pathOf R) := canonical_eq_ok.mpr ⟨R, h_root, rfl⟩
  have h_seen_path : disk.canonical path = .ok (pathOf P) := canonical_eq_ok.mpr ⟨P, h_path, rfl⟩
  have h_under := under?_pathOf (isName_of_resolve h_disk h_root) (isName_of_resolve h_disk h_path)
  unfold load Observation.load Observation.relative observe relative?
  cases under? root path with
  | some rest =>
    cases disk.read path with
    | ok bytes => rfl
    | error fault => rfl
  | none =>
    simp only [h_seen_root, h_seen_path, Except.mapError, bind, Except.bind, h_under]
    by_cases h_in : R <+: P
    · rw [if_pos h_in]
      cases disk.read path with
      | ok bytes => rfl
      | error fault => rfl
    · rw [if_neg h_in]
      rfl

/-- What loading does with a file. -/
theorem load_file (h_disk : disk.Named) {bytes : List UInt8} (h_root : disk.resolve root = .ok R)
    (h_path : disk.resolve path = .ok P) (h_file : disk.entry? P = some (.file bytes)) :
    disk.load root path =
      match relative? root path R P with
      | some rest => .ok { path := known rest, bytes }
      | none => .error (.outsideRoot path (pathOf R)) := by
  have h_bytes : disk.read path = .ok bytes := read_eq_ok.mpr ⟨P, h_path, h_file⟩
  rw [load_place h_disk h_root h_path, h_bytes]
  rfl

/-- Only files are loaded. -/
theorem read_of_load {s : Subject} (h : disk.load root path = .ok s) :
    disk.read path = .ok s.bytes := by
  unfold load Observation.load at h
  cases h_relative : (disk.observe root path).relative root path with
  | error e =>
    rw [h_relative] at h
    cases h
  | ok relative =>
    rw [h_relative] at h
    change (Except.mapError (Error.unreadable path) (disk.read path) >>= _) = _ at h
    cases h_read : disk.read path with
    | error fault =>
      rw [h_read] at h
      cases h
    | ok bytes =>
      rw [h_read] at h
      rw [← Except.ok.inj h]

/-- **When a file is loaded:** its path leads to it, and something is left of that path under the
root, which the file is known by. -/
theorem load_eq_ok_iff (h_disk : disk.Named) (h_root : disk.resolve root = .ok R) {s : Subject} :
    disk.load root path = .ok s ↔ ∃ P bytes rest, disk.resolve path = .ok P ∧
      disk.entry? P = some (.file bytes) ∧ relative? root path R P = some rest ∧
      s = { path := known rest, bytes } := by
  constructor
  · intro h_load
    obtain ⟨P, h_path, h_file⟩ := read_eq_ok.mp (read_of_load h_load)
    rw [load_file h_disk h_root h_path h_file] at h_load
    cases h_rest : relative? root path R P with
    | none =>
      rw [h_rest] at h_load
      cases h_load
    | some rest =>
      rw [h_rest] at h_load
      exact ⟨P, s.bytes, rest, h_path, h_file, h_rest, (Except.ok.inj h_load).symm⟩
  · rintro ⟨P, bytes, rest, h_path, h_file, h_rest, rfl⟩
    rw [load_file h_disk h_root h_path h_file, h_rest]

/-! ### When files are contained -/

/-- The path of a place that is in another starts with its components. -/
theorem components_pathOf_prefix_iff (hR : ∀ n ∈ R, IsName n) (hP : ∀ n ∈ P, IsName n) :
    components (pathOf R) <+: components (pathOf P) ↔ R <+: P := by
  rw [components_pathOf hR, components_pathOf hP, List.cons_prefix_cons,
    List.prefix_map_iff_of_injective fun _ _ => Component.name.inj]
  exact and_iff_right rfl

/-- **Down from the root:** where what is left of a path has no step up, the path leads into the
place of the root. -/
theorem prefix_of_under? {rest : RawText} (h_root : disk.resolve root = .ok R)
    (h_path : disk.resolve path = .ok P) (h : under? root path = some rest)
    (h_up : up ∉ segments rest) : R <+: P := by
  obtain ⟨back, rfl, rfl, h_end⟩ := place_of_under? h_root h_path h
  have h_back : up ∉ back := by
    intro h_mem
    have h_kept : up ∈ back.dropWhile isIdle := by
      rw [← List.takeWhile_append_dropWhile (p := isIdle) (l := back), List.mem_append] at h_mem
      rcases h_mem with h_idle | h_kept
      · exact absurd (List.all_eq_true.mp List.all_takeWhile _ h_idle) (by decide)
      · exact h_kept
    exact h_up (mem_segments_ofSegments
      (fun n hn => slash_not_mem (h_end.subset (List.dropWhile_subset _ hn))) h_kept)
  rw [body_eq_map_name h_back, walk_names]
  exact List.prefix_append R _

/-- What is left of a path that leads to a file has no step up, read as text and with backslashes
read as slashes. -/
def LeadsDown (disk : Disk) (root path : RawText) (R : List RawText) : Prop :=
  ∀ P bytes rest, disk.resolve path = .ok P → disk.entry? P = some (.file bytes) →
    relative? root path R P = some rest → ".." ∉ parts (known rest)

section LeadsDown

variable (h_root : disk.resolve root = .ok R) (h_down : disk.LeadsDown root path R)

include h_root h_down in
/-- Nothing is left of the path of a file that is not in the root. -/
theorem relative?_of_not_prefix {bytes : List UInt8} (h_path : disk.resolve path = .ok P)
    (h_file : disk.entry? P = some (.file bytes)) (h_out : ¬ R <+: P) :
    relative? root path R P = none := by
  have h_never := fun rest => h_down P bytes rest h_path h_file
  unfold relative? at h_never ⊢
  cases h_under : under? root path with
  | none => exact if_neg h_out
  | some rest =>
    -- the text of the path would have to step up out of the root
    have h_rest : up ∉ segments rest := by
      intro h_mem
      exact h_never rest (by rw [h_under]) (up_mem_parts_known h_mem)
    exact absurd (prefix_of_under? h_root h_path h_under h_rest) h_out

variable (h_disk : disk.Named)

include h_root h_down h_disk

theorem inside_of_leadsDown {s : Subject} (h_load : disk.load root path = .ok s) :
    ∃ P, disk.resolve path = .ok P ∧ R <+: P := by
  obtain ⟨P, bytes, rest, h_path, h_file, h_rest, -⟩ := (load_eq_ok_iff h_disk h_root).mp h_load
  refine ⟨P, h_path, Decidable.byContradiction fun h_out => ?_⟩
  have h_none := relative?_of_not_prefix h_root h_down h_path h_file h_out
  cases h_none.symm.trans h_rest

theorem steady_of_leadsDown {s : Subject} (h_load : disk.load root path = .ok s) :
    ".." ∉ parts s.path := by
  obtain ⟨P, bytes, rest, h_path, h_file, h_rest, rfl⟩ := (load_eq_ok_iff h_disk h_root).mp h_load
  exact h_down P bytes rest h_path h_file h_rest

theorem refused_of_leadsDown {bytes : List UInt8} (h_path : disk.resolve path = .ok P)
    (h_file : disk.entry? P = some (.file bytes)) (h_out : ¬ R <+: P) :
    disk.load root path = .error (.outsideRoot path (pathOf R)) := by
  rw [load_file h_disk h_root h_path h_file,
    relative?_of_not_prefix h_root h_down h_path h_file h_out]

end LeadsDown

/-- **When a file is contained:** if and only if what is left of its path leads down. -/
theorem contained_iff (h_disk : disk.Named) (h_root : disk.resolve root = .ok R) :
    disk.Contained root path ↔ disk.LeadsDown root path R := by
  refine ⟨fun h => ?_, fun h_down => ?_⟩
  · intro P bytes rest h_path h_file h_rest
    have h_load := load_file h_disk h_root h_path h_file
    rw [h_rest] at h_load
    exact h.steady _ h_load
  · have hR := isName_of_resolve h_disk h_root
    refine ⟨fun s h_load => ?_, fun s h_load => ?_, fun r p bytes h_r h_p h_read h_out => ?_⟩
    · obtain ⟨P, h_path, h_in⟩ := inside_of_leadsDown h_root h_down h_disk h_load
      have hP := isName_of_resolve h_disk h_path
      exact ⟨pathOf R, pathOf P, canonical_eq_ok.mpr ⟨R, h_root, rfl⟩,
        canonical_eq_ok.mpr ⟨P, h_path, rfl⟩, (components_pathOf_prefix_iff hR hP).mpr h_in,
        read_of_load h_load⟩
    · exact steady_of_leadsDown h_root h_down h_disk h_load
    · -- canonical paths are those of the places that root and path lead to
      obtain ⟨R', h_root', rfl⟩ := canonical_eq_ok.mp h_r
      obtain ⟨P, h_path, rfl⟩ := canonical_eq_ok.mp h_p
      obtain ⟨P', h_path', h_file⟩ := read_eq_ok.mp h_read
      obtain rfl : R = R' := Except.ok.inj (h_root.symm.trans h_root')
      obtain rfl : P = P' := Except.ok.inj (h_path.symm.trans h_path')
      rw [components_pathOf_prefix_iff hR (isName_of_resolve h_disk h_path)] at h_out
      exact refused_of_leadsDown h_root h_down h_disk h_path h_file h_out

/-- A directory to be the root, with a file in it and a file beside it. -/
def besideRoot : Disk where
  entries := [([raw "home"], .directory), ([raw "home", raw "r"], .directory),
    ([raw "home", raw "r", raw "a.txt"], .file [120]),
    ([raw "home", raw "secret.txt"], .file [115])]
  workingDirectory := [raw "home"]

theorem besideRoot_named : besideRoot.Named := by
  intro n hn
  rw [List.mem_singleton.mp hn]
  exact ⟨by decide +kernel, by decide +kernel, by decide +kernel⟩

theorem contained_besideRoot : besideRoot.Contained (raw "r") (raw "r/./a.txt") := by
  have h_root : besideRoot.resolve (raw "r") = .ok [raw "home", raw "r"] := by decide +kernel
  have h_path : besideRoot.resolve (raw "r/./a.txt") = .ok [raw "home", raw "r", raw "a.txt"] := by
    decide +kernel
  refine (contained_iff besideRoot_named h_root).mpr fun P bytes rest h_P _ h_rest => ?_
  obtain rfl : _ = P := Except.ok.inj (h_path.symm.trans h_P)
  have h_left : relative? (raw "r") (raw "r/./a.txt") [raw "home", raw "r"]
      [raw "home", raw "r", raw "a.txt"] = some (raw "a.txt") := by decide +kernel
  obtain rfl : _ = rest := Option.some.inj (h_left.symm.trans h_rest)
  decide +kernel

/-- A path that starts with the root and steps up out of it: the file that it leads to is loaded,
although it is beside the root. -/
theorem not_contained_besideRoot :
    besideRoot.load (raw "r") (raw "r/../secret.txt") =
        .ok { path := "../secret.txt", bytes := [115] } ∧
      ¬ besideRoot.Contained (raw "r") (raw "r/../secret.txt") := by
  have h_root : besideRoot.resolve (raw "r") = .ok [raw "home", raw "r"] := by decide +kernel
  have h_known : known (raw "../secret.txt") = "../secret.txt" := by decide +kernel
  have h_load : besideRoot.load (raw "r") (raw "r/../secret.txt") =
      .ok { path := "../secret.txt", bytes := [115] } :=
    (load_eq_ok_iff besideRoot_named h_root).mpr ⟨[raw "home", raw "secret.txt"], [115],
      raw "../secret.txt", by decide +kernel, by decide +kernel, by decide +kernel,
      by rw [h_known]⟩
  exact ⟨h_load, fun h => absurd (by decide +kernel) (h.steady _ h_load)⟩

end FileProfile.Disk
