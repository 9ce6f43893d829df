import FileProfile.Proofs.Disk.Spelling

/-!
# Telling files apart

A file is known by its path relative to a root, and by a base name. What is asked of them is in
`Disk.Identified`: two different files have different paths, and the base name of each is its own.

A path without steps up keeps the names on the way to its file (`LoadedAt.parts_eq`), but only as
texts: bytes that are no UTF-8 read as replacement characters, and backslashes as slashes, also
where a backslash is a character of a name. So names can read alike that are not alike, and a name
with a backslash is taken for several, the last of which is taken for the base name.
`identified_of_steady` says what holds exactly: the paths of two files have the same parts if and
only if their names read alike, and the base name is the name of the file if and only if that is
plain, `Path.IsPlain`. Files are told apart as long as their names do not read alike, so there is
nothing to ask for where all names are plain.
-/

namespace FileProfile

namespace Path

/-- What names read as. -/
def readNames (names : List RawText) : List String := names.flatMap fun n => parts (known n)

/-- A name that reads as it is: it is the UTF-8 of a text, and no backslash is in it. -/
structure IsPlain (n : RawText) : Prop where
  utf8 : Bytes.Utf8.isWellFormed n = true
  no_backslash : backslash ∉ n

variable {n : RawText} {names : List RawText} {text : String}

/-! ### Plain names -/

theorem toText_raw (text : String) : (raw text).toText = text := by
  rw [raw, RawText.toText, Bytes.Utf8.decode_encode, String.ofList_toList]

/-- Well-formed names are the raw texts of what they read as. -/
theorem exists_raw_eq (h : Bytes.Utf8.isWellFormed n = true) : ∃ text, raw text = n :=
  ⟨n.toText, Bytes.Utf8.encode_decode h⟩

theorem slash_mem_raw_iff : slash ∈ raw text ↔ '/' ∈ text.toList :=
  Bytes.Utf8.mem_encode_ascii_iff (by decide)

theorem backslash_mem_raw_iff : backslash ∈ raw text ↔ '\\' ∈ text.toList :=
  Bytes.Utf8.mem_encode_ascii_iff (by decide)

theorem withSlashes_of_not_mem (h : '\\' ∉ text.toList) : withSlashes text = text := by
  apply String.toList_inj.mp
  rw [withSlashes, String.toList_map]
  refine (List.map_congr_left fun c hc => ?_).trans (List.map_id _)
  apply if_neg
  rintro rfl
  exact h hc

theorem slash_mem_withSlashes (h : '\\' ∈ text.toList) : '/' ∈ (withSlashes text).toList := by
  rw [withSlashes, String.toList_map]
  exact List.mem_map.mpr ⟨'\\', h, if_pos rfl⟩

theorem known_raw (h : backslash ∉ raw text) : known (raw text) = text := by
  rw [known, toText_raw, withSlashes_of_not_mem (backslash_mem_raw_iff.not.mp h)]

/-- A text that is known of a name is its own base name exactly if the name has no backslash. -/
theorem base_known_raw_eq_iff (h : slash ∉ raw text) :
    FileName.base (known (raw text)) = text ↔ backslash ∉ raw text := by
  rw [slash_mem_raw_iff] at h
  constructor
  · intro h_base h_back
    rw [backslash_mem_raw_iff] at h_back
    have h_last : Text.lastPiece '/' (withSlashes text).toList = text.toList := by
      rw [← String.ofList_inj, String.ofList_toList]
      rw [known, toText_raw] at h_base
      exact h_base
    obtain ⟨-, h_all | ⟨front, h_cut⟩⟩ := Text.lastPiece_eq_iff.mp h_last
    · -- no slash has come in
      exact h (h_all ▸ slash_mem_withSlashes h_back)
    · -- a slash in front would have to be a character more
      have h_length := congrArg List.length h_cut
      rw [withSlashes, String.toList_map, List.length_map, List.length_append,
        List.length_cons] at h_length
      omega
  · intro h_plain
    rw [known_raw h_plain, FileName.base, Text.lastPiece_of_not_mem h, String.ofList_toList]

/-- **A name is its own base name** if and only if it is plain. -/
theorem raw_base_known_eq_iff (h : slash ∉ n) :
    raw (FileName.base (known n)) = n ↔ IsPlain n := by
  constructor
  · intro h_base
    -- the name is the raw text of its base name, so it is well-formed
    generalize h_text : FileName.base (known n) = text at h_base
    subst h_base
    exact ⟨Bytes.Utf8.isWellFormed_encode text, (base_known_raw_eq_iff h).mp h_text⟩
  · rintro ⟨h_utf8, h_back⟩
    obtain ⟨text, rfl⟩ := exists_raw_eq h_utf8
    rw [(base_known_raw_eq_iff h).mpr h_back]

/-- A plain name is its only part. -/
theorem parts_known_of_isPlain (h : IsName n) (h_plain : IsPlain n) :
    (parts (known n)).map raw = [n] := by
  obtain ⟨text, rfl⟩ := exists_raw_eq h_plain.utf8
  have h_slash : '/' ∉ text.toList := slash_mem_raw_iff.not.mp h.no_slash
  have h_kept : [text].filter (fun s => s != "" && s != ".") = [text] := by
    apply List.filter_eq_self.mpr
    intro s hs
    rw [List.mem_singleton.mp hs, Bool.and_eq_true, bne_iff_ne, bne_iff_ne]
    -- the raw texts of the two are idle, which a name is not
    constructor
    · rintro rfl
      exact absurd h.not_idle (by decide +kernel)
    · rintro rfl
      exact absurd h.not_idle (by decide +kernel)
  rw [known_raw h_plain.no_backslash, parts, Text.pieces_of_not_mem h_slash, List.map_singleton,
    String.ofList_toList, h_kept, List.map_singleton]

/-- Plain names can be told from what they read as. -/
theorem map_raw_readNames (h : ∀ n ∈ names, IsName n) (h_plain : ∀ n ∈ names, IsPlain n) :
    (readNames names).map raw = names :=
  calc (readNames names).map raw = names.flatMap fun n => (parts (known n)).map raw :=
        List.map_flatMap
    _ = names.flatMap fun n => [n] := by
        rw [List.flatMap_def, List.flatMap_def]
        exact congrArg List.flatten
          (List.map_congr_left fun n hn => parts_known_of_isPlain (h n hn) (h_plain n hn))
    _ = names := List.flatMap_singleton' names

/-- Names that are not plain can read alike. -/
example : readNames [[0xFF]] = readNames [[0xFE]] ∧
    readNames [raw "a\\b"] = readNames [raw "a", raw "b"] := by decide +kernel

end Path

namespace Disk

open FileProfile.Path

variable {disk : Disk} {root p q : RawText} {R X Y : List RawText} {s t : Subject}

/-- What is asked of what two files are known by, given their names on the way from the root. -/
structure Identified (s t : Subject) (X Y : List RawText) : Prop where
  /-- Different files have different paths. -/
  apart : X ≠ Y → s.path ≠ t.path
  /-- The base name of a file is its own last name. -/
  left_name : X.getLast? = some (raw s.name)
  right_name : Y.getLast? = some (raw t.name)

/-- A path without steps up leads a file, by the names `X` from the place `R` of a root, to be
loaded as `s`. -/
structure LoadedAt (disk : Disk) (root path : RawText) (R X : List RawText) (s : Subject) :
    Prop where
  steady : up ∉ segments path
  place : disk.resolve path = .ok (R ++ X)
  loaded : disk.load root path = .ok s

section LoadedAt

variable (h_disk : disk.Named) (h_root : disk.resolve root = .ok R)

theorem LoadedAt.file (h : disk.LoadedAt root p R X s) :
    disk.entry? (R ++ X) = some (.file s.bytes) := by
  obtain ⟨P, h_path, h_file⟩ := read_eq_ok.mp (read_of_load h.loaded)
  obtain rfl : R ++ X = P := Except.ok.inj (h.place.symm.trans h_path)
  exact h_file

include h_disk in
theorem LoadedAt.isName (h : disk.LoadedAt root p R X s) : ∀ n ∈ X, IsName n :=
  fun n hn => isName_of_resolve h_disk h.place n (List.mem_append_right R hn)

include h_disk h_root

/-- What is loaded by a path without steps up is a file in the place of the root. -/
theorem exists_loadedAt (h_up : up ∉ segments p) (h_load : disk.load root p = .ok s) :
    ∃ X, disk.LoadedAt root p R X s := by
  obtain ⟨P, bytes, rest, h_path, -, h_rest, -⟩ := (load_eq_ok_iff h_disk h_root).mp h_load
  have h_in : R <+: P := by
    -- nothing would be left of a path to a file that is not in the root
    refine Decidable.byContradiction fun h_out => ?_
    have h_none := (relative?_eq_none_iff h_up h_root h_path).mpr h_out
    cases h_none.symm.trans h_rest
  obtain ⟨X, rfl⟩ := h_in
  exact ⟨X, h_up, h_path, h_load⟩

/-- **The names are kept,** as what they read as; and the base name comes from the last of them. -/
theorem LoadedAt.parts_eq (h : disk.LoadedAt root p R X s) :
    parts s.path = readNames X ∧ s.name = FileName.base (known (ofSegments X)) := by
  obtain ⟨P, bytes, rest, h_path, h_file, h_rest, rfl⟩ :=
    (load_eq_ok_iff h_disk h_root).mp h.loaded
  obtain rfl : R ++ X = P := Except.ok.inj (h.place.symm.trans h_path)
  -- written or canonical, what is left has the names as its parts
  obtain ⟨h_parts, h_base⟩ := parts_base_of_relative? h.steady h_root h_path h_file h_rest
  rw [List.drop_left] at h_parts h_base
  rw [Subject.name, h_parts, h_base, parts_known_ofSegments]
  exact ⟨rfl, rfl⟩

/-- A file in a directory has a name, and that is its base name exactly if it is plain. -/
theorem LoadedAt.exists_name (h_dir : disk.entry? R = some .directory)
    (h : disk.LoadedAt root p R X s) :
    ∃ n, X.getLast? = some n ∧ (raw s.name = n ↔ IsPlain n) := by
  cases h_last : X.getLast? with
  | none =>
    -- the place of the root holds a directory
    have h_file := h.file
    rw [List.getLast?_eq_none_iff.mp h_last, List.append_nil, h_dir] at h_file
    cases h_file
  | some n =>
    have h_name := h.isName h_disk n (List.mem_of_getLast? h_last)
    refine ⟨n, rfl, ?_⟩
    rw [(h.parts_eq h_disk h_root).2, base_known_ofSegments h_last]
    exact raw_base_known_eq_iff h_name.no_slash

end LoadedAt

/-- **What tells files apart.** Two files that are loaded by paths without steps up are in the place
of the root. Their paths have the same parts if and only if their names read alike, and the base
name of each is its own if and only if that is plain. So the paths of files whose names do not read
alike differ, and where all names are plain all that is asked for holds. -/
theorem identified_of_steady (h_disk : disk.Named) (h_root : disk.resolve root = .ok R)
    (h_dir : disk.entry? R = some .directory) (hp : up ∉ segments p) (hq : up ∉ segments q)
    (h_s : disk.load root p = .ok s) (h_t : disk.load root q = .ok t) :
    ∃ X Y, disk.LoadedAt root p R X s ∧ disk.LoadedAt root q R Y t ∧
      (parts s.path = parts t.path ↔ readNames X = readNames Y) ∧
      (readNames X ≠ readNames Y → s.path ≠ t.path) ∧
      (∃ n, X.getLast? = some n ∧ (raw s.name = n ↔ IsPlain n)) ∧
      (∃ n, Y.getLast? = some n ∧ (raw t.name = n ↔ IsPlain n)) ∧
      ((∀ n ∈ X ++ Y, IsPlain n) → Identified s t X Y) := by
  obtain ⟨X, hX⟩ := exists_loadedAt h_disk h_root hp h_s
  obtain ⟨Y, hY⟩ := exists_loadedAt h_disk h_root hq h_t
  have h_parts : parts s.path = parts t.path ↔ readNames X = readNames Y := by
    rw [(hX.parts_eq h_disk h_root).1, (hY.parts_eq h_disk h_root).1]
  have h_apart : readNames X ≠ readNames Y → s.path ≠ t.path :=
    fun h_read h_same => h_read (h_parts.mp (congrArg parts h_same))
  obtain ⟨m, hm, h_left⟩ := hX.exists_name h_disk h_root h_dir
  obtain ⟨n, hn, h_right⟩ := hY.exists_name h_disk h_root h_dir
  refine ⟨X, Y, hX, hY, h_parts, h_apart, ⟨m, hm, h_left⟩, ⟨n, hn, h_right⟩, fun h_plain => ?_⟩
  obtain ⟨h_plain_left, h_plain_right⟩ := List.forall_mem_append.mp h_plain
  constructor
  case apart =>
    intro h_ne
    refine h_apart fun h_read => h_ne ?_
    rw [← map_raw_readNames (hX.isName h_disk) h_plain_left, h_read,
      map_raw_readNames (hY.isName h_disk) h_plain_right]
  case left_name => rw [hm, h_left.mpr (h_plain_left m (List.mem_of_getLast? hm))]
  case right_name => rw [hn, h_right.mpr (h_plain_right n (List.mem_of_getLast? hn))]

/-- Two files in a directory, one in a further directory and one with a backslash in its name. -/
def alikeFiles : Disk where
  entries := [([raw "home"], .directory), ([raw "home", raw "r"], .directory),
    ([raw "home", raw "r", raw "lib"], .directory),
    ([raw "home", raw "r", raw "lib", raw "util.rb"], .file [49]),
    ([raw "home", raw "r", raw "lib\\util.rb"], .file [50])]
  workingDirectory := [raw "home"]

theorem alikeFiles_named : alikeFiles.Named := by
  intro n hn
  rw [List.mem_singleton.mp hn]
  exact ⟨by decide +kernel, by decide +kernel, by decide +kernel⟩

theorem load_alikeFiles :
    alikeFiles.load (raw "r") (raw "r/lib/util.rb") =
        .ok { path := "lib/util.rb", bytes := [49] } ∧
      alikeFiles.load (raw "r") (raw "r/lib\\util.rb") =
        .ok { path := "lib/util.rb", bytes := [50] } := by
  have h_root : alikeFiles.resolve (raw "r") = .ok [raw "home", raw "r"] := by decide +kernel
  have h_known : known (raw "lib/util.rb") = "lib/util.rb" := by decide +kernel
  have h_known' : known (raw "lib\\util.rb") = "lib/util.rb" := by decide +kernel
  constructor
  · exact (load_eq_ok_iff alikeFiles_named h_root).mpr
      ⟨[raw "home", raw "r", raw "lib", raw "util.rb"], [49], raw "lib/util.rb",
        by decide +kernel, by decide +kernel, by decide +kernel, by rw [h_known]⟩
  · exact (load_eq_ok_iff alikeFiles_named h_root).mpr
      ⟨[raw "home", raw "r", raw "lib\\util.rb"], [50], raw "lib\\util.rb",
        by decide +kernel, by decide +kernel, by decide +kernel, by rw [h_known']⟩

theorem identified_alikeFiles :
    let R := [raw "home", raw "r"]
    let p := raw "r/lib/util.rb"
    let q := raw "r/lib\\util.rb"
    let s : Subject := { path := "lib/util.rb", bytes := [49] }
    let t : Subject := { path := "lib/util.rb", bytes := [50] }
    alikeFiles.resolve (raw "r") = .ok R ∧ alikeFiles.entry? R = some .directory ∧
      up ∉ segments p ∧ up ∉ segments q ∧
      alikeFiles.load (raw "r") p = .ok s ∧ alikeFiles.load (raw "r") q = .ok t ∧
      ∃ X Y, alikeFiles.LoadedAt (raw "r") p R X s ∧ alikeFiles.LoadedAt (raw "r") q R Y t ∧
        (parts s.path = parts t.path ↔ readNames X = readNames Y) ∧
        (readNames X ≠ readNames Y → s.path ≠ t.path) ∧
        (∃ n, X.getLast? = some n ∧ (raw s.name = n ↔ IsPlain n)) ∧
        (∃ n, Y.getLast? = some n ∧ (raw t.name = n ↔ IsPlain n)) ∧
        ((∀ n ∈ X ++ Y, IsPlain n) → Identified s t X Y) := by
  have h_root : alikeFiles.resolve (raw "r") = .ok [raw "home", raw "r"] := by decide +kernel
  have h_dir : alikeFiles.entry? [raw "home", raw "r"] = some .directory := by decide +kernel
  have hp : up ∉ segments (raw "r/lib/util.rb") := by decide +kernel
  have hq : up ∉ segments (raw "r/lib\\util.rb") := by decide +kernel
  obtain ⟨h_s, h_t⟩ := load_alikeFiles
  exact ⟨h_root, h_dir, hp, hq, h_s, h_t,
    identified_of_steady alikeFiles_named h_root h_dir hp hq h_s h_t⟩

/-- The two files are different, but they are known by the same path, and the base name of the
second one is not its own. -/
theorem not_identified_alikeFiles :
    let s : Subject := { path := "lib/util.rb", bytes := [49] }
    let t : Subject := { path := "lib/util.rb", bytes := [50] }
    let X := [raw "lib", raw "util.rb"]
    let Y := [raw "lib\\util.rb"]
    alikeFiles.LoadedAt (raw "r") (raw "r/lib/util.rb") [raw "home", raw "r"] X s ∧
      alikeFiles.LoadedAt (raw "r") (raw "r/lib\\util.rb") [raw "home", raw "r"] Y t ∧
      t.name = "util.rb" ∧ ¬ Identified s t X Y := by
  obtain ⟨h_s, h_t⟩ := load_alikeFiles
  refine ⟨⟨by decide +kernel, by decide +kernel, h_s⟩, ⟨by decide +kernel, by decide +kernel, h_t⟩,
    by decide +kernel, ?_⟩
  intro h
  exact h.apart (by decide +kernel) rfl

end Disk

end FileProfile
