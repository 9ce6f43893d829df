import FileProfile.Proofs.Language.Catalogue
import FileProfile.Proofs.Text.Lower
import Mathlib.Data.List.Nodup

/-!
# The catalogue against the list

The catalogue merges what its maps hold and puts it in order. What it answers can be read off the
list of languages as well, by one walk along it with a plain question for each language; `Scans`
says with which.

No language declares a key twice, and so under a key the languages that declare it stand once each,
in the order of the list (`find_eq_filter`). The candidates for an extension come from two maps, but
each of them only once, and sorted: there is only one such list of the same languages
(`eq_filter_of_mem_iff`).

The questions are in terms of full lower case. The catalogue itself only knows as much of it as its
keys need, which are in ASCII.
-/

namespace FileProfile

namespace Language

/-- The places of the languages, in order. -/
theorem map_index_all : all.map index = List.range all.length := by decide +kernel

theorem pairwise_index_all : all.Pairwise (·.index < ·.index) := by
  have h_range : (all.map index).Pairwise (· < ·) := by
    rw [map_index_all]
    exact List.pairwise_lt_range
  exact List.pairwise_map.mp h_range

theorem nodup_all : all.Nodup := by
  apply pairwise_index_all.imp
  rintro l _ h_lt rfl
  exact Nat.lt_irrefl _ h_lt

theorem eq_of_index_eq {l l' : Language} (hl : l ∈ all) (hl' : l' ∈ all)
    (h : l.index = l'.index) : l = l' := by
  have h_nodup : (all.map index).Nodup := by
    rw [map_index_all]
    exact List.nodup_range
  exact List.inj_on_of_nodup_map h_nodup hl hl' h

/-- No two languages have the same name in lower case. -/
theorem nodup_lower_names : (all.map fun l => Text.lower l.name).Nodup := by
  have h_chars : (all.map fun l => l.name.toList.map Text.lowerChar).Nodup := by decide +kernel
  have h_toList (l : Language) :
      (Text.lower l.name).toList = l.name.toList.map Text.lowerChar := String.toList_map
  apply List.Nodup.of_map String.toList
  rw [List.map_map]
  simpa only [Function.comp_def, h_toList] using h_chars

theorem isAscii_name {l : Language} (hl : l ∈ all) : Text.IsAscii l.name.toList := by
  have h_all : (all.all fun l => l.name.toList.all fun c => c.toNat < 128) = true := by
    decide +kernel
  intro c hc
  exact of_decide_eq_true (List.all_eq_true.mp (List.all_eq_true.mp h_all l hl) c hc)

theorem isAscii_extension {l : Language} (hl : l ∈ all) {ext : String} (h : ext ∈ l.extensions) :
    Text.IsAscii ext.toList := by
  have h_all : (all.all fun l => l.extensions.all fun ext => ext.toList.all fun c =>
      c.toNat < 128) = true := by
    decide +kernel
  intro c hc
  have h_extensions := List.all_eq_true.mp h_all l hl
  exact of_decide_eq_true
    (List.all_eq_true.mp (List.all_eq_true.mp h_extensions ext h) c hc)

end Language

namespace Catalogue

open FileProfile.Language

variable {keys : Language → List String} {l : Language} {languages others : List Language}
  {lower : String → String}

/-! ### Maps of keys that no language declares twice -/

/-- **Under a key stand the languages that declare it,** once each and in order, if none declares a
key twice. -/
theorem find_eq_filter (h : ∀ l ∈ all, (keys l).Nodup) (key : String) :
    (Multimap.ofPairs (declarations keys)).find key = all.filter fun l => key ∈ keys l := by
  rw [find_declarations]
  generalize all = languages at h
  induction languages with
  | nil => rfl
  | cons l languages ih =>
    obtain ⟨h_head, h_tail⟩ := List.forall_mem_cons.mp h
    rw [List.flatMap_cons, ih h_tail, List.filter_eq]
    by_cases h_key : key ∈ keys l
    · rw [List.filter_cons, if_pos (decide_eq_true h_key), List.count_eq_one_of_mem h_head h_key]
      rfl
    · rw [List.filter_cons, if_neg (mt of_decide_eq_true h_key),
        List.count_eq_zero_of_not_mem h_key]
      rfl

theorem nodup_find (h : ∀ l ∈ all, (keys l).Nodup) (key : String) :
    ((Multimap.ofPairs (declarations keys)).find key).Nodup := by
  rw [find_eq_filter h]
  exact nodup_all.filter _

/-! ### Candidates for an extension -/

theorem nodup_addMissing (h : languages.Nodup) : (addMissing languages others).Nodup := by
  induction others generalizing languages with
  | nil => exact h
  | cons l others ih =>
    rw [addMissing_cons]
    apply ih
    by_cases h_found : languages.contains l
    · rw [if_pos h_found]
      exact h
    · rw [if_neg h_found, List.nodup_append]
      refine ⟨h, List.nodup_singleton l, ?_⟩
      intro a ha b hb
      rw [List.mem_singleton.mp hb]
      rintro rfl
      exact h_found (List.contains_iff_mem.mpr ha)

theorem pairwise_insertDeclared (h : languages.Pairwise (·.index ≤ ·.index)) :
    (insertDeclared l languages).Pairwise (·.index ≤ ·.index) := by
  induction languages with
  | nil => exact List.pairwise_singleton _ _
  | cons l' languages ih =>
    obtain ⟨h_head, h_tail⟩ := List.pairwise_cons.mp h
    rw [insertDeclared]
    split
    · next h_le =>
      refine List.pairwise_cons.mpr ⟨?_, h⟩
      intro b hb
      rcases List.mem_cons.mp hb with rfl | hb
      · exact h_le
      · exact Nat.le_trans h_le (h_head b hb)
    · next h_gt =>
      refine List.pairwise_cons.mpr ⟨?_, ih h_tail⟩
      intro b hb
      rcases List.mem_cons.mp ((perm_insertDeclared l languages).mem_iff.mp hb) with rfl | hb
      · exact Nat.le_of_not_le h_gt
      · exact h_head b hb

theorem pairwise_inDeclaredOrder (languages : List Language) :
    (inDeclaredOrder languages).Pairwise (·.index ≤ ·.index) := by
  induction languages with
  | nil => exact .nil
  | cons l languages ih => exact pairwise_insertDeclared ih

/-- Languages that are sorted, and each of them once, are those that the list has of them. -/
theorem eq_filter_of_mem_iff {p : Language → Bool} (h_nodup : languages.Nodup)
    (h_sorted : languages.Pairwise (·.index ≤ ·.index))
    (h_mem : ∀ l, l ∈ languages ↔ l ∈ all ∧ p l = true) : languages = all.filter p := by
  have h_index : (all.filter p).Pairwise (·.index < ·.index) := pairwise_index_all.filter p
  refine List.Perm.eq_of_pairwise ?_ h_sorted (h_index.imp Nat.le_of_lt) ?_
  · intro a b ha hb h_le h_ge
    have ha' := ((h_mem a).mp ha).1
    have hb' := (List.mem_filter.mp hb).1
    exact eq_of_index_eq ha' hb' (Nat.le_antisymm h_le h_ge)
  · rw [List.perm_ext_iff_of_nodup h_nodup (nodup_all.filter p)]
    intro l
    rw [h_mem, List.mem_filter]

theorem listsExtension_iff (h : Text.IsLowering lower) (hl : l ∈ all) (ext : String) :
    l.ListsExtension ext ↔
      ext ∈ l.extensions ∨ l.ignoreCase = true ∧ lower ext ∈ l.extensions.map lower := by
  apply or_congr_right
  apply and_congr_right
  intro _
  rw [List.mem_map, List.mem_map]
  constructor
  · rintro ⟨key, h_key, h_eq⟩
    exact ⟨key, h_key, ((h.eq_lower_iff (isAscii_extension hl h_key)).mpr h_eq.symm).symm⟩
  · rintro ⟨key, h_key, h_eq⟩
    exact ⟨key, h_key, ((h.eq_lower_iff (isAscii_extension hl h_key)).mp h_eq.symm).symm⟩

/-- **The candidates for an extension** are the languages that list it, in the order of the list. -/
theorem candidatesForExtension_eq_filter (h : Text.IsLowering lower) (ext : String) :
    candidatesForExtension ext = all.filter fun l =>
      ext ∈ l.extensions ∨ l.ignoreCase = true ∧ lower ext ∈ l.extensions.map lower := by
  have h_extensions : ∀ l ∈ all, l.extensions.Nodup := by decide +kernel
  apply eq_filter_of_mem_iff
  · rw [candidatesForExtension, (perm_inDeclaredOrder _).nodup_iff]
    exact nodup_addMissing (nodup_find h_extensions ext)
  · exact pairwise_inDeclaredOrder _
  · intro l
    rw [mem_candidatesForExtension, decide_eq_true_eq]
    apply and_congr_right
    intro hl
    exact listsExtension_iff h hl ext

/-! ### Names -/

/-- **The language of a name** is the only one with that name in any case. -/
theorem named?_eq_some_iff (h : Text.IsLowering lower) (name : String) :
    named? name = some l ↔ l ∈ all ∧ lower l.name = lower name := by
  have h_find : byLowerName.find (Text.lower name) =
      all.filter fun l => Text.lower name ∈ [Text.lower l.name] :=
    find_eq_filter (fun _ _ => List.nodup_singleton _) _
  have h_mem (l : Language) : l ∈ byLowerName.find (Text.lower name) ↔
      l ∈ all ∧ lower l.name = lower name := by
    rw [h_find, List.mem_filter, decide_eq_true_eq, List.mem_singleton]
    apply and_congr_right
    intro hl
    rw [eq_comm (a := lower l.name)]
    exact (h.eq_lower_iff (isAscii_name hl)).symm
  constructor
  · intro h_some
    exact (h_mem l).mp (List.mem_of_getLast? h_some)
  · intro h_named
    have h_ne := List.ne_nil_of_mem ((h_mem l).mpr h_named)
    obtain ⟨l', h_last⟩ := Option.ne_none_iff_exists'.mp (mt List.getLast?_eq_none_iff.mp h_ne)
    obtain ⟨hl', h_name'⟩ := (h_mem l').mp (List.mem_of_getLast? h_last)
    -- no other language has the name
    have h_eq : Text.lower l'.name = Text.lower l.name :=
      (h.eq_lower_iff (isAscii_name h_named.1)).mp (h_name'.trans h_named.2.symm)
    obtain rfl := List.inj_on_of_nodup_map nodup_lower_names hl' h_named.1 h_eq
    exact h_last

/-! ### The catalogue as a whole -/

/-- What the catalogue answers, as a walk along the list with a plain question. -/
structure Scans (lower : String → String) : Prop where
  /-- A base name that some languages list has those for candidates. -/
  listed : ∀ name, (∃ l ∈ all, name ∈ l.filenames) →
    candidates name = all.filter fun l => name ∈ l.filenames
  /-- Any other base name with an extension has the languages that list the extension, as it is
  written or, if they say so, in any case. -/
  extended : ∀ stem ext, stem ≠ "" → ext ≠ "" → '.' ∉ ext.toList →
    (∀ l ∈ all, stem ++ "." ++ ext ∉ l.filenames) →
    candidates (stem ++ "." ++ ext) = all.filter fun l =>
      ext ∈ l.extensions ∨ l.ignoreCase = true ∧ lower ext ∈ l.extensions.map lower
  /-- Any other base name has none. -/
  unknown : ∀ name, (∀ l ∈ all, name ∉ l.filenames) →
    (∀ stem ext, stem ≠ "" → ext ≠ "" → '.' ∉ ext.toList → name ≠ stem ++ "." ++ ext) →
    candidates name = []
  /-- Candidates stand in the order of the list, each once. -/
  ordered : ∀ name, (candidates name).Nodup ∧ (candidates name).Pairwise (·.index < ·.index)
  /-- The language of a name is the only one with that name in lower case. -/
  named : ∀ name l, named? name = some l ↔ l ∈ all ∧ lower l.name = lower name
  /-- The language of an interpreter is the first that lists it. -/
  runBy : ∀ interpreter, runBy? interpreter = all.find? fun l => interpreter ∈ l.interpreters

theorem candidates_listed {name : String} (h : ∃ l ∈ all, name ∈ l.filenames) :
    candidates name = all.filter fun l => name ∈ l.filenames := by
  have h_filenames : ∀ l ∈ all, l.filenames.Nodup := by decide +kernel
  rw [candidates_of_listed h]
  exact find_eq_filter h_filenames name

theorem candidates_extended (h : Text.IsLowering lower) {stem ext : String} (h_stem : stem ≠ "")
    (h_ext : ext ≠ "") (h_dot : '.' ∉ ext.toList)
    (h_none : ∀ l ∈ all, stem ++ "." ++ ext ∉ l.filenames) :
    candidates (stem ++ "." ++ ext) = all.filter fun l =>
      ext ∈ l.extensions ∨ l.ignoreCase = true ∧ lower ext ∈ l.extensions.map lower := by
  rw [candidates_of_not_listed h_none, FileName.extension?_append h_stem h_ext h_dot,
    Option.map_some, Option.getD_some]
  exact candidatesForExtension_eq_filter h ext

theorem candidates_unknown {name : String} (h_none : ∀ l ∈ all, name ∉ l.filenames)
    (h_bare : ∀ stem ext, stem ≠ "" → ext ≠ "" → '.' ∉ ext.toList → name ≠ stem ++ "." ++ ext) :
    candidates name = [] := by
  rw [candidates_of_not_listed h_none]
  cases h_extension : FileName.extension? name with
  | none => rfl
  | some ext =>
    obtain ⟨stem, h_stem, h_ext, h_dot, h_name⟩ := FileName.extension?_eq_some_iff.mp h_extension
    exact absurd h_name (h_bare stem ext h_stem h_ext h_dot)

/-- Whatever the candidates are, they are what the list has of some languages. -/
theorem exists_candidates_eq_filter (name : String) :
    ∃ p : Language → Bool, candidates name = all.filter p := by
  by_cases h_listed : ∃ l ∈ all, name ∈ l.filenames
  · exact ⟨_, candidates_listed h_listed⟩
  · have h_none : ∀ l ∈ all, name ∉ l.filenames := fun l hl h => h_listed ⟨l, hl, h⟩
    rw [candidates_of_not_listed h_none]
    cases FileName.extension? name with
    | none => exact ⟨fun _ => false, (List.filter_false all).symm⟩
    | some ext => exact ⟨_, candidatesForExtension_eq_filter Text.isLowering_lower ext⟩

/-- **The catalogue answers as a walk along the list would,** with any lower case that does to ASCII
what lower case does. -/
theorem scans_of_isLowering (lower : String → String) (h : Text.IsLowering lower) :
    Scans lower where
  listed := fun _ h_listed => candidates_listed h_listed
  extended := fun _ _ h_stem h_ext h_dot h_none => candidates_extended h h_stem h_ext h_dot h_none
  unknown := fun _ h_none h_bare => candidates_unknown h_none h_bare
  ordered := by
    intro name
    obtain ⟨p, h_eq⟩ := exists_candidates_eq_filter name
    rw [h_eq]
    exact ⟨nodup_all.filter p, pairwise_index_all.filter p⟩
  named := fun name _ => named?_eq_some_iff h name
  runBy := runBy?_eq_find?

/-- An extension of Rebol in capitals, and the name of a makefile with the Kelvin sign. -/
theorem scans_of_isLowering_mixedCase :
    Text.IsLowering Text.lower ∧ rebol ∈ candidates ("plot" ++ "." ++ "R") ∧
      named? "MA\u212AEFILE" = some makefile := by
  have h_scans := scans_of_isLowering Text.lower Text.isLowering_lower
  refine ⟨Text.isLowering_lower, ?_, ?_⟩
  · have h_none : ∀ l ∈ all, "plot" ++ "." ++ "R" ∉ l.filenames := by decide +kernel
    have h_mem : rebol ∈ all := by decide +kernel
    have h_case : Text.lower "r" = Text.lower "R" := by
      apply String.toList_inj.mp
      rw [Text.lower, Text.lower, String.toList_map, String.toList_map]
      decide +kernel
    have h_lower : Text.lower "R" ∈ rebol.extensions.map Text.lower := by
      rw [← h_case]
      exact List.mem_map_of_mem List.mem_cons_self
    rw [h_scans.extended "plot" "R" (by decide) (by decide) (by decide) h_none, List.mem_filter]
    exact ⟨h_mem, decide_eq_true (.inr ⟨rfl, h_lower⟩)⟩
  · have h_mem : makefile ∈ all := by decide +kernel
    have h_name : Text.lower makefile.name = Text.lower "MA\u212AEFILE" := by
      apply String.toList_inj.mp
      rw [Text.lower, Text.lower, String.toList_map, String.toList_map]
      decide +kernel
    exact (h_scans.named _ makefile).mpr ⟨h_mem, h_name⟩

end Catalogue

end FileProfile
