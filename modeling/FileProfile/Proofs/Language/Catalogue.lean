import FileProfile.Language.Catalogue
import FileProfile.Proofs.FileName

/-!
# What the catalogue answers

The maps of the catalogue are entered from the list of languages and answer as a walk along the list
would. Under a key stand the languages that declare it (`mem_find_declarations`), and the first of
them is the first that declares it (`head?_find_declarations`). The rest follows for each map:

* `mem_candidates_iff`: the candidates for a base name are the languages whose claim to it counts;
* `runBy?_eq_find?`: the language of an interpreter is the first that lists it.
-/

namespace FileProfile

namespace Language

/-- A language lists an extension as it is written or, if it says so, in any case. -/
def ListsExtension (l : Language) (extension : String) : Prop :=
  extension ∈ l.extensions ∨
    l.ignoreCase = true ∧ Text.lower extension ∈ l.extensions.map Text.lower

/-- A language claims a base name if it lists the name itself or its extension. -/
def Claims (l : Language) (name : String) : Prop :=
  name ∈ l.filenames ∨
    ∃ extension, FileName.HasExtension name extension ∧ l.ListsExtension extension

/-- The claim of a language to a base name counts if it lists the name itself, or if no language
does and it lists the extension. -/
def ClaimCounts (l : Language) (name : String) : Prop :=
  name ∈ l.filenames ∨ (∀ l' ∈ all, name ∉ l'.filenames) ∧
    ∃ extension, FileName.HasExtension name extension ∧ l.ListsExtension extension

theorem ClaimCounts.claims {l : Language} {name : String} (h : l.ClaimCounts name) :
    l.Claims name := by
  rcases h with h_name | ⟨-, h_extension⟩
  · exact .inl h_name
  · exact .inr h_extension

/-- Where there are claims, some of them count. -/
theorem exists_claimCounts {name : String} (h : ∃ l ∈ all, l.Claims name) :
    ∃ l ∈ all, l.ClaimCounts name := by
  by_cases h_listed : ∃ l ∈ all, name ∈ l.filenames
  · obtain ⟨l, hl, h_name⟩ := h_listed
    exact ⟨l, hl, .inl h_name⟩
  · have h_none : ∀ l' ∈ all, name ∉ l'.filenames := fun l' hl' h' => h_listed ⟨l', hl', h'⟩
    obtain ⟨l, hl, h_name | h_extension⟩ := h
    · exact absurd h_name (h_none l hl)
    · exact ⟨l, hl, .inr ⟨h_none, h_extension⟩⟩

end Language

namespace Catalogue

open FileProfile.Language

/-! ### Maps of declarations -/

variable {keys : Language → List String} {key : String} {l : Language}

/-- Under a key stand, language by language, as many copies as the language has of the key. -/
theorem find_declarations (keys : Language → List String) (key : String) :
    (Multimap.ofPairs (declarations keys)).find key =
      all.flatMap fun l => ((keys l).filter (· = key)).map fun _ => l := by
  rw [Multimap.find_ofPairs, declarations, List.filter_flatMap, List.map_flatMap]
  congr 1
  funext l
  rw [List.filter_map, List.map_map]
  rfl

/-- **Under a key stand the languages that declare it.** -/
theorem mem_find_declarations :
    l ∈ (Multimap.ofPairs (declarations keys)).find key ↔ l ∈ all ∧ key ∈ keys l := by
  rw [find_declarations, List.mem_flatMap]
  refine ⟨?_, ?_⟩
  · rintro ⟨l', hl', h⟩
    obtain ⟨k, hk, rfl⟩ := List.mem_map.mp h
    obtain ⟨h_mem, h_eq⟩ := List.mem_filter.mp hk
    rw [decide_eq_true_eq] at h_eq
    exact ⟨hl', h_eq ▸ h_mem⟩
  · rintro ⟨hl, h_key⟩
    exact ⟨l, hl, List.mem_map.mpr ⟨key, List.mem_filter.mpr ⟨h_key, by simp⟩, rfl⟩⟩

/-- **The first language under a key** is the first that declares it. -/
theorem head?_find_declarations :
    ((Multimap.ofPairs (declarations keys)).find key).head? = all.find? fun l => key ∈ keys l := by
  rw [find_declarations, List.head?_flatMap, List.find?_eq_findSome?_guard]
  congr 1
  funext l
  cases h : (keys l).filter (· = key) with
  | nil =>
    have h_key : key ∉ keys l := fun h_mem =>
      List.filter_eq_nil_iff.mp h key h_mem (decide_eq_true rfl)
    rw [Option.guard, if_neg (by simpa using h_key)]
    rfl
  | cons k ks =>
    have h_mem : k ∈ (keys l).filter (· = key) := h ▸ List.mem_cons_self
    obtain ⟨h_k, h_eq⟩ := List.mem_filter.mp h_mem
    have h_key : key ∈ keys l := of_decide_eq_true h_eq ▸ h_k
    rw [Option.guard, if_pos (by simpa using h_key)]
    rfl

/-! ### Merging and sorting -/

variable {languages others : List Language}

theorem addMissing_cons : addMissing languages (l :: others) =
    addMissing (if languages.contains l then languages else languages ++ [l]) others := rfl

theorem mem_addMissing : l ∈ addMissing languages others ↔ l ∈ languages ∨ l ∈ others := by
  induction others generalizing languages with
  | nil => simp [addMissing]
  | cons l' others ih =>
    rw [addMissing_cons, ih, List.mem_cons]
    by_cases h_found : languages.contains l'
    · have h_mem := List.contains_iff_mem.mp h_found
      rw [if_pos h_found]
      constructor
      · rintro (h | h)
        · exact .inl h
        · exact .inr (.inr h)
      · rintro (h | rfl | h)
        · exact .inl h
        · exact .inl h_mem
        · exact .inr h
    · rw [if_neg h_found, List.mem_append, List.mem_singleton, or_assoc]

theorem perm_insertDeclared (l : Language) (languages : List Language) :
    (insertDeclared l languages).Perm (l :: languages) := by
  induction languages with
  | nil => exact .refl _
  | cons l' languages ih =>
    rw [insertDeclared]
    split
    · exact .refl _
    · exact (ih.cons l').trans (.swap l l' languages)

theorem perm_inDeclaredOrder (languages : List Language) :
    (inDeclaredOrder languages).Perm languages := by
  induction languages with
  | nil => exact .refl _
  | cons l languages ih => exact (perm_insertDeclared l _).trans (ih.cons l)

/-! ### Candidates -/

theorem mem_candidatesForExtension {extension : String} :
    l ∈ candidatesForExtension extension ↔ l ∈ all ∧ l.ListsExtension extension := by
  rw [candidatesForExtension, (perm_inDeclaredOrder _).mem_iff, mem_addMissing, byExtension,
    byLowerExtension, mem_find_declarations, mem_find_declarations]
  have h_lower : Text.lower extension ∈ (if l.ignoreCase then l.extensions.map Text.lower else []) ↔
      l.ignoreCase = true ∧ Text.lower extension ∈ l.extensions.map Text.lower := by
    by_cases h : l.ignoreCase = true
    · rw [if_pos h]
      exact (and_iff_right h).symm
    · rw [if_neg h]
      exact ⟨fun h_mem => absurd h_mem List.not_mem_nil, fun h' => absurd h'.1 h⟩
  rw [h_lower, ← and_or_left]
  rfl

theorem mem_find_byFilename {name : String} :
    l ∈ byFilename.find name ↔ l ∈ all ∧ name ∈ l.filenames := mem_find_declarations

/-- The candidates for a base name that some language lists. -/
theorem candidates_of_listed {name : String} (h : ∃ l ∈ all, name ∈ l.filenames) :
    candidates name = byFilename.find name := by
  obtain ⟨l, hl, h_name⟩ := h
  have h_ne := List.ne_nil_of_mem (mem_find_byFilename.mpr ⟨hl, h_name⟩)
  unfold candidates
  split
  · next h_nil => exact absurd h_nil h_ne
  · rfl

/-- The candidates for a base name that no language lists. -/
theorem candidates_of_not_listed {name : String} (h : ∀ l ∈ all, name ∉ l.filenames) :
    candidates name = ((FileName.extension? name).map candidatesForExtension).getD [] := by
  have h_nil : byFilename.find name = [] := by
    rw [List.eq_nil_iff_forall_not_mem]
    intro l hl
    obtain ⟨h_all, h_name⟩ := mem_find_byFilename.mp hl
    exact h l h_all h_name
  rw [candidates, h_nil]

/-- **The candidates for a base name** are the languages whose claim to it counts. -/
theorem mem_candidates_iff {name : String} :
    l ∈ candidates name ↔ l ∈ all ∧ l.ClaimCounts name := by
  by_cases h_listed : ∃ l' ∈ all, name ∈ l'.filenames
  · -- extensions do not count
    rw [candidates_of_listed h_listed, mem_find_byFilename]
    refine and_congr_right fun _ => ⟨fun h => .inl h, ?_⟩
    rintro (h_name | ⟨h_none, -⟩)
    · exact h_name
    · obtain ⟨l', hl', h_name⟩ := h_listed
      exact absurd h_name (h_none l' hl')
  · have h_none : ∀ l' ∈ all, name ∉ l'.filenames := fun l' hl' h => h_listed ⟨l', hl', h⟩
    rw [candidates_of_not_listed h_none]
    -- only extensions count, if there is one
    cases h_extension : FileName.extension? name with
    | none =>
      refine ⟨fun h => absurd h List.not_mem_nil, ?_⟩
      rintro ⟨hl, h_name | ⟨-, _, h_has, -⟩⟩
      · exact absurd h_name (h_none l hl)
      · cases h_extension.symm.trans (FileName.extension?_eq_some_iff.mpr h_has)
    | some extension =>
      rw [Option.map_some, Option.getD_some, mem_candidatesForExtension]
      have h_has := FileName.extension?_eq_some_iff.mp h_extension
      refine and_congr_right fun hl => ⟨fun h => .inr ⟨h_none, extension, h_has, h⟩, ?_⟩
      rintro (h_name | ⟨-, _, h_other, h⟩)
      · exact absurd h_name (h_none l hl)
      · -- a name has one extension only
        have h_some := FileName.extension?_eq_some_iff.mpr h_other
        obtain rfl := Option.some.inj (h_extension.symm.trans h_some)
        exact h

/-- **The language of an interpreter** is the first that lists it. -/
theorem runBy?_eq_find? (interpreter : String) :
    runBy? interpreter = all.find? fun l => interpreter ∈ l.interpreters := by
  rw [runBy?, byInterpreter, head?_find_declarations]

end Catalogue

end FileProfile
