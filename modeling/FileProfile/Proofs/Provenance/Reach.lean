import FileProfile.Proofs.Provenance.Components

/-!
# How far the names of libraries reach

Away from the folders of dependencies, the rules know a third-party file by the name of a library,
and most of them see no more of the path than the base name. But in some names a stretch is free but
for dots or line feeds, and nothing keeps it from going on behind a slash. Such a name may begin
with a folder of the application and end with the file (`ReachesAcross`): `jquery/application.js` is
taken for a jQuery script.

The names are read off the rules as templates, `libraryNames`. Apart from those that reach across
a slash, a path is judged by its base name alone; no name reaches that far where no folder begins
like a library (`not_reachesAcross`).
-/

namespace FileProfile.Provenance

open Pattern

variable {p q : Pattern} {cs name : List Char} {path : String}

/-! ### Names with a free stretch -/

/-- The names of libraries that leave a stretch free. -/
def libraryNames : List (List Segment) := [
  [.word "prototype", .without '\n', .word ".js"],
  [.word "jquery", .without '.', .oneOf ["", ".min"], .word ".js"],
  [.word "jquery.", .oneOf ["ui", "effects"], .word ".", .without '.', .oneOf ["", ".min"],
    .oneOf [".js", ".css"]],
  [.word "mootools", .without '.', .number, .word ".", .number, .word ".", .number, .without '.',
    .word ".js"],
  [.word "yahoo-", .without '.', .word ".js"],
  [.word "yui", .without '.', .word ".js"],
  [.word "less", .without '.', .oneOf ["", ".min"], .word ".js"],
  [.word "tiny_mce", .without '.', .word ".js"],
  [.word "shBrush", .without '.', .word ".js"],
  [.word "jquery", .without '.', .word ".validate", .oneOf ["", ".unobtrusive"],
    .oneOf ["", ".min"], .word ".js"]]

/-- What these names begin with. -/
def libraryStems : List String :=
  ["prototype", "jquery", "jquery.", "mootools", "yahoo-", "yui", "less", "tiny_mce", "shBrush"]

/-- A name that some template spells. -/
def IsLibraryName (name : List Char) : Prop := ∃ template ∈ libraryNames, Spells template name

/-- What the rules for names ask, of those that do not rule out a slash. -/
def spreadingNames : List Pattern := (standardRules.filterMap nameOf?).filter (!·.avoids '/')

theorem map_template?_spreadingNames :
    spreadingNames.map template? = libraryNames.map some := by decide +kernel

/-- The names with a free stretch are the library names. -/
theorem isLibraryName_iff : IsLibraryName name ↔ ∃ q ∈ spreadingNames, q.Fits name := by
  constructor
  · rintro ⟨template, h_template, h_spells⟩
    have h_mem : some template ∈ spreadingNames.map Pattern.template? :=
      map_template?_spreadingNames ▸ List.mem_map_of_mem h_template
    obtain ⟨q, hq, h_eq⟩ := List.mem_map.mp h_mem
    exact ⟨q, hq, (fits_iff_spells h_eq).mpr h_spells⟩
  · rintro ⟨q, hq, h_fits⟩
    have h_mem : q.template? ∈ libraryNames.map some :=
      map_template?_spreadingNames ▸ List.mem_map_of_mem hq
    obtain ⟨template, h_template, h_eq⟩ := List.mem_map.mp h_mem
    exact ⟨template, h_template, (fits_iff_spells h_eq.symm).mp h_fits⟩

/-- **The names that reach across a slash** are library names. -/
theorem reachesAcross_isLibraryName_iff : ReachesAcross IsLibraryName cs ↔
    ∃ p ∈ standardRules, ∃ q, nameOf? p = some q ∧ ReachesAcross q.Fits cs := by
  constructor
  · rintro ⟨front, name, h_cut, h_front, h_slash, h_library⟩
    obtain ⟨q, hq, h_fits⟩ := isLibraryName_iff.mp h_library
    obtain ⟨p, hp, h_name⟩ := List.mem_filterMap.mp (List.mem_filter.mp hq).1
    exact ⟨p, hp, q, h_name, front, name, h_cut, h_front, h_slash, h_fits⟩
  · rintro ⟨p, hp, q, h_name, front, name, h_cut, h_front, h_slash, h_fits⟩
    -- the slash in the name is one that the rule does not rule out
    have hq : q ∈ spreadingNames := by
      rw [spreadingNames, List.mem_filter, Bool.not_eq_true', ← Bool.not_eq_true]
      refine ⟨List.mem_filterMap.mpr ⟨p, hp, h_name⟩, ?_⟩
      intro h_avoids
      exact not_mem_of_avoids h_avoids h_fits h_slash
    exact ⟨front, name, h_cut, h_front, h_slash, isLibraryName_iff.mpr ⟨q, hq, h_fits⟩⟩

/-! ### The rules by what they look at -/

/-- The rules that look at folders. -/
def folderRules : List Pattern := [
  anyFolder "vendor",
  anyFolder "node_modules",
  topFolder "deps",
  topFolder "tools",
  inOrder [componentStart, text "tiny_mce/",
    oneOf [text "langs", text "plugins", text "themes", text "utils"]],
  anyFolder "MathJax"]

/-- A path that does not lead through a folder of dependencies or of an editor. -/
structure IsApplicationPath (cs : List Char) : Prop where
  /-- None of these folders is above the file. -/
  folders : ∀ name ∈ ["vendor", "node_modules", "MathJax", "tiny_mce"], name.toList ∉ folders cs
  /-- Nor is it in one of these at the root. -/
  root : ∀ name ∈ ["deps", "tools"], ¬ (name.toList ++ ['/']) <+: cs

instance (cs : List Char) : Decidable (IsApplicationPath cs) :=
  decidable_of_iff
    ((∀ name ∈ ["vendor", "node_modules", "MathJax", "tiny_mce"], name.toList ∉ folders cs) ∧
      ∀ name ∈ ["deps", "tools"], ¬ (name.toList ++ ['/']) <+: cs)
    ⟨fun h => ⟨h.1, h.2⟩, fun h => ⟨h.folders, h.root⟩⟩

theorem isApplicationPath_of_not_mem (h : '/' ∉ cs) : IsApplicationPath cs where
  folders := by
    intro name _
    rw [folders_of_not_mem h]
    exact List.not_mem_nil
  root := by
    rintro name _ ⟨rest, rfl⟩
    exact h (List.mem_append_left rest List.mem_concat_self)

theorem not_foundIn_folderRules (h : IsApplicationPath cs) (hp : p ∈ folderRules) :
    ¬ p.foundIn cs = true := by
  simp only [folderRules, List.mem_cons, List.not_mem_nil, or_false] at hp
  rcases hp with rfl | rfl | rfl | rfl | rfl | rfl
  · rw [foundIn_anyFolder_iff (by decide)]
    exact h.folders "vendor" (by decide)
  · rw [foundIn_anyFolder_iff (by decide)]
    exact h.folders "node_modules" (by decide)
  · rw [foundIn_topFolder_iff]
    exact h.root "deps" (by decide)
  · rw [foundIn_topFolder_iff]
    exact h.root "tools" (by decide)
  · -- whatever this rule looks at below the folder
    intro h_found
    obtain ⟨front, _, rfl, h_front, h_rest⟩ := foundIn_componentStart_iff.mp h_found
    obtain ⟨rest, rfl, -⟩ := startsAt_text_cons_iff.mp h_rest
    apply h.folders "tiny_mce" (by decide)
    exact (mem_folders_iff (by decide)).mpr ⟨front, rest, rfl, h_front⟩
  · rw [foundIn_anyFolder_iff (by decide)]
    exact h.folders "MathJax" (by decide)

/-- A rule that is not for names looks at folders or at the end of the base name. -/
theorem mem_folderRules_or_isName (hp : p ∈ standardRules) (h_none : nameOf? p = none) :
    p ∈ folderRules ∨ p.isName = true ∧ p.avoids '/' = true := by
  have h_all : ∀ p ∈ standardRules,
      nameOf? p = none → p ∈ folderRules ∨ p.isName = true ∧ p.avoids '/' = true := by
    decide +kernel
  exact h_all p hp h_none

/-- What a rule finds in a path, it finds in the base name, or its name reaches across a slash. -/
theorem foundIn_iff_lastPiece_or_reachesAcross (h : IsApplicationPath cs) (hp : p ∈ standardRules) :
    p.foundIn cs = true ↔ p.foundIn (Text.lastPiece '/' cs) = true ∨
      ∃ q, nameOf? p = some q ∧ ReachesAcross q.Fits cs := by
  cases h_name : nameOf? p with
  | some q =>
    rw [foundIn_of_nameOf?_iff h_name]
    simp only [Option.some.injEq, exists_eq_left']
  | none =>
    have h_none : ¬ ∃ q : Pattern, none = some q ∧ ReachesAcross q.Fits cs := by
      rintro ⟨q, ⟨⟩, -⟩
    rw [or_iff_left h_none]
    rcases mem_folderRules_or_isName hp h_name with h_folder | ⟨h_name, h_avoids⟩
    · -- there is no folder in the base name either
      have h_base := isApplicationPath_of_not_mem (not_mem_lastPiece cs)
      exact iff_of_false (not_foundIn_folderRules h h_folder)
        (not_foundIn_folderRules h_base h_folder)
    · exact foundIn_of_isName_iff h_name h_avoids

/-! ### Folders that do not begin like a library -/

theorem exists_stem {template : List Segment} (h : template ∈ libraryNames) :
    ∃ stem ∈ libraryStems, template.head? = some (.word stem) := by
  have h_all : ∀ template ∈ libraryNames,
      ∃ stem ∈ libraryStems, template.head? = some (.word stem) := by
    decide +kernel
  exact h_all template h

theorem not_reachesAcross
    (h : ∀ folder ∈ folders cs, ∀ stem ∈ libraryStems, ¬ stem.toList <+: folder) :
    ¬ ReachesAcross IsLibraryName cs := by
  rintro ⟨front, name, rfl, h_front, h_slash, template, h_template, h_spells⟩
  obtain ⟨stem, h_stem, h_head⟩ := exists_stem h_template
  obtain ⟨template, rfl⟩ := List.head?_eq_some_iff.mp h_head
  obtain ⟨l, r, rfl, h_word, -⟩ := h_spells
  obtain rfl := List.mem_singleton.mp h_word
  have h_stems : ∀ stem ∈ libraryStems, '/' ∉ stem.toList := by decide +kernel
  -- the stem is the start of a whole component
  have h_slash_rest := (List.mem_append.mp h_slash).resolve_left (h_stems stem h_stem)
  obtain ⟨more, rest, rfl, h_more⟩ := List.eq_append_cons_of_mem h_slash_rest
  have h_folder : '/' ∉ stem.toList ++ more :=
    mt List.mem_append.mp (not_or.mpr ⟨h_stems stem h_stem, h_more⟩)
  refine h (stem.toList ++ more) ?_ stem h_stem (List.prefix_append _ _)
  refine (mem_folders_iff h_folder).mpr ⟨front, rest, ?_, h_front⟩
  rw [List.append_assoc stem.toList]

/-! ### Paths -/

theorem isThirdParty_iff : isThirdParty [] path = true ↔
    ∃ p ∈ standardRules, p.foundIn (dropHere path.toList) = true := by
  rw [isThirdParty, List.append_nil, List.any_eq_true]

theorem isThirdParty_base_iff : isThirdParty [] (FileName.base path) = true ↔
    ∃ p ∈ standardRules, p.foundIn (Text.lastPiece '/' (dropHere path.toList)) = true := by
  rw [isThirdParty_iff, FileName.base, String.toList_ofList,
    dropHere_of_not_mem (not_mem_lastPiece _), lastPiece_dropHere]

/-- **Paths of an application are judged by their base names,** save for those in which a library
name reaches across a slash: these are third-party. None does where no folder begins like a
library. -/
theorem isThirdParty_iff_base_or_reachesAcross (path : String)
    (h : IsApplicationPath (dropHere path.toList)) :
    (isThirdParty [] path = true ↔ isThirdParty [] (FileName.base path) = true ∨
      ReachesAcross IsLibraryName (dropHere path.toList)) ∧
    ((∀ folder ∈ folders (dropHere path.toList), ∀ stem ∈ libraryStems, ¬ stem.toList <+: folder) →
      isThirdParty [] path = isThirdParty [] (FileName.base path)) := by
  have h_iff : isThirdParty [] path = true ↔ isThirdParty [] (FileName.base path) = true ∨
      ReachesAcross IsLibraryName (dropHere path.toList) := by
    rw [isThirdParty_iff, isThirdParty_base_iff, reachesAcross_isLibraryName_iff, ← exists_or]
    apply exists_congr
    intro p
    rw [← and_or_left]
    apply and_congr_right
    intro hp
    exact foundIn_iff_lastPiece_or_reachesAcross h hp
  refine ⟨h_iff, ?_⟩
  intro h_folders
  rw [Bool.eq_iff_iff, h_iff]
  exact or_iff_left (not_reachesAcross h_folders)

/-- A script of an application in a folder for jQuery, and one in a folder of another name. -/
theorem isThirdParty_iff_base_or_reachesAcross_jquery :
    IsApplicationPath (dropHere "src/jquery/main.js".toList) ∧
      isThirdParty [] "src/jquery/main.js" = true ∧
      isThirdParty [] "src/app/main.js" = isThirdParty [] (FileName.base "src/app/main.js") := by
  have h_jquery : IsApplicationPath (dropHere "src/jquery/main.js".toList) := by decide +kernel
  have h_app : IsApplicationPath (dropHere "src/app/main.js".toList) := by decide +kernel
  have h_stems : ∀ folder ∈ folders (dropHere "src/app/main.js".toList), ∀ stem ∈ libraryStems,
      ¬ stem.toList <+: folder := by
    decide +kernel
  refine ⟨h_jquery, ?_, (isThirdParty_iff_base_or_reachesAcross _ h_app).2 h_stems⟩
  apply (isThirdParty_iff_base_or_reachesAcross _ h_jquery).1.mpr
  -- the script takes up the path from the folder on
  refine .inr ⟨"src/".toList, "jquery/main.js".toList, rfl, .inr ⟨"src".toList, rfl⟩, by decide, ?_⟩
  refine ⟨_, List.mem_cons_of_mem _ List.mem_cons_self, ?_⟩
  have h_free : '.' ∉ "/main".toList := by decide
  exact ⟨"jquery".toList, "/main.js".toList, rfl, List.mem_cons_self, "/main".toList, ".js".toList,
    rfl, h_free, "".toList, ".js".toList, rfl, List.mem_cons_self, ".js".toList, [], rfl,
    List.mem_cons_self, rfl⟩

/-- So an application script may be third-party because of the folder that it stands in. -/
theorem not_judgedByBase_application :
    ¬ ∀ path : String, IsApplicationPath (dropHere path.toList) →
      isThirdParty [] path = isThirdParty [] (FileName.base path) := by
  intro h
  have h_folders : IsApplicationPath (dropHere "jquery/application.js".toList) := by
    decide +kernel
  have h_path : isThirdParty [] "jquery/application.js" = true := by decide +kernel
  have h_base : isThirdParty [] (FileName.base "jquery/application.js") = false := by
    decide +kernel
  have h_eq := h "jquery/application.js" h_folders
  rw [h_path, h_base] at h_eq
  cases h_eq

end FileProfile.Provenance
