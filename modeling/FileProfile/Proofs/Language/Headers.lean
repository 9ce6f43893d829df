import FileProfile.Language.Evidence
import FileProfile.Proofs.Pattern.Starts
import FileProfile.Proofs.Text.Split
import Mathlib.Logic.Basic

/-!
# What speaks for the language of a header

A header is claimed by C, by C++ and by Objective-C, and so its text decides. What is asked of the
text is said here in terms of its lines, words and names, and not of patterns: `IsObjectiveC` and
`IsCPlusPlus`. A search for the patterns of a rule is a test of what the rule asks
(`foundIn_leading_iff` and the lemmas behind it), whatever their white space runs across.
-/

namespace FileProfile.Header

open FileProfile.Pattern

/-- Characters that are all white space. -/
def Blank (cs : List Char) : Prop := ∀ c ∈ cs, Text.isBlank c = true

/-- A word does not go on here. -/
def EndsWord (rest : List Char) : Prop := ∀ c ∈ rest.head?, Text.isWord c = false

/-- Behind these characters only white space stands on the line so far. -/
def LeadsLine (front : List Char) : Prop := Blank (Text.lastPiece '\n' front)

/-- Some line of the text, but for white space at its start, goes on in some way. -/
def OnSomeLine (GoesOn : List Char → Prop) (cs : List Char) : Prop :=
  ∃ front rest, cs = front ++ rest ∧ LeadsLine front ∧ GoesOn rest

/-- The languages of headers, as they are declared. -/
def languages : List Language := [.c, .cPlusPlus, .objectiveC]

/-! ### What lines begin with -/

/-- The words of class and protocol directives. -/
def directives : List String :=
  ["interface", "implementation", "protocol", "property", "synthesize", "end", "class"]

/-- A directive of Objective-C. -/
inductive Directive : List Char → Prop
  | intro {word rest} : word ∈ directives → EndsWord rest → Directive ('@' :: (word.toList ++ rest))

/-- An import. -/
inductive Import : List Char → Prop
  | intro {rest} : EndsWord rest → Import ("#import".toList ++ rest)

/-- An import, and white space behind it. -/
inductive SpacedImport : List Char → Prop
  | intro {c rest} : Text.isBlank c = true → SpacedImport ("#import".toList ++ c :: rest)

/-- A declaration of C++. -/
inductive Declaration : List Char → Prop
  | ofTemplate {gap rest} : Blank gap → Declaration ("template".toList ++ (gap ++ '<' :: rest))
  | ofNamespace {rest} : EndsWord rest → Declaration ("namespace".toList ++ rest)
  | ofClass {gap c rest} : gap ≠ [] → Blank gap → Text.isWord c = true →
      Declaration ("class".toList ++ (gap ++ c :: rest))

/-- A label that sets the access to members. -/
inductive AccessLabel : List Char → Prop
  | intro {word gap rest} : word ∈ ["public", "protected", "private"] → Blank gap →
      AccessLabel (word.toList ++ (gap ++ ':' :: rest))

/-- The headers of the C++ library that are looked for. -/
def libraryHeaders : List String :=
  ["iostream", "string", "vector", "map", "memory", "algorithm", "cstdio", "cstdlib"]

/-- The inclusion of a header of the C++ library. -/
inductive LibraryHeader : List Char → Prop
  | intro {gap name rest} : Blank gap → name ∈ libraryHeaders →
      LibraryHeader ("#include".toList ++ (gap ++ '<' :: (name.toList ++ '>' :: rest)))

/-! ### Names anywhere -/

/-- The prefixes of the Cocoa frameworks. -/
def cocoaPrefixes : List String := ["NS", "UI", "CF", "CG"]

/-- A name with the prefix of one of the Cocoa frameworks. -/
inductive HasCocoaName : List Char → Prop
  | intro {front word capital c rest} : (∀ d ∈ front.getLast?, Text.isWord d = false) →
      word ∈ cocoaPrefixes → 'A' ≤ capital → capital ≤ 'Z' → Text.isWord c = true →
      HasCocoaName (front ++ (word.toList ++ capital :: c :: rest))

/-- A name qualified by another. -/
inductive HasQualifiedName : List Char → Prop
  | intro {front c d rest} : Text.isWord c = true → Text.isWord d = true →
      HasQualifiedName (front ++ c :: ("::".toList ++ d :: rest))

/-- Nothing but Objective-C has such text. -/
def IsObjectiveC (cs : List Char) : Prop :=
  OnSomeLine Directive cs ∨ OnSomeLine SpacedImport cs ∧ HasCocoaName cs

/-- C does not have such text. -/
def IsCPlusPlus (cs : List Char) : Prop :=
  OnSomeLine Declaration cs ∨ OnSomeLine AccessLabel cs ∨ HasQualifiedName cs ∨
    OnSomeLine LibraryHeader cs

variable {cs front rest : List Char} {before after : Option Char} {ps : List Pattern}

/-! ### Starts of lines -/

/-- White space in front on the line is white space behind the start of some line: any of those
that it reaches back to. -/
theorem leadsLine_iff : LeadsLine front ↔ ∃ l gap, front = l ++ gap ∧
    (∀ after, Edge.lineStart.holds l.getLast? after = true) ∧ Blank gap := by
  refine ⟨fun h => ?_, ?_⟩
  · obtain ⟨-, h_eq | ⟨l, h_cut⟩⟩ := Text.lastPiece_eq_iff.mp (rfl : Text.lastPiece '\n' front = _)
    · exact ⟨[], Text.lastPiece '\n' front, h_eq, fun _ => rfl, h⟩
    · refine ⟨l ++ ['\n'], Text.lastPiece '\n' front, by simpa using h_cut, fun _ => ?_, h⟩
      rw [List.getLast?_append]
      rfl
  · rintro ⟨l, gap, rfl, h_start, h_gap⟩
    intro c hc
    -- the white space may run across lines, and its last line is part of it
    rcases List.eq_nil_or_concat l with rfl | ⟨l, d, rfl⟩
    · exact h_gap c (Text.mem_of_mem_lastPiece hc)
    · rw [List.concat_eq_append] at hc h_start
      have h_feed : d = '\n' := by simpa [Edge.holds] using h_start none
      rw [h_feed, List.append_assoc, List.singleton_append, Text.lastPiece_append_sep] at hc
      exact h_gap c (Text.mem_of_mem_lastPiece hc)

/-- **A leading pattern is found** where a line goes on as the pattern says. -/
theorem foundIn_leading_iff {GoesOn : List Char → Prop}
    (h : ∀ before rest, (inOrder ps).StartsAt before rest ↔ GoesOn rest) :
    (Evidence.leading ps).foundIn cs = true ↔ OnSomeLine GoesOn cs := by
  rw [foundIn_iff_standsIn, standsIn_iff_startsAt]
  simp only [Evidence.leading, blanks, blank, startsAt_edge_cons_iff, startsAt_star_cons_iff, h]
  refine ⟨?_, ?_⟩
  · rintro ⟨l, _, rfl, h_start, gap, rest, rfl, h_gap, h_rest⟩
    refine ⟨l ++ gap, rest, (List.append_assoc l gap rest).symm, ?_, h_rest⟩
    exact leadsLine_iff.mpr ⟨l, gap, rfl, fun _ => h_start, h_gap⟩
  · rintro ⟨front, rest, rfl, h_front, h_rest⟩
    obtain ⟨l, gap, rfl, h_start, h_gap⟩ := leadsLine_iff.mp h_front
    exact ⟨l, gap ++ rest, List.append_assoc l gap rest, h_start _, gap, rest, rfl, h_gap, h_rest⟩

/-! ### What the patterns say -/

theorem isWordAt_eq_false_iff {neighbour : Option Char} :
    Edge.isWordAt neighbour = false ↔ ∀ c ∈ neighbour, Text.isWord c = false := by
  cases neighbour <;> simp [Edge.isWordAt]

theorem isWordAt_or {x y : Option Char} (h : Edge.isWordAt x = true) :
    Edge.isWordAt (x.or y) = true := by
  cases x with
  | none => cases h
  | some c => exact h

/-- Behind a word, the edge of a word is its end. -/
theorem startsAt_wordEdge_iff {word : List Char} (h : Edge.isWordAt word.getLast? = true) :
    (inOrder [edge .wordEdge]).StartsAt (word.getLast?.or before) rest ↔ EndsWord rest := by
  rw [startsAt_edge_cons_iff, Edge.holds, isWordAt_or h, bne_iff_ne, ne_comm, ne_eq,
    Bool.not_eq_true, isWordAt_eq_false_iff]
  exact and_iff_left startsAt_inOrder_nil

theorem foundIn_directive_iff :
    Evidence.directive.foundIn cs = true ↔ OnSomeLine Directive cs := by
  have h_ends : ∀ word ∈ directives, Edge.isWordAt word.toList.getLast? = true :=
    List.all_eq_true.mp (by decide)
  refine foundIn_leading_iff fun before rest => ?_
  simp only [startsAt_char_cons_iff, Evidence.oneWord, startsAt_words_cons_iff]
  refine ⟨?_, ?_⟩
  · rintro ⟨_, rfl, word, h_word, rest, rfl, h_edge⟩
    exact ⟨h_word, (startsAt_wordEdge_iff (h_ends word h_word)).mp h_edge⟩
  · rintro ⟨h_word, h_rest⟩
    exact ⟨_, rfl, _, h_word, _, rfl, (startsAt_wordEdge_iff (h_ends _ h_word)).mpr h_rest⟩

theorem foundIn_anyImport_iff : Evidence.anyImport.foundIn cs = true ↔ OnSomeLine Import cs := by
  have h_ends : Edge.isWordAt "#import".toList.getLast? = true := by decide
  refine foundIn_leading_iff fun before rest => ?_
  simp only [startsAt_text_cons_iff, startsAt_wordEdge_iff h_ends]
  refine ⟨?_, ?_⟩
  · rintro ⟨rest, rfl, h_rest⟩
    exact ⟨h_rest⟩
  · rintro ⟨h_rest⟩
    exact ⟨_, rfl, h_rest⟩

theorem foundIn_spacedImport_iff :
    Evidence.spacedImport.foundIn cs = true ↔ OnSomeLine SpacedImport cs := by
  refine foundIn_leading_iff fun before rest => ?_
  simp only [startsAt_text_cons_iff, blank, startsAt_one_cons_iff]
  refine ⟨?_, ?_⟩
  · rintro ⟨_, rfl, c, rest, rfl, hc, -⟩
    exact ⟨hc⟩
  · rintro ⟨hc⟩
    exact ⟨_, rfl, _, _, rfl, hc, startsAt_inOrder_nil⟩

theorem foundIn_accessLabel_iff :
    Evidence.accessLabel.foundIn cs = true ↔ OnSomeLine AccessLabel cs := by
  refine foundIn_leading_iff fun before rest => ?_
  simp only [Evidence.oneWord, startsAt_words_cons_iff, blanks, blank, startsAt_star_cons_iff,
    startsAt_char_cons_iff]
  refine ⟨?_, ?_⟩
  · rintro ⟨word, h_word, _, rfl, gap, _, rfl, h_gap, rest, rfl, -⟩
    exact ⟨h_word, h_gap⟩
  · rintro ⟨h_word, h_gap⟩
    exact ⟨_, h_word, _, rfl, _, _, rfl, h_gap, _, rfl, startsAt_inOrder_nil⟩

theorem foundIn_libraryHeader_iff :
    Evidence.libraryHeader.foundIn cs = true ↔ OnSomeLine LibraryHeader cs := by
  refine foundIn_leading_iff fun before rest => ?_
  simp only [startsAt_text_cons_iff, Evidence.oneWord, startsAt_words_cons_iff, blanks, blank,
    startsAt_star_cons_iff, startsAt_char_cons_iff]
  refine ⟨?_, ?_⟩
  · rintro ⟨_, rfl, gap, _, rfl, h_gap, _, rfl, name, h_name, _, rfl, rest, rfl, -⟩
    exact ⟨h_gap, h_name⟩
  · rintro ⟨h_gap, h_name⟩
    exact ⟨_, rfl, _, _, rfl, h_gap, _, rfl, _, h_name, _, rfl, _, rfl, startsAt_inOrder_nil⟩

theorem foundIn_cPlusPlusDeclaration_iff :
    Evidence.cPlusPlusDeclaration.foundIn cs = true ↔ OnSomeLine Declaration cs := by
  have h_ends : Edge.isWordAt "namespace".toList.getLast? = true := by decide
  refine foundIn_leading_iff fun before rest => ?_
  rw [inOrder, startsAt_oneOf_iff]
  simp only [List.mem_cons, List.not_mem_nil, or_false, exists_eq_or_imp, exists_eq_left,
    blanks, Evidence.gap, blank, wordChar]
  simp only [startsAt_text_cons_iff, startsAt_star_cons_iff, startsAt_plus_cons_iff,
    ↓startsAt_plus_iff, startsAt_char_cons_iff, startsAt_wordEdge_iff h_ends]
  refine ⟨?_, ?_⟩
  · rintro (⟨_, rfl, gap, _, rfl, h_gap, rest, rfl, -⟩ | ⟨rest, rfl, h_rest⟩ |
      ⟨_, rfl, gap, _, rfl, ⟨h_ne, h_gap⟩, c, rest, rfl, hc⟩)
    · exact .ofTemplate h_gap
    · exact .ofNamespace h_rest
    · exact .ofClass h_ne h_gap hc
  · rintro (h_gap | h_rest | ⟨h_ne, h_gap, hc⟩)
    · exact .inl ⟨_, rfl, _, _, rfl, h_gap, _, rfl, startsAt_inOrder_nil⟩
    · exact .inr (.inl ⟨_, rfl, h_rest⟩)
    · exact .inr (.inr ⟨_, rfl, _, _, rfl, ⟨h_ne, h_gap⟩, _, _, rfl, hc⟩)

theorem foundIn_qualifiedName_iff :
    Evidence.qualifiedName.foundIn cs = true ↔ HasQualifiedName cs := by
  rw [foundIn_iff_standsIn, standsIn_iff_startsAt]
  simp only [Evidence.qualifiedName, wordChar, startsAt_one_cons_iff, startsAt_text_cons_iff]
  refine ⟨?_, ?_⟩
  · rintro ⟨front, _, rfl, c, _, rfl, hc, _, rfl, d, rest, rfl, hd, -⟩
    exact ⟨hc, hd⟩
  · rintro ⟨hc, hd⟩
    exact ⟨_, _, rfl, _, _, rfl, hc, _, rfl, _, _, rfl, hd, startsAt_inOrder_nil⟩

/-- In front of a word, the edge of a word is its start. -/
theorem holds_wordEdge_iff (h : Edge.isWordAt after = true) :
    Edge.wordEdge.holds before after = true ↔ ∀ c ∈ before, Text.isWord c = false := by
  rw [Edge.holds, h, bne_iff_ne, ne_eq, Bool.not_eq_true, isWordAt_eq_false_iff]

theorem foundIn_cocoaName_iff : Evidence.cocoaName.foundIn cs = true ↔ HasCocoaName cs := by
  have h_prefixes : ∀ word ∈ cocoaPrefixes, Edge.isWordAt word.toList.head? = true :=
    List.all_eq_true.mp (by decide)
  have h_starts : ∀ word ∈ cocoaPrefixes, ∀ rest,
      Edge.isWordAt (word.toList ++ rest).head? = true := by
    intro word h_word rest
    rw [List.head?_append]
    exact isWordAt_or (h_prefixes word h_word)
  have h_capital (c : Char) :
      (CharSet.between 'A' 'Z').contains c = true ↔ 'A' ≤ c ∧ c ≤ 'Z' := by
    rw [CharSet.contains, Bool.and_eq_true, decide_eq_true_eq, decide_eq_true_eq]
  rw [foundIn_iff_standsIn, standsIn_iff_startsAt]
  simp only [Evidence.cocoaName, Evidence.oneWord, wordChar]
  simp only [startsAt_edge_cons_iff, startsAt_words_cons_iff, startsAt_one_cons_iff,
    startsAt_plus_iff, h_capital]
  refine ⟨?_, ?_⟩
  · rintro ⟨front, _, rfl, h_edge, word, h_word, _, rfl, capital, _, rfl, ⟨h_A, h_Z⟩, c, rest, rfl,
      hc⟩
    exact ⟨(holds_wordEdge_iff (h_starts word h_word _)).mp h_edge, h_word, h_A, h_Z, hc⟩
  · rintro ⟨h_front, h_word, h_A, h_Z, hc⟩
    exact ⟨_, _, rfl, (holds_wordEdge_iff (h_starts _ h_word _)).mpr h_front, _, h_word, _, rfl, _,
      _, rfl, ⟨h_A, h_Z⟩, _, _, rfl, hc⟩

/-! ### What the rules ask -/

theorem holds_directive_iff :
    Evidence.holds ⟨.objectiveC, .some, [Evidence.directive]⟩ cs = true ↔
      OnSomeLine Directive cs := by
  rw [Evidence.holds, List.any_cons, List.any_nil, Bool.or_false, foundIn_directive_iff]

theorem holds_import_and_name_iff :
    Evidence.holds ⟨.objectiveC, .all, [Evidence.spacedImport, Evidence.cocoaName]⟩ cs = true ↔
      OnSomeLine SpacedImport cs ∧ HasCocoaName cs := by
  rw [Evidence.holds, List.all_cons, List.all_cons, List.all_nil, Bool.and_true, Bool.and_eq_true,
    foundIn_spacedImport_iff, foundIn_cocoaName_iff]

theorem holds_cPlusPlus_iff :
    Evidence.holds ⟨.cPlusPlus, .some, [Evidence.cPlusPlusDeclaration, Evidence.accessLabel,
      Evidence.qualifiedName, Evidence.libraryHeader]⟩ cs = true ↔ IsCPlusPlus cs := by
  simp only [Evidence.holds, List.any_cons, List.any_nil, Bool.or_false, Bool.or_eq_true,
    foundIn_cPlusPlusDeclaration_iff, foundIn_accessLabel_iff, foundIn_qualifiedName_iff,
    foundIn_libraryHeader_iff]
  rfl

theorem holds_import_iff :
    Evidence.holds ⟨.objectiveC, .some, [Evidence.anyImport]⟩ cs = true ↔ OnSomeLine Import cs := by
  rw [Evidence.holds, List.any_cons, List.any_nil, Bool.or_false, foundIn_anyImport_iff]

instance : Decidable (OnSomeLine Directive cs) := decidable_of_iff _ foundIn_directive_iff

instance : Decidable (OnSomeLine SpacedImport cs) := decidable_of_iff _ foundIn_spacedImport_iff

instance : Decidable (HasCocoaName cs) := decidable_of_iff _ foundIn_cocoaName_iff

instance : Decidable (IsObjectiveC cs) := inferInstanceAs (Decidable (_ ∨ _ ∧ _))

instance : Decidable (IsCPlusPlus cs) := decidable_of_iff _ holds_cPlusPlus_iff

instance : Decidable (OnSomeLine Import cs) := decidable_of_iff _ foundIn_anyImport_iff

/-- The rules for one of the languages of headers, in order. -/
theorem filter_rules :
    Evidence.rules.filter (fun rule => languages.contains rule.language) =
      [⟨.objectiveC, .some, [Evidence.directive]⟩,
       ⟨.objectiveC, .all, [Evidence.spacedImport, Evidence.cocoaName]⟩,
       ⟨.cPlusPlus, .some, [Evidence.cPlusPlusDeclaration, Evidence.accessLabel,
          Evidence.qualifiedName, Evidence.libraryHeader]⟩,
       ⟨.objectiveC, .some, [Evidence.anyImport]⟩] := by
  decide +kernel

theorem find?_cons_getD {rule : Evidence} {rules : List Evidence} {l : Language} :
    (((rule :: rules).find? (·.holds cs)).map (·.language)).getD l =
      if rule.holds cs = true then rule.language
      else ((rules.find? (·.holds cs)).map (·.language)).getD l := by
  rw [List.find?_cons]
  cases rule.holds cs <;> rfl

/-- **The evidence in a header** makes it one of C where there is none. -/
theorem evidence_getD (text : String) :
    (Evidence.language? languages text).getD .c =
      if IsObjectiveC text.toList then .objectiveC
      else if IsCPlusPlus text.toList then .cPlusPlus
      else if OnSomeLine Import text.toList then .objectiveC
      else .c := by
  have h_rules (cs : List Char) :
      Evidence.rules.find? (fun rule => languages.contains rule.language && rule.holds cs) =
        (Evidence.rules.filter fun rule => languages.contains rule.language).find?
          (·.holds cs) := by
    rw [List.find?_filter]
    simp only [Bool.decide_and, Bool.decide_eq_true]
  rw [Evidence.language?, h_rules, filter_rules]
  simp only [find?_cons_getD, List.find?_nil, Option.map_none, Option.getD_none,
    holds_directive_iff, holds_import_and_name_iff, holds_cPlusPlus_iff, holds_import_iff]
  exact (ite_or _ _ _ _).symm

end FileProfile.Header
