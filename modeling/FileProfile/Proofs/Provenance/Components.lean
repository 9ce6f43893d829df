import FileProfile.FileName
import FileProfile.Proofs.Pattern.Templates
import FileProfile.Proofs.Text.Split
import FileProfile.Provenance.ThirdParty

/-!
# The components of a path

The rules for third-party files look at a path from the start of a component on: at a folder, or at
all that is left of the path (`foundIn_componentStart_iff`). The start of a path up to some
component is what stands in front of it, `AtComponent`; the last component is the base name.

A rule of the second kind, which fits a name without a slash, sees the base name only. Where it does
not say that there is no slash, it may as well fit several components, `ReachesAcross`.

No rule is shown the `./` that a path may start with. What is dropped there consists of components,
so that the base name and, but for the folder `.`, the folders stay the same.
-/

namespace FileProfile.Provenance

open Pattern

variable {p q : Pattern} {cs front rest name : List Char}

/-! ### Starts of components -/

/-- Behind this start of a path, a component begins. -/
def AtComponent (front : List Char) : Prop := front = [] ∨ ∃ l, front = l ++ ['/']

theorem AtComponent.append {l r : List Char} (hl : AtComponent l) (hr : AtComponent r) :
    AtComponent (l ++ r) := by
  rcases hr with rfl | ⟨r, rfl⟩
  · rwa [List.append_nil]
  · exact .inr ⟨l ++ r, (List.append_assoc l r ['/']).symm⟩

theorem lastPiece_append_of_atComponent (h : AtComponent front) (name : List Char) :
    Text.lastPiece '/' (front ++ name) = Text.lastPiece '/' name := by
  rcases h with rfl | ⟨l, rfl⟩
  · rfl
  · rw [List.append_assoc, List.singleton_append, Text.lastPiece_append_sep]

theorem exists_atComponent_lastPiece (cs : List Char) :
    ∃ front, AtComponent front ∧ cs = front ++ Text.lastPiece '/' cs := by
  obtain ⟨-, h_eq | ⟨l, h_cut⟩⟩ := Text.lastPiece_eq_iff.mp (rfl : Text.lastPiece '/' cs = _)
  · exact ⟨[], .inl rfl, h_eq⟩
  · refine ⟨l ++ ['/'], .inr ⟨l, rfl⟩, ?_⟩
    rw [List.append_assoc]
    exact h_cut

theorem not_mem_lastPiece (cs : List Char) : '/' ∉ Text.lastPiece '/' cs :=
  (Text.lastPiece_eq_iff.mp rfl).1

/-- In front of a text without slashes, only its own start is the start of a component. -/
theorem eq_nil_of_atComponent (h : AtComponent front) (h_slash : '/' ∉ front ++ rest) :
    front = [] := by
  rcases h with rfl | ⟨l, rfl⟩
  · rfl
  · exact absurd (List.mem_append_left rest List.mem_concat_self) h_slash

/-- Such a rule looks at what is left of the path from the start of some component on. -/
theorem foundIn_componentStart_iff : (seq componentStart q).foundIn cs = true ↔
    ∃ front rest, cs = front ++ rest ∧ AtComponent front ∧ q.StartsAt front.getLast? rest := by
  rw [foundIn_iff_standsIn, standsIn_iff_startsAt]
  constructor
  · rintro ⟨l, r, rfl, h⟩
    obtain ⟨m, rest, rfl, h_start, h_rest⟩ := startsAt_seq_iff.mp h
    rcases matches_alt_iff.mp h_start with h_edge | h_slash
    · -- the path itself begins here
      obtain ⟨rfl, h_holds⟩ := matches_edge_iff.mp h_edge
      obtain rfl := List.getLast?_eq_none_iff.mp (Option.isNone_iff_eq_none.mp h_holds)
      exact ⟨[], rest, rfl, .inl rfl, h_rest⟩
    · -- the slash belongs to what stands in front of the component
      obtain ⟨c, rfl, hc⟩ := matches_one_iff.mp h_slash
      obtain rfl : '/' = c := by simpa using hc
      refine ⟨l ++ ['/'], rest, ?_, .inr ⟨l, rfl⟩, ?_⟩
      · rw [List.append_assoc]
      · rw [List.getLast?_concat]
        exact h_rest
  · rintro ⟨_, rest, rfl, rfl | ⟨l, rfl⟩, h_rest⟩
    · refine ⟨[], rest, rfl, startsAt_seq_iff.mpr ⟨[], rest, rfl, ?_, h_rest⟩⟩
      exact .altLeft (.edge rfl)
    · refine ⟨l, '/' :: rest, ?_, startsAt_seq_iff.mpr ⟨['/'], rest, rfl, ?_, ?_⟩⟩
      · rw [List.append_assoc]
        rfl
      · exact .altRight (.one (by simp))
      · rw [List.getLast?_concat] at h_rest
        exact h_rest

/-! ### Paths without the `./` in front -/

theorem exists_dropHere (cs : List Char) : ∃ front, AtComponent front ∧ cs = front ++ dropHere cs := by
  fun_induction dropHere cs with
  | case1 path ih =>
    obtain ⟨front, h_front, h_path⟩ := ih
    have h_here : AtComponent ['.', '/'] := .inr ⟨['.'], rfl⟩
    exact ⟨['.', '/'] ++ front, h_here.append h_front, congrArg ('.' :: '/' :: ·) h_path⟩
  | case2 path => exact ⟨[], .inl rfl, rfl⟩

theorem dropHere_of_not_begins (h : ¬ ['.', '/'] <+: cs) : dropHere cs = cs := by
  fun_cases dropHere cs with
  | case1 path => exact absurd ⟨path, rfl⟩ h
  | case2 => rfl

theorem dropHere_of_not_mem (h : '/' ∉ cs) : dropHere cs = cs :=
  dropHere_of_not_begins fun h_begins => h (h_begins.subset (by decide))

/-- The base name is the same without the `./` in front. -/
theorem lastPiece_dropHere (cs : List Char) :
    Text.lastPiece '/' (dropHere cs) = Text.lastPiece '/' cs := by
  obtain ⟨front, h_front, h_path⟩ := exists_dropHere cs
  calc Text.lastPiece '/' (dropHere cs)
    _ = Text.lastPiece '/' (front ++ dropHere cs) :=
      (lastPiece_append_of_atComponent h_front _).symm
    _ = Text.lastPiece '/' cs := by rw [← h_path]

/-! ### Rules that look at folders -/

/-- The folders that lead to the file at a path. -/
def folders (cs : List Char) : List (List Char) := (Text.pieces '/' cs).dropLast

theorem folders_append (l r : List Char) :
    folders (l ++ '/' :: r) = Text.pieces '/' l ++ folders r := by
  rw [folders, Text.pieces_append_sep, List.dropLast_append_of_ne_nil (Text.pieces_ne_nil '/' r),
    folders]

/-- A folder is a whole component with another one behind it. -/
theorem mem_folders_iff (h_name : '/' ∉ name) : name ∈ folders cs ↔
    ∃ front rest, cs = front ++ (name ++ '/' :: rest) ∧ AtComponent front := by
  constructor
  · intro h
    obtain ⟨others, more, h_folders⟩ := List.append_of_mem h
    have h_pieces : Text.pieces '/' cs = folders cs ++ [(Text.pieces '/' cs).getLast _] :=
      (List.dropLast_concat_getLast (Text.pieces_ne_nil '/' cs)).symm
    have h_ne : more ++ [(Text.pieces '/' cs).getLast (Text.pieces_ne_nil '/' cs)] ≠ [] :=
      List.append_ne_nil_of_right_ne_nil more (List.cons_ne_nil _ _)
    have h_cut := Text.joined_pieces '/' cs
    rw [h_pieces, h_folders, List.append_assoc, List.cons_append,
      Text.joined_append (List.cons_ne_nil _ _), Text.joined_cons h_ne] at h_cut
    refine ⟨_, _, h_cut.symm, ?_⟩
    -- in front of the folder stand folders, each with its slash
    rcases List.eq_nil_or_concat others with rfl | ⟨others, folder, rfl⟩
    · exact .inl rfl
    · refine .inr ⟨others.flatMap (· ++ ['/']) ++ folder, ?_⟩
      rw [List.concat_eq_append, List.flatMap_append, List.flatMap_singleton, List.append_assoc]
  · rintro ⟨_, rest, rfl, rfl | ⟨l, rfl⟩⟩
    · rw [List.nil_append, folders_append, Text.pieces_of_not_mem h_name]
      exact List.mem_cons_self
    · rw [List.append_assoc, List.singleton_append, folders_append, folders_append,
        Text.pieces_of_not_mem h_name]
      exact List.mem_append_right _ List.mem_cons_self

theorem folders_of_not_mem (h : '/' ∉ cs) : folders cs = [] := by
  rw [folders, Text.pieces_of_not_mem h]
  rfl

theorem mem_folders_dropHere_iff (h : name ≠ ['.']) :
    name ∈ folders (dropHere cs) ↔ name ∈ folders cs := by
  fun_induction dropHere cs with
  | case1 path ih =>
    have h_folders : folders ('.' :: '/' :: path) = ['.'] :: folders path :=
      folders_append ['.'] path
    rw [ih, h_folders, List.mem_cons, or_iff_right h]
  | case2 => rfl

/-- **A rule for folders of a name** sees whether one of them is above the file. -/
theorem foundIn_anyFolder_iff {name : String} (h : '/' ∉ name.toList) :
    (anyFolder name).foundIn cs = true ↔ name.toList ∈ folders cs := by
  change (seq componentStart (inOrder [text name, char '/'])).foundIn cs = true ↔ _
  rw [foundIn_componentStart_iff, mem_folders_iff h]
  constructor
  · rintro ⟨front, _, rfl, h_front, h_rest⟩
    obtain ⟨_, rfl, h_slash⟩ := startsAt_text_cons_iff.mp h_rest
    obtain ⟨rest, rfl, -⟩ := startsAt_char_cons_iff.mp h_slash
    exact ⟨front, rest, rfl, h_front⟩
  · rintro ⟨front, rest, rfl, h_front⟩
    refine ⟨front, _, rfl, h_front, startsAt_text_cons_iff.mpr ⟨_, rfl, ?_⟩⟩
    exact startsAt_char_cons_iff.mpr ⟨rest, rfl, startsAt_inOrder_nil⟩

/-- A rule for a folder at the root sees whether the path begins with it. -/
theorem foundIn_topFolder_iff {name : String} :
    (topFolder name).foundIn cs = true ↔ (name.toList ++ ['/']) <+: cs := by
  rw [foundIn_iff_standsIn, standsIn_iff_startsAt]
  constructor
  · rintro ⟨l, r, rfl, h⟩
    obtain ⟨h_start, h_rest⟩ := startsAt_edge_cons_iff.mp h
    obtain rfl := List.getLast?_eq_none_iff.mp (Option.isNone_iff_eq_none.mp h_start)
    obtain ⟨_, rfl, h_slash⟩ := startsAt_text_cons_iff.mp h_rest
    obtain ⟨rest, rfl, -⟩ := startsAt_char_cons_iff.mp h_slash
    exact ⟨rest, List.append_assoc _ _ _⟩
  · rintro ⟨rest, rfl⟩
    refine ⟨[], _, rfl, startsAt_edge_cons_iff.mpr ⟨rfl, startsAt_text_cons_iff.mpr ?_⟩⟩
    refine ⟨'/' :: rest, List.append_assoc _ _ _, ?_⟩
    exact startsAt_char_cons_iff.mpr ⟨rest, rfl, startsAt_inOrder_nil⟩

/-! ### Rules that look at names -/

/-- What a name is asked by a rule that looks at all that is left of a path. -/
def nameOf? : Pattern → Option Pattern
  | seq p q => if p = componentStart ∧ q.isName = true then some q else none
  | _ => none

theorem nameOf?_eq_some_iff :
    nameOf? p = some q ↔ p = seq componentStart q ∧ q.isName = true := by
  cases p with
  | seq p p' =>
    rw [nameOf?, Option.ite_none_right_eq_some, Option.some.injEq, seq.injEq]
    constructor
    · rintro ⟨⟨rfl, h_name⟩, rfl⟩
      exact ⟨⟨rfl, rfl⟩, h_name⟩
    · rintro ⟨⟨rfl, rfl⟩, h_name⟩
      exact ⟨⟨rfl, h_name⟩, rfl⟩
  | _ => exact iff_of_false (by rintro ⟨⟩) (by rintro ⟨⟨⟩, -⟩)

theorem foundIn_of_nameOf? (h : nameOf? p = some q) : p.foundIn cs = true ↔
    ∃ front name, cs = front ++ name ∧ AtComponent front ∧ q.Fits name := by
  obtain ⟨rfl, h_name⟩ := nameOf?_eq_some_iff.mp h
  simp only [foundIn_componentStart_iff, startsAt_iff_fits h_name]

/-- In a text without slashes, such a rule sees all of it. -/
theorem foundIn_of_nameOf?_of_not_mem (h : nameOf? p = some q) (h_slash : '/' ∉ cs) :
    p.foundIn cs = true ↔ q.Fits cs := by
  rw [foundIn_of_nameOf? h]
  constructor
  · rintro ⟨front, name, rfl, h_front, h_fits⟩
    rw [eq_nil_of_atComponent h_front h_slash]
    exact h_fits
  · intro h_fits
    exact ⟨[], cs, rfl, .inl rfl, h_fits⟩

/-- A name of some kind takes up the end of the path from the start of some component on, and there
is a slash in it. -/
def ReachesAcross (Name : List Char → Prop) (cs : List Char) : Prop :=
  ∃ front name, cs = front ++ name ∧ AtComponent front ∧ '/' ∈ name ∧ Name name

/-- **A rule for names** is found in a path by its base name, or by several components at once. -/
theorem foundIn_of_nameOf?_iff (h : nameOf? p = some q) : p.foundIn cs = true ↔
    p.foundIn (Text.lastPiece '/' cs) = true ∨ ReachesAcross q.Fits cs := by
  rw [foundIn_of_nameOf?_of_not_mem h (not_mem_lastPiece cs), foundIn_of_nameOf? h]
  constructor
  · rintro ⟨front, name, rfl, h_front, h_fits⟩
    -- a name without a slash from the start of a component on is the base name
    by_cases h_slash : '/' ∈ name
    · exact .inr ⟨front, name, rfl, h_front, h_slash, h_fits⟩
    · rw [lastPiece_append_of_atComponent h_front, Text.lastPiece_of_not_mem h_slash]
      exact .inl h_fits
  · rintro (h_fits | ⟨front, name, h_cut, h_front, -, h_fits⟩)
    · obtain ⟨front, h_front, h_cut⟩ := exists_atComponent_lastPiece cs
      exact ⟨front, _, h_cut, h_front, h_fits⟩
    · exact ⟨front, name, h_cut, h_front, h_fits⟩

/-- A rule for the end of a name, without a slash, is found in a path by its base name. -/
theorem foundIn_of_isName_iff (h_name : p.isName = true) (h_avoids : p.avoids '/' = true) :
    p.foundIn cs = true ↔ p.foundIn (Text.lastPiece '/' cs) = true := by
  simp only [foundIn_iff_standsIn, standsIn_iff_fits h_name]
  constructor
  · rintro ⟨l, r, rfl, h_fits⟩
    -- the end of the path that the rule finds is the end of the base name
    have h_slash : '/' ∉ r := not_mem_of_avoids h_avoids h_fits
    exact ⟨_, r, Text.lastPiece_append_of_not_mem h_slash l, h_fits⟩
  · rintro ⟨l, r, h_last, h_fits⟩
    obtain ⟨front, -, h_cut⟩ := exists_atComponent_lastPiece cs
    refine ⟨front ++ l, r, ?_, h_fits⟩
    rw [List.append_assoc, ← h_last]
    exact h_cut

end FileProfile.Provenance
