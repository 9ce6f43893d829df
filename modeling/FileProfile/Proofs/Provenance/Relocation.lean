import FileProfile.Proofs.Provenance.Reach

/-!
# Third-party files in other places

A library stays what it is when the folder that holds it is moved: apart from the folders `deps` and
`tools`, which count at the root only, no standard rule asks how far down in the tree it finds what
it looks for (`isThirdParty_relocated`).

A rule looks at what stands in front of its stretch in one way only, to tell whether a component
begins there, and behind a slash one does. So what such a rule finds in a path, it finds again
behind any folder (`foundIn_append_of_isMovable`). The path is asked without the `./` that it may
start with. Behind a folder these are not dropped any more, but they are only further components in
front (`exists_dropHere_append`).
-/

namespace FileProfile

namespace Pattern

variable {p : Pattern} {before after : Option Char} {cs m : List Char}

/-! ### Patterns that ask nothing of what stands in front -/

/-- No edge in the pattern looks at what stands in front of it. -/
def isFrontFree : Pattern → Bool
  | empty => true
  | one _ => true
  | edge e => e = .textEnd
  | seq p q => p.isFrontFree && q.isFrontFree
  | alt p q => p.isFrontFree && q.isFrontFree
  | repeated p _ _ => p.isFrontFree

theorem matches_of_isFrontFree (h : p.isFrontFree = true) (h_match : Matches p before m after)
    (before' : Option Char) : Matches p before' m after := by
  induction h_match generalizing before' with
  | empty => exact .empty
  | one h_contains => exact .one h_contains
  | edge h_holds =>
    obtain rfl := of_decide_eq_true h
    exact .edge h_holds
  | seq _ _ ihp ihq =>
    obtain ⟨hp, hq⟩ := Bool.and_eq_true _ _ ▸ h
    exact .seq (ihp hp _) (ihq hq _)
  | altLeft _ ih => exact .altLeft (ih (Bool.and_eq_true _ _ ▸ h).1 _)
  | altRight _ ih => exact .altRight (ih (Bool.and_eq_true _ _ ▸ h).2 _)
  | repeatedNil => exact .repeatedNil
  | repeatedCons h_most _ _ ih_first ih_others =>
    exact .repeatedCons h_most (ih_first h _) (ih_others h _)

theorem startsAt_of_isFrontFree (h : p.isFrontFree = true) (h_starts : p.StartsAt before cs)
    (before' : Option Char) : p.StartsAt before' cs := by
  obtain ⟨m, r, rfl, h_match⟩ := h_starts
  exact ⟨m, r, rfl, matches_of_isFrontFree h h_match before'⟩

end Pattern

namespace Provenance

open Pattern

variable {p : Pattern} {cs front name : List Char}

/-! ### Rules that find what they look for at any depth -/

/-- All that a rule asks of what stands in front is that a component begins, if it asks anything. -/
def isMovable : Pattern → Bool
  | seq p q => (p = componentStart || p.isFrontFree) && q.isFrontFree
  | p => p.isFrontFree

theorem foundIn_append_of_isFrontFree (h : p.isFrontFree = true) (h_found : p.foundIn cs = true)
    (front : List Char) : p.foundIn (front ++ cs) = true := by
  rw [foundIn_iff_standsIn, standsIn_iff_startsAt] at h_found ⊢
  obtain ⟨l, r, rfl, h_starts⟩ := h_found
  exact ⟨front ++ l, r, (List.append_assoc front l r).symm, startsAt_of_isFrontFree h h_starts _⟩

/-- **A rule that may be moved** finds in a path what it finds in the end of it, from the start of
some component on. -/
theorem foundIn_append_of_isMovable (h : isMovable p = true) (h_front : AtComponent front)
    (h_found : p.foundIn cs = true) : p.foundIn (front ++ cs) = true := by
  unfold isMovable at h
  split at h
  · next p q =>
    obtain ⟨hp, hq⟩ := Bool.and_eq_true _ _ ▸ h
    rcases Bool.or_eq_true _ _ ▸ hp with h_start | h_free
    · -- the component begins behind all that is put in front
      obtain rfl := of_decide_eq_true h_start
      obtain ⟨l, r, rfl, hl, h_starts⟩ := foundIn_componentStart_iff.mp h_found
      refine foundIn_componentStart_iff.mpr ⟨front ++ l, r, ?_, h_front.append hl, ?_⟩
      · exact (List.append_assoc front l r).symm
      · exact startsAt_of_isFrontFree hq h_starts _
    · exact foundIn_append_of_isFrontFree (Bool.and_eq_true _ _ ▸ ⟨h_free, hq⟩) h_found front
  · exact foundIn_append_of_isFrontFree h h_found front

/-- The folders of dependencies that count at the root only. -/
def rootFolders : List String := ["deps", "tools"]

theorem isMovable_or_topFolder (hp : p ∈ standardRules) :
    isMovable p = true ∨ ∃ name ∈ rootFolders, p = topFolder name := by
  have h_all : ∀ p ∈ standardRules,
      isMovable p = true ∨ ∃ name ∈ rootFolders, p = topFolder name := by
    decide +kernel
  exact h_all p hp

/-! ### Paths below a folder -/

/-- A folder that does not begin with `./` does not, with a path below it, unless it is the folder
that one is in. -/
theorem not_prefix_append {folder : List Char} (h : ¬ ['.', '/'] <+: folder) (h_dot : folder ≠ ['.'])
    (path : List Char) : ¬ ['.', '/'] <+: folder ++ '/' :: path := by
  rintro ⟨rest, h_eq⟩
  rcases folder with - | ⟨c, - | ⟨d, folder⟩⟩
  · cases h_eq
  · obtain ⟨rfl, -⟩ := List.cons.inj h_eq
    exact h_dot rfl
  · obtain ⟨rfl, h_tail⟩ := List.cons.inj h_eq
    obtain ⟨rfl, -⟩ := List.cons.inj h_tail
    exact h ⟨folder, rfl⟩

/-- Behind a folder, a path still ends in what it is asked by, from the start of some component
on. -/
theorem exists_dropHere_append (folder path : List Char) :
    ∃ front, AtComponent front ∧ dropHere (folder ++ '/' :: path) = front ++ dropHere path := by
  fun_induction dropHere folder with
  | case1 folder ih => exact ih
  | case2 folder h_here =>
    by_cases h_dot : folder = ['.']
    · -- the folder that one is in is dropped, and what the path begins with
      rw [h_dot]
      exact ⟨[], .inl rfl, rfl⟩
    · obtain ⟨front, h_front, h_path⟩ := exists_dropHere path
      have h_folder : ¬ ['.', '/'] <+: folder := by
        rintro ⟨rest, rfl⟩
        exact h_here rest rfl
      refine ⟨folder ++ ['/'] ++ front, AtComponent.append (.inr ⟨folder, rfl⟩) h_front, ?_⟩
      rw [dropHere_of_not_begins (not_prefix_append h_folder h_dot path), List.append_assoc,
        List.append_assoc, ← h_path]
      rfl

/-! ### Paths in other places -/

theorem isThirdParty_of_mem {path : String} (hp : p ∈ standardRules)
    (h_found : p.foundIn (dropHere path.toList) = true) (further : List Pattern) :
    isThirdParty further path = true :=
  List.any_eq_true.mpr ⟨p, List.mem_append_left further hp, h_found⟩

/-- **Third-party files may be moved.** What the standard rules know in a path, other than a folder
at the root, they know below any folder as well. Some folders they know at any depth, and some at
the root. Rules of all kinds are blind to a `./` in front. -/
theorem isThirdParty_relocated (path folder : String) (further : List Pattern) :
    (isThirdParty [] path = true →
      (∀ name ∈ rootFolders, ¬ (name.toList ++ ['/']) <+: dropHere path.toList) →
      isThirdParty [] (folder ++ "/" ++ path) = true) ∧
    (∀ name ∈ ["vendor", "node_modules", "MathJax"], name.toList ∈ folders path.toList →
      isThirdParty further path = true) ∧
    (∀ name ∈ rootFolders, (name.toList ++ ['/']) <+: dropHere path.toList →
      isThirdParty further path = true) ∧
    isThirdParty further ("./" ++ path) = isThirdParty further path := by
  refine ⟨?_, ?_, ?_, ?_⟩
  · -- below another folder
    intro h_party h_root
    obtain ⟨p, hp, h_found⟩ := isThirdParty_iff.mp h_party
    -- the rule that knows the path is not one of those for the root
    have h_movable : isMovable p = true := by
      rcases isMovable_or_topFolder hp with h_movable | ⟨name, h_name, rfl⟩
      · exact h_movable
      · exact absurd (foundIn_topFolder_iff.mp h_found) (h_root name h_name)
    obtain ⟨front, h_front, h_path⟩ := exists_dropHere_append folder.toList path.toList
    refine isThirdParty_of_mem hp ?_ []
    have h_toList : (folder ++ "/" ++ path).toList = folder.toList ++ '/' :: path.toList := by
      rw [String.toList_append, String.toList_append, List.append_assoc]
      rfl
    rw [h_toList, h_path]
    exact foundIn_append_of_isMovable h_movable h_front h_found
  · -- with a folder that counts at any depth
    intro name h_name h_folder
    -- the component `.`, which may be dropped in front, is none of these folders
    have h_rule : ∀ name ∈ ["vendor", "node_modules", "MathJax"],
        anyFolder name ∈ standardRules ∧ '/' ∉ name.toList ∧ name.toList ≠ ['.'] := by
      decide +kernel
    obtain ⟨h_mem, h_slash, h_dot⟩ := h_rule name h_name
    refine isThirdParty_of_mem h_mem ?_ further
    exact (foundIn_anyFolder_iff h_slash).mpr ((mem_folders_dropHere_iff h_dot).mpr h_folder)
  · -- with one that counts at the root
    intro name h_name h_begins
    have h_rule : ∀ name ∈ rootFolders, topFolder name ∈ standardRules := by decide +kernel
    exact isThirdParty_of_mem (h_rule name h_name) (foundIn_topFolder_iff.mpr h_begins) further
  · -- with a `./` in front, which is dropped
    have h_toList : ("./" ++ path).toList = '.' :: '/' :: path.toList := String.toList_append
    rw [isThirdParty, isThirdParty, h_toList]
    rfl

/-- A script of Prototype below another folder, a file that a dependency manager put somewhere, and
one among the dependencies at the root. -/
theorem isThirdParty_relocated_prototype :
    (isThirdParty [] "./js/prototype.js" = true ∧
      (∀ name ∈ rootFolders, ¬ (name.toList ++ ['/']) <+: dropHere "./js/prototype.js".toList) ∧
      isThirdParty [] ("./app" ++ "/" ++ "./js/prototype.js") = true) ∧
    ("vendor".toList ∈ folders "././lib/vendor/user.rb".toList ∧
      isThirdParty [] "././lib/vendor/user.rb" = true) ∧
    ("deps".toList ++ ['/']) <+: dropHere "./deps/graph.c".toList ∧
      isThirdParty [] "./deps/graph.c" = true := by
  have h_party : isThirdParty [] "./js/prototype.js" = true := by decide +kernel
  have h_root : ∀ name ∈ rootFolders,
      ¬ (name.toList ++ ['/']) <+: dropHere "./js/prototype.js".toList := by
    decide +kernel
  have h_folder : "vendor".toList ∈ folders "././lib/vendor/user.rb".toList := by decide +kernel
  have h_deps : ("deps".toList ++ ['/']) <+: dropHere "./deps/graph.c".toList := by decide +kernel
  refine ⟨⟨h_party, h_root, ?_⟩, ⟨h_folder, ?_⟩, h_deps, ?_⟩
  · exact (isThirdParty_relocated "./js/prototype.js" "./app" []).1 h_party h_root
  · exact (isThirdParty_relocated "././lib/vendor/user.rb" "" []).2.1 "vendor" (by decide) h_folder
  · exact (isThirdParty_relocated "./deps/graph.c" "" []).2.2.1 "deps" (by decide) h_deps

/-- Below another folder, the folders that count at the root do not. -/
example : isThirdParty [] ("src" ++ "/" ++ "deps/graph.c") = false := by decide +kernel

end Provenance

end FileProfile
