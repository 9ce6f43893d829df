import FileProfile.Disk.Tree
import FileProfile.Proofs.Disk.Path

/-!
# Where paths lead

A path leads to a place, or nowhere. If it leads to a place, the disk has no say in which one that
is: it is where the components of the path lead when they are taken one by one, names down and steps
up (`resolve_eq_walk`). So what two paths have in common in their components they have in common in
their places, and this is what relates the two ways of looking at a path under a root:

* by its text: `place_of_under?` says where a path leads from the place of the root;
* by places: `under?_pathOf` says that the absolute path of a place is under that of another if and
  only if the place is in the other.
-/

namespace FileProfile.Disk

open FileProfile.Path

/-- Where a component leads from a place. -/
def goBy (place : List RawText) : Component → List RawText
  | .root => []
  | .here => place
  | .up => place.dropLast
  | .name s => place ++ [s]

/-- Where components lead from a place. -/
def walk (place : List RawText) (cs : List Component) : List RawText := cs.foldl goBy place

@[simp] theorem walk_nil (place : List RawText) : walk place [] = place := rfl

theorem walk_cons (place : List RawText) (c : Component) (cs : List Component) :
    walk place (c :: cs) = walk (goBy place c) cs := rfl

theorem walk_append (place : List RawText) (cs ds : List Component) :
    walk place (cs ++ ds) = walk (walk place cs) ds := List.foldl_append

/-- Names lead down. -/
theorem walk_names (place names : List RawText) :
    walk place (names.map .name) = place ++ names := by
  induction names generalizing place with
  | nil => rw [List.map_nil, walk_nil, List.append_nil]
  | cons n names ih =>
    rw [List.map_cons, walk_cons, goBy, ih, List.append_assoc, List.singleton_append]

/-- Nothing but names is ever added to a place. -/
theorem isName_of_mem_walk {place : List RawText} (h_place : ∀ n ∈ place, IsName n)
    {cs : List Component} (h_cs : ∀ c ∈ cs, c.Named) : ∀ n ∈ walk place cs, IsName n := by
  induction cs generalizing place with
  | nil => exact h_place
  | cons c cs ih =>
    rw [walk_cons]
    refine ih ?_ fun d hd => h_cs d (List.mem_cons_of_mem _ hd)
    have h_c := h_cs c List.mem_cons_self
    cases c with
    | root => exact fun n hn => absurd hn List.not_mem_nil
    | here => exact h_place
    | up => exact fun n hn => h_place n (List.dropLast_subset place hn)
    | name s =>
      intro n hn
      rcases List.mem_append.mp hn with hn | hn
      · exact h_place n hn
      · rw [List.mem_singleton.mp hn]
        exact h_c

/-! ### Paths that lead somewhere -/

variable {disk : Disk}

theorem follow_eq_walk {place P : List RawText} {segments : List RawText}
    (h : disk.follow place segments = .ok P) : P = walk place (body segments) := by
  fun_induction disk.follow place segments with
  | case1 place => exact (Except.ok.inj h).symm
  | case2 place segment rest h_dir h_idle ih =>
    rw [body_cons_of_isIdle h_idle]
    exact ih h
  | case3 place rest h_dir h_idle ih =>
    rw [body_cons (Bool.eq_false_iff.mpr h_idle), walk_cons]
    exact ih h
  | case4 place segment rest h_dir h_idle h_up next h_next ih =>
    rw [body_cons (Bool.eq_false_iff.mpr h_idle), walk_cons, component, if_neg h_up]
    exact ih h
  | case5 => cases h
  | case6 => cases h
  | case7 => cases h

/-- **Where a path leads, if it leads anywhere,** is told from its components. -/
theorem resolve_eq_walk {path : RawText} {P : List RawText} (h : disk.resolve path = .ok P) :
    P = walk disk.workingDirectory (components path) := by
  unfold resolve isAbsolute at h
  unfold components
  split at h
  · cases h
  obtain ⟨s, rest, -, h_start⟩ | ⟨rest, h_segments, h_start⟩ | ⟨-, -, h_start⟩ := start_cases path
  · rw [h_start, if_pos (by rfl)] at h
    rw [h_start]
    exact follow_eq_walk h
  · rw [h_start, if_neg (by simp), h_segments] at h
    have h_walk := follow_eq_walk h
    rw [body_cons_of_isIdle (by rfl)] at h_walk
    rw [h_start]
    exact h_walk
  · rw [h_start, if_neg (by simp)] at h
    rw [h_start]
    exact follow_eq_walk h

/-- A disk whose working directory has names, and nothing else, on the way to it. -/
def Named (disk : Disk) : Prop := ∀ n ∈ disk.workingDirectory, IsName n

theorem isName_of_resolve (h_disk : disk.Named) {path : RawText} {P : List RawText}
    (h : disk.resolve path = .ok P) : ∀ n ∈ P, IsName n := by
  rw [resolve_eq_walk h]
  exact isName_of_mem_walk h_disk fun c hc => named_of_mem_components hc

/-! ### Places under a root -/

/-- **What is left of a path under a root** leads from the place of the root to that of the path. -/
theorem place_of_under? {root path rest : RawText} {R P : List RawText}
    (h_root : disk.resolve root = .ok R) (h_path : disk.resolve path = .ok P)
    (h : under? root path = some rest) :
    ∃ back : List RawText, P = walk R (body back) ∧ rest = ofSegments (back.dropWhile isIdle) ∧
      back <:+ segments path := by
  have h_ne : root ≠ [] := by
    rintro rfl
    cases h_root
  obtain ⟨back, h_components, h_rest, h_end⟩ := components_of_under? h_ne h
  refine ⟨back, ?_, h_rest, h_end⟩
  calc P = walk disk.workingDirectory (components path) := resolve_eq_walk h_path
    _ = walk (walk disk.workingDirectory (components root)) (body back) := by
      rw [h_components, walk_append]
    _ = walk R (body back) := by rw [← resolve_eq_walk h_root]

/-- How the absolute path of a place is read: the root itself leaves an empty segment. -/
theorem start_pathOf {P : List RawText} (h : ∀ n ∈ P, IsName n) :
    start (pathOf P) = (some .root, if P = [] then [[]] else P) := by
  rw [start, pathOf, segments_slash_cons]
  cases P with
  | nil => rfl
  | cons n P =>
    rw [segments_ofSegments (fun n hn => (h n hn).no_slash) (List.cons_ne_nil n P),
      if_neg (List.cons_ne_nil n P)]

theorem body_start_pathOf {P : List RawText} (h : ∀ n ∈ P, IsName n) :
    body (start (pathOf P)).2 = P.map .name := by
  rw [start_pathOf h]
  by_cases h_ne : P = []
  · rw [if_pos h_ne, h_ne]
    rfl
  · rw [if_neg h_ne]
    exact body_names h

/-- The components of the absolute path of a place. -/
theorem components_pathOf {P : List RawText} (h : ∀ n ∈ P, IsName n) :
    components (pathOf P) = .root :: P.map .name := by
  rw [components, body_start_pathOf h, start_pathOf h]
  rfl

theorem dropBody?_names (R : List RawText) {P : List RawText} (hP : ∀ n ∈ P, IsName n) :
    dropBody? (R.map .name) P = if R <+: P then some (P.drop R.length) else none := by
  induction R generalizing P with
  | nil =>
    rw [if_pos List.nil_prefix]
    exact dropBody?.eq_1 P
  | cons r R ih =>
    cases P with
    | nil =>
      rw [if_neg (by simp)]
      rfl
    | cons p P =>
      have h_p := hP p List.mem_cons_self
      rw [List.map_cons, dropBody?, if_neg (by rw [h_p.not_idle]; decide), h_p.component_eq,
        ih fun n hn => hP n (List.mem_cons_of_mem _ hn)]
      simp only [Component.name.injEq, List.cons_prefix_cons, List.length_cons, List.drop_succ_cons]
      by_cases h_eq : p = r
      · simp only [h_eq, true_and, if_true]
      · rw [if_neg h_eq, if_neg fun h => h_eq h.1.symm]

/-- **Places as paths:** the path of a place is under that of another if the place is in the other,
and then the names on the way are left. -/
theorem under?_pathOf {R P : List RawText} (hR : ∀ n ∈ R, IsName n) (hP : ∀ n ∈ P, IsName n) :
    under? (pathOf R) (pathOf P) =
      if R <+: P then some (ofSegments (P.drop R.length)) else none := by
  have h_root : components (pathOf R) ≠ [] := by
    rw [components_pathOf hR]
    exact List.cons_ne_nil _ _
  have h_start : (start (pathOf R)).1 = (start (pathOf P)).1 := by
    rw [start_pathOf hR, start_pathOf hP]
  rw [under?, if_neg h_root, if_pos h_start, body_start_pathOf hR, start_pathOf hP]
  by_cases h_ne : P = []
  · rw [h_ne, if_pos rfl]
    cases R with
    | nil => rfl
    | cons r R =>
      rw [if_neg (by simp)]
      rfl
  · rw [if_neg h_ne, dropBody?_names R hP]
    by_cases h_in : R <+: P
    · have h_left : (P.drop R.length).dropWhile isIdle = P.drop R.length := by
        cases h_drop : P.drop R.length with
        | nil => rfl
        | cons n rest =>
          have h_n : n ∈ P := List.mem_of_mem_drop (h_drop ▸ List.mem_cons_self)
          rw [List.dropWhile_cons_of_neg (by rw [(hP n h_n).not_idle]; decide)]
      rw [if_pos h_in, if_pos h_in, Option.map_some, h_left]
    · rw [if_neg h_in, if_neg h_in, Option.map_none]

end FileProfile.Disk
