import FileProfile.Disk.Path
import FileProfile.Proofs.Text.Split

/-!
# Segments and components

What the operations on paths do to components:

* `segments_ofSegments`: segments put together are told apart again;
* `components_of_under?`: what is left of a path under a root has the components that, behind those
  of the root, are the components of the path.
-/

namespace FileProfile.Path

/-! ### Segments -/

theorem segments_ne_nil (path : RawText) : segments path ≠ [] := Text.pieces_ne_nil _ _

theorem slash_not_mem {path s : RawText} (h : s ∈ segments path) : slash ∉ s :=
  Text.not_mem_of_mem_pieces h

/-- **Segments put together are told apart again.** There has to be one: the empty path has the
empty segment. -/
theorem segments_ofSegments {names : List RawText} (h : ∀ n ∈ names, slash ∉ n)
    (h_ne : names ≠ []) : segments (ofSegments names) = names := Text.pieces_intercalate h h_ne

/-- The segments of a path, put together, are the path. -/
theorem ofSegments_segments (path : RawText) : ofSegments (segments path) = path :=
  Text.intercalate_pieces slash path

theorem mem_segments_ofSegments {names : List RawText} (h : ∀ n ∈ names, slash ∉ n) {s : RawText}
    (hs : s ∈ names) : s ∈ segments (ofSegments names) := by
  rw [segments_ofSegments h (List.ne_nil_of_mem hs)]
  exact hs

theorem segments_slash_cons (path : RawText) : segments (slash :: path) = [] :: segments path :=
  Text.pieces_cons_self slash path

/-! ### Names -/

/-- What a segment is that is a name: neither idle nor a step up. -/
structure IsName (s : RawText) : Prop where
  not_idle : isIdle s = false
  not_up : s ≠ up
  no_slash : slash ∉ s

/-- The name in a component, if there is one, is a name. -/
def Component.Named : Component → Prop
  | .name s => IsName s
  | _ => True

theorem component_named {s : RawText} (h_idle : isIdle s = false) (h_slash : slash ∉ s) :
    (component s).Named := by
  unfold component
  split
  · trivial
  · next h_up => exact ⟨h_idle, h_up, h_slash⟩

theorem IsName.component_eq {s : RawText} (h : IsName s) : component s = .name s := if_neg h.not_up

/-! ### Components -/

theorem body_append (front back : List RawText) :
    body (front ++ back) = body front ++ body back := by
  rw [body, List.filter_append, List.map_append]
  rfl

theorem body_cons_of_isIdle {s : RawText} (h : isIdle s = true) (rest : List RawText) :
    body (s :: rest) = body rest := by
  rw [body, List.filter_cons_of_neg (by rw [h]; decide)]
  rfl

theorem body_cons {s : RawText} (h : isIdle s = false) (rest : List RawText) :
    body (s :: rest) = component s :: body rest := by
  rw [body, List.filter_cons_of_pos (by rw [h]; decide)]
  rfl

/-- Segments without a step up name their components. -/
theorem body_eq_map_name {segments : List RawText} (h : up ∉ segments) :
    body segments = (segments.filter (!isIdle ·)).map .name := by
  refine List.map_congr_left fun s hs => if_neg ?_
  rintro rfl
  exact h (List.mem_filter.mp hs).1

theorem body_names {names : List RawText} (h : ∀ n ∈ names, IsName n) :
    body names = names.map .name := by
  have h_up : up ∉ names := fun h_mem => (h _ h_mem).not_up rfl
  rw [body_eq_map_name h_up, List.filter_eq_self.mpr]
  intro n hn
  rw [(h n hn).not_idle]
  rfl

theorem named_of_mem_body {segments : List RawText} (h : ∀ s ∈ segments, slash ∉ s)
    {c : Component} (hc : c ∈ body segments) : c.Named := by
  obtain ⟨s, hs, rfl⟩ := List.mem_map.mp hc
  obtain ⟨h_mem, h_idle⟩ := List.mem_filter.mp hs
  rw [Bool.not_eq_true'] at h_idle
  exact component_named h_idle (h s h_mem)

/-- **The three ways in which a path starts.** -/
theorem start_cases (path : RawText) :
    (∃ s rest, segments path = [] :: s :: rest ∧ start path = (some .root, s :: rest)) ∨
    (∃ rest, segments path = here :: rest ∧ start path = (some .here, rest)) ∨
    ((∀ s rest, segments path ≠ [] :: s :: rest) ∧ (∀ rest, segments path ≠ here :: rest) ∧
      start path = (none, segments path)) := by
  unfold start
  split
  · next h => exact absurd h (segments_ne_nil path)
  · next s rest h => exact .inl ⟨s, rest, h, rfl⟩
  · next s rest h_root h =>
    by_cases h_here : s = here
    · rw [h_here] at h
      rw [if_pos h_here]
      exact .inr (.inl ⟨rest, h, rfl⟩)
    · rw [if_neg h_here, h]
      refine .inr (.inr ⟨fun t more h_eq => ?_, fun more h_eq => ?_, rfl⟩)
      · obtain ⟨h_first, h_rest⟩ := List.cons.inj h_eq
        exact h_root t more h_first h_rest
      · exact h_here (List.cons.inj h_eq).1

/-- The segments behind the start of a path end it. -/
theorem start_suffix (path : RawText) : (start path).2 <:+ segments path := by
  obtain ⟨s, rest, h_segments, h_start⟩ | ⟨rest, h_segments, h_start⟩ | ⟨-, -, h_start⟩ :=
    start_cases path
  · rw [h_start, h_segments]
    exact List.suffix_cons _ _
  · rw [h_start, h_segments]
    exact List.suffix_cons _ _
  · exact ⟨[], by rw [h_start, List.nil_append]⟩

theorem named_of_mem_components {path : RawText} {c : Component} (hc : c ∈ components path) :
    c.Named := by
  rcases List.mem_append.mp hc with h_first | h_body
  · obtain ⟨s, rest, -, h_start⟩ | ⟨rest, -, h_start⟩ | ⟨-, -, h_start⟩ := start_cases path
    · rw [h_start] at h_first
      rw [List.mem_singleton.mp h_first]
      trivial
    · rw [h_start] at h_first
      rw [List.mem_singleton.mp h_first]
      trivial
    · rw [h_start] at h_first
      exact absurd h_first List.not_mem_nil
  · exact named_of_mem_body (fun s hs => slash_not_mem ((start_suffix path).subset hs)) h_body

/-- Only the empty path has no components. -/
theorem components_eq_nil {path : RawText} (h : components path = []) : path = [] := by
  obtain ⟨h_first, h_body⟩ := List.append_eq_nil_iff.mp h
  obtain ⟨s, rest, -, h_start⟩ | ⟨rest, -, h_start⟩ | ⟨h_root, h_here, h_start⟩ := start_cases path
  · rw [h_start] at h_first
    cases h_first
  · rw [h_start] at h_first
    cases h_first
  · rw [h_start] at h_body
    have h_idle := List.filter_eq_nil_iff.mp (List.map_eq_nil_iff.mp h_body)
    obtain ⟨s, rest, h_segments⟩ := List.exists_cons_of_ne_nil (segments_ne_nil path)
    -- the first segment is idle and no dot, and an empty one with others behind it is a slash
    have h_s : s = [] ∨ s = here := by
      have h_mem : s ∈ segments path := h_segments ▸ List.mem_cons_self
      have h := h_idle s h_mem
      rw [Bool.not_eq_true, Bool.not_eq_false', isIdle, Bool.or_eq_true, beq_iff_eq,
        beq_iff_eq] at h
      exact h
    rcases h_s with rfl | rfl
    · cases rest with
      | nil => rw [← ofSegments_segments path, h_segments]; rfl
      | cons s' rest => exact absurd h_segments (h_root s' rest)
    · exact absurd h_segments (h_here rest)

/-! ### Paths under a root -/

/-- Taking components off the front cuts the segments in two. -/
theorem exists_append_of_dropBody? {cs : List Component} {segments back : List RawText}
    (h : dropBody? cs segments = some back) :
    ∃ front, segments = front ++ back ∧ body front = cs := by
  fun_induction dropBody? cs segments with
  | case1 segments =>
    obtain rfl := Option.some.inj h
    exact ⟨[], rfl, rfl⟩
  | case2 => cases h
  | case3 c cs segment rest h_idle ih =>
    obtain ⟨front, rfl, h_front⟩ := ih h
    exact ⟨segment :: front, rfl, by rw [body_cons_of_isIdle h_idle, h_front]⟩
  | case4 cs segment rest h_idle ih =>
    obtain ⟨front, rfl, h_front⟩ := ih h
    refine ⟨segment :: front, rfl, ?_⟩
    rw [body_cons (Bool.eq_false_iff.mpr h_idle), h_front]
  | case5 => cases h

/-- **A path under a root** has the components of the root at its front, and what is left are
segments at its end, with the components behind them. -/
theorem components_of_under? {root path rest : RawText} (h_root : root ≠ [])
    (h : under? root path = some rest) :
    ∃ back : List RawText, components path = components root ++ body back ∧
      rest = ofSegments (back.dropWhile isIdle) ∧ back <:+ segments path := by
  rw [under?, if_neg fun h_nil => h_root (components_eq_nil h_nil)] at h
  split at h
  · next h_start =>
    obtain ⟨back, h_drop, rfl⟩ := Option.map_eq_some_iff.mp h
    obtain ⟨front, h_split, h_front⟩ := exists_append_of_dropBody? h_drop
    refine ⟨back, ?_, rfl, ?_⟩
    · rw [components, components, h_start, h_split, body_append, h_front, List.append_assoc]
    · have h_end : back <:+ (start path).2 := by
        rw [h_split]
        exact List.suffix_append _ _
      exact h_end.trans (start_suffix path)
  · cases h

end FileProfile.Path
