import FileProfile.Language.Shebang

/-!
# The version in the name of an interpreter

The name of an interpreter is cut at the place where the digits and dots at its end begin. The two
parts are a name and a version, and only where one of them would be empty the name is left whole
(`splitVersion_eq_iff`). So a name that consists of digits and dots is a name, and of all other names
what is left does not end in a version again (`not_endsInVersion_of_isVersionSplit`).
-/

namespace FileProfile.Shebang

/-- `raw` is cut where the longest run of digits and dots at its end begins. The two parts are the
name and the version, unless one of them is empty. -/
def IsVersionSplit (raw name : List Char) (version : Option (List Char)) : Prop :=
  ∃ front back, raw = front ++ back ∧ (∀ c ∈ back, isVersionChar c = true) ∧
    (∀ c ∈ front.getLast?, isVersionChar c = false) ∧
    (front ≠ [] ∧ back ≠ [] → name = front ∧ version = some back) ∧
    (front = [] ∨ back = [] → name = raw ∧ version = none)

/-- A name ends in a version if it ends in a digit or a dot and does not consist of them. -/
def EndsInVersion (name : List Char) : Prop :=
  (∃ c ∈ name.getLast?, isVersionChar c = true) ∧ ∃ c ∈ name, isVersionChar c = false

variable {raw name front back : List Char} {version : Option (List Char)}

/-! ### The two parts -/

theorem exists_cut (raw : List Char) : ∃ front back, raw = front ++ back ∧
    (∀ c ∈ back, isVersionChar c = true) ∧ ∀ c ∈ front.getLast?, isVersionChar c = false := by
  refine ⟨(raw.reverse.dropWhile isVersionChar).reverse,
    (raw.reverse.takeWhile isVersionChar).reverse, ?_, ?_, ?_⟩
  · rw [← List.reverse_append, List.takeWhile_append_dropWhile, List.reverse_reverse]
  · intro c hc
    exact List.all_eq_true.mp List.all_takeWhile c (List.mem_reverse.mp hc)
  · intro c hc
    have h_stop := List.head?_dropWhile_not isVersionChar raw.reverse
    rw [← List.getLast?_reverse, hc] at h_stop
    simpa using h_stop

theorem splitVersion_append (h_back : ∀ c ∈ back, isVersionChar c = true)
    (h_front : ∀ c ∈ front.getLast?, isVersionChar c = false) :
    splitVersion (front ++ back) =
      if front = [] ∨ back = [] then (front ++ back, none) else (front, some back) := by
  have h_back' : ∀ c ∈ back.reverse, isVersionChar c = true :=
    fun c hc => h_back c (List.mem_reverse.mp hc)
  have h_stop : front.reverse.takeWhile isVersionChar = [] ∧
      front.reverse.dropWhile isVersionChar = front.reverse := by
    cases h : front.reverse with
    | nil => exact ⟨rfl, rfl⟩
    | cons c cs =>
      have h_last : front.getLast? = some c := by rw [List.getLast?_eq_head?_reverse, h]; rfl
      have hc := h_front c h_last
      exact ⟨List.takeWhile_cons_of_neg (by simp [hc]), List.dropWhile_cons_of_neg (by simp [hc])⟩
  have h_name : ((front ++ back).reverse.dropWhile isVersionChar).reverse = front := by
    rw [List.reverse_append, List.dropWhile_append_of_pos h_back', h_stop.2, List.reverse_reverse]
  have h_version : ((front ++ back).reverse.takeWhile isVersionChar).reverse = back := by
    rw [List.reverse_append, List.takeWhile_append_of_pos h_back', h_stop.1, List.append_nil,
      List.reverse_reverse]
  rw [splitVersion, h_name, h_version]
  simp only [Bool.or_eq_true, List.isEmpty_iff]

/-- **A name is split where its version begins.** -/
theorem splitVersion_eq_iff :
    splitVersion raw = (name, version) ↔ IsVersionSplit raw name version := by
  refine ⟨?_, ?_⟩
  · intro h
    obtain ⟨front, back, rfl, h_back, h_front⟩ := exists_cut raw
    rw [splitVersion_append h_back h_front] at h
    refine ⟨front, back, rfl, h_back, h_front, ?_, ?_⟩
    · rintro ⟨h_front_ne, h_back_ne⟩
      rw [if_neg fun h_empty => h_empty.elim h_front_ne h_back_ne] at h
      obtain ⟨rfl, rfl⟩ := Prod.mk.inj h
      exact ⟨rfl, rfl⟩
    · intro h_empty
      rw [if_pos h_empty] at h
      obtain ⟨rfl, rfl⟩ := Prod.mk.inj h
      exact ⟨rfl, rfl⟩
  · rintro ⟨front, back, rfl, h_back, h_front, h_parts, h_whole⟩
    rw [splitVersion_append h_back h_front]
    split
    · next h_empty =>
      obtain ⟨rfl, rfl⟩ := h_whole h_empty
      rfl
    · next h_both =>
      obtain ⟨rfl, rfl⟩ := h_parts (not_or.mp h_both)
      rfl

/-! ### Names that end in a version -/

/-- What is left of a name does not end in a version. -/
theorem not_endsInVersion_of_isVersionSplit (h : IsVersionSplit raw name version) :
    ¬ EndsInVersion name := by
  obtain ⟨front, back, rfl, h_back, h_front, h_parts, h_whole⟩ := h
  rintro ⟨⟨c, h_last, hc⟩, d, hd, h_plain⟩
  have h_of_front : name = front → False := by
    rintro rfl
    rw [h_front c h_last] at hc
    cases hc
  by_cases h_empty : front = [] ∨ back = []
  · obtain ⟨h_name, -⟩ := h_whole h_empty
    rcases h_empty with rfl | rfl
    · -- all of the name are digits and dots
      rw [h_name] at hd
      rw [h_back d hd] at h_plain
      cases h_plain
    · exact h_of_front (by rw [h_name, List.append_nil])
  · exact h_of_front (h_parts (not_or.mp h_empty)).1

/-- A name that does not end in a version is left whole, and no other. -/
theorem isVersionSplit_self_iff (h : IsVersionSplit raw name version) :
    name = raw ↔ ¬ EndsInVersion raw := by
  refine ⟨?_, ?_⟩
  · rintro rfl
    exact not_endsInVersion_of_isVersionSplit h
  · intro h_not
    obtain ⟨front, back, rfl, h_back, h_front, h_parts, h_whole⟩ := h
    by_cases h_empty : front = [] ∨ back = []
    · exact (h_whole h_empty).1
    · -- the last character is from the version, and the one in front of it is from the name
      obtain ⟨h_front_ne, h_back_ne⟩ := not_or.mp h_empty
      refine absurd ⟨⟨back.getLast h_back_ne, ?_, h_back _ (List.getLast_mem _)⟩,
        front.getLast h_front_ne, List.mem_append_left back (List.getLast_mem _), ?_⟩ h_not
      · rw [List.getLast?_append, List.getLast?_eq_some_getLast h_back_ne]
        rfl
      · exact h_front _ (List.getLast?_eq_some_getLast h_front_ne)

end FileProfile.Shebang
