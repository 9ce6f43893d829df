/-!
# Sets of characters given by a table

A property of characters that a standard lists is a table of code ranges in ascending order. Looking
a code up walks the table and stops at the first range that begins behind it.
-/

namespace FileProfile.Text

/-- Whether `code` lies in one of `ranges`, which ascend and do not overlap. -/
def inRanges (code : Nat) : List (Nat × Nat) → Bool
  | [] => false
  | (first, last) :: rest =>
    if code < first then false else code ≤ last || inRanges code rest

@[simp] theorem inRanges_nil (code : Nat) : inRanges code [] = false := rfl

/-- Every code that the table holds lies in a range that it lists. -/
theorem exists_range_of_inRanges {code : Nat} {ranges : List (Nat × Nat)}
    (h : inRanges code ranges = true) : ∃ r ∈ ranges, r.1 ≤ code ∧ code ≤ r.2 := by
  induction ranges with
  | nil => simp at h
  | cons r rest ih =>
    obtain ⟨first, last⟩ := r
    rw [inRanges] at h
    split at h
    · cases h
    · next hge =>
      rcases Bool.or_eq_true _ _ ▸ h with hle | hrest
      · exact ⟨(first, last), by simp, by omega, by simpa using hle⟩
      · obtain ⟨r, hr, hb⟩ := ih hrest
        exact ⟨r, List.mem_cons_of_mem _ hr, hb⟩

end FileProfile.Text
