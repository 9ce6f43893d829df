import FileProfile.FileName
import FileProfile.Proofs.Text.Split

/-!
# The extension of a name

A name has an extension if it can be cut at a dot with no other dot behind it and with something on
both sides, `HasExtension`. A name with dots is cut by the last one (`dot_cases`), and there the
search from the end of the name stops (`extension?_of_dot`). So the extension that is found is the
one that the name has, and there is at most one (`extension?_eq_some_iff`).
-/

namespace FileProfile.FileName

/-- The name is something in front of a dot and the extension behind it. -/
def HasExtension (name ext : String) : Prop :=
  ∃ stem, stem ≠ "" ∧ ext ≠ "" ∧ '.' ∉ ext.toList ∧ name = stem ++ "." ++ ext

variable {name stem ext : String}

/-- A name has no dot, or is cut by its last one. -/
theorem dot_cases (name : String) :
    '.' ∉ name.toList ∨ ∃ stem ext : String, '.' ∉ ext.toList ∧ name = stem ++ "." ++ ext := by
  obtain ⟨h_dot, h_all | ⟨front, h_cut⟩⟩ :=
    Text.lastPiece_eq_iff.mp (rfl : Text.lastPiece '.' name.toList = _)
  · exact .inl (h_all ▸ h_dot)
  · generalize Text.lastPiece '.' name.toList = behind at h_dot h_cut
    refine .inr ⟨String.ofList front, String.ofList behind, ?_, ?_⟩
    · rwa [String.toList_ofList]
    · calc name = String.ofList (front ++ ['.'] ++ behind) := by
            rw [List.append_assoc, List.singleton_append, ← h_cut, String.ofList_toList]
        _ = String.ofList front ++ String.ofList ['.'] ++ String.ofList behind := by
            rw [String.ofList_append, String.ofList_append]

theorem forall_reverse_ne_dot {cs : List Char} (h : '.' ∉ cs) :
    ∀ c ∈ cs.reverse, (c != '.') = true := by
  intro c hc
  apply bne_iff_ne.mpr
  rintro rfl
  exact h (List.mem_reverse.mp hc)

/-- Without a dot the search goes through the whole name, and leaves nothing for a stem. -/
theorem extension?_of_not_mem (h : '.' ∉ name.toList) : extension? name = none := by
  have h_stem : name.toList.reverse.dropWhile (· != '.') = [] := by
    rw [← List.append_nil name.toList.reverse,
      List.dropWhile_append_of_pos (forall_reverse_ne_dot h), List.dropWhile_nil]
  rw [extension?, h_stem]
  exact if_pos (Bool.or_true _)

/-- **Where the search stops:** at the last dot, with the extension behind it. -/
theorem extension?_of_dot (h_dot : '.' ∉ ext.toList) :
    extension? (stem ++ "." ++ ext) = if ext = "" ∨ stem = "" then none else some ext := by
  have h_reverse : (stem ++ "." ++ ext).toList.reverse =
      ext.toList.reverse ++ '.' :: stem.toList.reverse := by
    rw [String.toList_append, String.toList_append, List.reverse_append, List.reverse_append]
    rfl
  have h_behind : List.takeWhile (· != '.') ('.' :: stem.toList.reverse) = [] := rfl
  have h_front : List.dropWhile (· != '.') ('.' :: stem.toList.reverse) =
    '.' :: stem.toList.reverse := rfl
  -- what is left in front has the dot, and so a stem only if there is more than that
  have h_stem : stem.toList.length + 1 < 2 ↔ stem = "" := by
    rw [← String.toList_eq_nil_iff, ← List.length_eq_zero_iff]
    omega
  rw [extension?, h_reverse, List.takeWhile_append_of_pos (forall_reverse_ne_dot h_dot),
    List.dropWhile_append_of_pos (forall_reverse_ne_dot h_dot), h_behind, h_front,
    List.append_nil, List.reverse_reverse, String.ofList_toList]
  simp only [Bool.or_eq_true, List.isEmpty_iff, List.reverse_eq_nil_iff,
    String.toList_eq_nil_iff, decide_eq_true_eq, List.length_cons, List.length_reverse, h_stem]

theorem extension?_append (h_stem : stem ≠ "") (h_ext : ext ≠ "") (h_dot : '.' ∉ ext.toList) :
    extension? (stem ++ "." ++ ext) = some ext := by
  rw [extension?_of_dot h_dot, if_neg (not_or.mpr ⟨h_ext, h_stem⟩)]

/-- **The extension that is found** is the one that the name has. -/
theorem extension?_eq_some_iff : extension? name = some ext ↔ HasExtension name ext := by
  constructor
  · intro h
    obtain h_none | ⟨stem, behind, h_dot, rfl⟩ := dot_cases name
    · cases (extension?_of_not_mem h_none).symm.trans h
    · rw [extension?_of_dot h_dot] at h
      obtain ⟨h_sides, h_some⟩ := Option.ite_none_left_eq_some.mp h
      obtain rfl := Option.some.inj h_some
      obtain ⟨h_ext, h_stem⟩ := not_or.mp h_sides
      exact ⟨stem, h_stem, h_ext, h_dot, rfl⟩
  · rintro ⟨stem, h_stem, h_ext, h_dot, rfl⟩
    exact extension?_append h_stem h_ext h_dot

end FileProfile.FileName
