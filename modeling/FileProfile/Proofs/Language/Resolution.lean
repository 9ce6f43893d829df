import FileProfile.Language.Resolution
import FileProfile.Language.Shebang

/-!
# The decision stays among the candidates

Whatever the shebang line and the text say, a file that languages claim is given to one of them
(`exists_resolve`); the evidence in the text is only heard for candidates. A shebang line speaks for
the language of the interpreter that it names in the end (`Shebang.language_of_of?`).
-/

namespace FileProfile

theorem Shebang.language_of_of? {text : String} {b : Shebang} (h : Shebang.of? text = some b) :
    b.language = Catalogue.runBy? b.script := by
  unfold Shebang.of? at h
  obtain ⟨line, -, h⟩ := Option.bind_eq_some_iff.mp h
  obtain ⟨raw, -, h⟩ := Option.bind_eq_some_iff.mp h
  rw [← Option.some.inj h]

variable {candidates : List Language}

theorem Evidence.mem_of_language? {text : String} {l : Language}
    (h : Evidence.language? candidates text = some l) : l ∈ candidates := by
  obtain ⟨rule, h_rule, rfl⟩ := Option.map_eq_some_iff.mp h
  have h_found := List.find?_some h_rule
  rw [Bool.and_eq_true, List.contains_iff_mem] at h_found
  exact h_found.1

namespace Language

theorem resolve_nil (shebang : Option Language) (text : String) :
    resolve [] shebang text = shebang := rfl

/-- Several candidates that the shebang line does not speak for are left to the evidence. -/
theorem resolve_of_not_candidate {first : Language} {others : List Language}
    {shebang : Option Language} (h_shebang : shebang.any (first :: others).contains = false)
    (h_others : others ≠ []) (text : String) : resolve (first :: others) shebang text =
      some ((Evidence.language? (first :: others) text).getD first) := by
  unfold resolve
  simp only [h_shebang, Bool.false_eq_true, if_false, List.isEmpty_iff, if_neg h_others]

/-- **One of the candidates has the file,** if there are any. -/
theorem exists_resolve (h : candidates ≠ []) (shebang : Option Language) (text : String) :
    ∃ l ∈ candidates, resolve candidates shebang text = some l := by
  obtain ⟨first, others, rfl⟩ := List.exists_cons_of_ne_nil h
  unfold resolve
  by_cases h_shebang : shebang.any (first :: others).contains
  · simp only [h_shebang, if_true]
    obtain ⟨l, rfl, h_mem⟩ := (Option.any_eq_true _ _).mp h_shebang
    exact ⟨l, List.contains_iff_mem.mp h_mem, rfl⟩
  · simp only [h_shebang]
    by_cases h_single : others.isEmpty
    · exact ⟨first, List.mem_cons_self, by rw [h_single]; rfl⟩
    · cases h_evidence : Evidence.language? (first :: others) text with
      | none => exact ⟨first, List.mem_cons_self, by simp [h_single]⟩
      | some l => exact ⟨l, Evidence.mem_of_language? h_evidence, by simp [h_single]⟩

end Language

end FileProfile
