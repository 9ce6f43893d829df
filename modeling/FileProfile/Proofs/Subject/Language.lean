import FileProfile.Proofs.Language.Catalogue
import FileProfile.Proofs.Language.Resolution
import FileProfile.Subject

/-!
# The language of a file

Every language that a file is given is justified, and none is missed. `language?_justified` says
when there is none and, where there is one, what it is there for: its claim to the name, if any
language has one, and else the interpreter in the shebang line. What the text says beyond its first
lines only chooses among the claims.
-/

namespace FileProfile.Subject

variable {s : Subject}

theorem text?_eq_none_iff : s.text? = none ↔ s.sniff.binary = true := by
  rw [text?, Option.map_eq_none_iff, Sniff.binary, Option.isNone_iff_eq_none]

theorem language?_of_binary (h : s.sniff.binary = true) : s.language? = none := by
  rw [language?, text?_eq_none_iff.mpr h]
  rfl

theorem language?_of_text {text : String} (h : s.text? = some text) :
    s.language? = Language.resolve (Catalogue.candidates s.name) (s.shebang?.bind (·.language))
      text := by
  rw [language?, h]
  rfl

theorem exists_text (h : s.sniff.binary = false) : ∃ text, s.text? = some text := by
  cases h_text : s.text? with
  | none => rw [text?_eq_none_iff.mp h_text] at h; cases h
  | some text => exact ⟨text, rfl⟩

/-- The language that the shebang line speaks for. -/
theorem shebang?_language (s : Subject) : s.shebang?.bind (·.language) =
    s.shebang?.bind fun b => Language.all.find? fun l => b.script ∈ l.interpreters := by
  cases h : s.shebang? with
  | none => rfl
  | some b =>
    obtain ⟨text, -, h_of⟩ := Option.bind_eq_some_iff.mp h
    rw [Option.bind_some, Option.bind_some, Shebang.language_of_of? h_of,
      Catalogue.runBy?_eq_find?]

/-! ### Files that are claimed, and others -/

theorem candidates_ne_nil (h : ∃ l ∈ Language.all, l.Claims s.name) :
    Catalogue.candidates s.name ≠ [] := by
  obtain ⟨l, hl⟩ := Language.exists_claimCounts h
  exact List.ne_nil_of_mem (Catalogue.mem_candidates_iff.mpr hl)

theorem candidates_eq_nil (h : ∀ l ∈ Language.all, ¬ l.Claims s.name) :
    Catalogue.candidates s.name = [] := by
  rw [List.eq_nil_iff_forall_not_mem]
  intro l h_mem
  obtain ⟨hl, h_counts⟩ := Catalogue.mem_candidates_iff.mp h_mem
  exact h l hl h_counts.claims

/-- A text that languages claim is given to one of the candidates. -/
theorem exists_language (h_text : s.sniff.binary = false)
    (h : Catalogue.candidates s.name ≠ []) :
    ∃ l ∈ Catalogue.candidates s.name, s.language? = some l := by
  obtain ⟨text, h_text⟩ := exists_text h_text
  rw [language?_of_text h_text]
  exact Language.exists_resolve h _ _

/-- A text that no language claims is given to the language of its interpreter. -/
theorem language?_of_not_claimed (h_text : s.sniff.binary = false)
    (h : ∀ l ∈ Language.all, ¬ l.Claims s.name) :
    s.language? =
      s.shebang?.bind fun b => Language.all.find? fun l => b.script ∈ l.interpreters := by
  obtain ⟨text, h_text⟩ := exists_text h_text
  rw [language?_of_text h_text, candidates_eq_nil h, Language.resolve_nil, shebang?_language]

theorem binary_eq_false_of_language? {l : Language} (h : s.language? = some l) :
    s.sniff.binary = false := by
  rw [Bool.eq_false_iff]
  intro h_binary
  rw [language?_of_binary h_binary] at h
  cases h

theorem language?_eq_none_iff : s.language? = none ↔ s.sniff.binary = true ∨
    (∀ l ∈ Language.all, ¬ l.Claims s.name) ∧
      ∀ b, s.shebang? = some b → ∀ l ∈ Language.all, b.script ∉ l.interpreters := by
  cases h_text : s.sniff.binary with
  | true => exact ⟨fun _ => .inl rfl, fun _ => language?_of_binary h_text⟩
  | false =>
    by_cases h_claimed : ∃ l ∈ Language.all, l.Claims s.name
    · -- one of the candidates has the file
      obtain ⟨l, -, h_some⟩ := exists_language h_text (candidates_ne_nil h_claimed)
      rw [h_some]
      refine ⟨fun h => ?_, ?_⟩
      · cases h
      · rintro (h | ⟨h_free, -⟩)
        · cases h
        · obtain ⟨l', hl', h_claims⟩ := h_claimed
          exact absurd h_claims (h_free l' hl')
    · have h_free : ∀ l ∈ Language.all, ¬ l.Claims s.name := fun l hl h => h_claimed ⟨l, hl, h⟩
      -- the interpreter decides, if there is a shebang line
      rw [language?_of_not_claimed h_text h_free, Option.bind_eq_none_iff]
      simp only [List.find?_eq_none, decide_eq_true_eq]
      refine ⟨fun h => .inr ⟨h_free, h⟩, ?_⟩
      · rintro (h | ⟨-, h⟩)
        · cases h
        · exact h

/-- A claim to the name is what a language has a claimed file for. -/
theorem claimCounts_of_language? {l : Language} (h : s.language? = some l)
    (h_claimed : ∃ l' ∈ Language.all, l'.Claims s.name) :
    l ∈ Language.all ∧ l.ClaimCounts s.name := by
  have h_text := binary_eq_false_of_language? h
  obtain ⟨l', h_mem, h'⟩ := exists_language h_text (candidates_ne_nil h_claimed)
  obtain rfl := Option.some.inj (h.symm.trans h')
  exact Catalogue.mem_candidates_iff.mp h_mem

/-- Its interpreter is what a language has any other file for. -/
theorem interpreter_of_language? {l : Language} (h : s.language? = some l)
    (h_free : ∀ l' ∈ Language.all, ¬ l'.Claims s.name) :
    ∃ b, s.shebang? = some b ∧
      Language.all.find? (fun l' => b.script ∈ l'.interpreters) = some l := by
  rw [language?_of_not_claimed (binary_eq_false_of_language? h) h_free] at h
  exact Option.bind_eq_some_iff.mp h

/-- **Every language is justified, and none is missed.** The first part says when a file has no
language, the second and the third what a language has a file for, and the last that a single
candidate has every text. -/
theorem language?_justified (s : Subject) :
    (s.language? = none ↔ s.sniff.binary = true ∨
      (∀ l ∈ Language.all, ¬ l.Claims s.name) ∧
        ∀ b, s.shebang? = some b → ∀ l ∈ Language.all, b.script ∉ l.interpreters) ∧
    (∀ l, s.language? = some l → (∃ l' ∈ Language.all, l'.Claims s.name) →
      l ∈ Language.all ∧ l.ClaimCounts s.name) ∧
    (∀ l, s.language? = some l → (∀ l' ∈ Language.all, ¬ l'.Claims s.name) →
      ∃ b, s.shebang? = some b ∧
        Language.all.find? (fun l' => b.script ∈ l'.interpreters) = some l) ∧
    ∀ l, Catalogue.candidates s.name = [l] → s.sniff.binary = false → s.language? = some l := by
  refine ⟨language?_eq_none_iff, fun l => claimCounts_of_language?,
    fun l => interpreter_of_language?, fun l h_single h_text => ?_⟩
  obtain ⟨l', h_mem, h⟩ := exists_language h_text (by rw [h_single]; exact List.cons_ne_nil l [])
  rw [h_single, List.mem_singleton] at h_mem
  rw [h, h_mem]

end FileProfile.Subject
