import FileProfile.Proofs.Language.Resolution

/-!
# Which evidence comes first

Deciding on a language takes four steps: where no language claims a file its shebang line has it,
where the shebang line speaks for a candidate that candidate has it, otherwise the first rule of
evidence for a candidate that the text speaks for decides, and otherwise the first candidate has it.
`Settles` says so with one constructor for each step, and in terms of where patterns stand and of
places in the list of rules, so that nothing in it is about how the text is searched.

A single candidate is given the file without a look at the text. That is no step of its own: the
evidence for a single candidate can only be evidence for it (`settles_resolve`).

The order of the candidates comes in with the last step only, and there no more than the head of the
list does (`Settles.congr`). The order in which evidence counts is that of the rules.
-/

namespace FileProfile

namespace Evidence

/-- The text speaks for the language of a rule: some, or all, of the patterns stand in it. -/
def Speaks (rule : Evidence) (cs : List Char) : Prop :=
  match rule.quorum with
  | .some => ∃ p ∈ rule.patterns, p.StandsIn cs
  | .all => ∀ p ∈ rule.patterns, p.StandsIn cs

/-- The rule at place `i` is the first for a candidate that the text speaks for. -/
structure IsFirst (candidates : List Language) (cs : List Char) (i : Nat) (rule : Evidence) :
    Prop where
  /-- The rule stands at this place. -/
  place : rules[i]? = some rule
  /-- The rule is for a candidate. -/
  candidate : rule.language ∈ candidates
  /-- The text speaks for the language of the rule. -/
  speaks : rule.Speaks cs
  /-- The text speaks for no candidate by a rule in front of it. -/
  earlier : ∀ j < i, ∀ other, rules[j]? = some other → other.language ∈ candidates →
    ¬ other.Speaks cs

variable {candidates candidates' : List Language} {cs : List Char} {text : String}
  {rule rule' : Evidence} {i j : Nat} {l : Language}

/-- The search for the patterns of a rule is a test of what the text speaks for. -/
theorem holds_iff_speaks : rule.holds cs = true ↔ rule.Speaks cs := by
  unfold holds Speaks
  cases rule.quorum with
  | some => simp only [List.any_eq_true, Pattern.foundIn_iff_standsIn]
  | all => simp only [List.all_eq_true, Pattern.foundIn_iff_standsIn]

theorem IsFirst.place_le (h : IsFirst candidates cs i rule) (h' : rules[j]? = some rule')
    (h_candidate : rule'.language ∈ candidates) (h_speaks : rule'.Speaks cs) : i ≤ j := by
  apply Nat.le_of_not_lt
  intro h_lt
  exact h.earlier j h_lt rule' h' h_candidate h_speaks

/-- Only one rule is the first. -/
theorem IsFirst.unique (h : IsFirst candidates cs i rule) (h' : IsFirst candidates cs j rule') :
    i = j ∧ rule = rule' := by
  have h_place : i = j := Nat.le_antisymm
    (h.place_le h'.place h'.candidate h'.speaks) (h'.place_le h.place h.candidate h.speaks)
  subst h_place
  exact ⟨rfl, Option.some.inj (h.place.symm.trans h'.place)⟩

/-- Which rule is the first depends on the set of the candidates. -/
theorem IsFirst.congr (h_mem : ∀ l, l ∈ candidates ↔ l ∈ candidates')
    (h : IsFirst candidates cs i rule) : IsFirst candidates' cs i rule where
  place := h.place
  candidate := (h_mem _).mp h.candidate
  speaks := h.speaks
  earlier := fun j h_lt other h_other h_candidate =>
    h.earlier j h_lt other h_other ((h_mem _).mpr h_candidate)

/-- Where the text speaks for some candidate, there is a first rule. -/
theorem exists_isFirst (h_place : rules[i]? = some rule) (h_candidate : rule.language ∈ candidates)
    (h_speaks : rule.Speaks cs) : ∃ j rule', j ≤ i ∧ IsFirst candidates cs j rule' := by
  -- a rule in front of it that will do as well may take its place
  induction i using Nat.strongRecOn generalizing rule with
  | ind i ih =>
    by_cases h_earlier : ∃ j < i, ∃ other, rules[j]? = some other ∧
        other.language ∈ candidates ∧ other.Speaks cs
    · obtain ⟨j, h_lt, other, h_other, h_mem, h_other_speaks⟩ := h_earlier
      obtain ⟨k, rule', h_le, h_first⟩ := ih j h_lt h_other h_mem h_other_speaks
      exact ⟨k, rule', Nat.le_trans h_le (Nat.le_of_lt h_lt), h_first⟩
    · refine ⟨i, rule, Nat.le_refl i, h_place, h_candidate, h_speaks, ?_⟩
      intro j h_lt other h_other h_mem h_other_speaks
      exact h_earlier ⟨j, h_lt, other, h_other, h_mem, h_other_speaks⟩

/-- **The evidence in a text** is that of the first rule. -/
theorem language?_eq_some_iff :
    language? candidates text = some l ↔
      ∃ i rule, IsFirst candidates text.toList i rule ∧ rule.language = l := by
  have h_asked (rule : Evidence) :
      (candidates.contains rule.language && rule.holds text.toList) = true ↔
        rule.language ∈ candidates ∧ rule.Speaks text.toList := by
    rw [Bool.and_eq_true, List.contains_iff_mem, holds_iff_speaks]
  rw [language?, Option.map_eq_some_iff]
  constructor
  · rintro ⟨rule, h_find, h_language⟩
    obtain ⟨h_found, i, h_i, h_place, h_earlier⟩ := List.find?_eq_some_iff_getElem.mp h_find
    obtain ⟨h_candidate, h_speaks⟩ := (h_asked rule).mp h_found
    refine ⟨i, rule, ⟨?_, h_candidate, h_speaks, ?_⟩, h_language⟩
    · exact List.getElem?_eq_some_iff.mpr ⟨h_i, h_place⟩
    · intro j h_lt other h_other h_mem h_other_speaks
      obtain ⟨h_j, rfl⟩ := List.getElem?_eq_some_iff.mp h_other
      have h_not := h_earlier j h_lt
      rw [(h_asked _).mpr ⟨h_mem, h_other_speaks⟩] at h_not
      cases h_not
  · rintro ⟨i, rule, h_first, h_language⟩
    obtain ⟨h_i, h_place⟩ := List.getElem?_eq_some_iff.mp h_first.place
    refine ⟨rule, List.find?_eq_some_iff_getElem.mpr ⟨?_, i, h_i, h_place, ?_⟩, h_language⟩
    · exact (h_asked rule).mpr ⟨h_first.candidate, h_first.speaks⟩
    · intro j h_lt
      rw [Bool.not_eq_true', Bool.eq_false_iff]
      intro h_other
      obtain ⟨h_mem, h_other_speaks⟩ := (h_asked _).mp h_other
      have h_j := List.getElem?_eq_getElem (Nat.lt_trans h_lt h_i)
      exact h_first.earlier j h_lt _ h_j h_mem h_other_speaks

theorem language?_eq_none_iff :
    language? candidates text = none ↔
      ∀ rule ∈ rules, rule.language ∈ candidates → ¬ rule.Speaks text.toList := by
  rw [language?, Option.map_eq_none_iff, List.find?_eq_none]
  simp only [Bool.and_eq_true, List.contains_iff_mem, holds_iff_speaks, not_and]

/-- The evidence depends on the set of the candidates. -/
theorem language?_congr (h_mem : ∀ l, l ∈ candidates ↔ l ∈ candidates') (text : String) :
    language? candidates text = language? candidates' text := by
  refine Option.ext fun l => ?_
  rw [language?_eq_some_iff, language?_eq_some_iff]
  constructor
  · rintro ⟨i, rule, h_first, h_language⟩
    exact ⟨i, rule, h_first.congr h_mem, h_language⟩
  · rintro ⟨i, rule, h_first, h_language⟩
    exact ⟨i, rule, h_first.congr fun l => (h_mem l).symm, h_language⟩

end Evidence

namespace Language

open Evidence

/-- The four steps by which the language of a file is settled, each where those before it do not
apply. -/
inductive Settles (candidates : List Language) (shebang : Option Language) (text : String) :
    Option Language → Prop
  /-- No language claims the file: the shebang line has it, and nobody where there is none. -/
  | unclaimed : candidates = [] → Settles candidates shebang text shebang
  /-- The shebang line speaks for a candidate. -/
  | agreed {l} : shebang = some l → l ∈ candidates → Settles candidates shebang text (some l)
  /-- The text speaks for a candidate. -/
  | evident {i rule} : (∀ l ∈ shebang, l ∉ candidates) → IsFirst candidates text.toList i rule →
      Settles candidates shebang text (some rule.language)
  /-- Nothing speaks for any candidate: the first of them has the file. -/
  | inOrder {first} : (∀ l ∈ shebang, l ∉ candidates) →
      (∀ rule ∈ rules, rule.language ∈ candidates → ¬ rule.Speaks text.toList) →
      candidates.head? = some first → Settles candidates shebang text (some first)

variable {candidates candidates' : List Language} {shebang : Option Language} {text : String}
  {a b : Option Language}

theorem settles_evidence {first : Language} {others : List Language}
    (h : ∀ l ∈ shebang, l ∉ first :: others) (text : String) :
    Settles (first :: others) shebang text
      (some ((Evidence.language? (first :: others) text).getD first)) := by
  cases h_evidence : Evidence.language? (first :: others) text with
  | none => exact .inOrder h (language?_eq_none_iff.mp h_evidence) rfl
  | some l =>
    obtain ⟨i, rule, h_first, rfl⟩ := language?_eq_some_iff.mp h_evidence
    exact .evident h h_first

/-- **The decision is that of the four steps.** -/
theorem settles_resolve (candidates : List Language) (shebang : Option Language) (text : String) :
    Settles candidates shebang text (resolve candidates shebang text) := by
  cases candidates with
  | nil => exact .unclaimed rfl
  | cons first others =>
    unfold resolve
    by_cases h_shebang : shebang.any (first :: others).contains
    · simp only [h_shebang, if_true]
      obtain ⟨l, h_some, h_mem⟩ := (Option.any_eq_true _ _).mp h_shebang
      subst h_some
      exact .agreed rfl (List.contains_iff_mem.mp h_mem)
    · have h_other : ∀ l ∈ shebang, l ∉ first :: others := by
        intro l hl h_mem
        apply h_shebang
        exact (Option.any_eq_true _ _).mpr ⟨l, hl, List.contains_iff_mem.mpr h_mem⟩
      have h_evidence := settles_evidence h_other text
      simp only [h_shebang]
      by_cases h_single : others.isEmpty
      · -- the evidence for a single candidate is for that candidate
        obtain rfl := List.isEmpty_iff.mp h_single
        have h_first : (Evidence.language? [first] text).getD first = first := by
          cases h_some : Evidence.language? [first] text with
          | none => rfl
          | some l => exact List.mem_singleton.mp (mem_of_language? h_some)
        rw [h_first] at h_evidence
        exact h_evidence
      · simpa only [h_single, Bool.false_eq_true, if_false] using h_evidence

/-- The four steps settle on one answer. -/
theorem Settles.unique (ha : Settles candidates shebang text a)
    (hb : Settles candidates shebang text b) : a = b := by
  cases ha with
  | unclaimed h_nil =>
    subst h_nil
    cases hb with
    | unclaimed => rfl
    | agreed _ h_mem => cases h_mem
    | evident _ h_first => cases h_first.candidate
    | inOrder _ _ h_head => cases h_head
  | agreed h_some h_mem =>
    cases hb with
    | unclaimed h_nil => exact h_some.symm
    | agreed h_some' => exact h_some.symm.trans h_some'
    | evident h_other => exact absurd h_mem (h_other _ h_some)
    | inOrder h_other => exact absurd h_mem (h_other _ h_some)
  | evident h_other h_first =>
    cases hb with
    | unclaimed h_nil =>
      subst h_nil
      cases h_first.candidate
    | agreed h_some h_mem => exact absurd h_mem (h_other _ h_some)
    | evident _ h_first' => rw [(h_first.unique h_first').2]
    | inOrder _ h_silent =>
      exact absurd h_first.speaks
        (h_silent _ (List.mem_of_getElem? h_first.place) h_first.candidate)
  | inOrder h_other h_silent h_head =>
    cases hb with
    | unclaimed h_nil =>
      subst h_nil
      cases h_head
    | agreed h_some h_mem => exact absurd h_mem (h_other _ h_some)
    | evident _ h_first =>
      exact absurd h_first.speaks
        (h_silent _ (List.mem_of_getElem? h_first.place) h_first.candidate)
    | inOrder _ _ h_head' => exact h_head.symm.trans h_head'

/-- What the four steps settle on depends on the set of the candidates and on the first of them. -/
theorem Settles.congr (h_mem : ∀ l, l ∈ candidates ↔ l ∈ candidates')
    (h_head : candidates.head? = candidates'.head?) (h : Settles candidates shebang text a) :
    Settles candidates' shebang text a := by
  have h_not : (∀ l ∈ shebang, l ∉ candidates) → ∀ l ∈ shebang, l ∉ candidates' :=
    fun h_other l hl h' => h_other l hl ((h_mem l).mpr h')
  cases h with
  | unclaimed h_nil =>
    subst h_nil
    exact .unclaimed (List.head?_eq_none_iff.mp h_head.symm)
  | agreed h_some h_candidate => exact .agreed h_some ((h_mem _).mp h_candidate)
  | evident h_other h_first => exact .evident (h_not h_other) (h_first.congr h_mem)
  | inOrder h_other h_silent h_some =>
    refine .inOrder (h_not h_other) ?_ (h_head ▸ h_some)
    intro rule h_rule h_candidate
    exact h_silent rule h_rule ((h_mem _).mpr h_candidate)

/-- **The decision follows the four steps,** is for one of the candidates if there are any, and
does not depend on their order and number: any other candidates that are the same as a set have the
same evidence, and if they begin with the same one, the same decision. -/
theorem resolve_inSteps (candidates : List Language) (shebang : Option Language) (text : String) :
    (∀ answer, resolve candidates shebang text = answer ↔
      Settles candidates shebang text answer) ∧
    (candidates ≠ [] → ∃ l ∈ candidates, resolve candidates shebang text = some l) ∧
    ∀ candidates', (∀ l, l ∈ candidates ↔ l ∈ candidates') →
      Evidence.language? candidates text = Evidence.language? candidates' text ∧
      (candidates.head? = candidates'.head? →
        resolve candidates shebang text = resolve candidates' shebang text) := by
  have h_settles := settles_resolve candidates shebang text
  refine ⟨?_, ?_, ?_⟩
  · intro answer
    constructor
    · intro h_eq
      exact h_eq ▸ h_settles
    · intro h_answer
      exact h_settles.unique h_answer
  · intro h_ne
    exact exists_resolve h_ne shebang text
  · intro candidates' h_mem
    refine ⟨language?_congr h_mem text, ?_⟩
    intro h_head
    exact (h_settles.congr h_mem h_head).unique (settles_resolve candidates' shebang text)

/-- A header with a class of C++ and a directive of Objective-C is one of Objective-C, and so it is
when its candidates are told in another order and one of them twice. -/
theorem resolve_inSteps_mixedHeader :
    Settles [c, cPlusPlus, objectiveC] (some shell) "class A;\n@end\n" (some objectiveC) ∧
      resolve [c, objectiveC, c, cPlusPlus] (some shell) "class A;\n@end\n" = some objectiveC := by
  obtain ⟨h_steps, h_claimed, h_order⟩ :=
    resolve_inSteps [c, cPlusPlus, objectiveC] (some shell) "class A;\n@end\n"
  have h_mem : ∀ l, l ∈ [c, cPlusPlus, objectiveC] ↔ l ∈ [c, objectiveC, c, cPlusPlus] := by
    intro l
    simp only [List.mem_cons, List.not_mem_nil, or_false]
    constructor
    · rintro (h | h | h)
      · exact .inl h
      · exact .inr (.inr (.inr h))
      · exact .inr (.inl h)
    · rintro (h | h | h | h)
      · exact .inl h
      · exact .inr (.inr h)
      · exact .inl h
      · exact .inr (.inl h)
  have h_answer : resolve [c, cPlusPlus, objectiveC] (some shell) "class A;\n@end\n" =
      some objectiveC := by
    decide +kernel
  refine ⟨(h_steps _).mp h_answer, ?_⟩
  rw [← (h_order _ h_mem).2 rfl]
  exact h_answer

end Language

end FileProfile
