import FileProfile.Proofs.Language.Headers
import FileProfile.Proofs.Language.Precedence
import FileProfile.Proofs.Pattern.Growth

/-!
# More lines are more evidence

A text that is read line by line speaks for more and more languages: what a rule finds in some lines
it finds in them with others behind (`holds_append`). So evidence in the first lines is only ever
overruled by a rule in front of it, and never taken back (`isFirst_append`).

All but one of the patterns pass the check for patterns that stay where a text grows. An `end` alone
on its line asks for the end of the line, behind white space that may run on to the end of the text.
Where it does, it has the last line feed in it, and the line ends in front of that one as well
(`foundIn_loneEnd_append`).
-/

namespace FileProfile.Evidence

open Header Pattern

variable {cs more : List Char} {rule : Evidence} {i : Nat} {candidates : List Language}

/-- The text is made of whole lines, each with a line feed behind it. -/
def IsWholeLines (cs : List Char) : Prop := ∀ c ∈ cs.getLast?, c = '\n'

theorem IsWholeLines.isWordAt_getLast? (h : IsWholeLines cs) :
    Edge.isWordAt cs.getLast? = false := by
  rw [isWordAt_eq_false_iff]
  intro c hc
  rw [h c hc]
  decide

/-- An `end`, and nothing but white space up to the end of some line. -/
inductive LoneEnd : List Char → Prop
  | intro {gap rest} : Blank gap → (∀ c ∈ rest.head?, c = '\n') →
      LoneEnd ("end".toList ++ (gap ++ rest))

theorem holds_lineEnd_iff {before after : Option Char} :
    Edge.lineEnd.holds before after = true ↔ ∀ c ∈ after, c = '\n' := by
  rw [Edge.holds, Option.all_eq_true]
  simp only [Option.mem_def, beq_iff_eq]

theorem foundIn_loneEnd_iff : loneEnd.foundIn cs = true ↔ OnSomeLine LoneEnd cs := by
  refine foundIn_leading_iff fun before rest => ?_
  simp only [startsAt_text_cons_iff, blanks, blank, startsAt_star_cons_iff, startsAt_edge_cons_iff,
    holds_lineEnd_iff]
  constructor
  · rintro ⟨_, rfl, gap, rest, rfl, h_gap, h_rest, -⟩
    exact ⟨h_gap, h_rest⟩
  · rintro ⟨h_gap, h_rest⟩
    exact ⟨_, rfl, _, _, rfl, h_gap, h_rest, startsAt_inOrder_nil⟩

/-- White space behind an `end` that makes whole lines has a line feed at its end. -/
theorem exists_gap_of_isWholeLines {gap : List Char} (h : IsWholeLines ("end".toList ++ gap)) :
    ∃ gap', gap = gap' ++ ['\n'] := by
  rcases List.eq_nil_or_concat gap with rfl | ⟨gap', c, rfl⟩
  · -- the text would end in the `end`
    have h_feed := h 'd' (by decide)
    cases h_feed
  · rw [List.concat_eq_append] at h ⊢
    have h_last : ("end".toList ++ (gap' ++ [c])).getLast? = some c := by
      rw [← List.append_assoc, List.getLast?_append]
      rfl
    obtain rfl : c = '\n' := h c h_last
    exact ⟨gap', rfl⟩

theorem LoneEnd.append (h : LoneEnd cs) (h_lines : IsWholeLines cs) (more : List Char) :
    LoneEnd (cs ++ more) := by
  obtain @⟨gap, rest, h_gap, h_rest⟩ := h
  cases rest with
  | nil =>
    rw [List.append_nil] at h_lines ⊢
    obtain ⟨gap', rfl⟩ := exists_gap_of_isWholeLines h_lines
    -- the line ends in front of its line feed
    have h_front : Blank gap' := fun c hc => h_gap c (List.mem_append_left _ hc)
    have h_text : "end".toList ++ (gap' ++ ['\n']) ++ more =
        "end".toList ++ (gap' ++ '\n' :: more) := by
      simp only [List.append_assoc, List.cons_append, List.nil_append]
    rw [h_text]
    refine ⟨h_front, ?_⟩
    intro c hc
    exact (Option.some.inj hc).symm
  | cons c rest =>
    have h_text : "end".toList ++ (gap ++ c :: rest) ++ more =
        "end".toList ++ (gap ++ c :: (rest ++ more)) := by
      simp only [List.append_assoc, List.cons_append]
    rw [h_text]
    exact ⟨h_gap, h_rest⟩

theorem foundIn_loneEnd_append (h : loneEnd.foundIn cs = true) (h_lines : IsWholeLines cs)
    (more : List Char) : loneEnd.foundIn (cs ++ more) = true := by
  rw [foundIn_loneEnd_iff] at h ⊢
  obtain ⟨front, rest, rfl, h_front, h_end⟩ := h
  have h_rest : IsWholeLines rest := by
    intro c hc
    apply h_lines
    rw [List.getLast?_append, Option.mem_def.mp hc]
    rfl
  exact ⟨front, rest ++ more, List.append_assoc _ _ _, h_front, h_end.append h_rest more⟩

/-! ### Rules -/

/-- One pattern asks for the end of a line, and no other pattern is lost where a text grows. -/
theorem isOpenEnded_rules :
    ∀ rule ∈ rules, ∀ p ∈ rule.patterns, p = loneEnd ∨ p.isOpenEnded = true := by
  decide +kernel

theorem foundIn_append_of_mem {p : Pattern} (h_rule : rule ∈ rules) (hp : p ∈ rule.patterns)
    (h_lines : IsWholeLines cs) (h : p.foundIn cs = true) (more : List Char) :
    p.foundIn (cs ++ more) = true := by
  rcases isOpenEnded_rules rule h_rule p hp with rfl | h_open
  · -- what follows begins a line, and so the line of the `end` still ends there
    exact foundIn_loneEnd_append h h_lines more
  · exact foundIn_append h_open h_lines.isWordAt_getLast? h more

/-- **What a rule finds in some lines it finds in more.** -/
theorem holds_append (h_rule : rule ∈ rules) (h_lines : IsWholeLines cs)
    (h : rule.holds cs = true) (more : List Char) : rule.holds (cs ++ more) = true := by
  unfold holds at h ⊢
  cases h_quorum : rule.quorum with
  | some =>
    simp only [h_quorum, List.any_eq_true] at h ⊢
    obtain ⟨p, hp, h_found⟩ := h
    exact ⟨p, hp, foundIn_append_of_mem h_rule hp h_lines h_found more⟩
  | all =>
    simp only [h_quorum, List.all_eq_true] at h ⊢
    intro p hp
    exact foundIn_append_of_mem h_rule hp h_lines (h p hp) more

/-- Behind more lines, a rule that decides is overruled by none but a rule in front of it. -/
theorem isFirst_append (h : IsFirst candidates cs i rule) (h_lines : IsWholeLines cs)
    (more : List Char) : ∃ j rule', j ≤ i ∧ IsFirst candidates (cs ++ more) j rule' := by
  have h_holds := holds_iff_speaks.mpr h.speaks
  have h_more := holds_append (List.mem_of_getElem? h.place) h_lines h_holds more
  exact exists_isFirst h.place h.candidate (holds_iff_speaks.mp h_more)

theorem isWholeLines_toList {text : String} (h : text = "" ∨ ∃ lines, text = lines ++ "\n") :
    IsWholeLines text.toList := by
  intro c hc
  rcases h with rfl | ⟨lines, rfl⟩
  · cases hc
  · rw [String.toList_append, List.getLast?_append] at hc
    exact (Option.some.inj hc).symm

/-- **More lines only promote a rule.** A rule that holds of some lines holds of them with any text
behind. So where the evidence in some lines is for a language, by some rule, the evidence in the
whole text is by that rule or by one in front of it. -/
theorem promoted_append (text more : String) (h : text = "" ∨ ∃ lines, text = lines ++ "\n") :
    (∀ rule ∈ rules, rule.holds text.toList = true → rule.holds (text ++ more).toList = true) ∧
    ∀ candidates l, language? candidates text = some l →
      ∃ i rule j rule', IsFirst candidates text.toList i rule ∧ rule.language = l ∧ j ≤ i ∧
        IsFirst candidates (text ++ more).toList j rule' ∧
        language? candidates (text ++ more) = some rule'.language := by
  have h_lines := isWholeLines_toList h
  constructor
  · intro rule h_rule h_holds
    rw [String.toList_append]
    exact holds_append h_rule h_lines h_holds more.toList
  · intro candidates l h_some
    obtain ⟨i, rule, h_first, h_language⟩ := language?_eq_some_iff.mp h_some
    obtain ⟨j, rule', h_le, h_first'⟩ := isFirst_append h_first h_lines more.toList
    rw [← String.toList_append] at h_first'
    exact ⟨i, rule, j, rule', h_first, h_language, h_le, h_first',
      language?_eq_some_iff.mpr ⟨j, rule', h_first', rfl⟩⟩

/-- An `end` alone on its line speaks for Matlab until a directive of Objective-C follows. -/
theorem promoted_append_loneEnd :
    ("x = 1;\nend\n" = "" ∨ ∃ lines, "x = 1;\nend\n" = lines ++ "\n") ∧
    (⟨.matlab, .some, [functionHead, percentComment, loneEnd]⟩ : Evidence).holds
      ("x = 1;\nend\n" ++ "@end").toList = true ∧
    ∃ i rule j rule', IsFirst [.objectiveC, .matlab] "x = 1;\nend\n".toList i rule ∧
      rule.language = .matlab ∧ j ≤ i ∧
      IsFirst [.objectiveC, .matlab] ("x = 1;\nend\n" ++ "@end").toList j rule' ∧
      language? [.objectiveC, .matlab] ("x = 1;\nend\n" ++ "@end") = some rule'.language := by
  have h_lines : "x = 1;\nend\n" = "" ∨ ∃ lines, "x = 1;\nend\n" = lines ++ "\n" :=
    .inr ⟨"x = 1;\nend", rfl⟩
  obtain ⟨h_rules, h_first⟩ := promoted_append "x = 1;\nend\n" "@end" h_lines
  have h_some : language? [.objectiveC, .matlab] "x = 1;\nend\n" = some .matlab := by
    decide +kernel
  exact ⟨h_lines, h_rules _ (by decide +kernel) (by decide +kernel), h_first _ _ h_some⟩

end FileProfile.Evidence
