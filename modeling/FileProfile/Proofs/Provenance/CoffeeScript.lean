import Mathlib.Data.List.Infix
import FileProfile.Proofs.Text.Occurrence
import FileProfile.Provenance.CoffeeScript

/-!
# What is taken for output of the CoffeeScript compiler

The lines of a closure are told by their places: the first, the last but one and the last
(`IsClosure`). What the compiler is told by stands in the lines between, `inner`. There the names of
its variables and functions count at every place where one starts, although the text is only read
once: no such name begins inside another of its kind, and a temporary that begins inside a helper is
counted apart (`lineScore_eq`).

Whether lines are output follows from these alone (`isCompiledCoffeeScript_iff`). The statement also
says that nothing goes wrong on the way: the same function with each look-up checked,
`isCompiledAt?`, never looks for a line where there is none.
-/

namespace FileProfile.Provenance

variable {lines body : List String} {line head foot last : String}

/-! ### Closures -/

/-- The lines are a closure: the first opens it, the last but one closes it and the last is
empty. -/
structure IsClosure (lines : List String) : Prop where
  le_length : 3 ≤ lines.length
  head : lines[0]? = some closureHead
  foot : lines[lines.length - 2]? = some closureFoot
  last : lines[lines.length - 1]? = some ""

/-- The lines strictly between the first and the last but one. -/
def inner (lines : List String) : List String := (lines.drop 1).take (lines.length - 3)

theorem exists_places (h : 3 ≤ lines.length) :
    ∃ head body foot last, lines = head :: (body ++ [foot, last]) := by
  obtain ⟨head, rest, rfl⟩ := List.exists_cons_of_length_pos (Nat.lt_of_lt_of_le (by decide) h)
  rcases List.eq_nil_or_concat rest with rfl | ⟨rest, last, rfl⟩
  · simp at h
  · rcases List.eq_nil_or_concat rest with rfl | ⟨body, foot, rfl⟩
    · simp at h
    · exact ⟨head, body, foot, last, by simp⟩

section Places

variable (head : String) (body : List String) (foot last : String)

theorem length_places : (head :: (body ++ [foot, last])).length = body.length + 3 := by simp

theorem getElem?_foot : (head :: (body ++ [foot, last]))[body.length + 1]? = some foot := by simp

theorem getElem?_last : (head :: (body ++ [foot, last]))[body.length + 2]? = some last := by simp

theorem inner_places : inner (head :: (body ++ [foot, last])) = body := by
  rw [inner, length_places, Nat.add_sub_cancel, List.drop_succ_cons, List.drop_zero,
    List.take_left]

theorem isClosure_places_iff : IsClosure (head :: (body ++ [foot, last])) ↔
    head = closureHead ∧ foot = closureFoot ∧ last = "" := by
  constructor
  · rintro ⟨-, h_head, h_foot, h_last⟩
    rw [length_places] at h_foot h_last
    exact ⟨Option.some.inj h_head, Option.some.inj ((getElem?_foot ..).symm.trans h_foot),
      Option.some.inj ((getElem?_last ..).symm.trans h_last)⟩
  · rintro ⟨rfl, rfl, rfl⟩
    refine ⟨?_, rfl, ?_, ?_⟩
    · rw [length_places]
      exact Nat.le_add_left 3 body.length
    · rw [length_places]
      exact getElem?_foot ..
    · rw [length_places]
      exact getElem?_last ..

theorem closureBody?_places : closureBody? (head :: (body ++ [foot, last])) =
    if head = closureHead ∧ foot = closureFoot ∧ last = "" then some body else none := by
  simp [closureBody?]

end Places

theorem closureBody?_of_length_lt (h : lines.length < 3) : closureBody? lines = none := by
  unfold closureBody?
  split
  · next head rest =>
    split
    · next last foot body h_rest =>
      have h_length := congrArg List.length h_rest
      simp only [List.length_reverse, List.length_cons] at h h_length
      omega
    · rfl
  · rfl

theorem closureBody?_eq_some_iff :
    closureBody? lines = some body ↔ IsClosure lines ∧ body = inner lines := by
  by_cases h : 3 ≤ lines.length
  · obtain ⟨head, body', foot, last, rfl⟩ := exists_places h
    rw [closureBody?_places, isClosure_places_iff, inner_places, Option.ite_none_right_eq_some,
      Option.some.injEq, eq_comm (a := body)]
  · rw [closureBody?_of_length_lt (Nat.lt_of_not_le h)]
    exact iff_of_false (by rintro ⟨⟩) fun h_closure => h h_closure.1.le_length

theorem closureBody?_eq_none_iff : closureBody? lines = none ↔ ¬ IsClosure lines := by
  rw [Option.eq_none_iff_forall_ne_some]
  constructor
  · intro h h_closure
    exact h (inner lines) (closureBody?_eq_some_iff.mpr ⟨h_closure, rfl⟩)
  · intro h body h_body
    exact h (closureBody?_eq_some_iff.mp h_body).1

/-! ### Names of the compiler -/

/-- The score of a line that declares variables, the word for it standing somewhere in the line: one
for each place where the name of a temporary starts, and three for each place where that of a helper
does. -/
def declarationScore (line : String) : Nat :=
  if "var ".toList <:+: line.toList then
    Text.countStarts temporaries line.toList + 3 * Text.countStarts helpers line.toList
  else 0

theorem areApart_temporaries : Text.AreApart temporaries := by decide +kernel

theorem areApart_helpers : Text.AreApart helpers := by decide +kernel

theorem lineScore_eq (line : String) : lineScore line = declarationScore line := by
  rw [lineScore, declarationScore, areApart_temporaries.countFound_eq_countStarts,
    areApart_helpers.countFound_eq_countStarts]
  exact ite_congr (propext (Text.occurs_iff _ _)) (fun _ => rfl) fun _ => rfl

/-! ### Look-ups in range

The functions once more, by the places of the lines. Here every look-up is checked: `none` means
that there is no such line. -/

/-- The lines from the place `first` on and in front of the place `past`. -/
def slice? (lines : List String) (first past : Nat) : Option (List String) :=
  if first ≤ past ∧ past ≤ lines.length then some ((lines.take past).drop first) else none

/-- The place that has `count` places from it to the end. -/
def placeFromEnd? (lines : List String) (count : Nat) : Option Nat :=
  if count ≤ lines.length then some (lines.length - count) else none

/-- The lines inside a closure, if the lines are one, by their places. -/
def closureBodyAt? (lines : List String) : Option (Option (List String)) := do
  if lines.length < 3 then return none
  if (← lines[0]?) ≠ closureHead then return none
  if (← lines[← placeFromEnd? lines 2]?) ≠ closureFoot then return none
  if (← lines[← placeFromEnd? lines 1]?) ≠ "" then return none
  return some (← slice? lines 1 (← placeFromEnd? lines 2))

/-- Whether lines are output of the CoffeeScript compiler, by their places. -/
def isCompiledAt? (lines : List String) : Option Bool :=
  match lines.head? with
  | none => some false
  | some first =>
    if banner.toList.isPrefixOf first.toList then do
      let rest ← slice? lines 1 lines.length
      return ((← closureBodyAt? rest).getD rest).any Text.isInked
    else do
      return (← closureBodyAt? lines).any fun body =>
        body.foldl (fun n line => n + lineScore line) 0 ≥ leastScore

theorem closureBodyAt?_eq (lines : List String) :
    closureBodyAt? lines = some (closureBody? lines) := by
  by_cases h : 3 ≤ lines.length
  · obtain ⟨head, body, foot, last, rfl⟩ := exists_places h
    have h_long : ¬ (head :: (body ++ [foot, last])).length < 3 := Nat.not_lt.mpr h
    -- the places counted from the end are those of the foot and of the last line
    have h_two : placeFromEnd? (head :: (body ++ [foot, last])) 2 = some (body.length + 1) := by
      rw [placeFromEnd?, length_places, if_pos (by omega)]
      rfl
    have h_one : placeFromEnd? (head :: (body ++ [foot, last])) 1 = some (body.length + 2) := by
      rw [placeFromEnd?, length_places, if_pos (by omega)]
      rfl
    have h_slice : slice? (head :: (body ++ [foot, last])) 1 (body.length + 1) = some body := by
      rw [slice?, length_places, if_pos (by omega), List.take_succ_cons, List.take_left]
      rfl
    rw [closureBodyAt?, if_neg h_long, List.getElem?_cons_zero]
    simp only [Option.bind_eq_bind, Option.bind_some, h_two, h_one, h_slice, getElem?_foot,
      getElem?_last, closureBody?_places]
    by_cases h_head : head = closureHead
    · by_cases h_foot : foot = closureFoot
      · by_cases h_last : last = "" <;> simp [h_head, h_foot, h_last]
      · simp [h_foot]
    · simp [h_head]
  · have h_lt : lines.length < 3 := Nat.lt_of_not_le h
    rw [closureBody?_of_length_lt h_lt, closureBodyAt?, if_pos h_lt]
    rfl

theorem isCompiledAt?_eq (lines : List String) :
    isCompiledAt? lines = some (isCompiledCoffeeScript lines) := by
  cases lines with
  | nil => rfl
  | cons first rest =>
    have h_rest : slice? (first :: rest) 1 (first :: rest).length = some rest := by
      simp [slice?]
    rw [isCompiledAt?, List.head?_cons, isCompiledCoffeeScript]
    dsimp only
    rw [h_rest, closureBodyAt?_eq]
    split
    · rw [Option.bind_eq_bind, Option.bind_some, closureBodyAt?_eq]
      rfl
    · rfl

/-! ### Output of the compiler -/

/-- What is looked at behind the banner: the inside of a closure, or all of the lines if they are
not one. -/
def IsBehindBanner (body lines : List String) : Prop :=
  IsClosure lines ∧ body = inner lines ∨ ¬ IsClosure lines ∧ body = lines

theorem isBehindBanner_getD (lines : List String) :
    IsBehindBanner ((closureBody? lines).getD lines) lines := by
  cases h : closureBody? lines with
  | some body => exact .inl (closureBody?_eq_some_iff.mp h)
  | none => exact .inr ⟨closureBody?_eq_none_iff.mp h, rfl⟩

theorem IsBehindBanner.unique (h : IsBehindBanner body lines) :
    body = (closureBody? lines).getD lines := by
  rcases h with ⟨h_closure, rfl⟩ | ⟨h_not, rfl⟩
  · rw [closureBody?_eq_some_iff.mpr ⟨h_closure, rfl⟩]
    rfl
  · rw [closureBody?_eq_none_iff.mpr h_not]
    rfl

/-- Whether some line has a character that is not white space. -/
def HasInk (lines : List String) : Prop := ∃ line ∈ lines, ∃ c ∈ line.toList, Text.isBlank c = false

theorem any_isInked_iff : lines.any Text.isInked = true ↔ HasInk lines := by
  simp only [List.any_eq_true, HasInk, Text.isInked, Text.hasInk, Bool.not_eq_true']

/-- The score of several lines together. -/
def totalScore (lines : List String) : Nat :=
  lines.foldl (fun n line => n + declarationScore line) 0

/-- Lines that are output of the CoffeeScript compiler. -/
inductive IsOutput : List String → Prop
  /-- Behind the banner, there is something. -/
  | behindBanner {first rest body} : banner.toList <+: first.toList → IsBehindBanner body rest →
      HasInk body → IsOutput (first :: rest)
  /-- Without the banner, they are a closure with names of the compiler. -/
  | inClosure {first rest} : ¬ banner.toList <+: first.toList → IsClosure (first :: rest) →
      3 ≤ totalScore (inner (first :: rest)) → IsOutput (first :: rest)

theorem isCompiledCoffeeScript_iff : isCompiledCoffeeScript lines = true ↔ IsOutput lines := by
  cases lines with
  | nil => exact iff_of_false (by decide) (by rintro ⟨⟩)
  | cons first rest =>
    rw [isCompiledCoffeeScript]
    split
    · next h_banner =>
      rw [List.isPrefixOf_iff_prefix] at h_banner
      rw [any_isInked_iff]
      constructor
      · exact .behindBanner h_banner (isBehindBanner_getD rest)
      · -- what is looked at is settled by the lines, so it is what the function looks at
        rintro (⟨-, h_body, h_ink⟩ | ⟨h_not, -, -⟩)
        · rwa [← h_body.unique]
        · exact absurd h_banner h_not
    · next h_banner =>
      rw [List.isPrefixOf_iff_prefix] at h_banner
      rw [funext lineScore_eq, Option.any_eq_true]
      constructor
      · rintro ⟨body, h_body, h_score⟩
        obtain ⟨h_closure, rfl⟩ := closureBody?_eq_some_iff.mp h_body
        exact .inClosure h_banner h_closure (of_decide_eq_true h_score)
      · rintro (⟨h_begins, -, -⟩ | ⟨-, h_closure, h_score⟩)
        · exact absurd h_begins h_banner
        · exact ⟨_, closureBody?_eq_some_iff.mpr ⟨h_closure, rfl⟩, decide_eq_true h_score⟩

/-! ### Closures with nothing inside -/

theorem declarationScore_of_not_inked (h : ∀ c ∈ line.toList, Text.isBlank c = true) :
    declarationScore line = 0 := by
  rw [declarationScore, if_neg]
  -- a declaration has letters
  intro h_declares
  have h_letter : 'v' ∈ line.toList := h_declares.subset (by decide)
  exact absurd (h 'v' h_letter) (by decide)

theorem hasInk_cons_iff : HasInk (line :: lines) ↔
    (∃ c ∈ line.toList, Text.isBlank c = false) ∨ HasInk lines := by
  simp only [HasInk, List.mem_cons, exists_eq_or_imp]

theorem totalScore_of_not_hasInk (h : ¬ HasInk lines) : totalScore lines = 0 := by
  induction lines with
  | nil => rfl
  | cons line lines ih =>
    rw [hasInk_cons_iff, not_or] at h
    have h_blank : ∀ c ∈ line.toList, Text.isBlank c = true := by
      intro c hc
      rw [← Bool.not_eq_false]
      exact fun h_inked => h.1 ⟨c, hc, h_inked⟩
    rw [totalScore, List.foldl_cons, declarationScore_of_not_inked h_blank]
    exact ih h.2

theorem not_banner_of_isClosure {first : String} {rest : List String}
    (h : IsClosure (first :: rest)) : ¬ banner.toList <+: first.toList := by
  obtain rfl : first = closureHead := Option.some.inj h.head
  decide

theorem not_isOutput_of_isClosure (h : IsClosure lines) (h_ink : ¬ HasInk (inner lines)) :
    ¬ IsOutput lines := by
  rintro (⟨h_banner, -, -⟩ | ⟨-, -, h_score⟩)
  · exact not_banner_of_isClosure h h_banner
  · rw [totalScore_of_not_hasInk h_ink] at h_score
    exact absurd h_score (by decide)

theorem not_isOutput_behindBanner {first : String} (h : IsClosure lines)
    (h_banner : banner.toList <+: first.toList) (h_ink : ¬ HasInk (inner lines)) :
    ¬ IsOutput (first :: lines) := by
  rintro (⟨-, ⟨-, rfl⟩ | ⟨h_not, -⟩, h_body⟩ | ⟨h_not, -, -⟩)
  · exact h_ink h_body
  · exact h_not h
  · exact h_not h_banner

/-- **Output of the CoffeeScript compiler is recognised exactly.** A closure without ink inside is
none, be it behind a banner or not, and no line is looked for where there is none. -/
theorem isCompiledCoffeeScript_exactly (lines : List String) :
    (isCompiledCoffeeScript lines = true ↔ IsOutput lines) ∧
    (IsClosure lines → ¬ HasInk (inner lines) → isCompiledCoffeeScript lines = false ∧
      ∀ first : String, banner.toList <+: first.toList →
        isCompiledCoffeeScript (first :: lines) = false) ∧
    isCompiledAt? lines = some (isCompiledCoffeeScript lines) := by
  refine ⟨isCompiledCoffeeScript_iff, ?_, isCompiledAt?_eq lines⟩
  intro h_closure h_ink
  constructor
  · rw [← Bool.not_eq_true, isCompiledCoffeeScript_iff]
    exact not_isOutput_of_isClosure h_closure h_ink
  · intro first h_banner
    rw [← Bool.not_eq_true, isCompiledCoffeeScript_iff]
    exact not_isOutput_behindBanner h_closure h_banner h_ink

/-- A closure of blank lines. -/
def blankClosure : List String := [closureHead, "", " \t", closureFoot, ""]

/-- It is not recognised, with or without the banner. -/
theorem isCompiledCoffeeScript_exactly_blankClosure :
    IsClosure blankClosure ∧ ¬ HasInk (inner blankClosure) ∧
      isCompiledCoffeeScript blankClosure = false ∧
      isCompiledCoffeeScript ("// Generated by CoffeeScript 1.3.3" :: blankClosure) = false := by
  have h_closure : IsClosure blankClosure := ⟨by decide, rfl, rfl, rfl⟩
  have h_ink : ¬ HasInk (inner blankClosure) := by
    rw [← any_isInked_iff]
    decide +kernel
  have h_banner : banner.toList <+: "// Generated by CoffeeScript 1.3.3".toList := by decide +kernel
  obtain ⟨h_bare, h_behind⟩ := (isCompiledCoffeeScript_exactly blankClosure).2.1 h_closure h_ink
  exact ⟨h_closure, h_ink, h_bare, h_behind _ h_banner⟩

/-- A helper counts three, and the temporary that begins inside its name one more. -/
example : declarationScore "  var __indexOf;" = 4 := by decide +kernel

end FileProfile.Provenance
