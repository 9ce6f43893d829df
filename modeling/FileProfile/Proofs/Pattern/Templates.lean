import FileProfile.Proofs.Pattern.Starts

/-!
# Patterns of names

A pattern of a name describes a text up to its end, and asks nothing of the neighbours of its parts
(`isName`). So it either fits a text as a whole or it does not, wherever the text stands
(`startsAt_iff_fits`).

What such a pattern says can be written as a template, a row of segments: one of some words, a
stretch without a character, or a run of digits. `template?` reads the template off a pattern, and
the pattern fits the texts that the template spells (`fits_iff_spells`).
-/

namespace FileProfile

/-- The only character that is not in a set, if it is given as such. -/
def CharSet.other? : CharSet → Option Char
  | compl (between first last) => if first = last then some first else Option.none
  | _ => Option.none

theorem CharSet.contains_of_other? {s : CharSet} {c : Char} (h : s.other? = some c) (d : Char) :
    s.contains d = true ↔ d ≠ c := by
  unfold other? at h
  split at h
  · next first last =>
    obtain ⟨rfl, h_some⟩ := Option.ite_none_right_eq_some.mp h
    obtain rfl := Option.some.inj h_some
    change (!(single first).contains d) = true ↔ d ≠ first
    rw [contains_single, Bool.not_eq_true', decide_eq_false_iff_not, ne_comm]
  · cases h

namespace Pattern

variable {p q : Pattern} {c : Char} {before after : Option Char} {cs m : List Char}

/-! ### Patterns that ask nothing of the neighbours -/

/-- No edge stands in the pattern. -/
def isEdgeFree : Pattern → Bool
  | empty => true
  | one _ => true
  | edge _ => false
  | seq p q => p.isEdgeFree && q.isEdgeFree
  | alt p q => p.isEdgeFree && q.isEdgeFree
  | repeated p _ _ => p.isEdgeFree

theorem matches_of_isEdgeFree (h : p.isEdgeFree = true) (h_match : Matches p before m after)
    (before' after' : Option Char) : Matches p before' m after' := by
  -- a part keeps one neighbour inside the stretch, and the other may be any as well
  induction h_match generalizing before' after' with
  | empty => exact .empty
  | one h_contains => exact .one h_contains
  | edge _ => cases h
  | seq _ _ ihp ihq =>
    obtain ⟨hp, hq⟩ := Bool.and_eq_true _ _ ▸ h
    exact .seq (ihp hp _ _) (ihq hq _ _)
  | altLeft _ ih => exact .altLeft (ih (Bool.and_eq_true _ _ ▸ h).1 _ _)
  | altRight _ ih => exact .altRight (ih (Bool.and_eq_true _ _ ▸ h).2 _ _)
  | repeatedNil => exact .repeatedNil
  | repeatedCons h_most _ _ ih_first ih_others =>
    exact .repeatedCons h_most (ih_first h _ _) (ih_others h _ _)

/-- No stretch of the pattern holds the character. -/
def avoids (c : Char) : Pattern → Bool
  | empty => true
  | one s => !s.contains c
  | edge _ => true
  | seq p q => p.avoids c && q.avoids c
  | alt p q => p.avoids c && q.avoids c
  | repeated p _ _ => p.avoids c

theorem not_mem_of_avoids (h : p.avoids c = true) (h_match : Matches p before m after) :
    c ∉ m := by
  induction h_match with
  | empty => exact List.not_mem_nil
  | one h_contains =>
    rw [List.mem_singleton]
    rintro rfl
    exact absurd (h_contains.symm.trans (Bool.not_eq_true' _ ▸ h)) (by decide)
  | edge _ => exact List.not_mem_nil
  | seq _ _ ihp ihq =>
    obtain ⟨hp, hq⟩ := Bool.and_eq_true _ _ ▸ h
    exact mt List.mem_append.mp (not_or.mpr ⟨ihp hp, ihq hq⟩)
  | altLeft _ ih => exact ih (Bool.and_eq_true _ _ ▸ h).1
  | altRight _ ih => exact ih (Bool.and_eq_true _ _ ▸ h).2
  | repeatedNil => exact List.not_mem_nil
  | repeatedCons _ _ _ ih_first ih_others =>
    exact mt List.mem_append.mp (not_or.mpr ⟨ih_first h, ih_others h⟩)

/-! ### Patterns that fit as a whole -/

/-- The pattern describes all of a text. -/
def Fits (p : Pattern) (cs : List Char) : Prop := Matches p none cs none

/-- Parts that ask nothing of their neighbours, and then the end of the text. -/
def isName : Pattern → Bool
  | edge .textEnd => true
  | seq p q => p.isEdgeFree && q.isName
  | _ => false

/-- The induction is along the row of parts: it is the last one that sees what stands behind. -/
theorem matches_of_isName (h : p.isName = true) (h_match : Matches p before m after) :
    after = none ∧ ∀ before', Matches p before' m none := by
  induction p generalizing before m with
  | edge e =>
    cases e with
    | textEnd =>
      obtain ⟨rfl, h_holds⟩ := matches_edge_iff.mp h_match
      exact ⟨Option.isNone_iff_eq_none.mp h_holds, fun _ => .edge rfl⟩
    | _ => cases h
  | seq p q _ ihq =>
    obtain ⟨hp, hq⟩ := Bool.and_eq_true _ _ ▸ h
    obtain ⟨l, r, rfl, h_left, h_right⟩ := matches_seq_iff.mp h_match
    obtain ⟨h_end, h_rest⟩ := ihq hq h_right
    exact ⟨h_end, fun _ => .seq (matches_of_isEdgeFree hp h_left _ _) (h_rest _)⟩
  | _ => cases h

theorem startsAt_iff_fits (h : p.isName = true) : p.StartsAt before cs ↔ p.Fits cs := by
  constructor
  · rintro ⟨m, r, rfl, h_match⟩
    obtain ⟨h_end, h_all⟩ := matches_of_isName h h_match
    rw [List.head?_eq_none_iff.mp h_end, List.append_nil]
    exact h_all none
  · intro h_fits
    exact ⟨cs, [], (List.append_nil cs).symm, (matches_of_isName h h_fits).2 before⟩

theorem standsIn_iff_fits (h : p.isName = true) :
    p.StandsIn cs ↔ ∃ l r, cs = l ++ r ∧ p.Fits r := by
  simp only [standsIn_iff_startsAt, startsAt_iff_fits h]

/-! ### Templates -/

/-- A part of a template. -/
inductive Segment where
  /-- One of these words. -/
  | words (ws : List (List Char))
  /-- Any stretch without this character. -/
  | without (c : Char)
  /-- At least one digit. -/
  | number
  deriving DecidableEq

/-- One of these words, as they are written. -/
def Segment.oneOf (ws : List String) : Segment := words (ws.map String.toList)

/-- This word, as it is written. -/
def Segment.word (w : String) : Segment := oneOf [w]

/-- Whether a stretch is what a segment asks for. -/
def Segment.Holds : Segment → List Char → Prop
  | words ws, m => m ∈ ws
  | without c, m => c ∉ m
  | number, m => m ≠ [] ∧ ∀ c ∈ m, Text.isDigit c = true

/-- A template spells the texts that are stretches of its segments, one after the other. -/
def Spells : List Segment → List Char → Prop
  | [], cs => cs = []
  | s :: ss, cs => ∃ l r, cs = l ++ r ∧ s.Holds l ∧ Spells ss r

variable {s : Segment} {ss ts : List Segment} {ws : List (List Char)}

theorem spells_singleton_iff : Spells [s] cs ↔ s.Holds cs := by
  constructor
  · rintro ⟨l, _, rfl, h_holds, rfl⟩
    rw [List.append_nil]
    exact h_holds
  · intro h_holds
    exact ⟨cs, [], (List.append_nil cs).symm, h_holds, rfl⟩

theorem spells_append_iff :
    Spells (ss ++ ts) cs ↔ ∃ l r, cs = l ++ r ∧ Spells ss l ∧ Spells ts r := by
  induction ss generalizing cs with
  | nil =>
    constructor
    · intro h
      exact ⟨[], cs, rfl, rfl, h⟩
    · rintro ⟨_, r, rfl, rfl, h⟩
      exact h
  | cons s ss ih =>
    constructor
    · rintro ⟨l, r, rfl, h_first, h_rest⟩
      obtain ⟨l', r', rfl, h_left, h_right⟩ := ih.mp h_rest
      exact ⟨l ++ l', r', (List.append_assoc l l' r').symm, ⟨l, l', rfl, h_first, h_left⟩, h_right⟩
    · rintro ⟨_, r, rfl, ⟨l, l', rfl, h_first, h_left⟩, h_right⟩
      exact ⟨l, l' ++ r, List.append_assoc l l' r, h_first, ih.mpr ⟨l', r, rfl, h_left, h_right⟩⟩

/-- The words that a pattern describes, if it describes words only. -/
def words? : Pattern → Option (List (List Char))
  | empty => some [[]]
  | one (.between first last) => if first = last then some [[first]] else none
  | seq p q => do
    let ls ← p.words?
    let rs ← q.words?
    some (ls.flatMap fun l => rs.map (l ++ ·))
  | alt p q => do
    let ls ← p.words?
    let rs ← q.words?
    some (ls ++ rs)
  | repeated p 0 (some 1) => do
    let ws ← p.words?
    some ([] :: ws)
  | _ => none

/-- The segment of a run over a set. -/
def run? : Pattern → Option Segment
  | repeated (one s) least none =>
    if least = 0 then s.other?.map .without
    else if least = 1 ∧ s = .digit then some .number
    else none
  | _ => none

/-- The segment of a pattern that is a single one. -/
def segment? (p : Pattern) : Option Segment :=
  match p.words? with
  | some ws => some (.words ws)
  | none => p.run?

/-- The segments of a pattern without edges. -/
def segments? : Pattern → Option (List Segment)
  | seq p q =>
    -- letters in a row are a single word
    match (seq p q).segment? with
    | some s => some [s]
    | none => do
      let ss ← p.segments?
      let ts ← q.segments?
      some (ss ++ ts)
  | p => p.segment?.map fun s => [s]

/-- The template of a pattern of a name. -/
def template? : Pattern → Option (List Segment)
  | edge .textEnd => some []
  | seq p q => do
    let ss ← p.segments?
    let ts ← q.template?
    some (ss ++ ts)
  | _ => none

theorem matches_optional_iff :
    Matches (optional p) before m after ↔ m = [] ∨ Matches p before m after := by
  rw [optional, matches_repeated_iff]
  constructor
  · rintro ⟨n, -, h_most, h_times⟩
    have h_le : n ≤ 1 := h_most 1 rfl
    obtain rfl | rfl : n = 0 ∨ n = 1 := by omega
    · exact .inl (matches_times_zero_iff.mp h_times)
    · obtain ⟨l, r, rfl, h_match, h_rest⟩ := matches_times_succ_iff.mp h_times
      obtain rfl := matches_times_zero_iff.mp h_rest
      rw [List.append_nil]
      exact .inr h_match
  · rintro (rfl | h_match)
    · exact ⟨0, Nat.le_refl 0, fun _ _ => Nat.zero_le _, matches_times_zero_iff.mpr rfl⟩
    · refine ⟨1, Nat.zero_le 1, ?_, matches_times_succ_iff.mpr ?_⟩
      · rintro k h_most
        exact Nat.le_of_eq (Option.some.inj h_most)
      · exact ⟨m, [], (List.append_nil m).symm, h_match, matches_times_zero_iff.mpr rfl⟩

theorem matches_iff_mem_words (h : p.words? = some ws) : Matches p before m after ↔ m ∈ ws := by
  fun_induction words? p generalizing before m after ws with
  | case1 =>
    obtain rfl := Option.some.inj h
    rw [matches_empty_iff, List.mem_singleton]
  | case2 c =>
    obtain rfl := Option.some.inj h
    change Matches (char c) before m after ↔ m ∈ [[c]]
    simp only [char, matches_one_iff, CharSet.contains_single, decide_eq_true_eq,
      List.mem_singleton, exists_eq_right']
  | case3 => cases h
  | case4 p q ihp ihq =>
    obtain ⟨ls, hp, h⟩ := Option.bind_eq_some_iff.mp h
    obtain ⟨rs, hq, h⟩ := Option.bind_eq_some_iff.mp h
    obtain rfl := Option.some.inj h
    simp only [matches_seq_iff, ihp hp, ihq hq, List.mem_flatMap, List.mem_map]
    constructor
    · rintro ⟨l, r, rfl, hl, hr⟩
      exact ⟨l, hl, r, hr, rfl⟩
    · rintro ⟨l, hl, r, hr, rfl⟩
      exact ⟨l, r, rfl, hl, hr⟩
  | case5 p q ihp ihq =>
    obtain ⟨ls, hp, h⟩ := Option.bind_eq_some_iff.mp h
    obtain ⟨rs, hq, h⟩ := Option.bind_eq_some_iff.mp h
    obtain rfl := Option.some.inj h
    rw [matches_alt_iff, ihp hp, ihq hq, List.mem_append]
  | case6 p ih =>
    obtain ⟨ws, hp, h⟩ := Option.bind_eq_some_iff.mp h
    obtain rfl := Option.some.inj h
    change Matches (optional p) before m after ↔ m ∈ [] :: ws
    rw [matches_optional_iff, ih hp, List.mem_cons]
  | case7 => cases h

theorem matches_iff_holds_of_run? (h : p.run? = some s) : Matches p before m after ↔ s.Holds m := by
  unfold run? at h
  split at h
  · next set least =>
    split at h
    · next h_least =>
      obtain ⟨c, h_other, rfl⟩ := Option.map_eq_some_iff.mp h
      rw [h_least]
      simp only [matches_run_iff, CharSet.contains_of_other? h_other, Nat.zero_le, true_and]
      constructor
      · intro h_all h_mem
        exact h_all c h_mem rfl
      · rintro h_not_mem d hd rfl
        exact h_not_mem hd
    · obtain ⟨⟨rfl, rfl⟩, h_some⟩ := Option.ite_none_right_eq_some.mp h
      obtain rfl := Option.some.inj h_some
      rw [matches_run_iff, Nat.one_le_iff_ne_zero, ne_eq, List.length_eq_zero_iff]
      rfl
  · cases h

theorem matches_iff_holds (h : p.segment? = some s) : Matches p before m after ↔ s.Holds m := by
  unfold segment? at h
  split at h
  · next ws h_words =>
    obtain rfl := Option.some.inj h
    exact matches_iff_mem_words h_words
  · exact matches_iff_holds_of_run? h

theorem matches_iff_spells (h : p.segments? = some ss) :
    Matches p before m after ↔ Spells ss m := by
  fun_induction segments? p generalizing before m after ss with
  | case1 p q s h_segment =>
    obtain rfl := Option.some.inj h
    rw [spells_singleton_iff, matches_iff_holds h_segment]
  | case2 p q h_none ihp ihq =>
    obtain ⟨ss, hp, h⟩ := Option.bind_eq_some_iff.mp h
    obtain ⟨ts, hq, h⟩ := Option.bind_eq_some_iff.mp h
    obtain rfl := Option.some.inj h
    simp only [matches_seq_iff, ihp hp, ihq hq, spells_append_iff]
  | case3 p =>
    obtain ⟨s, h_segment, rfl⟩ := Option.map_eq_some_iff.mp h
    rw [spells_singleton_iff, matches_iff_holds h_segment]

/-- **A pattern of a name fits what its template spells.** -/
theorem fits_iff_spells (h : p.template? = some ss) : p.Fits cs ↔ Spells ss cs := by
  have h_fits (before : Option Char) : Matches p before cs none ↔ Spells ss cs := by
    fun_induction template? p generalizing before cs ss with
    | case1 =>
      obtain rfl := Option.some.inj h
      rw [matches_edge_iff]
      exact and_iff_left rfl
    | case2 p q ih =>
      obtain ⟨ss, hp, h⟩ := Option.bind_eq_some_iff.mp h
      obtain ⟨ts, hq, h⟩ := Option.bind_eq_some_iff.mp h
      obtain rfl := Option.some.inj h
      simp only [matches_seq_iff, matches_iff_spells hp, ih hq, spells_append_iff]
    | case3 => cases h
  exact h_fits none

end Pattern

end FileProfile
