import FileProfile.Pattern.Search

/-!
# Patterns that stay where a text grows

A pattern that stands in a text need not stand in the text with more behind it. Only at the very end
can it be told that something follows: a stretch that ends earlier keeps both of its neighbours. At
the end an edge may ask that nothing follows, or that no word does, and these edges are lost.

The edges that remain are safe as long as the text does not end in a word. An edge between words and
other characters then finds no word on either side of the end, and so it is not there whatever
follows, and no other edge looks at what follows at all (`Edge.holds_of_isOpen`). A pattern without
the edges that are lost, `isOpenEnded`, therefore stays where it stands (`foundIn_append`).
-/

namespace FileProfile

/-- The edges that a text which does not end in a word keeps at its end, whatever follows. -/
def Edge.isOpen : Edge → Bool
  | textEnd | lineEnd | noWordEdge | noWordAfter => false
  | textStart | lineStart | wordEdge | wordStart | wordEnd | noWordBefore => true

theorem Edge.holds_of_isOpen {e : Edge} {before : Option Char} (h_open : e.isOpen = true)
    (h_word : isWordAt before = false) (h_holds : e.holds before none = true)
    (after : Option Char) : e.holds before after = true := by
  cases e with
  | textStart | lineStart | noWordBefore => exact h_holds
  | textEnd | lineEnd | noWordEdge | noWordAfter => cases h_open
  | wordEdge | wordStart | wordEnd =>
    -- there is no word in front, and none behind
    simp only [holds, h_word] at h_holds
    cases h_holds

namespace Pattern

variable {p q : Pattern} {cs : List Char}

/-- A stretch that the pattern describes at the end of a text it describes with more behind, as long
as the text does not end in a word. -/
def OpenEnded (p : Pattern) : Prop :=
  ∀ ⦃before m⦄, Edge.isWordAt (m.getLast?.or before) = false → Matches p before m none →
    ∀ after, Matches p before m after

/-- A check for `OpenEnded`: no edge is lost where the text grows. -/
def isOpenEnded : Pattern → Bool
  | empty => true
  | one _ => true
  | edge e => e.isOpen
  | seq p q => p.isOpenEnded && q.isOpenEnded
  | alt p q => p.isOpenEnded && q.isOpenEnded
  | repeated p _ _ => p.isOpenEnded

theorem OpenEnded.seq (hp : OpenEnded p) (hq : OpenEnded q) : OpenEnded (seq p q) := by
  intro before m h_end h_match after
  obtain ⟨l, r, rfl, h_left, h_right⟩ := matches_seq_iff.mp h_match
  rw [List.getLast?_append, Option.or_assoc] at h_end
  refine .seq ?_ (hq h_end h_right after)
  cases r with
  | nil => exact @hp before l h_end h_left after
  | cons c r => exact h_left

theorem OpenEnded.alt (hp : OpenEnded p) (hq : OpenEnded q) : OpenEnded (alt p q) := by
  intro before m h_end h_match after
  rcases matches_alt_iff.mp h_match with h_left | h_right
  · exact .altLeft (hp h_end h_left after)
  · exact .altRight (hq h_end h_right after)

/-- The induction is on the number of stretches: the first of them, and all that follow it. -/
theorem OpenEnded.times (hp : OpenEnded p) (n : Nat) : OpenEnded (times p n) := by
  induction n with
  | zero =>
    intro before m _ h_match after
    rw [matches_times_zero_iff] at h_match ⊢
    exact h_match
  | succ n ih =>
    intro before m h_end h_match after
    obtain ⟨l, r, rfl, h_first, h_others⟩ := matches_times_succ_iff.mp h_match
    have h_both : Matches (.seq p (Pattern.times p n)) before (l ++ r) none :=
      .seq h_first h_others
    obtain ⟨l', r', h_cut, h_first', h_others'⟩ := matches_seq_iff.mp (hp.seq ih h_end h_both after)
    exact matches_times_succ_iff.mpr ⟨l', r', h_cut, h_first', h_others'⟩

theorem OpenEnded.repeated (hp : OpenEnded p) (least : Nat) (most : Option Nat) :
    OpenEnded (repeated p least most) := by
  intro before m h_end h_match after
  obtain ⟨n, h_least, h_most, h_times⟩ := matches_repeated_iff.mp h_match
  exact matches_repeated_iff.mpr ⟨n, h_least, h_most, hp.times n h_end h_times after⟩

theorem isOpenEnded_sound (h : p.isOpenEnded = true) : OpenEnded p := by
  induction p with
  | empty =>
    intro before m _ h_match after
    rw [matches_empty_iff] at h_match ⊢
    exact h_match
  | one s =>
    intro before m _ h_match after
    rw [matches_one_iff] at h_match ⊢
    exact h_match
  | edge e =>
    intro before m h_end h_match after
    obtain ⟨rfl, h_holds⟩ := matches_edge_iff.mp h_match
    exact .edge (Edge.holds_of_isOpen h h_end h_holds after)
  | seq p q ihp ihq =>
    obtain ⟨hp, hq⟩ := Bool.and_eq_true _ _ ▸ h
    exact (ihp hp).seq (ihq hq)
  | alt p q ihp ihq =>
    obtain ⟨hp, hq⟩ := Bool.and_eq_true _ _ ▸ h
    exact (ihp hp).alt (ihq hq)
  | repeated p least most ih => exact (ih h).repeated least most

/-- **A pattern that passes the check stays where a text grows,** if the text does not end in a
word. -/
theorem foundIn_append (h : p.isOpenEnded = true) (h_end : Edge.isWordAt cs.getLast? = false)
    (h_found : p.foundIn cs = true) (more : List Char) : p.foundIn (cs ++ more) = true := by
  rw [foundIn_iff_standsIn] at h_found ⊢
  obtain ⟨l, m, r, rfl, h_match⟩ := h_found
  refine ⟨l, m, r ++ more, List.append_assoc _ _ _, ?_⟩
  cases r with
  | nil =>
    -- the stretch reaches the end of the text
    rw [List.append_nil, List.getLast?_append] at h_end
    exact isOpenEnded_sound h h_end h_match more.head?
  | cons c r => exact h_match

end Pattern

end FileProfile
