import FileProfile.Pattern.Search
import FileProfile.Proofs.Pattern.Starts
import FileProfile.Proofs.Text.Returns

/-!
# Patterns that do not see the returns at the ends of lines

A search that looks for a pattern in a text and in the same text with a return in front of every
line feed may well get two answers: a pattern can ask for a line feed behind a letter, and no line
feed stands there in the second text. `ignoresReturnsThroughout` is a check on the pattern alone,
and a pattern that passes it is found in both texts or in neither (`foundIn_withReturns`).

A stretch of the second text comes from one of the first as long as it is not cut in the end of a
line, behind the return. Three conditions see to that, each with a check of its own:

* `endsClear` and `startsClear` — no stretch of the pattern ends, or starts, at such a cut. Where
  two patterns meet, one of the two is enough;
* `ignoresReturns` — between cuts of the other kind, the pattern describes the same in both texts.
  A character is taken from a set that has neither the return nor the line feed; only a run of any
  length may be over a set that has both, since the run then takes the return along;
* `ignoresReturnsAtEnd` — the same for the last part of a pattern, behind which a cut in the end of
  a line does no harm. There a single character from a set that has both will do, and so will the
  end of the line behind a run.
-/

namespace FileProfile.Pattern

open FileProfile.Text

/-! ### Cuts in the end of a line -/

/-- No stretch of the pattern ends between a return and the line feed behind it. -/
def EndsClear (p : Pattern) : Prop :=
  ∀ ⦃before m⦄, Matches p before m (some '\n') → m.getLast?.or before ≠ some '\r'

/-- No stretch of the pattern starts between a return and the line feed behind it. -/
def StartsClear (p : Pattern) : Prop :=
  ∀ ⦃m after⦄, Matches p (some '\r') m after → m.head?.or after ≠ some '\n'

/-- A check for `EndsClear`. -/
def endsClear : Pattern → Bool
  | empty => false
  | one s => !s.contains '\r'
  | edge e => !e.holds (some '\r') (some '\n')
  | seq _ q => q.endsClear
  | alt p q => p.endsClear && q.endsClear
  | repeated p least _ => least != 0 && p.endsClear

/-- A check for `StartsClear`. -/
def startsClear : Pattern → Bool
  | empty => false
  | one s => !s.contains '\n'
  | edge e => !e.holds (some '\r') (some '\n')
  | seq p _ => p.startsClear
  | alt p q => p.startsClear && q.startsClear
  | repeated p least _ => least != 0 && p.startsClear

section Clear

variable {p q : Pattern}

theorem EndsClear.not_matches (h : EndsClear p) {before : Option Char} {l : List Char} :
    ¬ Matches p before (l ++ ['\r']) (some '\n') := by
  intro h_match
  refine h h_match ?_
  rw [List.getLast?_append]
  rfl

theorem StartsClear.not_startsAt (h : StartsClear p) {r : List Char} :
    ¬ p.StartsAt (some '\r') ('\n' :: r) := by
  rintro ⟨m, x, h_eq, h_match⟩
  refine h h_match ?_
  rw [← List.head?_append, ← h_eq]
  rfl

theorem EndsClear.seq (h : EndsClear q) : EndsClear (seq p q) := by
  intro before m h_match
  obtain ⟨l, r, rfl, -, hq⟩ := matches_seq_iff.mp h_match
  rw [List.getLast?_append, Option.or_assoc]
  exact h hq

theorem StartsClear.seq (h : StartsClear p) : StartsClear (seq p q) := by
  intro m after h_match
  obtain ⟨l, r, rfl, hp, -⟩ := matches_seq_iff.mp h_match
  rw [List.head?_append, Option.or_assoc]
  exact h hp

/-- Repetitions are the first of them and the others in sequence. -/
theorem matches_times_succ_iff_seq {n : Nat} {before after : Option Char} {m : List Char} :
    Matches (times p (n + 1)) before m after ↔ Matches (.seq p (times p n)) before m after :=
  matches_times_succ_iff.trans matches_seq_iff.symm

/-- The last of several stretches ends where all of them end. The induction puts one more in front,
and so the last one is never touched. -/
theorem EndsClear.times (h : EndsClear p) (n : Nat) : EndsClear (times p (n + 1)) := by
  induction n with
  | zero =>
    intro before m h_match
    obtain ⟨l, r, rfl, hp, hr⟩ := matches_times_succ_iff.mp h_match
    obtain rfl := matches_times_zero_iff.mp hr
    rw [List.append_nil]
    exact h hp
  | succ n ih =>
    intro before m h_match
    exact ih.seq (matches_times_succ_iff_seq.mp h_match)

theorem StartsClear.times (h : StartsClear p) (n : Nat) : StartsClear (times p (n + 1)) := by
  intro m after h_match
  exact h.seq (matches_times_succ_iff_seq.mp h_match)

/-- A repetition that may not be empty is one of some positive number. -/
theorem matches_times_succ_of_repeated {least : Nat} {most : Option Nat} (h : least ≠ 0)
    {before after : Option Char} {m : List Char}
    (h_match : Matches (repeated p least most) before m after) :
    ∃ n, Matches (times p (n + 1)) before m after := by
  obtain ⟨n, h_least, -, h_times⟩ := matches_repeated_iff.mp h_match
  obtain ⟨k, rfl⟩ := Nat.exists_eq_succ_of_ne_zero (by omega : n ≠ 0)
  exact ⟨k, h_times⟩

theorem endsClear_sound (h : p.endsClear = true) : EndsClear p := by
  induction p with
  | empty => cases h
  | one s =>
    intro before m h_match
    obtain ⟨c, rfl, hc⟩ := matches_one_iff.mp h_match
    intro h_return
    obtain rfl : c = '\r' := Option.some.inj h_return
    rw [endsClear, hc] at h
    cases h
  | edge e =>
    intro before m h_match
    obtain ⟨rfl, h_holds⟩ := matches_edge_iff.mp h_match
    rintro rfl
    rw [endsClear, h_holds] at h
    cases h
  | seq p q _ ihq => exact (ihq h).seq
  | alt p q ihp ihq =>
    obtain ⟨hp, hq⟩ := Bool.and_eq_true _ _ ▸ h
    intro before m h_match
    rcases matches_alt_iff.mp h_match with h_left | h_right
    · exact ihp hp h_left
    · exact ihq hq h_right
  | repeated p least most ih =>
    -- there is a last stretch, since there is one at all
    obtain ⟨h_least, hp⟩ := Bool.and_eq_true _ _ ▸ h
    intro before m h_match
    obtain ⟨n, h_times⟩ := matches_times_succ_of_repeated (by simpa using h_least) h_match
    exact (ih hp).times n h_times

theorem startsClear_sound (h : p.startsClear = true) : StartsClear p := by
  induction p with
  | empty => cases h
  | one s =>
    intro m after h_match
    obtain ⟨c, rfl, hc⟩ := matches_one_iff.mp h_match
    intro h_feed
    obtain rfl : c = '\n' := Option.some.inj h_feed
    rw [startsClear, hc] at h
    cases h
  | edge e =>
    intro m after h_match
    obtain ⟨rfl, h_holds⟩ := matches_edge_iff.mp h_match
    rintro rfl
    rw [startsClear, h_holds] at h
    cases h
  | seq p q ihp _ => exact (ihp h).seq
  | alt p q ihp ihq =>
    obtain ⟨hp, hq⟩ := Bool.and_eq_true _ _ ▸ h
    intro m after h_match
    rcases matches_alt_iff.mp h_match with h_left | h_right
    · exact ihp hp h_left
    · exact ihq hq h_right
  | repeated p least most ih =>
    obtain ⟨h_least, hp⟩ := Bool.and_eq_true _ _ ▸ h
    intro m after h_match
    obtain ⟨n, h_times⟩ := matches_times_succ_of_repeated (by simpa using h_least) h_match
    exact (ih hp).times n h_times

/-- The two patterns cannot meet between a return and the line feed behind it. -/
def MeetClear (p q : Pattern) : Prop := EndsClear p ∨ StartsClear q

theorem MeetClear.not_cut (h : MeetClear p q) {before after : Option Char} {l r : List Char}
    (hp : Matches p before (l ++ ['\r']) (some '\n'))
    (hq : Matches q (some '\r') ('\n' :: r) after) : False := by
  rcases h with h_ends | h_starts
  · exact h_ends.not_matches hp
  · exact h_starts hq rfl

end Clear

/-! ### Patterns that describe the same in both texts -/

/-- With returns, the pattern describes exactly the stretches that it describes without. -/
def IgnoresReturns (p : Pattern) : Prop :=
  ∀ ⦃before m after⦄,
    Matches p before (withReturns m) (after.map firstWithReturn) ↔ Matches p before m after

/-- A set that has both the return and the line feed. -/
def isAcrossLines (s : CharSet) : Bool := s.contains '\r' && s.contains '\n'

/-- A run over a set that has both the return and the line feed: of any length, or at least of any
positive length. -/
def isRun : Pattern → Nat → Option Nat → Bool
  | one s, least, none => isAcrossLines s && least ≤ 1
  | _, _, _ => false

/-- A check for `MeetClear`. -/
def meetClear (p q : Pattern) : Bool := p.endsClear || q.startsClear

/-- A check for `IgnoresReturns`. -/
def ignoresReturns : Pattern → Bool
  | empty => true
  | one s => !s.contains '\n'
  | edge e => e != .lineEnd
  | seq p q => p.ignoresReturns && q.ignoresReturns && meetClear p q
  | alt p q => p.ignoresReturns && q.ignoresReturns
  | repeated p least most => isRun p least most || p.ignoresReturns && meetClear p p

section Ignores

variable {p q : Pattern}

theorem meetClear_sound (h : meetClear p q = true) : MeetClear p q := by
  rcases (Bool.or_eq_true _ _).mp h with hp | hq
  · exact .inl (endsClear_sound hp)
  · exact .inr (startsClear_sound hq)

theorem isWordAt_map_firstWithReturn (after : Option Char) :
    Edge.isWordAt (after.map firstWithReturn) = Edge.isWordAt after := by
  cases after with
  | none => rfl
  | some c =>
    by_cases h : c = '\n'
    · rw [h]
      decide
    · simp [firstWithReturn, h]

/-- Only the end of a line is moved by a return. -/
theorem holds_map_firstWithReturn {e : Edge} (h : e ≠ .lineEnd) (before after : Option Char) :
    e.holds before (after.map firstWithReturn) = e.holds before after := by
  cases e with
  | lineEnd => exact absurd rfl h
  | textStart | lineStart | noWordBefore => rfl
  | textEnd => exact Option.isNone_map
  | wordEdge | noWordEdge | wordStart | wordEnd | noWordAfter =>
    simp only [Edge.holds, isWordAt_map_firstWithReturn]

/-- What stands behind a cut between two characters. -/
theorem head?_withReturns_or (r : List Char) (after : Option Char) :
    (withReturns r).head?.or (after.map firstWithReturn) =
      (r.head?.or after).map firstWithReturn := by
  rw [head?_withReturns, Option.map_or]

theorem IgnoresReturns.seq (hp : IgnoresReturns p) (hq : IgnoresReturns q) (h : MeetClear p q) :
    IgnoresReturns (seq p q) := by
  intro before m after
  rw [matches_seq_iff, matches_seq_iff]
  refine ⟨?_, ?_⟩
  · rintro ⟨l', r', h_cut, hl, hr⟩
    rcases eq_append_withReturns h_cut with ⟨l, r, rfl, rfl, rfl⟩ | ⟨l, r, -, rfl, rfl⟩
    · rw [head?_withReturns_or] at hl
      rw [getLast?_withReturns] at hr
      exact ⟨l, r, rfl, hp.mp hl, hq.mp hr⟩
    · -- the cut goes through the end of a line
      rw [List.getLast?_append] at hr
      exact (h.not_cut hl hr).elim
  · rintro ⟨l, r, rfl, hl, hr⟩
    refine ⟨withReturns l, withReturns r, withReturns_append l r, ?_, ?_⟩
    · rw [head?_withReturns_or]
      exact hp.mpr hl
    · rw [getLast?_withReturns]
      exact hq.mpr hr

theorem IgnoresReturns.alt (hp : IgnoresReturns p) (hq : IgnoresReturns q) :
    IgnoresReturns (alt p q) := by
  intro before m after
  rw [matches_alt_iff, matches_alt_iff, hp, hq]

theorem ignoresReturns_times_zero : IgnoresReturns (times p 0) := by
  intro before m after
  rw [matches_times_zero_iff, matches_times_zero_iff, withReturns_eq_nil]

theorem IgnoresReturns.times (hp : IgnoresReturns p) (h : MeetClear p p) (n : Nat) :
    IgnoresReturns (times p n) := by
  induction n with
  | zero => exact ignoresReturns_times_zero
  | succ n ih =>
    have h_seq : IgnoresReturns (.seq p (Pattern.times p n)) := by
      cases n with
      | zero =>
        -- nothing stands behind the only stretch
        intro before m after
        simp only [← matches_times_succ_iff_seq, matches_times_succ_iff, matches_times_zero_iff]
        refine ⟨?_, ?_⟩
        · rintro ⟨l, r, h_eq, hl, rfl⟩
          rw [List.append_nil] at h_eq
          exact ⟨m, [], (List.append_nil m).symm, hp.mp (h_eq ▸ hl), rfl⟩
        · rintro ⟨l, r, rfl, hl, rfl⟩
          exact ⟨withReturns l, [], by simp, hp.mpr hl, rfl⟩
      | succ k => exact hp.seq ih (h.imp_right fun h_starts => h_starts.times k)
    intro before m after
    rw [matches_times_succ_iff_seq, matches_times_succ_iff_seq]
    exact @h_seq before m after

theorem IgnoresReturns.repeated (h : ∀ n, IgnoresReturns (Pattern.times p n)) (least : Nat)
    (most : Option Nat) : IgnoresReturns (repeated p least most) := by
  intro before m after
  rw [matches_repeated_iff, matches_repeated_iff]
  exact exists_congr fun n => and_congr_right' (and_congr_right' (@h n before m after))

/-- A set that has both the return and the line feed has all of a text with returns or of none. -/
theorem forall_mem_withReturns_iff {s : CharSet} (h : isAcrossLines s = true) {m : List Char} :
    (∀ c ∈ withReturns m, s.contains c = true) ↔ ∀ c ∈ m, s.contains c = true := by
  obtain ⟨h_return, -⟩ := Bool.and_eq_true _ _ ▸ h
  refine ⟨?_, ?_⟩
  · intro h_all c hc
    exact h_all c (mem_withReturns_of_mem hc)
  · intro h_all c hc
    rcases of_mem_withReturns hc with hc | ⟨rfl, -⟩
    · exact h_all c hc
    · exact h_return

theorem ignoresReturns_run {s : CharSet} (h : isAcrossLines s = true) {least : Nat}
    (h_least : least ≤ 1) : IgnoresReturns (repeated (one s) least none) := by
  intro before m after
  -- a stretch that is not empty stays so
  have h_length : least ≤ (withReturns m).length ↔ least ≤ m.length := by
    cases m with
    | nil => rfl
    | cons c m =>
      have h_ne : withReturns (c :: m) ≠ [] := mt withReturns_eq_nil.mp (List.cons_ne_nil c m)
      have h_pos := List.length_pos_iff.mpr h_ne
      rw [List.length_cons]
      omega
  rw [matches_run_iff, matches_run_iff, forall_mem_withReturns_iff h, h_length]

theorem ignoresReturns_one {s : CharSet} (h : s.contains '\n' = false) :
    IgnoresReturns (one s) := by
  intro before m after
  rw [matches_one_iff, matches_one_iff]
  refine ⟨?_, ?_⟩
  · rintro ⟨c, h_eq, hc⟩
    obtain ⟨d, ds, rfl⟩ : ∃ d ds, m = d :: ds := by
      refine List.exists_cons_of_ne_nil ?_
      rintro rfl
      cases h_eq
    by_cases hd : d = '\n'
    · -- the stretch would be two characters long
      subst hd
      cases h_eq
    · rw [withReturns_cons_of_ne hd] at h_eq
      obtain ⟨rfl, h_nil⟩ := List.cons.inj h_eq
      rw [withReturns_eq_nil] at h_nil
      exact ⟨d, by rw [h_nil], hc⟩
  · rintro ⟨c, rfl, hc⟩
    have h_ne : c ≠ '\n' := by
      rintro rfl
      rw [h] at hc
      cases hc
    exact ⟨c, withReturns_cons_of_ne h_ne [], hc⟩

theorem isRun_eq_true {least : Nat} {most : Option Nat} (h : isRun p least most = true) :
    ∃ s, p = one s ∧ most = none ∧ isAcrossLines s = true ∧ least ≤ 1 := by
  unfold isRun at h
  split at h
  · obtain ⟨hs, h_least⟩ := Bool.and_eq_true _ _ ▸ h
    exact ⟨_, rfl, rfl, hs, of_decide_eq_true h_least⟩
  · cases h

theorem ignoresReturns_sound (h : p.ignoresReturns = true) : IgnoresReturns p := by
  induction p with
  | empty =>
    intro before m after
    rw [matches_empty_iff, matches_empty_iff, withReturns_eq_nil]
  | one s => exact ignoresReturns_one (by simpa [ignoresReturns] using h)
  | edge e =>
    intro before m after
    rw [matches_edge_iff, matches_edge_iff, withReturns_eq_nil,
      holds_map_firstWithReturn (bne_iff_ne.mp h)]
  | seq p q ihp ihq =>
    obtain ⟨h_both, h_meet⟩ := Bool.and_eq_true _ _ ▸ h
    obtain ⟨hp, hq⟩ := Bool.and_eq_true _ _ ▸ h_both
    exact (ihp hp).seq (ihq hq) (meetClear_sound h_meet)
  | alt p q ihp ihq =>
    obtain ⟨hp, hq⟩ := Bool.and_eq_true _ _ ▸ h
    exact (ihp hp).alt (ihq hq)
  | repeated p least most ih =>
    -- a run takes returns along, other stretches meet outside the ends of lines
    rcases (Bool.or_eq_true _ _).mp h with h_run | h_each
    · obtain ⟨s, rfl, rfl, hs, h_least⟩ := isRun_eq_true h_run
      exact ignoresReturns_run hs h_least
    · obtain ⟨hp, h_meet⟩ := Bool.and_eq_true _ _ ▸ h_each
      exact .repeated ((ih hp).times (meetClear_sound h_meet)) least most

end Ignores

/-! ### The last part of a pattern -/

/-- With returns, the pattern describes a start of exactly the texts of which it describes a start
without. -/
def IgnoresReturnsAtEnd (p : Pattern) : Prop :=
  ∀ ⦃before cs⦄, p.StartsAt before (withReturns cs) ↔ p.StartsAt before cs

/-- A run over a set that has both the return and the line feed, up to the end of a line. -/
def isRestOfLine : Pattern → Pattern → Bool
  | repeated (one s) 0 none, edge .lineEnd => isAcrossLines s
  | _, _ => false

/-- A check for `IgnoresReturnsAtEnd`. -/
def ignoresReturnsAtEnd : Pattern → Bool
  | one s => s.contains '\r' == s.contains '\n'
  | seq p q =>
    isRestOfLine p q || p.ignoresReturns && q.ignoresReturnsAtEnd && meetClear p q
  | alt p q => p.ignoresReturnsAtEnd && q.ignoresReturnsAtEnd
  | p => p.ignoresReturns && p.endsClear

/-- A check for patterns that are found in a text with returns exactly if they are found
without. -/
def ignoresReturnsThroughout (p : Pattern) : Bool := p.startsClear && p.ignoresReturnsAtEnd

section AtEnd

variable {p q : Pattern}

theorem IgnoresReturns.atEnd (hp : IgnoresReturns p) (h : EndsClear p) :
    IgnoresReturnsAtEnd p := by
  intro before cs
  refine ⟨?_, ?_⟩
  · rintro ⟨m', r', h_cut, h_match⟩
    rcases eq_append_withReturns h_cut with ⟨m, r, rfl, rfl, rfl⟩ | ⟨m, r, -, rfl, rfl⟩
    · rw [head?_withReturns] at h_match
      exact ⟨m, r, rfl, hp.mp h_match⟩
    · -- the stretch would end in the end of a line
      exact absurd h_match h.not_matches
  · rintro ⟨m, r, rfl, h_match⟩
    refine ⟨withReturns m, withReturns r, withReturns_append m r, ?_⟩
    rw [head?_withReturns]
    exact hp.mpr h_match

theorem IgnoresReturnsAtEnd.seq (hp : IgnoresReturns p) (hq : IgnoresReturnsAtEnd q)
    (h : MeetClear p q) : IgnoresReturnsAtEnd (seq p q) := by
  intro before cs
  rw [startsAt_seq_iff, startsAt_seq_iff]
  refine ⟨?_, ?_⟩
  · rintro ⟨l', r', h_cut, hl, hr⟩
    rcases eq_append_withReturns h_cut with ⟨l, r, rfl, rfl, rfl⟩ | ⟨l, r, -, rfl, rfl⟩
    · rw [head?_withReturns] at hl
      rw [getLast?_withReturns] at hr
      exact ⟨l, r, rfl, hp.mp hl, hq.mp hr⟩
    · -- the cut goes through the end of a line
      rw [List.getLast?_append] at hr
      rcases h with h_ends | h_starts
      · exact absurd hl h_ends.not_matches
      · exact absurd hr h_starts.not_startsAt
  · rintro ⟨l, r, rfl, hl, hr⟩
    refine ⟨withReturns l, withReturns r, withReturns_append l r, ?_, ?_⟩
    · rw [head?_withReturns]
      exact hp.mpr hl
    · rw [getLast?_withReturns]
      exact hq.mpr hr

theorem IgnoresReturnsAtEnd.alt (hp : IgnoresReturnsAtEnd p) (hq : IgnoresReturnsAtEnd q) :
    IgnoresReturnsAtEnd (alt p q) := by
  intro before cs
  rw [startsAt_alt_iff, startsAt_alt_iff, hp, hq]

theorem ignoresReturnsAtEnd_one {s : CharSet} (h : s.contains '\r' = s.contains '\n') :
    IgnoresReturnsAtEnd (one s) := by
  have h_first : (fun c => s.contains (firstWithReturn c)) = s.contains := by
    funext c
    by_cases hc : c = '\n'
    · rw [hc]
      exact h
    · rw [firstWithReturn, if_neg hc]
  intro before cs
  rw [startsAt_one_iff, startsAt_one_iff, head?_withReturns, Option.any_map, h_first]

/-- A run up to the end of a line. -/
theorem startsAt_restOfLine_iff {s : CharSet} {before : Option Char} {cs : List Char} :
    (seq (repeated (one s) 0 none) (edge .lineEnd)).StartsAt before cs ↔
      ∃ m r, cs = m ++ r ∧ (∀ c ∈ m, s.contains c = true) ∧ r.head?.all (· == '\n') = true := by
  rw [startsAt_seq_iff]
  refine ⟨?_, ?_⟩
  · rintro ⟨m, r, rfl, h_run, x, y, rfl, h_edge⟩
    obtain ⟨rfl, h_end⟩ := matches_edge_iff.mp h_edge
    exact ⟨m, y, rfl, (matches_run_iff.mp h_run).2, h_end⟩
  · rintro ⟨m, r, rfl, h_all, h_end⟩
    exact ⟨m, r, rfl, matches_run_iff.mpr ⟨Nat.zero_le _, h_all⟩, [], r, rfl, .edge h_end⟩

/-- Between two characters there is no end of a line, other than the end of the text. -/
theorem eq_nil_of_lineEnd_withReturns {r : List Char}
    (h : (withReturns r).head?.all (· == '\n') = true) : r = [] := by
  cases r with
  | nil => rfl
  | cons c r =>
    rw [head?_withReturns] at h
    have h_first : firstWithReturn c = '\n' := by simpa using h
    by_cases hc : c = '\n'
    · rw [hc] at h_first
      cases h_first
    · rw [firstWithReturn, if_neg hc] at h_first
      exact absurd h_first hc

theorem ignoresReturnsAtEnd_restOfLine {s : CharSet} (h : isAcrossLines s = true) :
    IgnoresReturnsAtEnd (seq (repeated (one s) 0 none) (edge .lineEnd)) := by
  obtain ⟨h_return, -⟩ := Bool.and_eq_true _ _ ▸ h
  intro before cs
  rw [startsAt_restOfLine_iff, startsAt_restOfLine_iff]
  refine ⟨?_, ?_⟩
  · rintro ⟨m', r', h_cut, h_all, h_end⟩
    rcases eq_append_withReturns h_cut with ⟨m, r, rfl, rfl, rfl⟩ | ⟨m, r, rfl, rfl, rfl⟩
    · -- a line feed has its return in front, so that this is the end of the text
      obtain rfl := eq_nil_of_lineEnd_withReturns h_end
      exact ⟨m, [], rfl, (forall_mem_withReturns_iff h).mp h_all, rfl⟩
    · -- without returns, the run ends one character earlier
      have h_front : ∀ c ∈ withReturns m, s.contains c = true :=
        fun c hc => h_all c (List.mem_append_left _ hc)
      exact ⟨m, '\n' :: r, rfl, (forall_mem_withReturns_iff h).mp h_front, rfl⟩
  · rintro ⟨m, r, rfl, h_all, h_end⟩
    have h_front := (forall_mem_withReturns_iff h).mpr h_all
    cases r with
    | nil => exact ⟨withReturns m, [], withReturns_append m [], h_front, h_end⟩
    | cons c r =>
      obtain rfl : c = '\n' := by simpa using h_end
      -- the run takes the return along
      refine ⟨withReturns m ++ ['\r'], '\n' :: withReturns r, by simp, ?_, rfl⟩
      intro c hc
      rcases List.mem_append.mp hc with hc | hc
      · exact h_front c hc
      · rw [List.mem_singleton.mp hc]
        exact h_return

theorem isRestOfLine_eq_true (h : isRestOfLine p q = true) :
    ∃ s, p = repeated (one s) 0 none ∧ q = edge .lineEnd ∧ isAcrossLines s = true := by
  unfold isRestOfLine at h
  split at h
  · exact ⟨_, rfl, rfl, h⟩
  · cases h

theorem ignoresReturnsAtEnd_sound (h : p.ignoresReturnsAtEnd = true) : IgnoresReturnsAtEnd p := by
  have h_plain : ∀ p : Pattern, (p.ignoresReturns && p.endsClear) = true → IgnoresReturnsAtEnd p := by
    intro p h
    obtain ⟨h_ignores, h_ends⟩ := Bool.and_eq_true _ _ ▸ h
    exact (ignoresReturns_sound h_ignores).atEnd (endsClear_sound h_ends)
  induction p with
  | empty | edge _ | repeated _ _ _ => exact h_plain _ h
  | one s => exact ignoresReturnsAtEnd_one (beq_iff_eq.mp h)
  | seq p q _ ihq =>
    rcases (Bool.or_eq_true _ _).mp h with h_rest | h_parts
    · obtain ⟨s, rfl, rfl, hs⟩ := isRestOfLine_eq_true h_rest
      exact ignoresReturnsAtEnd_restOfLine hs
    · obtain ⟨h_both, h_meet⟩ := Bool.and_eq_true _ _ ▸ h_parts
      obtain ⟨hp, hq⟩ := Bool.and_eq_true _ _ ▸ h_both
      exact .seq (ignoresReturns_sound hp) (ihq hq) (meetClear_sound h_meet)
  | alt p q ihp ihq =>
    obtain ⟨hp, hq⟩ := Bool.and_eq_true _ _ ▸ h
    exact (ihp hp).alt (ihq hq)

/-- **A pattern that passes the check is found with returns exactly if it is found without.** -/
theorem foundIn_withReturns (h : p.ignoresReturnsThroughout = true) (cs : List Char) :
    p.foundIn (withReturns cs) = p.foundIn cs := by
  obtain ⟨h_starts, h_rest⟩ := Bool.and_eq_true _ _ ▸ h
  have hp := ignoresReturnsAtEnd_sound h_rest
  rw [Bool.eq_iff_iff, foundIn_iff_standsIn, foundIn_iff_standsIn, standsIn_iff_startsAt,
    standsIn_iff_startsAt]
  refine ⟨?_, ?_⟩
  · rintro ⟨l', r', h_cut, h_at⟩
    rcases eq_append_withReturns h_cut with ⟨l, r, rfl, rfl, rfl⟩ | ⟨l, r, -, rfl, rfl⟩
    · rw [getLast?_withReturns] at h_at
      exact ⟨l, r, rfl, hp.mp h_at⟩
    · -- the pattern would start behind a return
      rw [List.getLast?_append] at h_at
      exact absurd h_at (startsClear_sound h_starts).not_startsAt
  · rintro ⟨l, r, rfl, h_at⟩
    refine ⟨withReturns l, withReturns r, withReturns_append l r, ?_⟩
    rw [getLast?_withReturns]
    exact hp.mpr h_at

/-- A line feed behind a letter is not found behind the same letter and a return. -/
example : (text "a\n").ignoresReturnsThroughout = false := by decide

end AtEnd

end FileProfile.Pattern
