import FileProfile.Pattern.CharSet

/-!
# Patterns

A pattern describes stretches of text: characters from given sets, in sequence, in alternatives, and
repeated; and edges, which take no characters but ask what stands on either side of a place. Since
edges look past the stretch, whether a pattern describes a stretch depends on its neighbours, the
characters just before and just after it.

* `Pattern.Matches p before stretch after` — `p` describes `stretch` between these neighbours;
* `Pattern.matches_repeated_iff` — a repetition is some exact number of repetitions;
* the functions after it build the patterns that rules are written with.
-/

namespace FileProfile

/-- A condition on a place in a text. -/
inductive Edge where
  | textStart
  | textEnd
  | lineStart
  | lineEnd
  | wordEdge
  | noWordEdge
  | wordStart
  | wordEnd
  | noWordBefore
  | noWordAfter
  deriving DecidableEq, Repr

namespace Edge

/-- Whether there is a neighbour and it is a word character. -/
def isWordAt (neighbour : Option Char) : Bool := neighbour.any Text.isWord

/-- Whether an edge lies between these two neighbours. -/
def holds : Edge → Option Char → Option Char → Bool
  | textStart, before, _ => before.isNone
  | textEnd, _, after => after.isNone
  | lineStart, before, _ => before.all (· == '\n')
  | lineEnd, _, after => after.all (· == '\n')
  | wordEdge, before, after => isWordAt before != isWordAt after
  | noWordEdge, before, after => isWordAt before == isWordAt after
  | wordStart, before, after => !isWordAt before && isWordAt after
  | wordEnd, before, after => isWordAt before && !isWordAt after
  | noWordBefore, before, _ => !isWordAt before
  | noWordAfter, _, after => !isWordAt after

end Edge

/-- A description of stretches of text. -/
inductive Pattern where
  /-- The empty stretch, anywhere. -/
  | empty
  /-- One character from a set. -/
  | one (s : CharSet)
  /-- The empty stretch at an edge. -/
  | edge (e : Edge)
  /-- A stretch of `p`, then one of `q`. -/
  | seq (p q : Pattern)
  /-- A stretch of `p` or of `q`. -/
  | alt (p q : Pattern)
  /-- From `least` to `most` stretches of `p`, one after the other; without `most`, any number from
  `least` on. -/
  | repeated (p : Pattern) (least : Nat) (most : Option Nat)
  deriving DecidableEq, Repr

namespace Pattern

/-- `Matches p before stretch after`: the pattern `p` describes `stretch` where `before` is the
character in front of it, if any, and `after` the one behind it. -/
inductive Matches : Pattern → Option Char → List Char → Option Char → Prop
  | empty {before after} : Matches empty before [] after
  | one {s before c after} : s.contains c = true → Matches (one s) before [c] after
  | edge {e before after} : e.holds before after = true → Matches (edge e) before [] after
  | seq {p q before l r after} : Matches p before l (r.head?.or after) →
      Matches q (l.getLast?.or before) r after → Matches (seq p q) before (l ++ r) after
  | altLeft {p q before l after} : Matches p before l after → Matches (alt p q) before l after
  | altRight {p q before l after} : Matches q before l after → Matches (alt p q) before l after
  | repeatedNil {p before after most} : Matches (repeated p 0 most) before [] after
  | repeatedCons {p before l r after least most} : most ≠ some 0 →
      Matches p before l (r.head?.or after) →
      Matches (repeated p (least - 1) (most.map (· - 1))) (l.getLast?.or before) r after →
      Matches (repeated p least most) before (l ++ r) after

/-- `p` stands somewhere in a text. -/
def StandsIn (p : Pattern) (cs : List Char) : Prop :=
  ∃ l m r, cs = l ++ m ++ r ∧ Matches p l.getLast? m r.head?

/-! ### What each pattern describes -/

theorem matches_seq_iff {p q : Pattern} {before after : Option Char} {m : List Char} :
    Matches (seq p q) before m after ↔ ∃ l r, m = l ++ r ∧ Matches p before l (r.head?.or after) ∧
      Matches q (l.getLast?.or before) r after := by
  constructor
  · intro h
    cases h with
    | seq hp hq => exact ⟨_, _, rfl, hp, hq⟩
  · rintro ⟨l, r, rfl, hp, hq⟩
    exact .seq hp hq

theorem matches_alt_iff {p q : Pattern} {before after : Option Char} {m : List Char} :
    Matches (alt p q) before m after ↔ Matches p before m after ∨ Matches q before m after := by
  constructor
  · intro h
    cases h with
    | altLeft h => exact .inl h
    | altRight h => exact .inr h
  · rintro (h | h)
    · exact .altLeft h
    · exact .altRight h

theorem matches_one_iff {s : CharSet} {before after : Option Char} {m : List Char} :
    Matches (one s) before m after ↔ ∃ c, m = [c] ∧ s.contains c = true := by
  constructor
  · intro h
    cases h with
    | one h => exact ⟨_, rfl, h⟩
  · rintro ⟨c, rfl, h⟩
    exact .one h

theorem matches_empty_iff {before after : Option Char} {m : List Char} :
    Matches empty before m after ↔ m = [] := by
  constructor
  · intro h; cases h; rfl
  · rintro rfl; exact .empty

theorem matches_edge_iff {e : Edge} {before after : Option Char} {m : List Char} :
    Matches (edge e) before m after ↔ m = [] ∧ e.holds before after = true := by
  constructor
  · intro h; cases h with | edge h => exact ⟨rfl, h⟩
  · rintro ⟨rfl, h⟩; exact .edge h

/-! ### Repetition

A repetition describes a stretch by some exact number of repetitions within its bounds; so what
holds of exact numbers carries over to all. -/

/-- Exactly `n` stretches of `p`. -/
def times (p : Pattern) (n : Nat) : Pattern := repeated p n (some n)

theorem matches_times_zero_iff {p : Pattern} {before after : Option Char} {m : List Char} :
    Matches (times p 0) before m after ↔ m = [] := by
  constructor
  · intro h
    cases h with
    | repeatedNil => rfl
    | repeatedCons h => exact absurd rfl h
  · rintro rfl
    exact .repeatedNil

theorem matches_times_succ_iff {p : Pattern} {n : Nat} {before after : Option Char}
    {m : List Char} :
    Matches (times p (n + 1)) before m after ↔ ∃ l r, m = l ++ r ∧
      Matches p before l (r.head?.or after) ∧
      Matches (times p n) (l.getLast?.or before) r after := by
  constructor
  · intro h
    cases h with
    | repeatedCons _ hp hr => exact ⟨_, _, rfl, hp, hr⟩
  · rintro ⟨l, r, rfl, hp, hr⟩
    exact .repeatedCons (by simp) hp hr

/-- A repetition is some exact number of repetitions within its bounds. -/
theorem matches_repeated_iff {p : Pattern} {least : Nat} {most : Option Nat}
    {before after : Option Char} {m : List Char} :
    Matches (repeated p least most) before m after ↔
      ∃ n, least ≤ n ∧ (∀ k ∈ most, n ≤ k) ∧ Matches (times p n) before m after := by
  constructor
  · intro h
    generalize hq : repeated p least most = q at h
    induction h generalizing least most with
    | repeatedNil =>
      cases hq
      exact ⟨0, Nat.le_refl 0, fun _ _ => Nat.zero_le _, .repeatedNil⟩
    | repeatedCons hmost hp _ _ ih =>
      cases hq
      obtain ⟨n, hl, hm, hr⟩ := ih rfl
      refine ⟨n + 1, by omega, fun k hk => ?_, matches_times_succ_iff.2 ⟨_, _, rfl, hp, hr⟩⟩
      have := hm (k - 1) (by rw [hk]; rfl)
      have : k ≠ 0 := by rintro rfl; exact hmost hk
      omega
    | _ => cases hq
  · rintro ⟨n, hl, hm, h⟩
    induction n generalizing least most before m with
    | zero =>
      obtain rfl := matches_times_zero_iff.1 h
      obtain rfl : least = 0 := by omega
      exact .repeatedNil
    | succ n ih =>
      obtain ⟨l, r, rfl, hp, hr⟩ := matches_times_succ_iff.1 h
      refine .repeatedCons ?_ hp (ih (by omega) ?_ hr)
      · rintro rfl
        exact absurd (hm 0 rfl) (by omega)
      · intro k hk
        obtain ⟨k, hk', rfl⟩ := Option.map_eq_some_iff.1 hk
        have := hm k hk'
        omega

/-- The empty stretch is described by a repetition that may be empty, and by one of empty
stretches. -/
theorem matches_repeated_nil_iff {p : Pattern} {least : Nat} {most : Option Nat}
    {before after : Option Char} :
    Matches (repeated p least most) before [] after ↔
      least = 0 ∨ Matches p before [] after ∧ ∀ k ∈ most, least ≤ k := by
  have exact_iff : ∀ n,
      Matches (times p n) before [] after ↔ n = 0 ∨ Matches p before [] after := by
    intro n
    induction n with
    | zero => simp [matches_times_zero_iff]
    | succ n ih =>
      rw [matches_times_succ_iff]
      constructor
      · rintro ⟨l, r, h, hp, -⟩
        obtain ⟨rfl, rfl⟩ := List.append_eq_nil_iff.1 h.symm
        exact .inr hp
      · rintro (h | h)
        · cases h
        · exact ⟨[], [], rfl, h, ih.2 (.inr h)⟩
  rw [matches_repeated_iff]
  constructor
  · rintro ⟨n, hl, hm, h⟩
    rcases (exact_iff n).1 h with rfl | h
    · exact .inl (by omega)
    · exact .inr ⟨h, fun k hk => Nat.le_trans hl (hm k hk)⟩
  · rintro (rfl | ⟨h, hm⟩)
    · exact ⟨0, Nat.le_refl 0, fun _ _ => Nat.zero_le _, .repeatedNil⟩
    · exact ⟨least, Nat.le_refl _, hm, (exact_iff least).2 (.inr h)⟩

/-- Where repetitions describe a stretch that is not empty, the first of them that is not empty
begins it, and all in front of that one describe the empty stretch. -/
theorem matches_times_cons_iff {p : Pattern} {n : Nat} {before after : Option Char} {c : Char}
    {m : List Char} :
    Matches (times p n) before (c :: m) after ↔
      ∃ k < n, (k + 1 < n → Matches p before [] (some c)) ∧ ∃ l r, m = l ++ r ∧
        Matches p before (c :: l) (r.head?.or after) ∧
        Matches (times p k) (l.getLast?.or (some c)) r after := by
  induction n with
  | zero => simp [matches_times_zero_iff]
  | succ n ih =>
    rw [matches_times_succ_iff]
    constructor
    · rintro ⟨l, r, h, hp, hr⟩
      cases l with
      | nil =>
        obtain rfl : c :: m = r := h
        obtain ⟨k, hk, -, hrest⟩ := ih.1 hr
        exact ⟨k, by omega, fun _ => hp, hrest⟩
      | cons d l =>
        obtain ⟨rfl, rfl⟩ := List.cons.inj h
        exact ⟨n, by omega, fun h => absurd h (by omega), l, r, rfl, hp,
          by simpa [List.getLast?_cons] using hr⟩
    · rintro ⟨k, hk, hempty, l, r, rfl, hp, hr⟩
      rcases Nat.lt_or_eq_of_le (Nat.lt_succ_iff.1 hk) with hlt | rfl
      · have hnil := hempty (by omega)
        exact ⟨[], c :: (l ++ r), rfl, hnil, ih.2 ⟨k, hlt, fun _ => hnil, l, r, rfl, hp, hr⟩⟩
      · exact ⟨c :: l, r, rfl, hp, by simpa [List.getLast?_cons] using hr⟩

/-! ### Building patterns -/

instance : Append Pattern := ⟨seq⟩

/-- Several patterns one after the other. -/
def inOrder : List Pattern → Pattern
  | [] => empty
  | [p] => p
  | p :: ps => seq p (inOrder ps)

/-- One of several patterns. -/
def oneOf : List Pattern → Pattern
  | [] => one .none
  | [p] => p
  | p :: ps => alt p (oneOf ps)

/-- One given character. -/
def char (c : Char) : Pattern := one (.single c)

/-- The characters of a text, one after the other. -/
def text (s : String) : Pattern := inOrder (s.toList.map char)

/-- The characters of a text in either case. -/
def textInAnyCase (s : String) : Pattern :=
  inOrder (s.toList.map fun c => one (.caseless (.single c)))

/-- Any number of stretches of `p`. -/
def star (p : Pattern) : Pattern := repeated p 0 none

/-- At least one stretch of `p`. -/
def plus (p : Pattern) : Pattern := repeated p 1 none

/-- A stretch of `p` or nothing. -/
def optional (p : Pattern) : Pattern := repeated p 0 (some 1)

/-- Any character but a line feed. -/
def inLine : Pattern := one (.compl (.single '\n'))

/-- White space. -/
def blank : Pattern := one .blank

/-- Any amount of white space. -/
def blanks : Pattern := star blank

/-- A decimal digit. -/
def digit : Pattern := one .digit

/-- A word character. -/
def wordChar : Pattern := one .word

end Pattern

end FileProfile
