import FileProfile.Pattern.Basic

/-!
# Searching a text for a pattern

A search reads the text once from left to right. It carries the patterns that would complete a match
begun at some earlier place, and at every place begins a new match with the pattern itself. A match
is complete as soon as one of these patterns describes the empty stretch at the place reached
(`nullable`); reading a character replaces each of them by what is left of it (`derive`).

* `matches_nil_iff`, `matches_cons_iff` — the two functions take the match relation apart;
* `foundIn_iff_standsIn` — the search finds a pattern exactly where it stands.
-/

namespace FileProfile.Pattern

/-- Whether a pattern describes the empty stretch between two neighbours. -/
def nullable : Pattern → Option Char → Option Char → Bool
  | empty, _, _ => true
  | one _, _, _ => false
  | edge e, before, after => e.holds before after
  | seq p q, before, after => p.nullable before after && q.nullable before after
  | alt p q, before, after => p.nullable before after || q.nullable before after
  | repeated p least most, before, after =>
    least == 0 || p.nullable before after && most.all (least ≤ ·)

/-- `seq p q`, without an empty `p`. -/
def andThen : Pattern → Pattern → Pattern
  | empty, q => q
  | p, q => seq p q

/-- What is left to match of a pattern once it has read `c`, with `before` in front of `c`: one of
the patterns listed. A repetition spends on `c` one of its number, and any number before that on
empty stretches where `p` describes them. -/
def derive : Pattern → Option Char → Char → List Pattern
  | empty, _, _ => []
  | one s, _, c => if s.contains c then [empty] else []
  | edge _, _, _ => []
  | seq p q, before, c =>
    (p.derive before c).map (andThen · q) ++
      if p.nullable before (some c) then q.derive before c else []
  | alt p q, before, c => p.derive before c ++ q.derive before c
  | repeated p least most, before, c =>
    if most = some 0 then []
    else
      let least :=
        if p.nullable before (some c) && most.all (least ≤ ·) then 0 else least - 1
      (p.derive before c).map (andThen · (repeated p least (most.map (· - 1))))

/-- What is left of each of several patterns once `c` is read, without repetitions. -/
def advance (begun : List Pattern) (before : Option Char) (c : Char) : List Pattern :=
  (begun.flatMap (·.derive before c)).eraseDups

/-- Whether a match of `p` begins in the rest of a text, or one of the matches begun before, of
which `begun` are left to match, completes there. -/
def searchFrom (p : Pattern) (begun : List Pattern) (before : Option Char) : List Char → Bool
  | [] => (p :: begun).any (·.nullable before none)
  | c :: rest =>
    (p :: begun).any (·.nullable before (some c)) ||
      searchFrom p (advance (p :: begun) before c) (some c) rest

/-- Whether a pattern stands somewhere in a text. -/
def foundIn (p : Pattern) (cs : List Char) : Bool := searchFrom p [] none cs

/-! ### Correctness -/

/-- `nullable` decides which empty stretches a pattern describes. -/
theorem matches_nil_iff (p : Pattern) (before after : Option Char) :
    Matches p before [] after ↔ p.nullable before after = true := by
  induction p generalizing before after with
  | empty => simp [matches_empty_iff, nullable]
  | one s => simp [matches_one_iff, nullable]
  | edge e => simp [matches_edge_iff, nullable]
  | seq p q ihp ihq =>
    rw [matches_seq_iff, nullable, Bool.and_eq_true, ← ihp, ← ihq]
    constructor
    · rintro ⟨l, r, h, hp, hq⟩
      obtain ⟨rfl, rfl⟩ := List.append_eq_nil_iff.1 h.symm
      exact ⟨hp, hq⟩
    · rintro ⟨hp, hq⟩
      exact ⟨[], [], rfl, hp, hq⟩
  | alt p q ihp ihq => rw [matches_alt_iff, nullable, Bool.or_eq_true, ← ihp, ← ihq]
  | repeated p least most ih =>
    rw [matches_repeated_nil_iff, nullable, ih]
    cases most <;> simp

theorem matches_andThen_iff {p q : Pattern} {before after : Option Char} {m : List Char} :
    Matches (andThen p q) before m after ↔ Matches (seq p q) before m after := by
  cases p with
  | empty =>
    rw [andThen, matches_seq_iff]
    constructor
    · intro h; exact ⟨[], m, rfl, .empty, h⟩
    · rintro ⟨l, r, rfl, hl, hr⟩
      obtain rfl := matches_empty_iff.1 hl
      exact hr
  | _ => rfl

/-- Reading a character: what a pattern describes after it is described by one of its
derivatives. -/
theorem matches_cons_iff (p : Pattern) (before after : Option Char) (c : Char) (m : List Char) :
    Matches p before (c :: m) after ↔ ∃ q ∈ p.derive before c, Matches q (some c) m after := by
  induction p generalizing before after m with
  | empty => simp [matches_empty_iff, derive]
  | one s =>
    rw [matches_one_iff, derive]
    constructor
    · rintro ⟨d, h, hd⟩
      obtain ⟨rfl, rfl⟩ := List.cons.inj h
      exact ⟨empty, by simp [hd], .empty⟩
    · rintro ⟨q, hq, hm⟩
      split at hq
      · next h =>
        obtain rfl := List.mem_singleton.1 hq
        obtain rfl := matches_empty_iff.1 hm
        exact ⟨c, rfl, h⟩
      · cases hq
  | edge e => simp [matches_edge_iff, derive]
  | seq p q ihp ihq =>
    rw [derive]
    constructor
    · intro h
      obtain ⟨l, r, hm, hp, hq⟩ := matches_seq_iff.1 h
      cases l with
      | nil =>
        obtain rfl : c :: m = r := hm
        obtain ⟨q', hq', hm'⟩ := (ihq _ _ _).1 hq
        refine ⟨q', List.mem_append_right _ ?_, hm'⟩
        have hn : p.nullable before (some c) = true := (matches_nil_iff _ _ _).1 hp
        rw [if_pos hn]
        exact hq'
      | cons d l =>
        obtain ⟨rfl, rfl⟩ := List.cons.inj hm
        obtain ⟨p', hp', hl⟩ := (ihp _ _ _).1 hp
        refine ⟨andThen p' q, List.mem_append_left _ (List.mem_map.2 ⟨p', hp', rfl⟩), ?_⟩
        exact matches_andThen_iff.2 (.seq hl (by simpa [List.getLast?_cons] using hq))
    · rintro ⟨q', hq', hm⟩
      rcases List.mem_append.1 hq' with hq' | hq'
      · obtain ⟨p', hp', rfl⟩ := List.mem_map.1 hq'
        obtain ⟨l, r, rfl, hl, hr⟩ := matches_seq_iff.1 (matches_andThen_iff.1 hm)
        have := (ihp _ _ _).2 ⟨p', hp', hl⟩
        exact Matches.seq this (by simpa [List.getLast?_cons] using hr)
      · split at hq'
        · next hn =>
          exact Matches.seq (l := []) ((matches_nil_iff _ _ _).2 hn) ((ihq _ _ _).2 ⟨q', hq', hm⟩)
        · cases hq'
  | alt p q ihp ihq =>
    rw [matches_alt_iff, derive, ihp, ihq]
    constructor
    · rintro (⟨q', h, hm⟩ | ⟨q', h, hm⟩)
      · exact ⟨q', List.mem_append_left _ h, hm⟩
      · exact ⟨q', List.mem_append_right _ h, hm⟩
    · rintro ⟨q', h, hm⟩
      rcases List.mem_append.1 h with h | h
      · exact .inl ⟨q', h, hm⟩
      · exact .inr ⟨q', h, hm⟩
  | repeated p least most ih =>
    rw [matches_repeated_iff, derive]
    simp only [matches_times_cons_iff]
    constructor
    · rintro ⟨n, hl, hm, k, hk, hempty, l, r, rfl, hp, hr⟩
      obtain ⟨p', hp', hl'⟩ := (ih _ _ _).1 hp
      rw [if_neg (by rintro rfl; exact absurd (hm 0 rfl) (by omega))]
      refine ⟨_, List.mem_map.2 ⟨p', hp', rfl⟩, matches_andThen_iff.2 (.seq hl' ?_)⟩
      refine matches_repeated_iff.2 ⟨k, ?_, fun j hj => ?_, hr⟩
      · split
        · exact Nat.zero_le k
        · next h =>
          rcases Nat.lt_or_eq_of_le (Nat.succ_le_of_lt hk) with hlt | heq
          · refine absurd ?_ h
            rw [Bool.and_eq_true, ← matches_nil_iff]
            refine ⟨hempty hlt, ?_⟩
            cases most with
            | none => rfl
            | some j => simpa using Nat.le_trans hl (hm j rfl)
          · omega
      · obtain ⟨j, hj', rfl⟩ := Option.map_eq_some_iff.1 hj
        have := hm j hj'
        omega
    · rintro ⟨q', hq', hm⟩
      split at hq'
      · cases hq'
      · next hmost =>
        obtain ⟨p', hp', rfl⟩ := List.mem_map.1 hq'
        obtain ⟨l, r, rfl, hl, hr⟩ := matches_seq_iff.1 (matches_andThen_iff.1 hm)
        obtain ⟨k, hlk, hkm, hr⟩ := matches_repeated_iff.1 hr
        have hp := (ih _ _ _).2 ⟨p', hp', hl⟩
        have hk : ∀ j ∈ most, k + 1 ≤ j := by
          rintro j rfl
          have := hkm (j - 1) rfl
          have : j ≠ 0 := by rintro rfl; exact hmost rfl
          omega
        split at hlk
        · next h =>
          obtain ⟨hnull, hwithin⟩ := Bool.and_eq_true _ _ ▸ h
          refine ⟨max least (k + 1), by omega, fun j hj => ?_, k, by omega, fun _ => ?_, l, r, rfl,
            hp, hr⟩
          · have := hk j hj
            rw [hj] at hwithin
            have : least ≤ j := by simpa using hwithin
            omega
          · exact (matches_nil_iff _ _ _).2 hnull
        · exact ⟨k + 1, by omega, hk, k, by omega, fun h => absurd h (by omega), l, r, rfl, hp, hr⟩

theorem mem_advance_iff {begun : List Pattern} {before : Option Char} {c : Char} {q : Pattern} :
    q ∈ advance begun before c ↔ ∃ p ∈ begun, q ∈ p.derive before c := by
  rw [advance, List.mem_eraseDups, List.mem_flatMap]

/-- A search finds the rest of what was begun, or a match that begins further on. -/
theorem searchFrom_iff (p : Pattern) (begun : List Pattern) (before : Option Char)
    (cs : List Char) :
    searchFrom p begun before cs = true ↔
      (∃ q ∈ begun, ∃ m r, cs = m ++ r ∧ Matches q before m r.head?) ∨
      (∃ l m r, cs = l ++ m ++ r ∧ Matches p (l.getLast?.or before) m r.head?) := by
  induction cs generalizing begun before with
  | nil =>
    simp only [searchFrom, List.any_eq_true, List.mem_cons, ← matches_nil_iff]
    constructor
    · rintro ⟨q, rfl | hq, h⟩
      · exact .inr ⟨[], [], [], rfl, h⟩
      · exact .inl ⟨q, hq, [], [], rfl, h⟩
    · rintro (⟨q, hq, m, r, h, hm⟩ | ⟨l, m, r, h, hm⟩)
      · obtain ⟨rfl, rfl⟩ := List.append_eq_nil_iff.1 h.symm
        exact ⟨q, .inr hq, hm⟩
      · obtain ⟨hlm, rfl⟩ := List.append_eq_nil_iff.1 h.symm
        obtain ⟨rfl, rfl⟩ := List.append_eq_nil_iff.1 hlm
        exact ⟨p, .inl rfl, hm⟩
  | cons c cs ih =>
    rw [searchFrom, Bool.or_eq_true, ih]
    simp only [List.any_eq_true, List.mem_cons, ← matches_nil_iff, mem_advance_iff]
    constructor
    · rintro (⟨q, hq, h⟩ | ⟨q, ⟨q', hq', hq⟩, m, r, rfl, hm⟩ | ⟨l, m, r, rfl, hm⟩)
      · rcases hq with rfl | hq
        · exact .inr ⟨[], [], c :: cs, rfl, h⟩
        · exact .inl ⟨q, hq, [], c :: cs, rfl, h⟩
      · have := (matches_cons_iff q' before r.head? c m).2 ⟨q, hq, hm⟩
        rcases hq' with rfl | hq'
        · exact .inr ⟨[], c :: m, r, rfl, this⟩
        · exact .inl ⟨q', hq', c :: m, r, rfl, this⟩
      · exact .inr ⟨c :: l, m, r, rfl, by simpa [List.getLast?_cons] using hm⟩
    · rintro (⟨q, hq, m, r, h, hm⟩ | ⟨l, m, r, h, hm⟩)
      · cases m with
        | nil =>
          obtain rfl : c :: cs = r := h
          exact .inl ⟨q, .inr hq, hm⟩
        | cons d m =>
          obtain ⟨rfl, rfl⟩ := List.cons.inj h
          obtain ⟨q', hq', hm⟩ := (matches_cons_iff ..).1 hm
          exact .inr (.inl ⟨q', ⟨q, .inr hq, hq'⟩, m, r, rfl, hm⟩)
      · cases l with
        | nil =>
          cases m with
          | nil =>
            obtain rfl : c :: cs = r := h
            exact .inl ⟨p, .inl rfl, hm⟩
          | cons d m =>
            obtain ⟨rfl, rfl⟩ := List.cons.inj h
            obtain ⟨q', hq', hm⟩ := (matches_cons_iff ..).1 hm
            exact .inr (.inl ⟨q', ⟨p, .inl rfl, hq'⟩, m, r, rfl, hm⟩)
        | cons d l =>
          obtain ⟨rfl, rfl⟩ := List.cons.inj h
          exact .inr (.inr ⟨l, m, r, rfl, by simpa [List.getLast?_cons] using hm⟩)

/-- **The search finds a pattern exactly where it stands.** -/
theorem foundIn_iff_standsIn (p : Pattern) (cs : List Char) :
    p.foundIn cs = true ↔ p.StandsIn cs := by
  rw [foundIn, searchFrom_iff, StandsIn]
  simp

end FileProfile.Pattern
