import FileProfile.Pattern.Basic

/-!
# What a pattern says of the start of a text

A pattern stands in a text where it describes a start of what follows some place
(`standsIn_iff_startsAt`). Read from there on, several parts in order say of the text what the first
of them describes, and what the others say of the rest, which are told no more than the character in
front of them. So what a pattern says is read off part by part, with one lemma for each kind of part.
-/

namespace FileProfile.Pattern

/-- The pattern describes a start of the text `cs`, with `before` in front of it. -/
def StartsAt (p : Pattern) (before : Option Char) (cs : List Char) : Prop :=
  ∃ m r, cs = m ++ r ∧ Matches p before m r.head?

variable {p q : Pattern} {s : CharSet} {before after : Option Char} {cs m : List Char}

theorem standsIn_iff_startsAt :
    p.StandsIn cs ↔ ∃ l r, cs = l ++ r ∧ p.StartsAt l.getLast? r := by
  refine ⟨?_, ?_⟩
  · rintro ⟨l, m, r, rfl, h⟩
    exact ⟨l, m ++ r, List.append_assoc l m r, m, r, rfl, h⟩
  · rintro ⟨l, _, rfl, m, r, rfl, h⟩
    exact ⟨l, m, r, (List.append_assoc l m r).symm, h⟩

theorem startsAt_alt_iff :
    (alt p q).StartsAt before cs ↔ p.StartsAt before cs ∨ q.StartsAt before cs := by
  refine ⟨?_, ?_⟩
  · rintro ⟨m, r, rfl, h⟩
    rcases matches_alt_iff.mp h with hp | hq
    · exact .inl ⟨m, r, rfl, hp⟩
    · exact .inr ⟨m, r, rfl, hq⟩
  · rintro (⟨m, r, rfl, hp⟩ | ⟨m, r, rfl, hq⟩)
    · exact ⟨m, r, rfl, .altLeft hp⟩
    · exact ⟨m, r, rfl, .altRight hq⟩

theorem startsAt_seq_iff :
    (seq p q).StartsAt before cs ↔
      ∃ l r, cs = l ++ r ∧ Matches p before l r.head? ∧ q.StartsAt (l.getLast?.or before) r := by
  refine ⟨?_, ?_⟩
  · rintro ⟨_, r, rfl, h⟩
    obtain ⟨l, m, rfl, hp, hq⟩ := matches_seq_iff.mp h
    rw [← List.head?_append] at hp
    exact ⟨l, m ++ r, List.append_assoc l m r, hp, m, r, rfl, hq⟩
  · rintro ⟨l, _, rfl, hp, m, r, rfl, hq⟩
    rw [List.head?_append] at hp
    exact ⟨l ++ m, r, (List.append_assoc l m r).symm, .seq hp hq⟩

theorem startsAt_one_iff :
    (one s).StartsAt before cs ↔ cs.head?.any s.contains = true := by
  refine ⟨?_, ?_⟩
  · rintro ⟨m, r, rfl, h⟩
    obtain ⟨c, rfl, hc⟩ := matches_one_iff.mp h
    exact hc
  · intro h
    obtain ⟨c, h_head, hc⟩ := (Option.any_eq_true _ _).mp h
    obtain ⟨r, rfl⟩ := List.head?_eq_some_iff.mp h_head
    exact ⟨[c], r, rfl, .one hc⟩

/-! ### Runs -/

/-- A run over a set describes the stretches of characters from that set. -/
theorem matches_times_one_iff {n : Nat} :
    Matches (times (one s) n) before m after ↔
      m.length = n ∧ ∀ c ∈ m, s.contains c = true := by
  induction n generalizing before m with
  | zero =>
    rw [matches_times_zero_iff, List.length_eq_zero_iff]
    refine ⟨fun h => ⟨h, ?_⟩, And.left⟩
    rintro c hc
    rw [h] at hc
    cases hc
  | succ n ih =>
    simp only [matches_times_succ_iff, matches_one_iff, ih]
    refine ⟨?_, ?_⟩
    · rintro ⟨_, r, rfl, ⟨c, rfl, hc⟩, rfl, hr⟩
      exact ⟨rfl, List.forall_mem_cons.mpr ⟨hc, hr⟩⟩
    · rintro ⟨h_length, h_all⟩
      obtain ⟨c, r, rfl⟩ := List.exists_cons_of_length_eq_add_one h_length
      obtain ⟨hc, hr⟩ := List.forall_mem_cons.mp h_all
      exact ⟨[c], r, rfl, ⟨c, rfl, hc⟩, Nat.succ.inj h_length, hr⟩

theorem matches_run_iff {least : Nat} :
    Matches (repeated (one s) least none) before m after ↔
      least ≤ m.length ∧ ∀ c ∈ m, s.contains c = true := by
  simp only [matches_repeated_iff, matches_times_one_iff]
  refine ⟨?_, ?_⟩
  · rintro ⟨_, h_least, -, rfl, h_all⟩
    exact ⟨h_least, h_all⟩
  · rintro ⟨h_least, h_all⟩
    exact ⟨m.length, h_least, fun _ h => absurd h (by simp), rfl, h_all⟩

/-! ### Parts in order

The last of several parts is no different from the others: nothing is asked of what stands behind
it. -/

variable {ps qs : List Pattern}

theorem matches_inOrder_cons_iff :
    Matches (inOrder (p :: ps)) before m after ↔ Matches (seq p (inOrder ps)) before m after := by
  cases ps with
  | nil => simp [inOrder, matches_seq_iff, matches_empty_iff]
  | cons q ps => rfl

theorem startsAt_inOrder_cons_iff :
    (inOrder (p :: ps)).StartsAt before cs ↔ ∃ l r, cs = l ++ r ∧ Matches p before l r.head? ∧
      (inOrder ps).StartsAt (l.getLast?.or before) r := by
  rw [← startsAt_seq_iff]
  exact exists_congr fun m => exists_congr fun r => and_congr_right' matches_inOrder_cons_iff

theorem startsAt_inOrder_nil : (inOrder []).StartsAt before cs := ⟨[], cs, rfl, .empty⟩

theorem startsAt_edge_cons_iff {e : Edge} : (inOrder (edge e :: ps)).StartsAt before cs ↔
    e.holds before cs.head? = true ∧ (inOrder ps).StartsAt before cs := by
  rw [startsAt_inOrder_cons_iff]
  refine ⟨?_, ?_⟩
  · rintro ⟨l, r, rfl, h, h_rest⟩
    obtain ⟨rfl, h_holds⟩ := matches_edge_iff.mp h
    exact ⟨h_holds, h_rest⟩
  · rintro ⟨h_holds, h_rest⟩
    exact ⟨[], cs, rfl, .edge h_holds, h_rest⟩

theorem startsAt_one_cons_iff : (inOrder (one s :: ps)).StartsAt before cs ↔
    ∃ c r, cs = c :: r ∧ s.contains c = true ∧ (inOrder ps).StartsAt (some c) r := by
  rw [startsAt_inOrder_cons_iff]
  refine ⟨?_, ?_⟩
  · rintro ⟨l, r, rfl, h, h_rest⟩
    obtain ⟨c, rfl, hc⟩ := matches_one_iff.mp h
    exact ⟨c, r, rfl, hc, h_rest⟩
  · rintro ⟨c, r, rfl, hc, h_rest⟩
    exact ⟨[c], r, rfl, .one hc, h_rest⟩

theorem startsAt_char_cons_iff {c : Char} : (inOrder (char c :: ps)).StartsAt before cs ↔
    ∃ r, cs = c :: r ∧ (inOrder ps).StartsAt (some c) r := by
  rw [char, startsAt_one_cons_iff]
  simp only [CharSet.contains_single, decide_eq_true_eq]
  refine ⟨?_, ?_⟩
  · rintro ⟨_, r, rfl, rfl, h_rest⟩
    exact ⟨r, rfl, h_rest⟩
  · rintro ⟨r, rfl, h_rest⟩
    exact ⟨c, r, rfl, rfl, h_rest⟩

theorem startsAt_star_cons_iff : (inOrder (star (one s) :: ps)).StartsAt before cs ↔
    ∃ l r, cs = l ++ r ∧ (∀ c ∈ l, s.contains c = true) ∧
      (inOrder ps).StartsAt (l.getLast?.or before) r := by
  simp only [startsAt_inOrder_cons_iff, star, matches_run_iff, Nat.zero_le, true_and]

theorem startsAt_plus_cons_iff : (inOrder (plus (one s) :: ps)).StartsAt before cs ↔
    ∃ l r, cs = l ++ r ∧ (l ≠ [] ∧ ∀ c ∈ l, s.contains c = true) ∧
      (inOrder ps).StartsAt (l.getLast?.or before) r := by
  simp only [startsAt_inOrder_cons_iff, plus, matches_run_iff, Nat.one_le_iff_ne_zero, ne_eq,
    List.length_eq_zero_iff]

/-- Of a run at the end, one character is enough. -/
theorem startsAt_plus_iff :
    (inOrder [plus (one s)]).StartsAt before cs ↔ ∃ c r, cs = c :: r ∧ s.contains c = true := by
  rw [startsAt_plus_cons_iff]
  refine ⟨?_, ?_⟩
  · rintro ⟨l, r, rfl, ⟨h_ne, h_all⟩, -⟩
    obtain ⟨c, l, rfl⟩ := List.exists_cons_of_ne_nil h_ne
    exact ⟨c, l ++ r, rfl, h_all c List.mem_cons_self⟩
  · rintro ⟨c, r, rfl, hc⟩
    exact ⟨[c], r, rfl, ⟨List.cons_ne_nil c [], List.forall_mem_singleton.mpr hc⟩,
      startsAt_inOrder_nil⟩

theorem matches_text_iff {word : String} :
    Matches (text word) before m after ↔ m = word.toList := by
  have h_chars (cs : List Char) :
      ∀ {before m}, Matches (inOrder (cs.map char)) before m after ↔ m = cs := by
    induction cs with
    | nil => exact matches_empty_iff
    | cons c cs ih =>
      intro before m
      rw [List.map_cons, matches_inOrder_cons_iff, matches_seq_iff]
      simp only [ih, char, matches_one_iff, CharSet.contains_single, decide_eq_true_eq]
      refine ⟨?_, ?_⟩
      · rintro ⟨_, _, rfl, ⟨_, rfl, rfl⟩, rfl⟩
        rfl
      · rintro rfl
        exact ⟨[c], cs, rfl, ⟨c, rfl, rfl⟩, rfl⟩
  exact h_chars word.toList

theorem startsAt_text_cons_iff {word : String} : (inOrder (text word :: ps)).StartsAt before cs ↔
    ∃ r, cs = word.toList ++ r ∧
      (inOrder ps).StartsAt (word.toList.getLast?.or before) r := by
  simp only [startsAt_inOrder_cons_iff, matches_text_iff]
  refine ⟨?_, ?_⟩
  · rintro ⟨_, r, rfl, rfl, h_rest⟩
    exact ⟨r, rfl, h_rest⟩
  · rintro ⟨r, rfl, h_rest⟩
    exact ⟨_, r, rfl, rfl, h_rest⟩

/-! ### Alternatives -/

theorem matches_oneOf_iff :
    Matches (oneOf ps) before m after ↔ ∃ p ∈ ps, Matches p before m after := by
  induction ps with
  | nil => simp [oneOf, matches_one_iff]
  | cons p ps ih =>
    cases ps with
    | nil => simp [oneOf]
    | cons q ps =>
      rw [oneOf, matches_alt_iff, ih]
      simp only [List.mem_cons, exists_eq_or_imp]
      exact fun h => List.cons_ne_nil q ps h

theorem startsAt_oneOf_iff :
    (oneOf ps).StartsAt before cs ↔ ∃ p ∈ ps, p.StartsAt before cs := by
  simp only [StartsAt, matches_oneOf_iff]
  refine ⟨?_, ?_⟩
  · rintro ⟨m, r, h_cut, p, hp, h⟩
    exact ⟨p, hp, m, r, h_cut, h⟩
  · rintro ⟨p, hp, m, r, h_cut, h⟩
    exact ⟨m, r, h_cut, p, hp, h⟩

theorem startsAt_words_cons_iff {words : List String} :
    (inOrder (oneOf (words.map text) :: ps)).StartsAt before cs ↔
      ∃ word ∈ words, ∃ r, cs = word.toList ++ r ∧
        (inOrder ps).StartsAt (word.toList.getLast?.or before) r := by
  simp only [startsAt_inOrder_cons_iff, matches_oneOf_iff]
  refine ⟨?_, ?_⟩
  · rintro ⟨l, r, rfl, ⟨p, h_mem, h⟩, h_rest⟩
    obtain ⟨word, h_word, rfl⟩ := List.mem_map.mp h_mem
    obtain rfl := matches_text_iff.mp h
    exact ⟨word, h_word, r, rfl, h_rest⟩
  · rintro ⟨word, h_word, r, rfl, h_rest⟩
    exact ⟨_, r, rfl, ⟨text word, List.mem_map_of_mem h_word, matches_text_iff.mpr rfl⟩, h_rest⟩

end FileProfile.Pattern
