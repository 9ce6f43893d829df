import FileProfile.Language.Shebang

/-!
# Lines that hand over to another interpreter

A line hands over where it reads `exec `, a word, something, `$0`, something, `$@`. The word may be
cut short if that is what it takes to leave something in front of `$0`, and there may be several such
places, so a line can hand over to several programs. `HandsOver` is the relation of the line, what
stands in front of the place, and the program; `HandsOverTo` picks the first place and there the
longest program. The search finds that one (`relaunchIn?_eq_some_iff`), and nothing only where there
is no such place (`relaunchIn?_eq_none_iff`).

The search for `$0` stops at the first one. This loses nothing, since what stands behind a later one
stands behind the first one too (`exists_behind?`).
-/

namespace FileProfile.Shebang

/-- A text hands the script and its arguments on. -/
def HandsOn (cs : List Char) : Prop :=
  ∃ x y z, cs = x ++ "$0".toList ++ y ++ "$@".toList ++ z ∧ x ≠ [] ∧ y ≠ []

/-- A text begins with `program`, and hands the script on behind it. -/
def Runs (cs program : List Char) : Prop :=
  ∃ rest, cs = program ++ rest ∧ program ≠ [] ∧ (∀ c ∈ program, Text.isWord c = true) ∧ HandsOn rest

/-- Behind `front`, a line hands over to `program`. -/
def HandsOver (line front program : List Char) : Prop :=
  ∃ behind, line = front ++ "exec ".toList ++ behind ∧ Runs behind program

/-- Of all that a line hands over to, `program` stands first, and no longer one stands there. -/
def HandsOverTo (line program : List Char) : Prop :=
  ∃ front, HandsOver line front program ∧ ∀ front' program', HandsOver line front' program' →
    front.length ≤ front'.length ∧ (front' = front → program'.length ≤ program.length)

variable {word cs rest program line front : List Char} {c : Char}

/-! ### What stands behind a word -/

theorem behind?_eq_some (h : behind? word cs = some rest) : ∃ front, cs = front ++ word ++ rest := by
  induction cs with
  | nil =>
    unfold behind? at h
    split at h
    · next h_empty =>
      rw [List.isEmpty_iff.mp h_empty, ← Option.some.inj h]
      exact ⟨[], rfl⟩
    · cases h
  | cons c cs ih =>
    unfold behind? at h
    split at h
    · next h_prefix =>
      obtain ⟨r, h_cut⟩ := List.isPrefixOf_iff_prefix.mp h_prefix
      rw [← h_cut, List.drop_left] at h
      exact ⟨[], by rw [← Option.some.inj h, List.nil_append, h_cut]⟩
    · obtain ⟨front, rfl⟩ := ih h
      exact ⟨c :: front, rfl⟩

/-- What stands behind any occurrence of a word stands behind the first one. -/
theorem exists_behind? (h : cs = front ++ word ++ rest) :
    ∃ k, behind? word cs = some (k ++ rest) := by
  induction cs generalizing front with
  | nil =>
    obtain ⟨h_left, rfl⟩ := List.append_eq_nil_iff.mp h.symm
    obtain ⟨-, rfl⟩ := List.append_eq_nil_iff.mp h_left
    exact ⟨[], rfl⟩
  | cons c cs ih =>
    unfold behind?
    split
    · next h_prefix =>
      obtain ⟨r, h_cut⟩ := List.isPrefixOf_iff_prefix.mp h_prefix
      have h_rest : rest <:+ r := by
        refine List.suffix_of_suffix_length_le ⟨front ++ word, h.symm⟩ ⟨word, h_cut⟩ ?_
        have h_length := congrArg List.length (h_cut.trans h)
        simp only [List.length_append] at h_length
        omega
      obtain ⟨k, rfl⟩ := h_rest
      exact ⟨k, by rw [← h_cut, List.drop_left]⟩
    · next h_prefix =>
      cases front with
      | nil => exact absurd (List.isPrefixOf_iff_prefix.mpr ⟨rest, h.symm⟩) h_prefix
      | cons d front => exact ih (List.cons.inj h).2

/-- Something stands in front of the end of a text. -/
theorem exists_drop_one (h : front ≠ []) (rest : List Char) :
    ∃ k, (front ++ rest).drop 1 = k ++ rest := by
  obtain ⟨c, front, rfl⟩ := List.exists_cons_of_ne_nil h
  exact ⟨front, rfl⟩

theorem exists_of_drop_one (h : cs.drop 1 = front ++ word ++ rest) (h_word : word ≠ []) :
    ∃ k, k ≠ [] ∧ cs = k ++ word ++ rest := by
  cases cs with
  | nil =>
    obtain ⟨h_left, -⟩ := List.append_eq_nil_iff.mp h.symm
    exact absurd (List.append_eq_nil_iff.mp h_left).2 h_word
  | cons c cs => exact ⟨c :: front, List.cons_ne_nil c front, congrArg (c :: ·) h⟩

theorem handsOn_iff : handsOn cs = true ↔ HandsOn cs := by
  rw [handsOn, Option.any_eq_true]
  refine ⟨?_, ?_⟩
  · rintro ⟨rest, h_script, h_arguments⟩
    obtain ⟨z, h_arguments⟩ := Option.isSome_iff_exists.mp h_arguments
    obtain ⟨x, h_x⟩ := behind?_eq_some h_script
    obtain ⟨y, h_y⟩ := behind?_eq_some h_arguments
    obtain ⟨x, h_x_ne, rfl⟩ := exists_of_drop_one h_x (by decide)
    obtain ⟨y, h_y_ne, rfl⟩ := exists_of_drop_one h_y (by decide)
    exact ⟨x, y, z, by simp only [List.append_assoc], h_x_ne, h_y_ne⟩
  · rintro ⟨x, y, z, rfl, h_x, h_y⟩
    -- behind the first `$0` there is more, if anything
    obtain ⟨x', h_drop_x⟩ := exists_drop_one h_x ("$0".toList ++ (y ++ ("$@".toList ++ z)))
    obtain ⟨k, h_script⟩ :=
      exists_behind? (h_drop_x.trans (List.append_assoc x' "$0".toList _).symm)
    have h_k : k ++ y ≠ [] := fun h_nil => h_y (List.append_eq_nil_iff.mp h_nil).2
    obtain ⟨y', h_drop_y⟩ := exists_drop_one h_k ("$@".toList ++ z)
    obtain ⟨k', h_arguments⟩ :=
      exists_behind? (h_drop_y.trans (List.append_assoc y' "$@".toList z).symm)
    refine ⟨k ++ (y ++ ("$@".toList ++ z)), ?_, ?_⟩
    · rw [← h_script]
      simp only [List.append_assoc]
    · rw [← List.append_assoc, h_arguments]
      rfl

/-! ### The program -/

/-- The longest program is tried first, and each shorter one only where no longer one will do. -/
theorem programOfLength?_eq_some_iff {n : Nat} :
    programOfLength? cs n = some program ↔ ∃ k, 0 < k ∧ k ≤ n ∧ program = cs.take k ∧
      HandsOn (cs.drop k) ∧ ∀ j, k < j → j ≤ n → ¬ HandsOn (cs.drop j) := by
  induction n with
  | zero =>
    refine ⟨fun h => ?_, ?_⟩
    · cases h
    · rintro ⟨k, h_pos, h_le, -⟩
      omega
  | succ n ih =>
    rw [programOfLength?]
    by_cases h_on : HandsOn (cs.drop (n + 1))
    · rw [if_pos (handsOn_iff.mpr h_on)]
      refine ⟨?_, ?_⟩
      · rintro h
        exact ⟨n + 1, Nat.succ_pos n, Nat.le_refl _, (Option.some.inj h).symm, h_on,
          fun j h_lt h_le => absurd h_le (Nat.not_le_of_lt h_lt)⟩
      · rintro ⟨k, -, h_le, rfl, -, h_longer⟩
        rcases Nat.lt_or_eq_of_le h_le with h_lt | rfl
        · exact absurd h_on (h_longer (n + 1) h_lt (Nat.le_refl _))
        · rfl
    · rw [if_neg fun h => h_on (handsOn_iff.mp h), ih]
      refine exists_congr fun k => and_congr_right fun h_pos => ?_
      refine ⟨?_, ?_⟩
      · rintro ⟨h_le, h_program, h_k, h_longer⟩
        refine ⟨Nat.le_succ_of_le h_le, h_program, h_k, fun j h_lt h_j => ?_⟩
        rcases Nat.lt_or_eq_of_le h_j with h_j | rfl
        · exact h_longer j h_lt (Nat.le_of_lt_succ h_j)
        · exact h_on
      · rintro ⟨h_le, h_program, h_k, h_longer⟩
        have h_ne : k ≠ n + 1 := by
          rintro rfl
          exact h_on h_k
        exact ⟨by omega, h_program, h_k, fun j h_lt h_j => h_longer j h_lt (by omega)⟩

/-- The programs with which a text begins are its parts up to the end of its first word. -/
theorem runs_iff : Runs cs program ↔ ∃ k, 0 < k ∧ k ≤ (cs.takeWhile Text.isWord).length ∧
    program = cs.take k ∧ HandsOn (cs.drop k) := by
  refine ⟨?_, ?_⟩
  · rintro ⟨rest, rfl, h_ne, h_word, h_on⟩
    refine ⟨program.length, List.length_pos_iff.mpr h_ne, ?_, List.take_left.symm, ?_⟩
    · rw [List.takeWhile_append_of_pos h_word, List.length_append]
      exact Nat.le_add_right _ _
    · rwa [List.drop_left]
  · rintro ⟨k, h_pos, h_le, rfl, h_on⟩
    have h_take : cs.take k = (cs.takeWhile Text.isWord).take k := by
      conv => lhs; rw [← List.takeWhile_append_dropWhile (p := Text.isWord) (l := cs)]
      rw [List.take_append_of_le_length h_le]
    refine ⟨cs.drop k, (List.take_append_drop k cs).symm, ?_, ?_, h_on⟩
    · rw [h_take, ← List.length_pos_iff, List.length_take]
      omega
    · intro c hc
      rw [h_take] at hc
      exact List.all_eq_true.mp List.all_takeWhile c (List.mem_of_mem_take hc)

theorem program?_eq_some_iff : program? cs = some program ↔
    Runs cs program ∧ ∀ program', Runs cs program' → program'.length ≤ program.length := by
  have h_bound : (cs.takeWhile Text.isWord).length ≤ cs.length :=
    (List.takeWhile_prefix _).length_le
  rw [program?, programOfLength?_eq_some_iff]
  refine ⟨?_, ?_⟩
  · rintro ⟨k, h_pos, h_le, rfl, h_on, h_longer⟩
    refine ⟨runs_iff.mpr ⟨k, h_pos, h_le, rfl, h_on⟩, fun program' h' => ?_⟩
    obtain ⟨j, -, h_j, rfl, h_on'⟩ := runs_iff.mp h'
    have h_not : ¬ k < j := fun h_lt => h_longer j h_lt h_j h_on'
    rw [List.length_take, List.length_take]
    omega
  · rintro ⟨h, h_longest⟩
    obtain ⟨k, h_pos, h_le, rfl, h_on⟩ := runs_iff.mp h
    refine ⟨k, h_pos, h_le, rfl, h_on, fun j h_lt h_j h_on' => ?_⟩
    have h_length := h_longest _ (runs_iff.mpr ⟨j, by omega, h_j, rfl, h_on'⟩)
    rw [List.length_take, List.length_take] at h_length
    omega

theorem programOfLength?_eq_none_iff {n : Nat} : programOfLength? cs n = none ↔
    ∀ k, 0 < k → k ≤ n → ¬ HandsOn (cs.drop k) := by
  induction n with
  | zero => exact ⟨fun _ k h_pos h_le => absurd h_le (Nat.not_le_of_lt h_pos), fun _ => rfl⟩
  | succ n ih =>
    rw [programOfLength?]
    by_cases h_on : HandsOn (cs.drop (n + 1))
    · rw [if_pos (handsOn_iff.mpr h_on)]
      refine ⟨fun h => ?_, fun h => ?_⟩
      · cases h
      · exact absurd h_on (h (n + 1) (Nat.succ_pos n) (Nat.le_refl _))
    · rw [if_neg fun h => h_on (handsOn_iff.mp h), ih]
      refine ⟨fun h k h_pos h_le => ?_, fun h k h_pos h_le => h k h_pos (Nat.le_succ_of_le h_le)⟩
      rcases Nat.lt_or_eq_of_le h_le with h_lt | rfl
      · exact h k h_pos (Nat.le_of_lt_succ h_lt)
      · exact h_on

theorem program?_eq_none_iff : program? cs = none ↔ ∀ program, ¬ Runs cs program := by
  rw [program?, programOfLength?_eq_none_iff]
  refine ⟨?_, ?_⟩
  · rintro h program h_runs
    obtain ⟨k, h_pos, h_le, -, h_on⟩ := runs_iff.mp h_runs
    exact h k h_pos h_le h_on
  · intro h k h_pos h_le h_on
    exact h _ (runs_iff.mpr ⟨k, h_pos, h_le, rfl, h_on⟩)

/-! ### The place -/

/-- The interpreter that a line hands over to from its start. -/
def programAt? (line : List Char) : Option (List Char) :=
  if "exec ".toList.isPrefixOf line then program? (line.drop 5) else none

theorem relaunchIn?_cons (c : Char) (cs : List Char) :
    relaunchIn? (c :: cs) = (programAt? (c :: cs)).or (relaunchIn? cs) := by
  rw [relaunchIn?, programAt?]
  split
  · next h => rw [h, Option.some_or]
  · next h => rw [h, Option.none_or]

theorem handsOver_cons_iff {d : Char} :
    HandsOver (c :: cs) (d :: front) program ↔ d = c ∧ HandsOver cs front program := by
  refine ⟨?_, ?_⟩
  · rintro ⟨behind, h_line, h_runs⟩
    obtain ⟨rfl, rfl⟩ := List.cons.inj h_line
    exact ⟨rfl, behind, rfl, h_runs⟩
  · rintro ⟨rfl, behind, rfl, h_runs⟩
    exact ⟨behind, rfl, h_runs⟩

theorem programAt?_append (behind : List Char) :
    programAt? ("exec ".toList ++ behind) = program? behind := by
  rw [programAt?, if_pos (List.isPrefixOf_iff_prefix.mpr (List.prefix_append _ _))]
  rfl

theorem programAt?_eq_some_iff : programAt? line = some program ↔
    HandsOver line [] program ∧
      ∀ program', HandsOver line [] program' → program'.length ≤ program.length := by
  by_cases h_prefix : "exec ".toList <+: line
  · obtain ⟨behind, rfl⟩ := h_prefix
    have h_runs : ∀ p, HandsOver ("exec ".toList ++ behind) [] p ↔ Runs behind p := by
      intro p
      refine ⟨?_, fun h => ⟨behind, rfl, h⟩⟩
      rintro ⟨behind', h_line, h⟩
      exact List.append_cancel_left h_line ▸ h
    rw [programAt?_append, program?_eq_some_iff]
    simp only [h_runs]
  · rw [programAt?, if_neg fun h => h_prefix (List.isPrefixOf_iff_prefix.mp h)]
    refine ⟨fun h => ?_, ?_⟩
    · cases h
    · rintro ⟨⟨behind, h_line, -⟩, -⟩
      exact absurd ⟨behind, h_line.symm⟩ h_prefix

theorem programAt?_eq_none_iff : programAt? line = none ↔ ∀ p, ¬ HandsOver line [] p := by
  refine ⟨?_, ?_⟩
  · rintro h_none program ⟨behind, rfl, h_runs⟩
    rw [List.nil_append, programAt?_append, program?_eq_none_iff] at h_none
    exact h_none program h_runs
  · intro h
    rw [Option.eq_none_iff_forall_ne_some]
    intro program h_some
    exact h program (programAt?_eq_some_iff.mp h_some).1

/-- A line hands over to a program from its start or, if it does not, behind its first character. -/
theorem handsOverTo_cons_iff : HandsOverTo (c :: cs) program ↔
    (HandsOver (c :: cs) [] program ∧
      ∀ program', HandsOver (c :: cs) [] program' → program'.length ≤ program.length) ∨
    (∀ program', ¬ HandsOver (c :: cs) [] program') ∧ HandsOverTo cs program := by
  refine ⟨?_, ?_⟩
  · rintro ⟨front, h, h_first⟩
    cases front with
    | nil => exact .inl ⟨h, fun program' h' => (h_first [] program' h').2 rfl⟩
    | cons d front =>
      obtain ⟨rfl, h_behind⟩ := handsOver_cons_iff.mp h
      refine .inr ⟨fun program' h' => absurd (h_first [] program' h').1 (by simp), front, h_behind,
        fun front' program' h' => ?_⟩
      obtain ⟨h_le, h_longest⟩ := h_first (d :: front') program' (handsOver_cons_iff.mpr ⟨rfl, h'⟩)
      exact ⟨Nat.le_of_succ_le_succ h_le, fun h_eq => h_longest (by rw [h_eq])⟩
  · rintro (⟨h, h_longest⟩ | ⟨h_none, front, h, h_first⟩)
    · refine ⟨[], h, fun front' program' h' => ⟨Nat.zero_le _, ?_⟩⟩
      rintro rfl
      exact h_longest program' h'
    · refine ⟨c :: front, handsOver_cons_iff.mpr ⟨rfl, h⟩, fun front' program' h' => ?_⟩
      cases front' with
      | nil => exact absurd h' (h_none program')
      | cons d front' =>
        obtain ⟨rfl, h_behind⟩ := handsOver_cons_iff.mp h'
        obtain ⟨h_le, h_longest⟩ := h_first front' program' h_behind
        exact ⟨Nat.succ_le_succ h_le, fun h_eq => h_longest (List.cons.inj h_eq).2⟩

theorem not_handsOver_nil : ¬ HandsOver [] front program := by
  rintro ⟨behind, h_line, -⟩
  have h_length := congrArg List.length h_line
  simp only [List.length_append, List.length_nil, String.length_toList] at h_length
  have h_exec : "exec ".length = 5 := by decide
  omega

/-- **A line hands over to the program that the search finds.** -/
theorem relaunchIn?_eq_some_iff : relaunchIn? line = some program ↔ HandsOverTo line program := by
  induction line with
  | nil =>
    refine ⟨fun h => ?_, ?_⟩
    · cases h
    · rintro ⟨front, h, -⟩
      exact absurd h not_handsOver_nil
  | cons c cs ih =>
    rw [relaunchIn?_cons, Option.or_eq_some_iff, programAt?_eq_some_iff, programAt?_eq_none_iff, ih,
      handsOverTo_cons_iff]

/-- The search finds nothing only where a line does not hand over. -/
theorem relaunchIn?_eq_none_iff :
    relaunchIn? line = none ↔ ∀ front program, ¬ HandsOver line front program := by
  induction line with
  | nil => exact ⟨fun _ _ _ => not_handsOver_nil, fun _ => rfl⟩
  | cons c cs ih =>
    rw [relaunchIn?_cons, Option.or_eq_none_iff, programAt?_eq_none_iff, ih]
    refine ⟨?_, ?_⟩
    · rintro ⟨h_here, h_behind⟩ front program h
      cases front with
      | nil => exact h_here program h
      | cons d front => exact h_behind front program (handsOver_cons_iff.mp h).2
    · intro h
      exact ⟨h [], fun front program h' => h (c :: front) program (handsOver_cons_iff.mpr ⟨rfl, h'⟩)⟩

end FileProfile.Shebang
