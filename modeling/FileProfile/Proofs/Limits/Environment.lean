import FileProfile.CommandLine.DotEnv
import FileProfile.Proofs.Limits.Number
import FileProfile.Proofs.Summary.RoundTrip

/-!
# Limits and the environment

Each limit has a variable of its own, `settings`. `ofEnvironment_exactly` says which limits an
environment sets: a limit is the number that its variable writes, if that has at most 64 bits, and
the default otherwise. Nothing else in the environment has a say in it, and limits that are written
into the environment in decimal digits are set again.
-/

namespace FileProfile.Limits

/-- The limits, each with the variable that sets it. -/
def settings : List (String × (Limits → ℕ)) :=
  [(sampleLengthVariable, sampleLength), (longLineVariable, longLine),
    (viewableSizeVariable, viewableSize), (indexableSizeVariable, indexableSize)]

/-- What a variable holds sets a limit to a number: it writes that number, and 64 bits hold it. -/
def Sets (value : Option String) (n : ℕ) : Prop :=
  ∃ text, value = some text ∧ Writes text n ∧ n < 2 ^ 64

/-- What is asked of the limit of a variable in an environment. -/
structure SetsExactly (get? : String → Option String) (v : String × (Limits → ℕ)) : Prop where
  /-- The limit is the number that the variable sets it to. -/
  set : ∀ n, Sets (get? v.1) n → v.2 (ofEnvironment get?) = n
  /-- If the variable sets it to none, it is the default. -/
  default : (∀ n, ¬ Sets (get? v.1) n) → v.2 (ofEnvironment get?) = v.2 {}
  /-- Nothing else has a say in it. -/
  alone : ∀ get?', get?' v.1 = get? v.1 → v.2 (ofEnvironment get?') = v.2 (ofEnvironment get?)

/-- The environment holds limits, each in its variable and in decimal digits. -/
def HeldBy (limits : Limits) (get? : String → Option String) : Prop :=
  ∀ v ∈ settings, get? v.1 = some (Text.decimal (v.2 limits))

variable {get? : String → Option String} {limits limits' : Limits} {value : Option String}
  {v : String × (Limits → ℕ)} {n : ℕ}

/-! ### Settings -/

/-- There are no other limits. -/
theorem eq_of_settings (h : ∀ v ∈ settings, v.2 limits = v.2 limits') : limits = limits' := by
  simp only [settings, List.forall_mem_cons, List.not_mem_nil] at h
  obtain ⟨h_sample, h_line, h_viewable, h_indexable, -⟩ := h
  cases limits
  cases limits'
  simp_all

theorem lt_of_isInBounds (h : limits.IsInBounds) (hv : v ∈ settings) : v.2 limits < 2 ^ 64 := by
  have h_all : ∀ v ∈ settings, v.2 limits < bound := by
    simp only [settings, List.forall_mem_cons, List.not_mem_nil]
    exact ⟨h.sampleLength, h.longLine, h.viewableSize, h.indexableSize, nofun⟩
  exact h_all v hv

/-- **All limits are set alike:** by what the variable holds, or else by default. -/
theorem limit_ofEnvironment (hv : v ∈ settings) :
    v.2 (ofEnvironment get?) = ((get? v.1).bind number?).getD (v.2 {}) := by
  -- the definition sets the four by one expression
  have h_all : ∀ v ∈ settings,
      v.2 (ofEnvironment get?) = ((get? v.1).bind number?).getD (v.2 {}) := by
    simp only [settings, List.forall_mem_cons, List.not_mem_nil]
    exact ⟨rfl, rfl, rfl, rfl, nofun⟩
  exact h_all v hv

theorem bind_number?_eq_some_iff : value.bind number? = some n ↔ Sets value n := by
  rw [Option.bind_eq_some_iff]
  exact exists_congr fun text => and_congr_right fun _ => number?_eq_some_iff

theorem setsExactly_of_mem (get? : String → Option String) (hv : v ∈ settings) :
    SetsExactly get? v where
  set := by
    intro n h_sets
    rw [limit_ofEnvironment hv, bind_number?_eq_some_iff.mpr h_sets, Option.getD_some]
  default := by
    intro h_not
    have h_none : (get? v.1).bind number? = none := by
      apply Option.eq_none_iff_forall_ne_some.mpr
      intro n h_some
      exact h_not n (bind_number?_eq_some_iff.mp h_some)
    rw [limit_ofEnvironment hv, h_none, Option.getD_none]
  alone := by
    intro get?' h_same
    rw [limit_ofEnvironment hv, limit_ofEnvironment hv, h_same]

/-! ### Written limits -/

/-- The decimal text of a number writes it. -/
theorem writes_decimal (n : ℕ) : Writes (Text.decimal n) n := by
  refine ⟨[], Text.toDigits n, ?_, by decide, Text.toDigits_ne_nil n, ?_, ?_⟩
  · rw [Text.decimal, String.toList_ofList, List.nil_append]
  · exact fun c hc => Text.isDigit_of_mem_toDigits hc
  · rw [← ofDigits_eq_places, Text.ofDigits_toDigits]

/-- **Limits that an environment holds are set.** -/
theorem ofEnvironment_of_heldBy (h : limits.IsInBounds) (h_held : limits.HeldBy get?) :
    ofEnvironment get? = limits := by
  apply eq_of_settings
  intro v hv
  apply (setsExactly_of_mem get? hv).set
  exact ⟨_, h_held v hv, writes_decimal _, lt_of_isInBounds h hv⟩

/-- **What an environment sets.** Each limit is the number that its own variable sets it to, or the
default if that sets it to none, and no other variable has a say in it. So limits that have been
written into an environment are read from it again. And to tell whether a number has at most 64
bits, it is enough to read it digit by digit in words of that size. -/
theorem ofEnvironment_exactly (limits : Limits) (h : limits.IsInBounds) :
    (∀ get?, ∀ v ∈ settings, SetsExactly get? v) ∧
    (∀ get?, limits.HeldBy get? → ofEnvironment get? = limits) ∧
    ∀ text, number? text = (word? (unsigned text)).map UInt64.toNat :=
  ⟨fun get? _ hv => setsExactly_of_mem get? hv, fun _ h_held => ofEnvironment_of_heldBy h h_held,
    number?_eq_map_word?⟩

/-- Limits at both ends of what 64 bits hold. -/
def extremes : Limits := ⟨18446744073709551615, 0, 9223372036854775808, 7⟩

/-- An environment with other variables besides. -/
def extremeEnvironment : Environment where
  bindings := [("HOME", "12"), ("BLOBSNIFF_MAX_INDEXABLE_SIZE", "7"),
    ("BLOBSNIFF_SNIFF_LEN", "18446744073709551615"), ("BLOBSNIFF_MINIFIED_LINE_LENGTH", "0"),
    ("BLOBSNIFF_LARGE_BLOB_SIZE", "9223372036854775808")]

theorem ofEnvironment_extremes :
    extremes.IsInBounds ∧ extremes.HeldBy extremeEnvironment.get? ∧
      (∀ get?, ∀ v ∈ settings, SetsExactly get? v) ∧
      ofEnvironment extremeEnvironment.get? = extremes ∧
      ∀ text, number? text = (word? (unsigned text)).map UInt64.toNat := by
  have h : extremes.IsInBounds := ⟨by decide, by decide, by decide, by decide⟩
  have h_held : extremes.HeldBy extremeEnvironment.get? := by
    simp only [HeldBy, settings, List.forall_mem_cons, List.not_mem_nil]
    exact ⟨by decide +kernel, by decide +kernel, by decide +kernel, by decide +kernel, nofun⟩
  obtain ⟨h_exactly, h_held_set, h_word⟩ := ofEnvironment_exactly extremes h
  exact ⟨h, h_held, h_exactly, h_held_set _ h_held, h_word⟩

/-- Zeros in front make a long text of a small number, and the least number that is too large leaves
the default. -/
example : number? "+00000000000000000000042" = some 42 ∧
    number? "18446744073709551615" = some 18446744073709551615 ∧
    number? "18446744073709551616" = none := by decide +kernel

end FileProfile.Limits
