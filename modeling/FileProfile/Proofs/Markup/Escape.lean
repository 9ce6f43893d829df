import FileProfile.Markup.Escape
import FileProfile.Proofs.Text.Split

/-!
# Reading escaped text back

An escaped text is inert, `IsInert`: no character in it begins or ends markup, and where an
ampersand stands an entity stands. Reading it once from left to right, with the character in place
of each entity that is found, gives the text back (`unescape_escape`).

Both rest on how entities are made. They begin with an ampersand and have no other, and none begins
like another. So reading finds an entity exactly where a character was escaped
(`unescapeFrom_entity_append`), and what looked like an entity in the text is not found, because its
ampersand has been escaped like any other.
-/

namespace FileProfile.Markup

/-- The entities, with the characters that they stand for. -/
def entities : List (List Char × Char) :=
  [("&amp;".toList, '&'), ("&lt;".toList, '<'), ("&gt;".toList, '>'), ("&quot;".toList, '"'),
    ("&#39;".toList, '\'')]

/-- The entity that a text starts with, if it starts with one. -/
def entityAt? (cs : List Char) : Option (List Char × Char) := entities.find? (·.1.isPrefixOf cs)

/-- A text behind its first `passed` characters, with its character in place of each entity that is
found. -/
def unescapeFrom (passed : Nat) : List Char → List Char
  | [] => []
  | c :: cs =>
    match passed with
    | passed + 1 => unescapeFrom passed cs
    | 0 =>
      match entityAt? (c :: cs) with
      | some entity => entity.2 :: unescapeFrom (entity.1.length - 1) cs
      | none => c :: unescapeFrom 0 cs

/-- The text that an escaped text stands for. -/
def unescape (written : String) : String := String.ofList (unescapeFrom 0 written.toList)

/-- The characters that delimit markup. -/
def delimiters : List Char := ['<', '>', '"', '\'']

/-- A text that is no markup: it has none of the characters that delimit markup, and exactly one
entity starts at each of its ampersands. -/
structure IsInert (cs : List Char) : Prop where
  unmarked : ∀ c ∈ delimiters, c ∉ cs
  entity : ∀ l r, cs = l ++ '&' :: r →
    ∃ e ∈ entities, e.1 <+: '&' :: r ∧ ∀ f ∈ entities, f.1 <+: '&' :: r → f = e

variable {c : Char} {cs l r : List Char} {e f : List Char × Char}

/-! ### Entities -/

/-- An entity is an ampersand and a name in which nothing is escaped. -/
theorem exists_name (h : e ∈ entities) :
    ∃ name, e.1 = '&' :: name ∧ '&' ∉ name ∧ ∀ c ∈ delimiters, c ∉ name := by
  -- `List.all`, because a statement about each member of a list of characters may be decided by
  -- going through all characters
  have h_all : ∀ e ∈ entities, e.1 = '&' :: e.1.drop 1 ∧ '&' ∉ e.1.drop 1 ∧
      delimiters.all (fun c => c ∉ e.1.drop 1) = true := by decide
  obtain ⟨h_first, h_amp, h_delimiters⟩ := h_all e h
  refine ⟨e.1.drop 1, h_first, h_amp, ?_⟩
  intro c hc
  exact of_decide_eq_true (List.all_eq_true.mp h_delimiters c hc)

/-- **Entities are told apart:** no text starts with two of them. -/
theorem eq_of_starts (he : e ∈ entities) (hf : f ∈ entities) (h : e.1 <+: cs) (h' : f.1 <+: cs) :
    e = f := by
  have h_apart : ∀ e ∈ entities, ∀ f ∈ entities, e.1 <+: f.1 → e = f := by decide
  rcases List.prefix_or_prefix_of_prefix h h' with h_le | h_le
  · exact h_apart e he f hf h_le
  · exact (h_apart f hf e he h_le).symm

theorem entityAt?_append (h : e ∈ entities) (cs : List Char) : entityAt? (e.1 ++ cs) = some e := by
  have h_starts : e.1 <+: e.1 ++ cs := List.prefix_append _ _
  rw [entityAt?]
  cases h_found : entities.find? (·.1.isPrefixOf (e.1 ++ cs)) with
  | none =>
    have h_none := List.find?_eq_none.mp h_found e h
    exact absurd (List.isPrefixOf_iff_prefix.mpr h_starts) h_none
  | some f =>
    -- the first entity that is found need not be `e` by its place, but no other one fits
    have hf : f ∈ entities := List.mem_of_find?_eq_some h_found
    have h_begins := List.find?_some h_found
    rw [eq_of_starts hf h (List.isPrefixOf_iff_prefix.mp h_begins) h_starts]

theorem entityAt?_of_ne (h : c ≠ '&') (cs : List Char) : entityAt? (c :: cs) = none := by
  apply List.find?_eq_none.mpr
  intro e he h_starts
  obtain ⟨name, h_name, -⟩ := exists_name he
  obtain ⟨rest, h_eq⟩ := List.isPrefixOf_iff_prefix.mp h_starts
  rw [h_name] at h_eq
  exact h (List.cons.inj h_eq).1.symm

/-- A character is escaped as its entity, or it needs no escape. -/
theorem escapeChar_cases (c : Char) :
    (∃ e ∈ entities, e.2 = c ∧ escapeChar c = e.1) ∨
      (escapeChar c = [c] ∧ c ≠ '&' ∧ c ∉ delimiters) := by
  unfold escapeChar
  split
  · exact .inl ⟨("&amp;".toList, '&'), by decide, rfl, rfl⟩
  · exact .inl ⟨("&lt;".toList, '<'), by decide, rfl, rfl⟩
  · exact .inl ⟨("&gt;".toList, '>'), by decide, rfl, rfl⟩
  · exact .inl ⟨("&quot;".toList, '"'), by decide, rfl, rfl⟩
  · exact .inl ⟨("&#39;".toList, '\''), by decide, rfl, rfl⟩
  · next h_amp h_lt h_gt h_quote h_single =>
    refine .inr ⟨rfl, h_amp, ?_⟩
    intro h_mem
    simp only [delimiters, List.mem_cons, List.not_mem_nil, or_false] at h_mem
    rcases h_mem with h | h | h | h
    · exact h_lt h
    · exact h_gt h
    · exact h_quote h
    · exact h_single h

/-! ### Reading back -/

/-- What is passed over makes no difference. -/
theorem unescapeFrom_length_append (l cs : List Char) :
    unescapeFrom l.length (l ++ cs) = unescapeFrom 0 cs := by
  induction l with
  | nil => rfl
  | cons c l ih => exact ih

/-- **An entity is read as a whole,** and reading goes on right behind it. -/
theorem unescapeFrom_entity_append (h : e ∈ entities) (cs : List Char) :
    unescapeFrom 0 (e.1 ++ cs) = e.2 :: unescapeFrom 0 cs := by
  -- its first character is read here, and its name is what is passed over
  obtain ⟨name, h_name, -⟩ := exists_name h
  have h_found := entityAt?_append h cs
  rw [h_name, List.cons_append] at h_found ⊢
  rw [unescapeFrom]
  simp only [h_found]
  rw [h_name, List.length_cons, Nat.add_sub_cancel, unescapeFrom_length_append]

theorem unescapeFrom_escapeChar_append (c : Char) (cs : List Char) :
    unescapeFrom 0 (escapeChar c ++ cs) = c :: unescapeFrom 0 cs := by
  rcases escapeChar_cases c with ⟨e, he, h_char, h_eq⟩ | ⟨h_eq, h_amp, -⟩
  · rw [h_eq, unescapeFrom_entity_append he, h_char]
  · rw [h_eq, List.singleton_append, unescapeFrom]
    simp only [entityAt?_of_ne h_amp]

theorem toList_escape (text : String) : (escape text).toList = text.toList.flatMap escapeChar :=
  String.toList_ofList

/-- **Escaped text reads back.** The induction is along the text: behind what is written for one
character, the rest is read as if it stood alone. -/
theorem unescape_escape (text : String) : unescape (escape text) = text := by
  have h_read : ∀ cs : List Char, unescapeFrom 0 (cs.flatMap escapeChar) = cs := by
    intro cs
    induction cs with
    | nil => rfl
    | cons c cs ih => rw [List.flatMap_cons, unescapeFrom_escapeChar_append, ih]
  rw [unescape, toList_escape, h_read, String.ofList_toList]

/-- Reading back is done once: the entity that an escaped ampersand leaves behind is text. -/
example : unescape "&amp;lt; &lt;&am" = "&lt; <&am" := by decide +kernel

theorem escape_append (a b : String) : escape (a ++ b) = escape a ++ escape b := by
  apply String.toList_inj.mp
  rw [String.toList_append, toList_escape, toList_escape, toList_escape, String.toList_append,
    List.flatMap_append]

/-! ### Inert text -/

theorem isInert_nil : IsInert [] where
  unmarked _ _ := List.not_mem_nil
  entity l _ h := absurd h.symm (List.append_ne_nil_of_right_ne_nil l (List.cons_ne_nil _ _))

/-- What begins with an entity starts with that entity alone. -/
theorem starts_of_entity (h : e ∈ entities) (h_starts : e.1 <+: cs) :
    ∃ e ∈ entities, e.1 <+: cs ∧ ∀ f ∈ entities, f.1 <+: cs → f = e :=
  ⟨e, h, h_starts, fun _ hf h_other => eq_of_starts hf h h_other h_starts⟩

theorem IsInert.append (hl : IsInert l) (hr : IsInert r) : IsInert (l ++ r) where
  unmarked := by
    intro c hc h_mem
    rcases List.mem_append.mp h_mem with h_mem | h_mem
    · exact hl.unmarked c hc h_mem
    · exact hr.unmarked c hc h_mem
  entity := by
    intro front rest h_eq
    rcases Text.cut_of_append_eq h_eq with ⟨more, h_left, rfl⟩ | ⟨more, -, h_right⟩
    · -- an entity on the left goes on to be one
      obtain ⟨e, he, h_starts, -⟩ := hl.entity front more h_left
      exact starts_of_entity he (h_starts.trans (List.prefix_append _ r))
    · exact hr.entity more rest h_right

theorem isInert_entity (h : e ∈ entities) : IsInert e.1 := by
  obtain ⟨name, h_name, h_once, h_plain⟩ := exists_name h
  rw [h_name]
  constructor
  case unmarked =>
    intro c hc h_mem
    rcases List.mem_cons.mp h_mem with rfl | h_mem
    · exact absurd hc (by decide)
    · exact h_plain c hc h_mem
  case entity =>
    intro front rest h_cut
    cases front with
    | nil =>
      have h_all : e.1 = '&' :: rest := h_name.trans h_cut
      exact starts_of_entity h ⟨[], (List.append_nil _).trans h_all⟩
    | cons d front =>
      -- there is no ampersand further on
      have h_mem : '&' ∈ name := by
        rw [(List.cons.inj h_cut).2]
        exact List.mem_append_right front List.mem_cons_self
      exact absurd h_mem h_once

theorem isInert_single (h_amp : c ≠ '&') (h_plain : c ∉ delimiters) : IsInert [c] where
  unmarked := by
    intro d hd h_mem
    rw [List.mem_singleton.mp h_mem] at hd
    exact h_plain hd
  entity := by
    intro front rest h_cut
    have h_mem : '&' ∈ [c] := by
      rw [h_cut]
      exact List.mem_append_right front List.mem_cons_self
    exact absurd (List.mem_singleton.mp h_mem).symm h_amp

/-- **Escaped text is no markup.** -/
theorem isInert_escape (text : String) : IsInert (escape text).toList := by
  rw [toList_escape]
  induction text.toList with
  | nil => exact isInert_nil
  | cons c cs ih =>
    rw [List.flatMap_cons]
    apply IsInert.append ?_ ih
    rcases escapeChar_cases c with ⟨e, he, -, h_eq⟩ | ⟨h_eq, h_amp, h_plain⟩
    · rw [h_eq]
      exact isInert_entity he
    · rw [h_eq]
      exact isInert_single h_amp h_plain

end FileProfile.Markup
