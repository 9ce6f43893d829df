import FileProfile.Json.Record
import FileProfile.Limits
import FileProfile.Proofs.Json.Text
import Mathlib.Data.List.Nodup

/-!
# Records are read back

A record is written as an object with its fields by name, those without a value left out
(`Json.ofEntries`). As long as no two fields have the same name, each is found under its name, with
its value or without one (`field?_ofEntries`), and the readers of single fields give back what was
written.
-/

namespace FileProfile.Json

/-! ### Fields by name -/

/-- The object of the fields that have a value. -/
def ofEntries (entries : List (String × Option Json)) : Json :=
  .object (entries.filterMap fun entry => entry.2.map (entry.1, ·))

theorem of_find?_reverse {fields : List (String × Json)} {name : String} {field : String × Json}
    (h : fields.reverse.find? (·.1 == name) = some field) : field.1 = name ∧ field ∈ fields := by
  have h_name := List.find?_some h
  exact ⟨beq_iff_eq.mp h_name, List.mem_reverse.mp (List.mem_of_find?_eq_some h)⟩

/-- Where names are distinct, a field is found by its name. -/
theorem field?_object_eq_some_iff {fields : List (String × Json)}
    (h_names : (fields.map (·.1)).Nodup) {name : String} {value : Json} :
    (object fields).field? name = some value ↔ (name, value) ∈ fields := by
  refine ⟨?_, ?_⟩
  · intro h
    obtain ⟨field, h_find, h_value⟩ := Option.map_eq_some_iff.mp h
    obtain ⟨h_name, h_mem⟩ := of_find?_reverse h_find
    rw [← h_name, ← h_value]
    exact h_mem
  · intro h
    -- a field of this name is found, and there is only one
    have h_isSome : (fields.reverse.find? (·.1 == name)).isSome = true :=
      List.find?_isSome.mpr ⟨(name, value), List.mem_reverse.mpr h, beq_self_eq_true name⟩
    obtain ⟨field, h_find⟩ := Option.isSome_iff_exists.mp h_isSome
    obtain ⟨h_name, h_mem⟩ := of_find?_reverse h_find
    have h_same : field = (name, value) := List.inj_on_of_nodup_map h_names h_mem h h_name
    rw [field?, h_find, h_same]
    rfl

theorem mem_filterMap_iff {entries : List (String × Option Json)} {name : String} {value : Json} :
    ((name, value) ∈ entries.filterMap fun entry => entry.2.map (entry.1, ·)) ↔
      (name, some value) ∈ entries := by
  rw [List.mem_filterMap]
  refine ⟨?_, ?_⟩
  · -- the field comes from an entry of its own name and value
    rintro ⟨⟨name', value'⟩, h_mem, h⟩
    obtain ⟨_, rfl, h_field⟩ := Option.map_eq_some_iff.mp h
    cases h_field
    exact h_mem
  · intro h
    exact ⟨(name, some value), h, rfl⟩

/-- The names of the fields that have a value are some of all names. -/
theorem sublist_names (entries : List (String × Option Json)) :
    ((entries.filterMap fun entry => entry.2.map (entry.1, ·)).map (·.1)).Sublist
      (entries.map (·.1)) := by
  induction entries with
  | nil => exact .slnil
  | cons entry entries ih =>
    obtain ⟨name, value | value⟩ := entry
    · exact ih.cons name
    · exact ih.cons_cons name

/-- **Each field is found under its name,** with its value, or without one. -/
theorem field?_ofEntries {entries : List (String × Option Json)}
    (h_names : (entries.map (·.1)).Nodup) {name : String} {value : Option Json}
    (h : (name, value) ∈ entries) : (ofEntries entries).field? name = value := by
  have h_fields := h_names.sublist (sublist_names entries)
  ext v
  -- `v` stands in the object if its entry does, and the name has no other entry
  rw [ofEntries, field?_object_eq_some_iff h_fields, mem_filterMap_iff]
  refine ⟨?_, ?_⟩
  · intro h_some
    have h_same := List.inj_on_of_nodup_map h_names h_some h rfl
    cases h_same
    rfl
  · rintro rfl
    exact h

/-! ### Readers of single fields -/

/-- A reader goes on with what it has read. -/
theorem bind_eq_of_some {α β : Type} {read? : Option α} {next? : α → Option β} {a : α}
    {result : Option β} (h : read? = some a) (h_next : next? a = result) :
    (read? >>= next?) = result := by
  rw [h]
  exact h_next

variable {record : Json} {name : String}

theorem required?_string {text : String} (h : record.field? name = some (.string text)) :
    record.required? name string? = some text := by
  rw [required?, h]
  rfl

theorem required?_bool {b : Bool} (h : record.field? name = some (.bool b)) :
    record.required? name bool? = some b := by
  rw [required?, h]
  rfl

/-- A size is read back if it has at most 64 bits. -/
theorem required?_size {n : Nat} (h : record.field? name = some (.nat n)) (hn : n < Limits.bound) :
    record.required? name size? = some n := by
  rw [required?, h]
  exact if_pos hn

/-- A value that may be missing and is written as a text is read back, if its text is. -/
theorem optional?_string {α : Type} {write : α → String} {read? : Json → Option α}
    (h_read : ∀ a, read? (.string (write a)) = some a) {value : Option α}
    (h : record.field? name = value.map (.string <| write ·)) :
    record.optional? name read? = some value := by
  rw [optional?, h]
  cases value with
  | none => rfl
  | some a => exact congrArg (Option.map some) (h_read a)

/-! ### Well-formed records -/

theorem isWellFormed_scalar {s : Scalar} (h : s.IsWellFormed) : (scalar s).IsWellFormed := by
  intro token h_token t h_scalar
  rw [List.mem_singleton.mp h_token] at h_scalar
  cases h_scalar
  exact h

theorem isWellFormed_string (text : String) : (string text).IsWellFormed :=
  isWellFormed_scalar trivial

theorem isWellFormed_bool (b : Bool) : (bool b).IsWellFormed := isWellFormed_scalar trivial

theorem isWellFormed_nat (n : Nat) : (nat n).IsWellFormed := isWellFormed_scalar trivial

theorem mem_separated {token : Token} {parts : List (List Token)} (h : token ∈ separated parts) :
    token = .comma ∨ ∃ part ∈ parts, token ∈ part := by
  induction parts with
  | nil => cases h
  | cons part rest ih =>
    cases rest with
    | nil =>
      rw [separated_single] at h
      exact .inr ⟨part, List.mem_singleton_self part, h⟩
    | cons next rest =>
      rw [separated_cons_cons] at h
      rcases List.mem_append.mp h with h_part | h_rest
      · exact .inr ⟨part, List.mem_cons_self, h_part⟩
      rcases List.mem_cons.mp h_rest with h_comma | h_rest
      · exact .inl h_comma
      refine (ih h_rest).imp_right ?_
      rintro ⟨part', h_mem, h_part'⟩
      exact ⟨part', List.mem_cons_of_mem part h_mem, h_part'⟩

/-- An object is well-formed if the values of its fields are. -/
theorem isWellFormed_object {fields : List (String × Json)}
    (h : ∀ field ∈ fields, field.2.IsWellFormed) : (object fields).IsWellFormed := by
  intro token h_token s h_scalar
  subst h_scalar
  rw [tokens_object] at h_token
  simp only [List.cons_append, List.mem_cons, List.mem_append, List.not_mem_nil, or_false,
    reduceCtorEq, false_or] at h_token
  obtain h_comma | ⟨part, h_part, h_mem⟩ := mem_separated h_token
  · cases h_comma
  obtain ⟨field, h_field, rfl⟩ := List.mem_map.mp h_part
  -- the scalar is a name or part of a value
  rcases List.mem_cons.mp h_mem with h_name | h_mem
  · cases h_name
    trivial
  rcases List.mem_cons.mp h_mem with h_colon | h_value
  · cases h_colon
  exact h field h_field _ h_value s rfl

theorem isWellFormed_ofEntries {entries : List (String × Option Json)}
    (h : ∀ entry ∈ entries, ∀ value ∈ entry.2, value.IsWellFormed) :
    (ofEntries entries).IsWellFormed := by
  refine isWellFormed_object ?_
  intro field h_field
  exact h (field.1, some field.2) (mem_filterMap_iff.mp h_field) field.2 rfl

end FileProfile.Json
