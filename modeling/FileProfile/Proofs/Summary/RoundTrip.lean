import FileProfile.Http.Disposition
import FileProfile.Proofs.Json.Record
import FileProfile.Summary

/-!
# What is written is read back

The JSON object of a summary gives the summary back (`Summary.ofJson?_toJson`), as that of limits
gives the limits back (`Limits.ofJson?_toJson`). Both objects are well-formed, so that their compact
and their indented texts read as them, and nothing is lost on the way through a text
(`written_isRestored`).

Summaries and limits hold natural numbers, of which those with more than 64 bits could be written,
and not read. `IsInBounds` leaves them out.
-/

namespace FileProfile

/-- Both texts of `json` read as it, and it gives `a` back. -/
structure Json.Restores {α : Type} (json : Json) (read? : Json → Option α) (a : α) : Prop where
  compact : Json.ofText? json.compact = some json
  indented : Json.ofText? json.indented = some json
  value : read? json = some a

theorem Json.IsWellFormed.restores {α : Type} {json : Json} {read? : Json → Option α} {a : α}
    (h : json.IsWellFormed) (h_value : read? json = some a) : json.Restores read? a :=
  ⟨Json.ofText?_compact h, Json.ofText?_indented h, h_value⟩

namespace Encoding

/-- An encoding is known by its name. -/
theorem ofCharset?_charset (encoding : Encoding) : ofCharset? encoding.charset = some encoding := by
  rcases encoding with _ | (_ | _) | _ <;> decide +kernel

end Encoding

namespace ImageFormat

/-- A format is known by its name. -/
theorem ofName?_name (image : ImageFormat) : ofName? image.name = some image := by
  cases image <;> decide +kernel

end ImageFormat

namespace Summary

/-- The sizes and counts of a summary have at most 64 bits. -/
structure IsInBounds (s : Summary) : Prop where
  size : s.size < Limits.bound
  loc : s.loc < Limits.bound
  sloc : s.sloc < Limits.bound

variable (s : Summary)

/-- The names of the fields are distinct. -/
theorem nodup_fieldNames : ((fieldNames.zip s.fieldValues).map (·.1)).Nodup := by
  change fieldNames.Nodup
  decide +kernel

/-- The fields of the object are those of the summary, by their places. -/
theorem field?_toJson (i : Nat) (name : String) {value : Option Json}
    (h : (fieldNames.zip s.fieldValues)[i]? = some (name, value)) :
    s.toJson.field? name = value :=
  Json.field?_ofEntries s.nodup_fieldNames (List.mem_of_getElem? h)

/-- All values are texts, truth values and natural numbers. -/
theorem isWellFormed_of_mem_fieldValues :
    ∀ value? ∈ s.fieldValues, ∀ value ∈ value?, value.IsWellFormed := by
  simp only [fieldValues, List.forall_mem_cons, Option.mem_def, Option.some.injEq, forall_eq',
    Option.map_eq_some_iff, forall_exists_index, and_imp, forall_apply_eq_imp_iff₂,
    Json.isWellFormed_string, Json.isWellFormed_bool, Json.isWellFormed_nat, implies_true, true_and]
  exact nofun

theorem isWellFormed_toJson : s.toJson.IsWellFormed := by
  refine Json.isWellFormed_ofEntries ?_
  rintro ⟨name, value?⟩ h_entry
  exact s.isWellFormed_of_mem_fieldValues value? (List.of_mem_zip h_entry).2

variable {s}

/-- **The object of a summary gives the summary back.** -/
theorem ofJson?_toJson (h : s.IsInBounds) : ofJson? s.toJson = some s := by
  have h_encoding :
      s.toJson.optional? "encoding" (fun v => v.alternative?.bind Encoding.ofCharset?) =
        some s.encoding :=
    Json.optional?_string Encoding.ofCharset?_charset (s.field?_toJson 6 "encoding" rfl)
  have h_image :
      s.toJson.optional? "image" (fun v => v.alternative?.bind ImageFormat.ofName?) =
        some s.image :=
    Json.optional?_string ImageFormat.ofName?_name (s.field?_toJson 9 "image" rfl)
  have h_language : s.toJson.optional? "language" Json.string? = some s.language :=
    Json.optional?_string (fun _ => rfl) (s.field?_toJson 14 "language" rfl)
  have h_script : s.toJson.optional? "shebang_script" Json.string? = some s.shebangScript :=
    Json.optional?_string (fun _ => rfl) (s.field?_toJson 16 "shebang_script" rfl)
  -- the record is an object, and its fields are read in order
  unfold ofJson?
  refine Json.bind_eq_of_some rfl ?_
  refine Json.bind_eq_of_some (Json.required?_string (s.field?_toJson 0 "path" rfl)) ?_
  refine Json.bind_eq_of_some (Json.required?_string (s.field?_toJson 1 "name" rfl)) ?_
  refine Json.bind_eq_of_some (Json.required?_size (s.field?_toJson 2 "size" rfl) h.size) ?_
  refine Json.bind_eq_of_some (Json.required?_string (s.field?_toJson 3 "mime_type" rfl)) ?_
  refine Json.bind_eq_of_some (Json.required?_string (s.field?_toJson 4 "content_type" rfl)) ?_
  refine Json.bind_eq_of_some (Json.required?_string (s.field?_toJson 5 "disposition" rfl)) ?_
  refine Json.bind_eq_of_some h_encoding ?_
  refine Json.bind_eq_of_some (Json.required?_bool (s.field?_toJson 7 "binary" rfl)) ?_
  refine Json.bind_eq_of_some (Json.required?_bool (s.field?_toJson 8 "text" rfl)) ?_
  refine Json.bind_eq_of_some h_image ?_
  refine Json.bind_eq_of_some (Json.required?_bool (s.field?_toJson 10 "viewable" rfl)) ?_
  refine Json.bind_eq_of_some (Json.required?_bool (s.field?_toJson 11 "generated" rfl)) ?_
  refine Json.bind_eq_of_some (Json.required?_bool (s.field?_toJson 12 "vendored" rfl)) ?_
  refine Json.bind_eq_of_some (Json.required?_bool (s.field?_toJson 13 "indexable" rfl)) ?_
  refine Json.bind_eq_of_some h_language ?_
  refine Json.bind_eq_of_some (Json.required?_string (s.field?_toJson 15 "lexer" rfl)) ?_
  refine Json.bind_eq_of_some h_script ?_
  refine Json.bind_eq_of_some (Json.required?_size (s.field?_toJson 17 "loc" rfl) h.loc) ?_
  refine Json.bind_eq_of_some (Json.required?_size (s.field?_toJson 18 "sloc" rfl) h.sloc) ?_
  rfl

end Summary

namespace Limits

/-- All limits have at most 64 bits. -/
structure IsInBounds (limits : Limits) : Prop where
  sampleLength : limits.sampleLength < bound
  longLine : limits.longLine < bound
  viewableSize : limits.viewableSize < bound
  indexableSize : limits.indexableSize < bound

variable (limits : Limits)

/-- The limits by name. -/
def entries : List (String × Option Json) := [
  ("sniff_len", some (.nat limits.sampleLength)),
  ("minified_line_length", some (.nat limits.longLine)),
  ("large_blob_size", some (.nat limits.viewableSize)),
  ("max_indexable_size", some (.nat limits.indexableSize))]

theorem toJson_eq : limits.toJson = Json.ofEntries limits.entries := rfl

theorem nodup_names : (limits.entries.map (·.1)).Nodup := by
  change fieldNames.Nodup
  decide +kernel

theorem field?_toJson (i : Nat) (name : String) {value : Option Json}
    (h : limits.entries[i]? = some (name, value)) : limits.toJson.field? name = value := by
  rw [toJson_eq]
  exact Json.field?_ofEntries limits.nodup_names (List.mem_of_getElem? h)

theorem isWellFormed_toJson : limits.toJson.IsWellFormed := by
  rw [toJson_eq]
  refine Json.isWellFormed_ofEntries ?_
  simp only [entries, List.forall_mem_cons, Option.mem_def, Option.some.injEq, forall_eq',
    Json.isWellFormed_nat, true_and]
  exact nofun

variable {limits}

/-- **The object of limits gives the limits back.** -/
theorem ofJson?_toJson (h : limits.IsInBounds) : ofJson? limits.toJson = some limits := by
  unfold ofJson?
  refine Json.bind_eq_of_some rfl ?_
  refine Json.bind_eq_of_some
    (Json.required?_size (limits.field?_toJson 0 "sniff_len" rfl) h.sampleLength) ?_
  refine Json.bind_eq_of_some
    (Json.required?_size (limits.field?_toJson 1 "minified_line_length" rfl) h.longLine) ?_
  refine Json.bind_eq_of_some
    (Json.required?_size (limits.field?_toJson 2 "large_blob_size" rfl) h.viewableSize) ?_
  refine Json.bind_eq_of_some
    (Json.required?_size (limits.field?_toJson 3 "max_indexable_size" rfl) h.indexableSize) ?_
  rfl

end Limits

/-- **Nothing is lost in writing.** Summaries and limits are restored from their texts and objects,
and the compact text of a summary has no control character, whatever the path, the name and the
script are, so that it is a single line. -/
theorem written_isRestored (s : Summary) (limits : Limits) (hs : s.IsInBounds)
    (hl : limits.IsInBounds) :
    s.toJson.Restores Summary.ofJson? s ∧ (∀ c ∈ s.toJson.compact.toList, 0x20 ≤ c.toNat) ∧
      limits.toJson.Restores Limits.ofJson? limits := by
  refine ⟨?_, ?_, ?_⟩
  · exact s.isWellFormed_toJson.restores (Summary.ofJson?_toJson hs)
  · intro c hc
    exact Json.le_toNat_of_mem_compact s.isWellFormed_toJson hc
  · exact limits.isWellFormed_toJson.restores (Limits.ofJson?_toJson hl)

/-- A script whose name has a line break, a quote and a bell in it. -/
def Summary.oddlyNamed : Summary where
  path := "bin/say\n\"it\"\x07"
  name := "say\n\"it\"\x07"
  size := 20
  mediaType := "application/x-sh"
  contentType := "text/plain; charset=utf-8"
  disposition := Disposition.inline
  encoding := some .utf8
  binary := false
  text := true
  image := none
  viewable := true
  generated := false
  thirdParty := false
  indexable := true
  language := some "Shell"
  lexer := "Bash"
  shebangScript := some "sh"
  loc := 2
  sloc := 2

theorem written_isRestored_oddlyNamed :
    Summary.oddlyNamed.IsInBounds ∧ Limits.IsInBounds {} ∧
      Summary.oddlyNamed.toJson.Restores Summary.ofJson? Summary.oddlyNamed ∧
      (∀ c ∈ Summary.oddlyNamed.toJson.compact.toList, 0x20 ≤ c.toNat) ∧
      (Limits.toJson {}).Restores Limits.ofJson? {} := by
  have h_summary : Summary.oddlyNamed.IsInBounds := ⟨by decide, by decide, by decide⟩
  have h_limits : Limits.IsInBounds {} := ⟨by decide, by decide, by decide, by decide⟩
  exact ⟨h_summary, h_limits, written_isRestored Summary.oddlyNamed {} h_summary h_limits⟩

end FileProfile
