import FileProfile.Language.Shebang
import FileProfile.Proofs.Text.Split
import FileProfile.Proofs.Text.Words

/-!
# The interpreter on the shebang line

The grammar of a shebang line, apart from how one is read: `#!`, then words, the first of them the
path of a program. The program is the interpreter itself or it is `env`, and then the interpreter is
the first word behind it that is not meant for `env`. Reading finds an interpreter on the lines of
this grammar and on no others, and it is the one that the grammar has there
(`interpreter?_eq_some_iff`).
-/

namespace FileProfile.Shebang

/-- A word behind `env` is an option or an assignment. -/
def IsForEnv (word : List Char) : Prop := word.head? = some '-' ∨ '=' ∈ word

/-- The last part of the path of a program is its name. -/
def IsNameOf (name program : List Char) : Prop :=
  '/' ∉ name ∧ (program = name ∨ ∃ folder, program = folder ++ '/' :: name)

/-- A line is a shebang line that gives an interpreter. -/
inductive Gives : List Char → List Char → Prop
  | byPath {rest program arguments name} : Text.HasWords rest (program :: arguments) →
      IsNameOf name program → name ≠ [] → name ≠ "env".toList → Gives ("#!".toList ++ rest) name
  | throughEnv {rest program skipped raw arguments} :
      Text.HasWords rest (program :: (skipped ++ raw :: arguments)) →
      IsNameOf "env".toList program → (∀ word ∈ skipped, IsForEnv word) → ¬ IsForEnv raw →
      Gives ("#!".toList ++ rest) raw

variable {line raw name program word : List Char}

theorem isForEnv_iff : isForEnv word = true ↔ IsForEnv word := by
  rw [isForEnv, Bool.or_eq_true, beq_iff_eq, List.contains_iff_mem, IsForEnv]

theorem isForEnv_eq_false_iff : (!isForEnv word) = true ↔ ¬ IsForEnv word := by
  rw [← isForEnv_iff, Bool.not_eq_true', Bool.not_eq_true]

theorem lastPiece_eq_iff_isNameOf : Text.lastPiece '/' program = name ↔ IsNameOf name program :=
  Text.lastPiece_eq_iff

/-- Where a program is given, the interpreter is the program or an argument. -/
theorem interpreter?_of_words {rest : List Char} {arguments : List (List Char)}
    (h : Text.words rest = program :: arguments) :
    interpreter? ("#!".toList ++ rest) =
      if Text.lastPiece '/' program = "env".toList then arguments.find? (!isForEnv ·)
      else if (Text.lastPiece '/' program).isEmpty then none
      else some (Text.lastPiece '/' program) := by
  have h_prefix : "#!".toList.isPrefixOf ("#!".toList ++ rest) = true :=
    List.isPrefixOf_iff_prefix.mpr (List.prefix_append _ _)
  have h_rest : ("#!".toList ++ rest).drop 2 = rest := rfl
  rw [interpreter?, if_pos h_prefix, h_rest, h]

/-- Without a mark or without a program, no interpreter is given. -/
theorem exists_words_of_interpreter? (h : interpreter? line = some raw) :
    ∃ rest program arguments, line = "#!".toList ++ rest ∧
      Text.words rest = program :: arguments := by
  unfold interpreter? at h
  split at h
  · next h_prefix =>
    obtain ⟨rest, rfl⟩ := List.isPrefixOf_iff_prefix.mp h_prefix
    have h_rest : ("#!".toList ++ rest).drop 2 = rest := rfl
    rw [h_rest] at h
    cases h_words : Text.words rest with
    | nil => rw [h_words] at h; cases h
    | cons program arguments => exact ⟨rest, program, arguments, rfl, h_words⟩
  · cases h

/-- **An interpreter is read from the lines that give one,** and from no others. -/
theorem interpreter?_eq_some_iff : interpreter? line = some raw ↔ Gives line raw := by
  refine ⟨?_, ?_⟩
  · intro h
    obtain ⟨rest, program, arguments, rfl, h_words⟩ := exists_words_of_interpreter? h
    rw [interpreter?_of_words h_words] at h
    rw [Text.words_eq_iff] at h_words
    split at h
    · next h_env =>
      -- the arguments in front of the one found are all meant for `env`
      obtain ⟨h_raw, skipped, others, rfl, h_skipped⟩ := List.find?_eq_some_iff_append.mp h
      refine .throughEnv h_words (lastPiece_eq_iff_isNameOf.mp h_env) ?_
        (isForEnv_eq_false_iff.mp h_raw)
      intro word h_word
      have h_for := h_skipped word h_word
      rwa [Bool.not_not, isForEnv_iff] at h_for
    · next h_env =>
      split at h
      · cases h
      · next h_ne =>
        obtain rfl := Option.some.inj h
        exact .byPath h_words (lastPiece_eq_iff_isNameOf.mp rfl) (by simpa using h_ne) h_env
  · rintro (⟨h_words, h_name, h_ne, h_env⟩ | ⟨h_words, h_name, h_skipped, h_raw⟩)
    · rw [interpreter?_of_words h_words.words_eq, lastPiece_eq_iff_isNameOf.mpr h_name,
        if_neg h_env, if_neg (by simpa using h_ne)]
    · rw [interpreter?_of_words h_words.words_eq, lastPiece_eq_iff_isNameOf.mpr h_name, if_pos rfl]
      refine List.find?_eq_some_iff_append.mpr ⟨isForEnv_eq_false_iff.mpr h_raw, _, _, rfl, ?_⟩
      intro word h_word
      rw [Bool.not_not, isForEnv_iff]
      exact h_skipped word h_word

/-- The interpreter is a word of its line, or the end of one. -/
theorem Gives.raw_word (h : Gives line raw) :
    raw ≠ [] ∧ ∀ c ∈ raw, Text.isBlank c = false := by
  cases h with
  | @byPath rest program arguments _ h_words h_name h_ne _ =>
    have h_mem : program ∈ Text.words rest := h_words.words_eq ▸ List.mem_cons_self
    have h_blank := (Text.of_mem_words h_mem).2
    refine ⟨h_ne, fun c hc => ?_⟩
    obtain ⟨-, rfl | ⟨folder, rfl⟩⟩ := h_name
    · exact h_blank c hc
    · exact h_blank c (List.mem_append_right folder (List.mem_cons_of_mem _ hc))
  | @throughEnv rest program skipped _ arguments h_words _ _ _ =>
    have h_mem : raw ∈ Text.words rest := by
      rw [h_words.words_eq]
      exact List.mem_cons_of_mem _ (List.mem_append_right _ List.mem_cons_self)
    exact Text.of_mem_words h_mem

/-! ### Lines that name a program -/

/-- A program among those of the system is given by its name. -/
theorem gives_program {rest : List Char} (h_ne : name ≠ [])
    (h_word : ∀ c ∈ name, Text.isBlank c = false) (h_slash : '/' ∉ name)
    (h_env : name ≠ "env".toList) (h_rest : rest.head?.all Text.isBlank = true) :
    Gives ("#!/usr/bin/".toList ++ name ++ rest) name := by
  obtain ⟨arguments, h_arguments⟩ := Text.exists_hasWords rest
  have h_path : ∀ c ∈ "/usr/bin/".toList ++ name, Text.isBlank c = false := by
    intro c hc
    rcases List.mem_append.mp hc with hc | hc
    · have h_folder : "/usr/bin/".toList.all (fun c => !Text.isBlank c) = true := by decide
      simpa using List.all_eq_true.mp h_folder c hc
    · exact h_word c hc
  have h_words := h_arguments.cons_word (List.append_ne_nil_of_right_ne_nil _ h_ne) h_path h_rest
  have h_name : IsNameOf name ("/usr/bin/".toList ++ name) :=
    ⟨h_slash, .inr ⟨"/usr/bin".toList, rfl⟩⟩
  exact .byPath h_words h_name h_ne h_env

end FileProfile.Shebang
