import FileProfile.Proofs.Language.Shebang
import FileProfile.Proofs.Text.FirstLine
import Mathlib.Data.List.Basic

/-!
# Naming a program through `env`

A shebang line may give an interpreter by its path or, behind `env` with its options and
assignments, by its name. What it says is the same (`of?_throughEnv`).

The first lines differ, and both are among the lines that are searched for one that hands over to
another interpreter. But `exec ` cannot stand in what differs: it has to end in the white space
behind a word, and no word there ends in `exec` (`relaunchIn?_word_append`). What is found is found
in the arguments, which both have.
-/

namespace FileProfile.Shebang

variable {word rest raw name : List Char} {words : List (List Char)} {c : Char}

/-! ### Words that hand over to nothing -/

theorem relaunchIn?_cons_of_not_prefix (h : ¬ "exec ".toList <+: c :: rest) :
    relaunchIn? (c :: rest) = relaunchIn? rest := by
  rw [relaunchIn?_cons, programAt?, if_neg fun h' => h (List.isPrefixOf_iff_prefix.mp h'),
    Option.none_or]

theorem relaunchIn?_blank_cons (h : Text.isBlank c = true) :
    relaunchIn? (c :: rest) = relaunchIn? rest := by
  refine relaunchIn?_cons_of_not_prefix ?_
  rintro ⟨r, h_cut⟩
  obtain rfl : 'e' = c := (List.cons.inj h_cut).1
  exact absurd h (by decide)

/-- `exec ` begins at a word only if this is the word. -/
theorem eq_exec_of_prefix (h_ne : word ≠ []) (h_word : ∀ c ∈ word, Text.isBlank c = false)
    (h_rest : rest.head?.all Text.isBlank = true) (h : "exec ".toList <+: word ++ rest) :
    word = "exec".toList := by
  have h_word_blank : ' ' ∉ word := fun h_mem => absurd (h_word ' ' h_mem) (by decide)
  obtain ⟨r, h_cut⟩ := h
  rcases List.append_eq_append_iff.mp h_cut with ⟨k, rfl, -⟩ | ⟨k, h_exec, h_tail⟩
  · exact absurd (List.mem_append_left k (by decide)) h_word_blank
  · cases k with
    | nil =>
      rw [List.append_nil] at h_exec
      exact absurd (h_exec ▸ (by decide : ' ' ∈ "exec ".toList)) h_word_blank
    | cons d k =>
      -- the character behind the word is white space, and there is only one in `exec `
      subst h_tail
      have h_d : Text.isBlank d = true := by simpa using h_rest
      have h_mem : d ∈ "exec ".toList := by
        rw [h_exec]
        exact List.mem_append_right word List.mem_cons_self
      have h_blanks : "exec ".toList.all (fun c => !Text.isBlank c || c == ' ') = true := by decide
      have h_space := List.all_eq_true.mp h_blanks d h_mem
      rw [h_d, Bool.not_true, Bool.false_or, beq_iff_eq] at h_space
      subst h_space
      have h_literal : "exec ".toList = "exec".toList ++ ' ' :: [] := by decide
      rw [h_literal] at h_exec
      exact ((List.append_cons_inj_of_notMem (by decide) (by decide)).mp h_exec).1.symm

/-- No hand-over begins in a word that does not end in `exec`. -/
theorem relaunchIn?_word_append (h_word : ∀ c ∈ word, Text.isBlank c = false)
    (h_exec : ¬ "exec".toList <:+ word) (h_rest : rest.head?.all Text.isBlank = true) :
    relaunchIn? (word ++ rest) = relaunchIn? rest := by
  induction word with
  | nil => rfl
  | cons c word ih =>
    have h_tail : ¬ "exec".toList <:+ word := fun h => h_exec (h.trans (List.suffix_cons c word))
    have h_not : ¬ "exec ".toList <+: c :: (word ++ rest) := by
      intro h
      have h_eq := eq_exec_of_prefix (List.cons_ne_nil c word) h_word h_rest h
      exact h_exec ⟨[], by rw [h_eq, List.nil_append]⟩
    rw [List.cons_append, relaunchIn?_cons_of_not_prefix h_not,
      ih (List.forall_mem_cons.mp h_word).2 h_tail]

/-- Words with a blank behind each of them. -/
def spaced (words : List (List Char)) : List Char := words.flatMap (· ++ [' '])

theorem spaced_cons (word : List Char) (words : List (List Char)) :
    spaced (word :: words) = word ++ ' ' :: spaced words := by
  rw [spaced, List.flatMap_cons, List.append_assoc]
  rfl

theorem relaunchIn?_spaced_append
    (h : ∀ word ∈ words, (∀ c ∈ word, Text.isBlank c = false) ∧ ¬ "exec".toList <:+ word) :
    relaunchIn? (spaced words ++ rest) = relaunchIn? rest := by
  induction words with
  | nil => rfl
  | cons word words ih =>
    obtain ⟨⟨h_word, h_exec⟩, h_words⟩ := List.forall_mem_cons.mp h
    rw [spaced_cons, List.append_assoc, List.cons_append, relaunchIn?_word_append h_word h_exec rfl,
      relaunchIn?_blank_cons rfl, ih h_words]

theorem hasWords_spaced_append {ws : List (List Char)}
    (h : ∀ word ∈ words, word ≠ [] ∧ ∀ c ∈ word, Text.isBlank c = false)
    (h_rest : Text.HasWords rest ws) : Text.HasWords (spaced words ++ rest) (words ++ ws) := by
  induction words with
  | nil => exact h_rest
  | cons word words ih =>
    obtain ⟨⟨h_ne, h_word⟩, h_words⟩ := List.forall_mem_cons.mp h
    rw [spaced_cons, List.append_assoc, List.cons_append]
    exact ((ih h_words).cons_of_isBlank rfl).cons_word h_ne h_word rfl

/-! ### The two scripts -/

/-- A script that names its program as an argument of `env`, behind some options of `env`. -/
def throughEnv (options : List String) (program arguments more : String) : String :=
  "#!/usr/bin/env " ++ String.join (options.map (· ++ " ")) ++ program ++ arguments ++ "\n" ++ more

/-- A script that gives its program by its path. -/
def byPath (program arguments more : String) : String :=
  "#!/usr/bin/" ++ program ++ arguments ++ "\n" ++ more

theorem toList_env_options (options : List String) :
    ("#!/usr/bin/env " ++ String.join (options.map (· ++ " "))).toList =
      spaced ("#!/usr/bin/env".toList :: options.map String.toList) := by
  have h_options :
      (String.join (options.map (· ++ " "))).toList = spaced (options.map String.toList) := by
    induction options with
    | nil => rfl
    | cons option options ih =>
      rw [List.map_cons, String.join_cons, String.toList_append, ih, String.toList_append]
      rfl
  have h_env : "#!/usr/bin/env ".toList = "#!/usr/bin/env".toList ++ [' '] := by decide
  rw [String.toList_append, h_options, spaced_cons, h_env, List.append_assoc]
  rfl

/-- A name that is `sh` without its version does not end in `exec`, whatever is in front of it. -/
theorem not_exec_suffix {version : Option (List Char)} (front : List Char)
    (h : IsVersionSplit raw "sh".toList version) : ¬ "exec".toList <:+ front ++ raw := by
  have h_last : ∃ c ∈ raw.getLast?, c ≠ 'c' := by
    obtain ⟨sh, back, rfl, h_back, -, h_parts, h_whole⟩ := h
    by_cases h_empty : sh = [] ∨ back = []
    · rw [← (h_whole h_empty).1]
      exact ⟨'h', by decide, by decide⟩
    · have h_ne := (not_or.mp h_empty).2
      refine ⟨back.getLast h_ne, ?_, ?_⟩
      · rw [List.getLast?_append, List.getLast?_eq_some_getLast h_ne]
        rfl
      · intro h_c
        have h_version := h_back _ (List.getLast_mem h_ne)
        rw [h_c] at h_version
        exact absurd h_version (by decide)
  obtain ⟨c, h_last, h_c⟩ := h_last
  rintro ⟨k, h_cut⟩
  have h_ends := congrArg List.getLast? h_cut
  rw [List.getLast?_append, List.getLast?_append, h_last] at h_ends
  exact h_c (Option.some.inj h_ends).symm

/-- First lines that hand over to the same lead to the same script. -/
theorem scriptFor_cons_congr {line line' : List Char} {lines : List String}
    (h : name = "sh".toList → relaunchIn? line' = relaunchIn? line) :
    scriptFor (String.ofList line' :: lines) name = scriptFor (String.ofList line :: lines) name := by
  refine scriptFor_congr fun h_sh => ?_
  have h_first (l : String) : relaunch? (l :: lines) =
      (l :: lines.take 4).findSome? (relaunchIn? ·.toList) := rfl
  rw [h_first, h_first, List.findSome?_cons, List.findSome?_cons, String.toList_ofList,
    String.toList_ofList, h h_sh]

/-- Words that `env` takes for itself and that no hand-over begins in. -/
structure IsOption (option : String) : Prop where
  ne : option ≠ ""
  not_blank : ∀ c ∈ option.toList, Text.isBlank c = false
  forEnv : IsForEnv option.toList
  not_exec : ¬ "exec".toList <:+ option.toList

section Scripts

variable {options : List String} {program arguments more : String}
  (h_options : ∀ option ∈ options, IsOption option)
  (h_ne : program ≠ "") (h_word : ∀ c ∈ program.toList, Text.isBlank c = false)
  (h_feed : '\n' ∉ arguments.toList)

theorem env_not_blank : ∀ c ∈ "#!/usr/bin/env".toList, Text.isBlank c = false := by
  have h_env : "#!/usr/bin/env".toList.all (fun c => !Text.isBlank c) = true := by decide
  exact fun c hc => by simpa using List.all_eq_true.mp h_env c hc

include h_ne h_word h_feed in
/-- What stands in front of the arguments is left as it is. -/
theorem lines_of_program {front : String} (h_front : '\n' ∉ front.toList) (more : String) :
    Text.lines (front ++ program ++ arguments ++ "\n" ++ more) =
      String.ofList (front.toList ++ program.toList ++ Text.dropReturn arguments.toList) ::
        Text.linesFrom more.toList := by
  have h_text : (front ++ program ++ arguments ++ "\n" ++ more).toList =
      front.toList ++ program.toList ++ arguments.toList ++ '\n' :: more.toList := by
    simp only [String.toList_append, List.append_assoc]
    rfl
  have h_not_feed : '\n' ∉ program.toList := fun h => absurd (h_word _ h) (by decide)
  have h_not_return : '\r' ∉ program.toList := fun h => absurd (h_word _ h) (by decide)
  have h_line : '\n' ∉ front.toList ++ program.toList ++ arguments.toList := by
    simp only [List.mem_append, not_or]
    exact ⟨⟨h_front, h_not_feed⟩, h_feed⟩
  have h_last : (front.toList ++ program.toList).getLast? ≠ some '\r' := by
    have h_program : program.toList ≠ [] := mt String.toList_eq_nil_iff.mp h_ne
    rw [List.getLast?_append, List.getLast?_eq_some_getLast h_program, Option.some_or]
    intro h
    exact h_not_return (Option.some.inj h ▸ List.getLast_mem h_program)
  rw [Text.lines_of_toList h_text h_line, Text.dropReturn_append h_last]

include h_ne h_word h_feed in
theorem lines_byPath (more : String) : Text.lines (byPath program arguments more) =
    String.ofList ("#!/usr/bin/".toList ++ program.toList ++ Text.dropReturn arguments.toList) ::
      Text.linesFrom more.toList :=
  lines_of_program h_ne h_word h_feed (by decide) more

include h_options h_ne h_word h_feed in
theorem lines_throughEnv (more : String) : Text.lines (throughEnv options program arguments more) =
    String.ofList (spaced ("#!/usr/bin/env".toList :: options.map String.toList) ++
      program.toList ++ Text.dropReturn arguments.toList) :: Text.linesFrom more.toList := by
  rw [← toList_env_options]
  refine lines_of_program h_ne h_word h_feed ?_ more
  rw [toList_env_options]
  intro h_mem
  obtain ⟨word, h_mem_words, h_mem⟩ := List.mem_flatMap.mp h_mem
  have h_blank : ∀ c ∈ word, Text.isBlank c = false := by
    rcases List.mem_cons.mp h_mem_words with rfl | h_mem_words
    · exact env_not_blank
    · obtain ⟨option, h_option, rfl⟩ := List.mem_map.mp h_mem_words
      exact (h_options option h_option).not_blank
  rcases List.mem_append.mp h_mem with h_mem | h_mem
  · exact absurd (h_blank _ h_mem) (by decide)
  · exact absurd h_mem (by decide)

include h_options h_ne h_word in
theorem gives_throughEnv {rest : List Char} (h_raw : ¬ IsForEnv program.toList)
    (h_rest : rest.head?.all Text.isBlank = true) :
    Gives (spaced ("#!/usr/bin/env".toList :: options.map String.toList) ++ program.toList ++ rest)
      program.toList := by
  obtain ⟨arguments, h_arguments⟩ := Text.exists_hasWords rest
  have h_program := h_arguments.cons_word (mt String.toList_eq_nil_iff.mp h_ne) h_word
    h_rest
  have h_words : ∀ word ∈ "/usr/bin/env".toList :: options.map String.toList,
      word ≠ [] ∧ ∀ c ∈ word, Text.isBlank c = false := by
    refine List.forall_mem_cons.mpr ⟨⟨by decide, fun c hc => ?_⟩, ?_⟩
    · exact env_not_blank c (List.mem_cons_of_mem _ (List.mem_cons_of_mem _ hc))
    · rw [List.forall_mem_map]
      exact fun o h_o => ⟨mt String.toList_eq_nil_iff.mp (h_options o h_o).ne,
        (h_options o h_o).not_blank⟩
  have h_skipped : ∀ word ∈ options.map String.toList, IsForEnv word := by
    rw [List.forall_mem_map]
    exact fun o h_o => (h_options o h_o).forEnv
  have h_line : spaced ("#!/usr/bin/env".toList :: options.map String.toList) ++
      program.toList ++ rest = "#!".toList ++
      (spaced ("/usr/bin/env".toList :: options.map String.toList) ++ (program.toList ++ rest)) := by
    rw [List.append_assoc]
    rfl
  rw [h_line]
  exact .throughEnv (hasWords_spaced_append h_words h_program)
    ⟨by decide, .inr ⟨"/usr/bin".toList, by decide⟩⟩ h_skipped h_raw

include h_options h_ne h_word h_feed in
/-- Whatever the scripts hand over to, they do so on a line that both have or in the arguments. -/
theorem scriptFor_throughEnv (h_arguments : arguments.toList.head?.all Text.isBlank = true)
    (more : String) : scriptFor (Text.lines (byPath program arguments more))
        (splitVersion program.toList).1 =
      scriptFor (Text.lines (throughEnv options program arguments more))
        (splitVersion program.toList).1 := by
  rw [lines_byPath h_ne h_word h_feed, lines_throughEnv h_options h_ne h_word h_feed]
  refine scriptFor_cons_congr fun h_sh => ?_
  have h_split : IsVersionSplit program.toList "sh".toList (splitVersion program.toList).2 :=
    splitVersion_eq_iff.mp (Prod.ext h_sh rfl)
  have h_behind := Text.head?_dropReturn_all h_arguments
  have h_path : ∀ c ∈ "#!/usr/bin/".toList ++ program.toList, Text.isBlank c = false := by
    intro c hc
    rcases List.mem_append.mp hc with hc | hc
    · exact env_not_blank c (List.mem_append_left "env".toList hc)
    · exact h_word c hc
  have h_words : ∀ word ∈ "#!/usr/bin/env".toList :: options.map String.toList,
      (∀ c ∈ word, Text.isBlank c = false) ∧ ¬ "exec".toList <:+ word := by
    refine List.forall_mem_cons.mpr ⟨⟨env_not_blank, by decide⟩, ?_⟩
    rw [List.forall_mem_map]
    exact fun o h_o => ⟨(h_options o h_o).not_blank, (h_options o h_o).not_exec⟩
  rw [relaunchIn?_word_append h_path (not_exec_suffix _ h_split) h_behind, List.append_assoc,
    relaunchIn?_spaced_append h_words,
    relaunchIn?_word_append h_word (not_exec_suffix [] h_split) h_behind]

end Scripts

/-- **`env` is transparent.** A script that names its program behind `env` and its options says the
same as one that gives the program by its path, with the same arguments and the same lines to
follow: that `program` is the interpreter, and so the same script, version and language. -/
theorem of?_throughEnv (options : List String) (program arguments more : String)
    (h_options : ∀ option ∈ options, IsOption option)
    (h_ne : program ≠ "") (h_word : ∀ c ∈ program.toList, Text.isBlank c = false)
    (h_slash : '/' ∉ program.toList) (h_raw : ¬ IsForEnv program.toList) (h_env : program ≠ "env")
    (h_feed : '\n' ∉ arguments.toList)
    (h_arguments : arguments.toList.head?.all Text.isBlank = true) :
    ∃ b, b.raw = program ∧ of? (throughEnv options program arguments more) = some b ∧
      of? (byPath program arguments more) = some b := by
  have h_behind := Text.head?_dropReturn_all h_arguments
  have h_gives_env := gives_throughEnv h_options h_ne h_word h_raw h_behind
  have h_gives_path := gives_program (mt String.toList_eq_nil_iff.mp h_ne) h_word h_slash
    (mt String.toList_inj.mp h_env) h_behind
  have h_script := scriptFor_throughEnv h_options h_ne h_word h_feed h_arguments more
  refine ⟨_, String.ofList_toList,
    of?_of_lines (lines_throughEnv h_options h_ne h_word h_feed more) h_gives_env, ?_⟩
  rw [of?_of_lines (lines_byPath h_ne h_word h_feed more) h_gives_path, ofRaw, ofRaw, h_script]

/-- A script for `sh`, which hands over on its second line. -/
theorem of?_throughEnv_sh :
    ∃ b, b.raw = "sh" ∧
      of? (throughEnv ["-S", "LANG=C"] "sh" " -e" "exec tclsh \"$0\" \"$@\"\n") = some b ∧
      of? (byPath "sh" " -e" "exec tclsh \"$0\" \"$@\"\n") = some b := by
  have h_options : ∀ option ∈ ["-S", "LANG=C"], IsOption option := by
    have h_flag : IsOption "-S" :=
      ⟨by decide, List.forall_iff_forall_mem.mp (by decide), .inl (by decide), by decide⟩
    have h_assignment : IsOption "LANG=C" :=
      ⟨by decide, List.forall_iff_forall_mem.mp (by decide), .inr (by decide), by decide⟩
    exact List.forall_mem_cons.mpr ⟨h_flag, List.forall_mem_singleton.mpr h_assignment⟩
  exact of?_throughEnv _ _ _ _ h_options (by decide) (List.forall_iff_forall_mem.mp (by decide))
    (by decide) (not_or.mpr ⟨by decide, by decide⟩) (by decide) (by decide) (by decide)

end FileProfile.Shebang
