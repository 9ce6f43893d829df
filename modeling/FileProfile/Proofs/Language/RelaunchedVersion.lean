import FileProfile.Proofs.Language.Shebang
import FileProfile.Proofs.Text.FirstLine

/-!
# A version survives the relaunch

The interpreter that a shebang line gives loses its version before it counts as the script. The one
that a script for `sh` hands over to does not: it is taken as it stands on its line. So a script for
`sh` that hands over to a program and a script for that program are told to have the same interpreter
exactly if the program does not end in a version, and a script that ends in one always comes from a
relaunch (`relaunch_keepsVersion`).
-/

namespace FileProfile.Shebang

variable {program line : List Char}

/-! ### A line that hands over -/

/-- The rest of a line that hands the script and its arguments on, in quotes. -/
def quotedArguments : List Char := " \"$0\" \"$@\"".toList

theorem handsOn_quotedArguments : HandsOn quotedArguments :=
  ⟨" \"".toList, "\" \"".toList, ['"'], by decide, by decide, by decide⟩

/-- A word is taken as a whole, since no longer one stands there. -/
theorem handsOverTo_exec (h_ne : program ≠ []) (h_word : ∀ c ∈ program, Text.isWord c = true) :
    HandsOverTo ("exec ".toList ++ program ++ quotedArguments) program := by
  have h_over : HandsOver ("exec ".toList ++ program ++ quotedArguments) [] program :=
    ⟨program ++ quotedArguments, List.append_assoc _ _ _, quotedArguments, rfl, h_ne, h_word,
      handsOn_quotedArguments⟩
  refine ⟨[], h_over, fun front' program' h' => ⟨Nat.zero_le _, ?_⟩⟩
  rintro rfl
  obtain ⟨behind, h_line, rest, rfl, -, h_word', -⟩ := h'
  rw [List.nil_append, List.append_assoc] at h_line
  have h_cut : program ++ quotedArguments = program' ++ rest := List.append_cancel_left h_line
  rcases List.append_eq_append_iff.mp h_cut with ⟨k, rfl, h_k⟩ | ⟨k, rfl, -⟩
  · cases k with
    | nil => exact Nat.le_of_eq (congrArg List.length (List.append_nil _))
    | cons c k =>
      -- the longer word has the blank in front of the quote in it
      obtain rfl : ' ' = c := (List.cons.inj h_k).1
      have h_blank := h_word' ' ' (List.mem_append_right _ List.mem_cons_self)
      exact absurd h_blank (by decide)
  · rw [List.length_append]
    exact Nat.le_add_right _ _

/-- A line without a blank does not hand over. -/
theorem not_handsOver_of_not_mem (h : ' ' ∉ line) {front : List Char} :
    ¬ HandsOver line front program := by
  rintro ⟨behind, rfl, -⟩
  exact h (by simp)

/-! ### The two scripts -/

/-- A script for `sh` that hands over to a program on its second line. -/
def relaunching (program more : String) : String :=
  "#!/bin/sh\nexec " ++ program ++ " \"$0\" \"$@\"\n" ++ more

/-- A script for a program. -/
def runBy (program : String) : String := "#!/usr/bin/" ++ program ++ "\n"

section Scripts

variable {program : String} (h_ne : program ≠ "")
  (h_word : ∀ c ∈ program.toList, Text.isWord c = true)

include h_word in
theorem not_mem_of_isWord {c : Char} (h : Text.isWord c = false) : c ∉ program.toList := by
  intro h_mem
  rw [h_word c h_mem] at h
  cases h

include h_word in
theorem lines_relaunching (more : String) : Text.lines (relaunching program more) =
    "#!/bin/sh" :: String.ofList ("exec ".toList ++ program.toList ++ quotedArguments) ::
      Text.linesFrom more.toList := by
  have h_start : "#!/bin/sh\nexec ".toList = "#!/bin/sh".toList ++ '\n' :: "exec ".toList := by
    decide
  have h_end : " \"$0\" \"$@\"\n".toList = quotedArguments ++ ['\n'] := by decide
  have h_append (a b c d : String) :
      (a ++ b ++ c ++ d).toList = a.toList ++ b.toList ++ c.toList ++ d.toList := by
    simp only [String.toList_append]
  have h_text : (relaunching program more).toList = "#!/bin/sh".toList ++ '\n' ::
      (("exec ".toList ++ program.toList ++ quotedArguments) ++ '\n' :: more.toList) := by
    refine (h_append _ _ _ _).trans ?_
    rw [h_start, h_end]
    simp only [List.append_assoc, List.cons_append, List.nil_append]
  have h_feed : '\n' ∉ "exec ".toList ++ program.toList ++ quotedArguments := by
    rw [List.mem_append, List.mem_append, not_or, not_or]
    exact ⟨⟨by decide, not_mem_of_isWord h_word (by decide)⟩, by decide⟩
  have h_last : ("exec ".toList ++ program.toList ++ quotedArguments).getLast? ≠ some '\r' := by
    have h_quote : quotedArguments.getLast? = some '"' := by decide
    rw [List.getLast?_append, h_quote, Option.some_or]
    decide
  rw [Text.lines_of_toList h_text (by decide), Text.linesFrom_line h_feed,
    Text.dropReturn_of_getLast? h_last]
  rfl

include h_ne h_word in
/-- The script hands over to the program, version and all. -/
theorem of?_relaunching (more : String) : of? (relaunching program more) =
    some ⟨program, "sh", none, Language.all.find? fun l => program ∈ l.interpreters⟩ := by
  have h_program : program.toList ≠ [] := mt String.toList_eq_nil_iff.mp h_ne
  have h_lines := lines_relaunching h_word more
  have h_gives : Gives "#!/bin/sh".toList "sh".toList := interpreter?_eq_some_iff.mp (by decide)
  have h_script : scriptFor (Text.lines (relaunching program more)) "sh".toList =
      program.toList := by
    rw [scriptFor_eq_iff, h_lines]
    refine .relaunched ⟨["#!/bin/sh"], _, (Text.linesFrom more.toList).take 3, rfl, ?_, ?_⟩
    · intro l hl front p
      rw [List.mem_singleton.mp hl]
      exact not_handsOver_of_not_mem (by decide)
    · rw [String.toList_ofList]
      exact handsOverTo_exec h_program h_word
  refine of?_eq_ofRaw_iff.mpr ⟨"#!/bin/sh", "sh".toList, by rw [h_lines]; rfl, h_gives, ?_⟩
  have h_split : IsVersionSplit "sh".toList "sh".toList none := splitVersion_eq_iff.mp (by decide)
  rw [ofRaw_eq h_split h_script, String.ofList_toList]
  rfl

include h_word in
theorem lines_runBy : Text.lines (runBy program) =
    [String.ofList ("#!/usr/bin/".toList ++ program.toList), ""] := by
  have h_text : (runBy program).toList = ("#!/usr/bin/".toList ++ program.toList) ++ '\n' :: [] := by
    rw [runBy, String.toList_append, String.toList_append]
    rfl
  have h_feed : '\n' ∉ "#!/usr/bin/".toList ++ program.toList := by
    rw [List.mem_append, not_or]
    exact ⟨by decide, not_mem_of_isWord h_word (by decide)⟩
  have h_last : ("#!/usr/bin/".toList ++ program.toList).getLast? ≠ some '\r' := by
    intro h
    rcases List.mem_append.mp (List.mem_of_getLast? h) with h_mem | h_mem
    · exact absurd h_mem (by decide)
    · exact not_mem_of_isWord h_word (by decide) h_mem
  rw [Text.lines_of_toList h_text h_feed, Text.dropReturn_of_getLast? h_last]
  rfl

include h_ne h_word in
/-- The script loses the version. -/
theorem exists_of?_runBy (h_env : program ≠ "env") : ∃ b, of? (runBy program) = some b ∧
    IsVersionSplit program.toList b.script.toList (b.version.map String.toList) := by
  have h_lines := lines_runBy h_word
  have h_gives : Gives ("#!/usr/bin/".toList ++ program.toList) program.toList := by
    have h_gives : Gives ("#!/usr/bin/".toList ++ program.toList ++ []) program.toList :=
      gives_program (mt String.toList_eq_nil_iff.mp h_ne)
        (fun c hc => Text.isBlank_eq_false_of_isWord (h_word c hc))
        (not_mem_of_isWord h_word (by decide)) (mt String.toList_inj.mp h_env) rfl
    rwa [List.append_nil] at h_gives
  have h_blank : ∀ line ∈ (Text.lines (runBy program)).take 5, ' ' ∉ line.toList := by
    intro line h_line
    rw [h_lines] at h_line
    rcases List.mem_cons.mp h_line with rfl | h_line
    · rw [String.toList_ofList, List.mem_append, not_or]
      exact ⟨by decide, not_mem_of_isWord h_word (by decide)⟩
    · rw [List.mem_singleton.mp h_line]
      decide
  obtain ⟨b, h_some, h_raw⟩ : ∃ b, of? (runBy program) = some b ∧ b.raw.toList = program.toList :=
    ⟨_, of?_of_lines h_lines h_gives, String.toList_ofList⟩
  obtain ⟨name, h_split, h_script⟩ := (of?_eq_some_iff.mp h_some).script
  rw [h_raw] at h_split
  refine ⟨b, h_some, ?_⟩
  rcases h_script.eq_or_relaunches with h_eq | ⟨-, before, line, after, h_cut, -, front, h_over, -⟩
  · rwa [h_eq]
  · have h_line : line ∈ (Text.lines (runBy program)).take 5 := by
      rw [h_cut]
      exact List.mem_append_right before List.mem_cons_self
    exact absurd h_over (not_handsOver_of_not_mem (h_blank line h_line))

end Scripts

/-- **A version survives the relaunch.** A script for `sh` that hands over to a program has the
program as it stands for its interpreter, a script for the program has it without its version, and so
they agree, and on the language too, exactly if there is none. No other scripts have an interpreter
that ends in a version. -/
theorem relaunch_keepsVersion (program more : String) (h_ne : program ≠ "")
    (h_word : ∀ c ∈ program.toList, Text.isWord c = true) (h_env : program ≠ "env") :
    (∃ b b', of? (relaunching program more) = some b ∧ of? (runBy program) = some b' ∧
      b.script = program ∧
      IsVersionSplit program.toList b'.script.toList (b'.version.map String.toList) ∧
      (b.script = b'.script ∧ b.language = b'.language ↔ ¬ EndsInVersion program.toList)) ∧
    ∀ text b, of? text = some b → EndsInVersion b.script.toList →
      IsVersionSplit b.raw.toList "sh".toList (b.version.map String.toList) ∧
        Relaunches ((Text.lines text).take 5) b.script.toList := by
  refine ⟨?_, fun text b h_some h_ends => ?_⟩
  · obtain ⟨b', h_some', h_split⟩ := exists_of?_runBy h_ne h_word h_env
    refine ⟨_, b', of?_relaunching h_ne h_word more, h_some', rfl, h_split, ?_⟩
    have h_language := (of?_eq_some_iff.mp h_some').language
    rw [← isVersionSplit_self_iff h_split]
    refine ⟨?_, fun h_whole => ?_⟩
    · rintro ⟨h_script, -⟩
      exact congrArg String.toList h_script.symm
    · have h_script : b'.script = program := String.toList_inj.mp h_whole
      rw [h_language, h_script]
      exact ⟨rfl, rfl⟩
  · obtain ⟨name, h_split, h_script⟩ := (of?_eq_some_iff.mp h_some).script
    rcases h_script.eq_or_relaunches with h_eq | ⟨rfl, h_relaunches⟩
    · -- what is left of a name does not end in a version
      rw [h_eq] at h_ends
      exact absurd h_ends (not_endsInVersion_of_isVersionSplit h_split)
    · exact ⟨h_split, h_relaunches⟩

/-- Python in version 3 keeps the version that it has on the line that hands over to it. -/
theorem relaunch_keepsVersion_python3 :
    (∃ b b', of? (relaunching "python3" "print(1)\n") = some b ∧ of? (runBy "python3") = some b' ∧
      b.script = "python3" ∧
      IsVersionSplit "python3".toList b'.script.toList (b'.version.map String.toList) ∧
      (b.script = b'.script ∧ b.language = b'.language ↔ ¬ EndsInVersion "python3".toList)) ∧
    IsVersionSplit "sh".toList "sh".toList none ∧
      Relaunches ((Text.lines (relaunching "python3" "print(1)\n")).take 5) "python3".toList := by
  have h_word : ∀ c ∈ "python3".toList, Text.isWord c = true := List.all_eq_true.mp (by decide)
  obtain ⟨h_scripts, h_relaunched⟩ :=
    relaunch_keepsVersion "python3" "print(1)\n" (by decide) h_word (by decide)
  have h_some := of?_relaunching (by decide) h_word "print(1)\n"
  have h_ends : EndsInVersion "python3".toList :=
    ⟨⟨'3', by decide, by decide⟩, 'p', by decide, by decide⟩
  exact ⟨h_scripts, h_relaunched _ _ h_some h_ends⟩

/-- So the two scripts do not have the same interpreter, and one ends in a version. -/
theorem not_unversioned_python3 :
    (of? (relaunching "python3" "")).map (·.script) ≠ (of? (runBy "python3")).map (·.script) ∧
      ¬ ∀ text b, of? text = some b → ¬ EndsInVersion b.script.toList := by
  have h_word : ∀ c ∈ "python3".toList, Text.isWord c = true := List.all_eq_true.mp (by decide)
  have h_some := of?_relaunching (by decide) h_word ""
  have h_script : (of? (runBy "python3")).map (·.script) = some "python" := by decide +kernel
  refine ⟨?_, fun h => ?_⟩
  · rw [h_some, h_script]
    decide
  · exact h _ _ h_some ⟨⟨'3', by decide, by decide⟩, 'p', by decide, by decide⟩

end FileProfile.Shebang
