import FileProfile.Proofs.Language.Catalogue
import FileProfile.Proofs.Language.Interpreter
import FileProfile.Proofs.Language.Relaunch
import FileProfile.Proofs.Language.Version

/-!
# What a shebang line says

`IsReadFrom` says in terms of the lines of a text what its shebang line is taken to say: which
interpreter the first line gives, where its name is split, which of the first lines hands over to
another interpreter, and what language that one runs. No part of it is left open, so that a text has
a shebang line with these properties or has none (`of?_eq_some_iff`). Since it speaks of the first
five lines only, and of the first one alone where the script is not one for `sh`, nothing else can
have a say (`of?_reads`).
-/

namespace FileProfile.Shebang

/-- The first of some lines that hands over to an interpreter hands over to `program`. -/
def Relaunches (lines : List String) (program : List Char) : Prop :=
  ∃ before line after, lines = before ++ line :: after ∧
    (∀ l ∈ before, ∀ front p, ¬ HandsOver l.toList front p) ∧ HandsOverTo line.toList program

/-- The interpreter that runs a script in the end, where the first line gives one of this name. -/
inductive ScriptOf (lines : List String) : List Char → List Char → Prop
  | own {name} : (name = "sh".toList → ∀ line ∈ lines.take 5, ∀ front program,
      ¬ HandsOver line.toList front program) → ScriptOf lines name name
  | relaunched {program} : Relaunches (lines.take 5) program → ScriptOf lines "sh".toList program

/-- What is said by the shebang line of a text with these lines. -/
structure IsReadFrom (lines : List String) (b : Shebang) : Prop where
  gives : ∃ line, lines.head? = some line ∧ Gives line.toList b.raw.toList
  raw_ne : b.raw ≠ ""
  raw_not_blank : ∀ c ∈ b.raw.toList, Text.isBlank c = false
  /-- The name without version leads to the script. -/
  script : ∃ name, IsVersionSplit b.raw.toList name (b.version.map String.toList) ∧
    ScriptOf lines name b.script.toList
  language : b.language = Language.all.find? fun l => b.script ∈ l.interpreters

variable {lines : List String} {text : String} {b : Shebang} {name program raw script : List Char}

/-! ### The script -/

theorem relaunch?_eq_some_iff :
    relaunch? lines = some program ↔ Relaunches (lines.take 5) program := by
  rw [relaunch?, List.findSome?_eq_some_iff]
  simp only [relaunchIn?_eq_some_iff, relaunchIn?_eq_none_iff]
  refine ⟨?_, ?_⟩
  · rintro ⟨before, line, after, h_lines, h_line, h_before⟩
    exact ⟨before, line, after, h_lines, h_before, h_line⟩
  · rintro ⟨before, line, after, h_lines, h_before, h_line⟩
    exact ⟨before, line, after, h_lines, h_line, h_before⟩

theorem relaunch?_eq_none_iff : relaunch? lines = none ↔
    ∀ line ∈ lines.take 5, ∀ front program, ¬ HandsOver line.toList front program := by
  rw [relaunch?, List.findSome?_eq_none_iff]
  simp only [relaunchIn?_eq_none_iff]
  rfl

/-- The interpreter that runs a script in the end. -/
def scriptFor (lines : List String) (name : List Char) : List Char :=
  if name = "sh".toList then (relaunch? lines).getD name else name

theorem scriptFor_eq_iff : scriptFor lines name = script ↔ ScriptOf lines name script := by
  refine ⟨?_, ?_⟩
  · rintro rfl
    unfold scriptFor
    split
    · next h_sh =>
      subst h_sh
      cases h : relaunch? lines with
      | none => exact .own fun _ => relaunch?_eq_none_iff.mp h
      | some program => exact .relaunched (relaunch?_eq_some_iff.mp h)
    · next h_sh => exact .own fun h => absurd h h_sh
  · rintro (h_own | h_relaunched)
    · unfold scriptFor
      split
      · next h_sh => rw [relaunch?_eq_none_iff.mpr (h_own h_sh), Option.getD_none]
      · rfl
    · rw [scriptFor, if_pos rfl, relaunch?_eq_some_iff.mpr h_relaunched, Option.getD_some]

theorem ScriptOf.eq_or_relaunches (h : ScriptOf lines name script) :
    script = name ∨ name = "sh".toList ∧ Relaunches (lines.take 5) script := by
  cases h with
  | own _ => exact .inl rfl
  | relaunched h_relaunches => exact .inr ⟨rfl, h_relaunches⟩

/-- What the lines hand over to matters only where the name is `sh`. -/
theorem scriptFor_congr {lines' : List String}
    (h : name = "sh".toList → relaunch? lines' = relaunch? lines) :
    scriptFor lines' name = scriptFor lines name := by
  unfold scriptFor
  split
  · next h_sh => rw [h h_sh]
  · rfl

theorem relaunch?_congr {lines' : List String} (h : lines'.take 5 = lines.take 5) :
    relaunch? lines' = relaunch? lines := by
  rw [relaunch?, relaunch?, relaunchLines, h]

/-! ### The shebang line -/

/-- What a shebang line says that gives an interpreter `raw`. -/
def ofRaw (lines : List String) (raw : List Char) : Shebang where
  script := String.ofList (scriptFor lines (splitVersion raw).1)
  raw := String.ofList raw
  version := (splitVersion raw).2.map String.ofList
  language := Catalogue.runBy? (String.ofList (scriptFor lines (splitVersion raw).1))

theorem of?_eq (text : String) : of? text = (Text.lines text).head?.bind fun line =>
    (interpreter? line.toList).bind fun raw => some (ofRaw (Text.lines text) raw) := rfl

theorem of?_eq_ofRaw_iff : of? text = some b ↔ ∃ line raw, (Text.lines text).head? = some line ∧
    Gives line.toList raw ∧ ofRaw (Text.lines text) raw = b := by
  simp only [of?_eq, Option.bind_eq_some_iff, interpreter?_eq_some_iff, Option.some_inj,
    exists_and_left]

theorem of?_of_lines {line : List Char} (h_lines : Text.lines text = String.ofList line :: lines)
    (h_gives : Gives line raw) : of? text = some (ofRaw (Text.lines text) raw) := by
  refine of?_eq_ofRaw_iff.mpr ⟨String.ofList line, raw, ?_, ?_, rfl⟩
  · rw [h_lines]
    rfl
  · rwa [String.toList_ofList]

/-- What is read has the properties. -/
theorem isReadFrom_ofRaw {line : String} (h_line : lines.head? = some line)
    (h_gives : Gives line.toList raw) : (ofRaw lines raw).IsReadFrom lines := by
  have h_raw : (ofRaw lines raw).raw.toList = raw := String.toList_ofList
  have h_version : (ofRaw lines raw).version.map String.toList = (splitVersion raw).2 := by
    have h_id : String.toList ∘ String.ofList = id := funext fun _ => String.toList_ofList
    rw [ofRaw, Option.map_map, h_id, Option.map_id, id]
  have h_script : (ofRaw lines raw).script.toList = scriptFor lines (splitVersion raw).1 :=
    String.toList_ofList
  obtain ⟨h_ne, h_blank⟩ := h_gives.raw_word
  exact {
    gives := ⟨line, h_line, by rwa [h_raw]⟩
    raw_ne := by
      intro h_empty
      rw [h_empty] at h_raw
      exact h_ne h_raw.symm
    raw_not_blank := by rwa [h_raw]
    script := by
      rw [h_raw, h_version, h_script]
      exact ⟨_, splitVersion_eq_iff.mp rfl, scriptFor_eq_iff.mp rfl⟩
    language := Catalogue.runBy?_eq_find? _ }

theorem ofRaw_eq {version : Option (List Char)} (h_split : IsVersionSplit raw name version)
    (h_script : scriptFor lines name = script) : ofRaw lines raw =
      ⟨String.ofList script, String.ofList raw, version.map String.ofList,
        Language.all.find? fun l => String.ofList script ∈ l.interpreters⟩ := by
  rw [ofRaw, splitVersion_eq_iff.mpr h_split, h_script, Catalogue.runBy?_eq_find?]

/-- Nothing else has the properties, since each of them leaves one value. -/
theorem IsReadFrom.ofRaw_eq (h : b.IsReadFrom lines) : ofRaw lines b.raw.toList = b := by
  obtain ⟨name, h_split, h_script⟩ := h.script
  have h_ofList : String.ofList ∘ String.toList = id := funext fun _ => String.ofList_toList
  rw [Shebang.ofRaw_eq h_split (scriptFor_eq_iff.mpr h_script), Option.map_map, h_ofList,
    Option.map_id, id, String.ofList_toList, String.ofList_toList, ← h.language]

theorem of?_eq_some_iff : of? text = some b ↔ b.IsReadFrom (Text.lines text) := by
  rw [of?_eq_ofRaw_iff]
  refine ⟨?_, ?_⟩
  · rintro ⟨line, raw, h_line, h_gives, rfl⟩
    exact isReadFrom_ofRaw h_line h_gives
  · intro h
    obtain ⟨line, h_line, h_gives⟩ := h.gives
    exact ⟨line, b.raw.toList, h_line, h_gives, h.ofRaw_eq⟩

theorem isSome_of?_iff : (of? text).isSome = true ↔
    ∃ line raw, (Text.lines text).head? = some line ∧ Gives line.toList raw := by
  rw [Option.isSome_iff_exists]
  refine ⟨?_, ?_⟩
  · rintro ⟨b, h⟩
    obtain ⟨line, raw, h_line, h_gives, -⟩ := of?_eq_ofRaw_iff.mp h
    exact ⟨line, raw, h_line, h_gives⟩
  · rintro ⟨line, raw, h_line, h_gives⟩
    exact ⟨_, of?_eq_ofRaw_iff.mpr ⟨line, raw, h_line, h_gives, rfl⟩⟩

/-- Two texts with the same first line, and with the same first lines if they are scripts for `sh`,
say the same. -/
theorem of?_congr_lines {text' : String}
    (h_line : (Text.lines text').head? = (Text.lines text).head?)
    (h_lines : ∀ b, of? text = some b → (splitVersion b.raw.toList).1 = "sh".toList →
      (Text.lines text').take 5 = (Text.lines text).take 5) :
    of? text' = of? text := by
  rw [of?_eq, of?_eq, h_line]
  refine Option.bind_congr fun line h_first => Option.bind_congr fun raw h_raw => ?_
  have h_some : of? text = some (ofRaw (Text.lines text) raw) :=
    of?_eq_ofRaw_iff.mpr ⟨line, raw, h_first, interpreter?_eq_some_iff.mp h_raw, rfl⟩
  have h_sh := h_lines _ h_some
  have h_toList : (ofRaw (Text.lines text) raw).raw.toList = raw := String.toList_ofList
  rw [h_toList] at h_sh
  rw [ofRaw, ofRaw, scriptFor_congr fun h_name => relaunch?_congr (h_sh h_name)]

/-- **A shebang line is read exactly.** A text has one where its first line gives an interpreter;
what it says is what its first lines leave no choice about; and neither the lines behind the fifth
nor, where the script is not one for `sh`, those behind the first make a difference. -/
theorem of?_reads (text : String) :
    ((of? text).isSome = true ↔
      ∃ line raw, (Text.lines text).head? = some line ∧ Gives line.toList raw) ∧
    (∀ b, of? text = some b ↔ b.IsReadFrom (Text.lines text)) ∧
    (∀ text', (Text.lines text').take 5 = (Text.lines text).take 5 → of? text' = of? text) ∧
    ∀ b name, of? text = some b → IsVersionSplit b.raw.toList name (b.version.map String.toList) →
      name ≠ "sh".toList → ∀ text', (Text.lines text').head? = (Text.lines text).head? →
      of? text' = of? text := by
  refine ⟨isSome_of?_iff, fun b => of?_eq_some_iff, fun text' h_lines => ?_,
    fun b name h_some h_split h_name text' h_line => ?_⟩
  · have h_line : (Text.lines text').head? = (Text.lines text).head? := by
      have h_head := congrArg List.head? h_lines
      rwa [List.head?_take, List.head?_take, if_neg (by decide), if_neg (by decide)] at h_head
    exact of?_congr_lines h_line fun _ _ _ => h_lines
  · refine of?_congr_lines h_line fun b' h_some' h_sh => ?_
    obtain rfl := Option.some.inj (h_some.symm.trans h_some')
    rw [splitVersion_eq_iff.mpr h_split] at h_sh
    exact absurd h_sh h_name

/-- A script that gives its interpreter through `env`, with a version. -/
def versionedScript : String := "#!/usr/bin/env -S LANG=C python2.7 -u\nimport os\n"

/-- The same first line, and behind it one on which a script for `sh` would hand over. -/
def versionedRelaunch : String :=
  "#!/usr/bin/env -S LANG=C python2.7 -u\nexec tclsh \"$0\" \"$@\"\n"

/-- No script for Python hands over, and none for `sh` on its sixth line. -/
theorem of?_reads_versionedScript :
    of? versionedScript = some ⟨"python", "python2.7", some "2.7", some .python⟩ ∧
      of? versionedRelaunch = of? versionedScript ∧
      of? "#!/bin/sh\n\n\n\n:\nexec tclsh \"$0\" \"$@\"\n" = of? "#!/bin/sh\n\n\n\n:" := by
  have h_some : of? versionedScript = some ⟨"python", "python2.7", some "2.7", some .python⟩ := by
    decide +kernel
  refine ⟨h_some, ?_, ?_⟩
  · have h_split : IsVersionSplit "python2.7".toList "python".toList (some "2.7".toList) :=
      splitVersion_eq_iff.mp (by decide)
    exact (of?_reads versionedScript).2.2.2 _ _ h_some h_split (by decide) versionedRelaunch
      (by decide +kernel)
  · exact (of?_reads _).2.2.1 _ (by decide +kernel)

end FileProfile.Shebang
