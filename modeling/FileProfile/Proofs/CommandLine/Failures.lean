import FileProfile.CommandLine.Run
import FileProfile.Proofs.Profile.Answers
import FileProfile.Proofs.Summary.RoundTrip

/-!
# A file that fails does not disturb the others

A run goes through the paths it was given one by one, and a file that cannot be loaded is counted
and passed over. What is asked of runs is in `KeepsApart`: each path prints what it would print in a
run of its own, the document of its file or nothing, and the failures show in the status and in the
line on the error output, and nowhere else.

The step is `step_eq`: whatever a run has done so far, a file adds its `share` to the output and is
counted if it failed. `foldl_step` carries that through a list of files, and everything about whole
runs (`classify_keepsApart`) comes from there. That the lines of the output are the files that were
loaded takes one thing more: a compact document has no line feed in it (`count_newline_document`),
because the control characters in paths, names and scripts are escaped.
-/

namespace FileProfile.CommandLine

/-- What is asked of runs: files that fail do not disturb the others. `load` says what becomes of
each path, and `run` what a run over paths leaves behind. -/
structure KeepsApart (limits : Limits) (indented : Bool) (load : RawText → Except Error Subject)
    (run : List RawText → Outcome) : Prop where
  /-- A file that is loaded prints its document. -/
  output_of_ok : ∀ path s, load path = .ok s →
    (run [path]).output = document indented { s with limits }.summary
  /-- A file that fails prints nothing. -/
  output_of_error : ∀ path e, load path = .error e → (run [path]).output = ""
  /-- Files print one after the other what each prints by itself. -/
  output_eq : ∀ paths,
    (run paths).output = String.join (paths.map fun path => (run [path]).output)
  output_append : ∀ front back,
    (run (front ++ back)).output = (run front).output ++ (run back).output
  /-- The files that fail can be left out. -/
  output_filter : ∀ paths,
    (run (paths.filter fun path => (load path).isOk)).output = (run paths).output
  /-- The status tells whether a file failed. -/
  status_eq : ∀ paths,
    (run paths).status = if paths.all fun path => (load path).isOk then 0 else 1
  /-- The line on the error output tells how many files failed. -/
  failure_eq : ∀ paths, (run paths).failure =
    if paths.all fun path => (load path).isOk then none
    else some (failureLine (paths.countP fun path => !(load path).isOk))
  /-- Unless it is indented, each file that is loaded prints a line. -/
  count_newline : indented = false → ∀ paths,
    (run paths).output.toList.count '\n' = paths.countP fun path => (load path).isOk
  /-- No line is left open at the end. -/
  ends_line : ∀ paths, (run paths).output = "" ∨ (run paths).output.toList.getLast? = some '\n'

variable (limits : Limits) (indented : Bool)

/-- What a file that was loaded, or could not be, adds to the output. -/
def share : Except Error Subject → String
  | .ok s => document indented { s with limits }.summary
  | .error _ => ""

/-! ### One file -/

/-- The summary is worked out in a profile that remembers nothing yet. -/
theorem summary_of_empty (s : Subject) : (Profile.Session.summary ⟨s, {}⟩).1 = s.summary := by
  have h_empty : (⟨s, {}⟩ : Profile).Truthful := Profile.truthful_of_empty s
  exact (Profile.Session.answers_summary _ h_empty).1

/-- **One file:** it adds its share to the output, and is counted if it failed. -/
theorem step_eq (p : Progress) (result : Except Error Subject) :
    p.step limits indented result =
      ⟨p.output ++ share limits indented result, p.failures + if result.isOk then 0 else 1⟩ := by
  cases result with
  | ok s =>
    have h_summary := summary_of_empty { s with limits }
    unfold Progress.step share
    simp only [h_summary]
    rfl
  | error e =>
    rw [share, String.append_empty]
    rfl

/-- A document ends a line. -/
theorem getLast?_document (summary : Summary) :
    (document indented summary).toList.getLast? = some '\n' := by
  rw [document, String.toList_append, List.getLast?_append]
  rfl

/-- A document that is not indented is a single line. -/
theorem count_newline_document (summary : Summary) :
    (document false summary).toList.count '\n' = 1 := by
  have h_none : '\n' ∉ summary.toJson.compact.toList := by
    intro h_mem
    have h_high := Json.le_toNat_of_mem_compact summary.isWellFormed_toJson h_mem
    exact absurd h_high (by decide)
  have h_document : (document false summary).toList = summary.toJson.compact.toList ++ ['\n'] :=
    String.toList_append
  rw [h_document, List.count_append, List.count_eq_zero_of_not_mem h_none]
  rfl

theorem count_newline_share (result : Except Error Subject) :
    (share limits false result).toList.count '\n' = if result.isOk then 1 else 0 := by
  cases result with
  | ok s => exact count_newline_document _
  | error e => rfl

/-! ### A list of files -/

/-- **A list of files** adds the shares of the files in order, and the number of those that
failed. -/
theorem foldl_step (loaded : List (Except Error Subject)) (p : Progress) :
    loaded.foldl (Progress.step limits indented) p =
      ⟨p.output ++ String.join (loaded.map (share limits indented)),
        p.failures + loaded.countP (!·.isOk)⟩ := by
  induction loaded generalizing p with
  | nil =>
    rw [List.map_nil, String.join_nil, String.append_empty]
    rfl
  | cons result loaded ih =>
    have h_count : (result :: loaded).countP (!·.isOk) =
        (if result.isOk then 0 else 1) + loaded.countP (!·.isOk) := by
      rw [List.countP_cons, Nat.add_comm]
      cases result.isOk <;> rfl
    rw [List.foldl_cons, ih, step_eq, List.map_cons, String.join_cons, h_count]
    simp only [String.append_assoc, Nat.add_assoc]

theorem conclude_eq (loaded : List (Except Error Subject)) :
    conclude limits indented loaded =
      Progress.finish
        ⟨String.join (loaded.map (share limits indented)), loaded.countP (!·.isOk)⟩ := by
  rw [conclude, foldl_step, String.empty_append, Nat.zero_add]

theorem output_conclude (loaded : List (Except Error Subject)) :
    (conclude limits indented loaded).output =
      String.join (loaded.map (share limits indented)) := by
  rw [conclude_eq]
  rfl

/-- Nothing fails exactly if every file is loaded. -/
theorem countP_failed_eq_zero_iff (loaded : List (Except Error Subject)) :
    loaded.countP (!·.isOk) = 0 ↔ loaded.all (·.isOk) = true := by
  rw [List.countP_eq_zero, List.all_eq_true]
  refine forall₂_congr fun result _ => ?_
  rw [Bool.not_eq_true, Bool.not_eq_false']

/-- The files that fail have no share in the output. -/
theorem join_share_filter (loaded : List (Except Error Subject)) :
    String.join ((loaded.filter (·.isOk)).map (share limits indented)) =
      String.join (loaded.map (share limits indented)) := by
  induction loaded with
  | nil => rfl
  | cons result loaded ih =>
    cases result with
    | ok s =>
      rw [List.filter_cons_of_pos (by rfl), List.map_cons, List.map_cons, String.join_cons,
        String.join_cons, ih]
    | error e =>
      rw [List.filter_cons_of_neg (by nofun), List.map_cons, String.join_cons, ih, share,
        String.empty_append]

theorem count_newline_join (loaded : List (Except Error Subject)) :
    (String.join (loaded.map (share limits false))).toList.count '\n' =
      loaded.countP (·.isOk) := by
  induction loaded with
  | nil => rfl
  | cons result loaded ih =>
    rw [List.map_cons, String.join_cons, String.toList_append, List.count_append, ih,
      count_newline_share, List.countP_cons, Nat.add_comm]

theorem join_share_ends_line (loaded : List (Except Error Subject)) :
    String.join (loaded.map (share limits indented)) = "" ∨
      (String.join (loaded.map (share limits indented))).toList.getLast? = some '\n' := by
  induction loaded with
  | nil => exact .inl rfl
  | cons result loaded ih =>
    rw [List.map_cons, String.join_cons]
    rcases ih with h_none | h_line
    · -- the file is the last that prints, if it does
      rw [h_none, String.append_empty]
      cases result with
      | ok s => exact .inr (getLast?_document indented _)
      | error e => exact .inl rfl
    · right
      rw [String.toList_append, List.getLast?_append, h_line]
      rfl

/-! ### Whole runs -/

section Conclude

variable (load : RawText → Except Error Subject)

theorem output_conclude_map (paths : List RawText) :
    (conclude limits indented (paths.map load)).output =
      String.join (paths.map fun path => share limits indented (load path)) := by
  rw [output_conclude, List.map_map]
  rfl

/-- A path by itself prints its share. -/
theorem output_conclude_single (path : RawText) :
    (conclude limits indented ([path].map load)).output = share limits indented (load path) := by
  rw [output_conclude_map, List.map_singleton, String.join_cons, String.join_nil,
    String.append_empty]

theorem countP_failed_map_eq_zero_iff (paths : List RawText) :
    (paths.map load).countP (!·.isOk) = 0 ↔ (paths.all fun path => (load path).isOk) = true := by
  rw [countP_failed_eq_zero_iff, List.all_map]
  rfl

/-- Runs keep files apart, however it is settled what becomes of each path. -/
theorem conclude_keepsApart :
    KeepsApart limits indented load fun paths => conclude limits indented (paths.map load) := by
  have h_output := output_conclude_map limits indented load
  have h_single := output_conclude_single limits indented load
  constructor
  case output_of_ok =>
    intro path s h
    rw [h_single, h]
    rfl
  case output_of_error =>
    intro path e h
    rw [h_single, h]
    rfl
  case output_eq =>
    intro paths
    simp only [h_single]
    exact h_output paths
  case output_append =>
    intro front back
    rw [h_output, h_output, h_output, List.map_append, String.join_append]
  case output_filter =>
    intro paths
    have h_filter := join_share_filter limits indented (paths.map load)
    rw [List.filter_map, ← output_conclude, ← output_conclude] at h_filter
    exact h_filter
  case status_eq =>
    intro paths
    rw [conclude_eq]
    exact if_congr (countP_failed_map_eq_zero_iff load paths) rfl rfl
  case failure_eq =>
    intro paths
    have h_count : (paths.map load).countP (!·.isOk) =
        paths.countP fun path => !(load path).isOk := List.countP_map
    rw [conclude_eq, ← h_count]
    exact if_congr (countP_failed_map_eq_zero_iff load paths) rfl rfl
  case count_newline =>
    intro h_compact paths
    subst h_compact
    have h_count := count_newline_join limits (paths.map load)
    rw [List.countP_map, ← output_conclude] at h_count
    exact h_count
  case ends_line =>
    intro paths
    have h_ends := join_share_ends_line limits indented (paths.map load)
    rw [← output_conclude] at h_ends
    exact h_ends

end Conclude

/-- What becomes of a path that is given under a root. -/
def loadSeen (observe : RawText → RawText → Observation) (root path : RawText) :
    Except Error Subject :=
  (observe root (Path.join root path)).load root (Path.join root path)

/-- **Files that fail do not disturb the others,** whatever is seen of the paths, and whatever the
root is and the order of the paths. -/
theorem classify_keepsApart (observe : RawText → RawText → Observation) (root : RawText) :
    KeepsApart limits indented (loadSeen observe root)
      fun paths => classify limits observe { root, indented, paths } := by
  have h_run : (fun paths => classify limits observe { root, indented, paths }) =
      fun paths => conclude limits indented (paths.map (loadSeen observe root)) := by
    funext paths
    rw [classify, Options.targets, List.map_map]
    rfl
  rw [h_run]
  exact conclude_keepsApart limits indented (loadSeen observe root)

end FileProfile.CommandLine
