import FileProfile.Proofs.Profile.Answers

/-!
# Remembering does not show

A profile is used in steps: queries, in any order and any number of times, and between them changes
of what the subject is judged by. After any such run every query is answered as a profile would
answer it that was built for the purpose and has remembered nothing yet (`run_transparent`).

* `Subject.after` is the subject as a list of steps leaves it: the file that it was, judged by
  whatever each kind of change has set last. It is read off the steps and mentions no profile.
* `Profile.rebuilt` is the profile that is built for a subject from nothing.
* `take_truthful` and `take_subject` say what one step keeps; `run_truthful` and `run_subject`
  follow by induction for a run.

Only a change empties cells. That a run of queries loses and overwrites nothing is `run_extends`.
-/

namespace FileProfile

/-! ### What steps set -/

namespace Step

/-- The limits that a step sets, if it sets them. -/
def limits? : Step → Option Limits
  | setLimits limits => some limits
  | _ => none

/-- The table of media types that a step sets, if it sets it. -/
def mediaTable? : Step → Option MediaTable
  | setMediaTable table => some table
  | _ => none

/-- The rules for third-party files that a step sets, if it sets them. -/
def thirdPartyRules? : Step → Option (List Pattern)
  | setThirdPartyRules rules => some rules
  | _ => none

end Step

/-- The last value that one of the steps sets, or else a given one. -/
def lastSet {α : Type} (set? : Step → Option α) (steps : List Step) (default : α) : α :=
  (steps.filterMap set?).getLast?.getD default

/-- A subject as steps leave it: the same file, judged by what was set last. -/
def Subject.after (s : Subject) (steps : List Step) : Subject where
  path := s.path
  bytes := s.bytes
  limits := lastSet Step.limits? steps s.limits
  mediaTable := lastSet Step.mediaTable? steps s.mediaTable
  thirdPartyRules := lastSet Step.thirdPartyRules? steps s.thirdPartyRules

/-- What is set first is the default of what is set later. -/
theorem lastSet_cons {α : Type} (set? : Step → Option α) (step : Step) (steps : List Step)
    (default : α) :
    lastSet set? (step :: steps) default = lastSet set? steps ((set? step).getD default) := by
  unfold lastSet
  cases h : set? step with
  | none => rw [List.filterMap_cons_none h, Option.getD_none]
  | some value =>
    rw [List.filterMap_cons_some h, List.getLast?_cons, Option.getD_some, Option.getD_some]

@[simp] theorem Subject.after_nil (s : Subject) : s.after [] = s := rfl

theorem Subject.after_cons (s : Subject) (step : Step) (steps : List Step) :
    s.after (step :: steps) = (s.after [step]).after steps := by
  unfold Subject.after
  simp only [lastSet_cons]
  rfl

namespace Profile

/-- The profile that is built for a subject: that of the file, with everything set once. -/
def rebuilt (s : Subject) : Profile :=
  ((of s.path s.bytes).run
    [.setLimits s.limits, .setMediaTable s.mediaTable, .setThirdPartyRules s.thirdPartyRules]).2

theorem rebuilt_eq (s : Subject) : rebuilt s = ⟨s, {}⟩ := rfl

theorem rebuilt_truthful (s : Subject) : (rebuilt s).Truthful := by
  rw [rebuilt_eq]
  exact truthful_of_empty s

/-! ### One step -/

theorem take_truthful {p : Profile} (hp : p.Truthful) (step : Step) :
    (p.take step).2.Truthful := by
  cases step with
  | ask q => exact (q.answers_ask p hp).2.1
  | setLimits limits => exact truthful_of_empty _
  | setMediaTable table => exact truthful_of_empty _
  | setThirdPartyRules rules => exact truthful_of_empty _

theorem take_subject {p : Profile} (hp : p.Truthful) (step : Step) :
    (p.take step).2.subject = p.subject.after [step] := by
  cases step with
  | ask q => exact (q.answers_ask p hp).2.2.subject_eq
  | setLimits limits => rfl
  | setMediaTable table => rfl
  | setThirdPartyRules rules => rfl

/-- What a query is answered with in a truthful profile does not depend on what is remembered. -/
theorem take_ask {p : Profile} (hp : p.Truthful) (q : Query) :
    (p.take (.ask q)).1 = some ⟨q, (q.ask (rebuilt p.subject)).1⟩ := by
  have h : (q.ask p).1 = (q.ask (rebuilt p.subject)).1 :=
    calc (q.ask p).1 = q.answer p.subject := (q.answers_ask p hp).1
      _ = (q.ask (rebuilt p.subject)).1 := (q.answers_ask _ (rebuilt_truthful _)).1.symm
  rw [← h]
  rfl

/-! ### Runs -/

@[simp] theorem run_nil (p : Profile) : p.run [] = ([], p) := rfl

/-- The answers of a run are collected last first, behind those that are there already. -/
theorem foldl_take (steps : List Step) (answers : List (Option Answered)) (p : Profile) :
    steps.foldl (fun (answers, p) step =>
        let (answer, p) := take p step
        (answer :: answers, p)) (answers, p) =
      ((p.run steps).1.reverse ++ answers, (p.run steps).2) := by
  induction steps generalizing answers p with
  | nil => rfl
  | cons step steps ih =>
    rw [run, List.foldl_cons, ih, List.foldl_cons, ih]
    simp

theorem run_cons (p : Profile) (step : Step) (steps : List Step) :
    p.run (step :: steps) =
      ((p.take step).1 :: ((p.take step).2.run steps).1, ((p.take step).2.run steps).2) := by
  rw [run, List.foldl_cons, foldl_take]
  simp

theorem length_run (p : Profile) (steps : List Step) : (p.run steps).1.length = steps.length := by
  induction steps generalizing p with
  | nil => rfl
  | cons step steps ih => rw [run_cons, List.length_cons, List.length_cons, ih]

theorem run_append (p : Profile) (before later : List Step) :
    p.run (before ++ later) =
      ((p.run before).1 ++ ((p.run before).2.run later).1, ((p.run before).2.run later).2) := by
  induction before generalizing p with
  | nil => rfl
  | cons step before ih => rw [List.cons_append, run_cons, run_cons, ih, List.cons_append]

/-- **The invariant holds after every run.** -/
theorem run_truthful {p : Profile} (hp : p.Truthful) (steps : List Step) :
    (p.run steps).2.Truthful := by
  induction steps generalizing p with
  | nil =>
    rw [run_nil]
    exact hp
  | cons step steps ih =>
    rw [run_cons]
    exact ih (take_truthful hp step)

theorem run_subject {p : Profile} (hp : p.Truthful) (steps : List Step) :
    (p.run steps).2.subject = p.subject.after steps := by
  induction steps generalizing p with
  | nil => rw [run_nil, Subject.after_nil]
  | cons step steps ih =>
    rw [run_cons, Subject.after_cons, ← take_subject hp step]
    exact ih (take_truthful hp step)

/-- Queries keep the subject and whatever has been remembered, however many they are. -/
theorem run_extends {p : Profile} (hp : p.Truthful) (qs : List Query) :
    p.Extends (p.run (qs.map .ask)).2 := by
  induction qs generalizing p with
  | nil => exact Extends.refl p
  | cons q qs ih =>
    rw [List.map_cons, run_cons]
    exact (q.answers_ask p hp).2.2.trans (ih (take_truthful hp (.ask q)))

/-- **Remembering does not show.** Take a file and any steps. The profile that they lead to is of
the file as judged by what was set last. Each of its filled cells holds what a profile built for
that subject would find. A query asked next is answered as that profile would answer it, whatever
follows it. And queries, however many, change neither the subject nor a cell that is filled. -/
theorem run_transparent (path : String) (bytes : List UInt8) (steps : List Step) :
    let s := Subject.after { path, bytes } steps
    let p := ((of path bytes).run steps).2
    p.subject = s ∧
    (∀ (c : Cell) (v : c.Content), c.content? p.cells = some v → v = (c.request (rebuilt s)).1) ∧
    (∀ (q : Query) (later : List Step),
      ((of path bytes).run (steps ++ .ask q :: later)).1[steps.length]? =
        some (some ⟨q, (q.ask (rebuilt s)).1⟩)) ∧
    (∀ qs : List Query, p.Extends (p.run (qs.map .ask)).2) := by
  intro s p
  have h_start : (of path bytes).Truthful := truthful_of_empty _
  have h_true : p.Truthful := run_truthful h_start steps
  have h_subject : p.subject = s := run_subject h_start steps
  refine ⟨h_subject, ?_, ?_, run_extends h_true⟩
  · intro c v hv
    calc v = c.value p.subject := h_true c v hv
      _ = c.value s := by rw [h_subject]
      _ = (c.request (rebuilt s)).1 := (c.answers_request _ (rebuilt_truthful s)).1.symm
  · intro q later
    have h_length : ((of path bytes).run steps).1.length = steps.length := length_run _ _
    rw [run_append, run_cons, ← h_length, List.getElem?_append_right (Nat.le_refl _),
      Nat.sub_self, List.getElem?_cons_zero]
    change some (p.take (.ask q)).1 = _
    rw [take_ask h_true, h_subject]

end Profile

end FileProfile
