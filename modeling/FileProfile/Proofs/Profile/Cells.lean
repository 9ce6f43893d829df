import FileProfile.Query

/-!
# What the cells of a profile hold

The nine cells of a profile are treated here as one family. A `Cell` names one of them;
`Cell.content?` reads it and `Cell.put` fills it, `Cell.value` is the attribute of the subject that
it is for, and `Cell.request` is the session that fills it.

Sessions are followed through three predicates.

* `Profile.Truthful`: every filled cell holds the attribute of the subject that it is for. This is
  the invariant. It says nothing about which cells are filled, so it does not depend on the order in
  which they are asked for.
* `Profile.Extends`: the subject is the same, and no filled cell has been emptied or has changed.
* `Session.Answers m a`: asked in a truthful profile, the session `m` gives the attribute `a` of the
  subject, and leaves behind a truthful profile that extends the one it was asked in.

`Session.Answers` is closed under `pure` and bind (`Answers.pure`, `Answers.bind`), and, which is
the point, under remembering in a cell (`Answers.remember`): a filled cell is trusted, and an empty
one is filled with what was just worked out. Every session then answers because its parts do.
-/

namespace FileProfile

/-! ### The cells as a family -/

/-- A cell of a profile, named for what it remembers. -/
inductive Cell where
  | sniff
  | text
  | lineSpans
  | sloc
  | shebang
  | language
  | generated
  | thirdParty
  | mediaType
  deriving DecidableEq

namespace Cell

/-- The type of what a cell holds. -/
@[reducible] def Content : Cell → Type
  | sniff => Sniff
  | text => Option String
  | lineSpans => List Text.Span
  | sloc => Nat
  | shebang => Option Shebang
  | language => Option Language
  | generated | thirdParty => Bool
  | mediaType => String

/-- What a cell holds, if it is filled. -/
def content? (cells : Cells) : (c : Cell) → Option c.Content
  | sniff => cells.sniff
  | text => cells.text
  | lineSpans => cells.lineSpans
  | sloc => cells.sloc
  | shebang => cells.shebang
  | language => cells.language
  | generated => cells.generated
  | thirdParty => cells.thirdParty
  | mediaType => cells.mediaType

/-- The cells with one of them filled. -/
def put (cells : Cells) : (c : Cell) → c.Content → Cells
  | sniff, value => { cells with sniff := some value }
  | text, value => { cells with text := some value }
  | lineSpans, value => { cells with lineSpans := some value }
  | sloc, value => { cells with sloc := some value }
  | shebang, value => { cells with shebang := some value }
  | language, value => { cells with language := some value }
  | generated, value => { cells with generated := some value }
  | thirdParty, value => { cells with thirdParty := some value }
  | mediaType, value => { cells with mediaType := some value }

/-- The attribute of a subject that a cell is for. -/
def value (s : Subject) : (c : Cell) → c.Content
  | sniff => s.sniff
  | text => s.text?
  | lineSpans => s.lineSpans
  | sloc => s.sloc
  | shebang => s.shebang?
  | language => s.language?
  | generated => s.isGenerated
  | thirdParty => s.isThirdParty
  | mediaType => s.mediaType

/-- The session that asks for what a cell holds, and fills the cell. -/
def request : (c : Cell) → Profile.Session c.Content
  | sniff => Profile.Session.sniff
  | text => Profile.Session.text?
  | lineSpans => Profile.Session.lineSpans
  | sloc => Profile.Session.sloc
  | shebang => Profile.Session.shebang?
  | language => Profile.Session.language?
  | generated => Profile.Session.isGenerated
  | thirdParty => Profile.Session.isThirdParty
  | mediaType => Profile.Session.mediaType

@[simp] theorem content?_empty (c : Cell) : c.content? {} = none := by
  cases c <;> rfl

@[simp] theorem content?_put_self (cells : Cells) (c : Cell) (v : c.Content) :
    c.content? (c.put cells v) = some v := by
  cases c <;> rfl

/-- Filling one cell leaves the others alone. -/
theorem content?_put_of_ne (cells : Cells) {c d : Cell} (v : c.Content) (h : d ≠ c) :
    d.content? (c.put cells v) = d.content? cells := by
  cases c <;> cases d <;> first | rfl | exact absurd rfl h

end Cell

namespace Profile

/-! ### The invariant -/

/-- Every filled cell holds the attribute of the subject that it is for. -/
def Truthful (p : Profile) : Prop :=
  ∀ (c : Cell) (v : c.Content), c.content? p.cells = some v → v = c.value p.subject

/-- `p.Extends p'`: the second profile is of the same subject and remembers all that the first
does. -/
structure Extends (p p' : Profile) : Prop where
  subject_eq : p'.subject = p.subject
  content?_eq : ∀ (c : Cell) (v : c.Content),
    c.content? p.cells = some v → c.content? p'.cells = some v

/-- Where nothing is remembered, nothing is remembered wrongly. -/
theorem truthful_of_empty (s : Subject) : Truthful ⟨s, {}⟩ := by
  intro c v h
  rw [Cell.content?_empty] at h
  exact absurd h (by simp)

theorem Extends.refl (p : Profile) : p.Extends p := ⟨rfl, fun _ _ h => h⟩

theorem Extends.trans {p q r : Profile} (h₁ : p.Extends q) (h₂ : q.Extends r) : p.Extends r :=
  ⟨h₂.subject_eq.trans h₁.subject_eq, fun c v h => h₂.content?_eq c v (h₁.content?_eq c v h)⟩

/-- The profile with one cell filled. -/
def fill (p : Profile) (c : Cell) (v : c.Content) : Profile := { p with cells := c.put p.cells v }

@[simp] theorem fill_subject (p : Profile) (c : Cell) (v : c.Content) :
    (p.fill c v).subject = p.subject := rfl

/-- The invariant is kept when a cell is filled with the attribute that it is for. -/
theorem Truthful.fill {p : Profile} (hp : p.Truthful) (c : Cell) :
    (p.fill c (c.value p.subject)).Truthful := by
  intro d v h
  rw [fill_subject]
  by_cases hd : d = c
  · subst hd
    have h' : d.content? (d.put p.cells (d.value p.subject)) = some v := h
    rw [Cell.content?_put_self] at h'
    exact (Option.some.inj h').symm
  · have h' : d.content? (c.put p.cells (c.value p.subject)) = some v := h
    rw [Cell.content?_put_of_ne _ _ hd] at h'
    exact hp d v h'

/-- A cell that was empty to begin with may be filled with anything. -/
theorem Extends.fill {p p' : Profile} (h : p.Extends p') {c : Cell}
    (hc : c.content? p.cells = none) (v : c.Content) : p.Extends (p'.fill c v) := by
  refine ⟨h.subject_eq, fun d w hd => ?_⟩
  have hne : d ≠ c := by
    rintro rfl
    rw [hc] at hd
    exact absurd hd (by simp)
  change d.content? (c.put p'.cells v) = some w
  rw [Cell.content?_put_of_ne _ _ hne]
  exact h.content?_eq d w hd

namespace Session

variable {α β : Type}

/-- Asked in a truthful profile, the session gives the attribute `a` of the subject; it keeps the
profile truthful, and forgets nothing. -/
def Answers (m : Session α) (a : Subject → α) : Prop :=
  ∀ p : Profile, p.Truthful → (m p).1 = a p.subject ∧ (m p).2.Truthful ∧ p.Extends (m p).2

/-- A filled cell is read, and nothing else happens. -/
theorem remember_of_some {p : Profile} {c : Cell} {v : c.Content} (m : Session c.Content)
    (h : c.content? p.cells = some v) :
    Session.remember (Cell.content? · c) (Cell.put · c) m p = (v, p) := by
  simp only [Session.remember, get, getThe, MonadStateOf.get, StateT.get, Bind.bind, StateT.bind,
    Pure.pure, h]
  rfl

/-- An empty cell is filled with what was computed, in the profile that computing it leaves. -/
theorem remember_of_none {p : Profile} {c : Cell} (m : Session c.Content)
    (h : c.content? p.cells = none) :
    Session.remember (Cell.content? · c) (Cell.put · c) m p =
      ((m p).1, (m p).2.fill c (m p).1) := by
  simp only [Session.remember, get, getThe, MonadStateOf.get, StateT.get, Bind.bind, StateT.bind,
    Pure.pure, h]
  rfl

namespace Answers

theorem pure (x : α) : Answers (Pure.pure x) fun _ => x :=
  fun p hp => ⟨rfl, hp, Extends.refl p⟩

theorem subject : Answers Session.subject id :=
  fun p hp => ⟨rfl, hp, Extends.refl p⟩

theorem bind {m : Session α} {f : α → Session β} {a : Subject → α} {b : α → Subject → β}
    (hm : Answers m a) (hf : ∀ x, Answers (f x) (b x)) :
    Answers (m >>= f) fun s => b (a s) s := by
  intro p hp
  obtain ⟨h_val, h_true, h_ext⟩ := hm p hp
  obtain ⟨h_val', h_true', h_ext'⟩ := hf (m p).1 (m p).2 h_true
  refine ⟨?_, h_true', h_ext.trans h_ext'⟩
  calc ((m >>= f) p).1 = b (m p).1 (m p).2.subject := h_val'
    _ = b (a p.subject) p.subject := by rw [h_val, h_ext.subject_eq]

/-- A session that only passes on what another gives. -/
theorem map {m : Session α} {a : Subject → α} (hm : Answers m a) (g : α → β) :
    Answers (m >>= fun x => Pure.pure (g x)) fun s => g (a s) :=
  hm.bind fun x => Answers.pure (g x)

/-- A session that may stop early, and then need not ask any further. -/
theorem stopIf {m : Session α} {a : Subject → α} (hm : Answers m a) (c : Bool) (x : α) :
    Answers (if c then Pure.pure x else m) fun s => if c then x else a s := by
  cases c with
  | true => exact Answers.pure x
  | false => exact hm

/-- The same answer in other words. -/
theorem congr {m : Session α} {a b : Subject → α} (hm : Answers m a) (h : ∀ s, a s = b s) :
    Answers m b := by
  rw [← funext h]
  exact hm

/-- **Remembering keeps the invariant.** If what is computed is the attribute that the cell is for,
so is what the cell gives, be it filled already or not. -/
theorem remember (c : Cell) {m : Session c.Content} (hm : Answers m c.value) :
    Answers (Session.remember (Cell.content? · c) (Cell.put · c) m) c.value := by
  intro p hp
  cases hc : c.content? p.cells with
  | some v =>
    rw [remember_of_some m hc]
    exact ⟨hp c v hc, hp, Extends.refl p⟩
  | none =>
    obtain ⟨h_val, h_true, h_ext⟩ := hm p hp
    rw [remember_of_none m hc]
    refine ⟨h_val, ?_, h_ext.fill hc _⟩
    -- what the cell is filled with is the attribute of the subject that the profile still has
    have h_fill : (m p).1 = c.value (m p).2.subject := by rw [h_val, h_ext.subject_eq]
    change ((m p).2.fill c (m p).1).Truthful
    rw [h_fill]
    exact h_true.fill c

end Answers

end Session

end Profile

end FileProfile
