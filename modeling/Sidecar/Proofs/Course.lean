/-
# The course of a session

A session lives from its creation through moves of its own, of which any may
come at any time, and through what others do who share the registry of leases
and the output channel. Others may lease and give back what they like, as long
as they leave the session's own lease alone, and write what they like; the
session's tasks and resources they cannot touch.

What holds of a new session and is kept by every happening holds along every
course: sessions stay sound (`Course.sound`), and what a move keeps is kept
from any moment of the course on (`Course.persists`).

Key definitions: `Session.Happening`, `Session.after`, `Session.Course`.
Key theorems: `Session.Course.sound`, `Session.Course.persists`,
`Session.Course.ended_stays`.
-/
import Mathlib.Data.List.Induction
import Sidecar.Proofs.Soundness

namespace Sidecar.Session

/-- What can happen while a session lives. -/
inductive Happening where
  /-- A move of its own, with what the system answers. -/
  | move (m : Move) (a : Answers)
  /-- Others have changed the registry, in which they hold `held` from now on, and have written to
  the output channel. -/
  | others (held : List Nat) (registry : Registry) (entries : List Entry)

/-- What a happening does. -/
def meet (s : Session) : Happening → Session
  | .move m a => s.step a m
  | .others _ registry entries =>
    { s with registry, sink := { s.sink with entries := s.sink.entries ++ entries } }

/-- The session after some happenings. -/
def after (s : Session) (hs : List Happening) : Session := hs.foldl meet s

/-- What others hold after a happening, if they held `held` before. -/
def Happening.held (held : List Nat) : Happening → List Nat
  | .move .. => held
  | .others held' .. => held'

/-- What others hold after some happenings. A new session has no lease yet: all are held by
others. -/
def elsewhere (s₀ : Session) (hs : List Happening) : List Nat :=
  hs.foldl Happening.held s₀.registry.ports

/-- Nothing has happened yet. Only what the session is created with is arbitrary. -/
def Fresh (s : Session) : Prop :=
  s = { settings := s.settings, registry := s.registry, sink := s.sink }

/-- Others leave the lease of the session alone. -/
def Fair (s : Session) : List Happening → Prop
  | [] => True
  | .move m a :: rest => Fair (s.step a m) rest
  | .others held registry entries :: rest =>
    registry.ports.Perm (s.leases ++ held) ∧ Fair (s.meet (.others held registry entries)) rest

/-- Happenings that a session can meet from its creation on. -/
structure Course (s₀ : Session) (hs : List Happening) : Prop where
  fresh : Fresh s₀
  fair : Fair s₀ hs

variable {s s₀ : Session} {hs pre post : List Happening} {h : Happening} {held : List Nat}
  {i : Nat} {p : Point} {m : Move} {a : Answers}

theorem after_concat (s : Session) (hs : List Happening) (h : Happening) :
    s.after (hs ++ [h]) = (s.after hs).meet h := by
  simp [after]

theorem elsewhere_concat (s : Session) (hs : List Happening) (h : Happening) :
    s.elsewhere (hs ++ [h]) = h.held (s.elsewhere hs) := by
  simp [elsewhere]

theorem fair_append : Fair s (pre ++ post) ↔ Fair s pre ∧ Fair (s.after pre) post := by
  induction pre generalizing s with
  | nil => simp [Fair, after]
  | cons h pre ih =>
    cases h with
    | move m a => exact ih
    | others held registry entries =>
      show (_ ∧ Fair _ (pre ++ post)) ↔ (_ ∧ Fair _ pre) ∧ _
      rw [ih, and_assoc]
      rfl

/-- The system agrees to everything. -/
def agreeing : Answers := ⟨"/tmp/sidecar", fun _ => .ok 4000, fun _ => false, fun _ => .ok 7⟩

theorem Course.front (hc : Course s₀ (pre ++ post)) : Course s₀ pre :=
  ⟨hc.fresh, (fair_append.1 hc.fair).1⟩

/-! ### Soundness -/

theorem Fresh.sound (h : Fresh s) : Sound s.registry.ports s := by
  have htasks : s.tasks = [] := by rw [h]
  have hwatcher : s.resources.watcher = none := by rw [h]
  have hleases : s.leases = [] := by rw [h]; rfl
  constructor
  · simp [htasks]
  · simp [htasks]
  · simp [hwatcher]
  · simp [htasks]
  · rw [h]
    exact ⟨rfl, rfl, rfl⟩
  · simp [htasks]
  · simp [htasks]
  · rw [hleases]
    exact .refl _

theorem Sound.meet (hs : Sound held s) (hfair : Fair s [h]) : Sound (h.held held) (s.meet h) := by
  cases h with
  | move m a => exact hs.step a m
  | others held' registry entries => exact hs.congr rfl rfl rfl rfl rfl rfl rfl hfair.1

/-- **Along every course a session is sound.** -/
theorem Course.sound (hc : Course s₀ hs) : Sound (s₀.elsewhere hs) (s₀.after hs) := by
  induction hs using List.reverseRecOn with
  | nil => exact hc.fresh.sound
  | append_singleton pre h ih =>
    rw [elsewhere_concat, after_concat]
    exact (ih hc.front).meet (fair_append.1 hc.fair).2

/-- What the moves of a session keep, and what others cannot touch, lasts. -/
theorem Course.persists {P : Session → Prop} (hc : Course s₀ (pre ++ post))
    (hpre : P (s₀.after pre))
    (hmove : ∀ mid a m, Course s₀ mid → P (s₀.after mid) → P ((s₀.after mid).step a m))
    (hothers : ∀ s registry sink, P s → P { s with registry, sink }) :
    P (s₀.after (pre ++ post)) := by
  induction post using List.reverseRecOn with
  | nil => simpa using hpre
  | append_singleton post h ih =>
    rw [← List.append_assoc] at hc ⊢
    have hlast := ih hc.front
    rw [after_concat]
    cases h with
    | move m a => exact hmove _ a m hc.front hlast
    | others held registry entries => exact hothers _ _ _ hlast

theorem exists_effect_step (s : Session) (a : Answers) (m : Move) :
    ∃ task, Effect task s (s.step a m) :=
  ⟨m.task?.getD 0, effect_step s a m fun i hi => by rw [Option.mem_def.1 hi]; rfl⟩

/-- A move that is not about a task has its effect for another one. -/
theorem exists_effect_ne (a : Answers) (hi : i < s.tasks.length) (hm : m.task? ≠ some i) :
    ∃ task, i ≠ task ∧ Effect task s (s.step a m) := by
  cases ht : m.task? with
  | none => exact ⟨s.tasks.length, by omega, effect_step s a m (by simp [ht])⟩
  | some k =>
    refine ⟨k, ?_, effect_step s a m (by simp [ht])⟩
    rintro rfl
    exact hm ht

/-- A task that has ended makes no move. -/
theorem step_of_hasEnded (hp : s.tasks[i]? = some p) (he : p.hasEnded = true)
    (hm : m.task? = some i) : s.step a m = s := by
  cases m <;> cases hm
  case grant =>
    show s.grant i = s
    unfold grant
    split
    · rfl
    · cases p <;> cases he <;> rw [hp]
  case cancel =>
    rw [step]
    split
    · rfl
    · cases p <;> cases he <;> rw [hp]
  all_goals
    rw [step]
    cases p <;> cases he <;> rw [hp]

/-- Nor does another task touch it: if it was the watcher, it has been stopped already. -/
theorem Sound.ended_step (hs : Sound held s) (hp : s.tasks[i]? = some p)
    (he : p.hasEnded = true) : (s.step a m).tasks[i]? = some p := by
  by_cases hm : m.task? = some i
  · rwa [step_of_hasEnded hp he hm]
  · have hi := lt_length_of_getElem? hp
    obtain ⟨task, hne, heff⟩ := exists_effect_ne a hi hm
    rcases heff.tasks i hi hne with hsame | ⟨hw, hstop⟩
    · exact hsame.trans hp
    · obtain ⟨q, hq, hwq⟩ := hs.watcher i hw
      rw [hp] at hq
      cases hq
      rcases hwq with hwq | rfl
      · cases p <;> first | (cases he; done) | cases hwq
      · exact hstop

/-- **What a task has ended with stays.** -/
theorem Course.ended_stays (hc : Course s₀ (pre ++ post))
    (hp : (s₀.after pre).tasks[i]? = some p) (he : p.hasEnded = true) :
    (s₀.after (pre ++ post)).tasks[i]? = some p := by
  refine hc.persists (P := fun s => s.tasks[i]? = some p) hp ?_ ?_
  · exact fun mid a m hmid h => hmid.sound.ended_step h he
  · exact fun _ _ _ => id

end Sidecar.Session
