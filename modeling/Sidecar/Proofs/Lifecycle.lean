/-
# The life of a session

Whatever happens to a session, and in whatever order, its stages are a way
along allowed moves that never leaves an end; at most one start succeeds, and
a start that comes too late is refused and changes nothing else; a failure is
recorded exactly if the session ends with it, is never replaced, and is the
only error that the session reports.

The stages, the failure and the reports are one record of the past
(`Chronicle`), which every move continues because of what moves can do at all
(`Effect`).

Key definitions: `Session.told`, `Session.Chronicle`, `Session.Orderly`.
Key theorems: `Session.Course.chronicle`, `Session.lifecycle_orderly`.
-/
import Sidecar.Proofs.Course

namespace Sidecar.Session

variable {s s' s₀ : Session} {hs pre post : List Happening} {own : List Entry} {task : Nat}

/-- The entries that the session itself adds to the output channel in a happening. -/
def writes (s : Session) : Happening → List Entry
  | .move m a => (s.step a m).sink.entries.drop s.sink.entries.length
  | .others .. => []

/-- The entries that the session itself has added to the output channel. -/
def told (s : Session) : List Happening → List Entry
  | [] => []
  | h :: rest => s.writes h ++ (s.meet h).told rest

theorem told_concat (s : Session) (hs : List Happening) (h : Happening) :
    s.told (hs ++ [h]) = s.told hs ++ (s.after hs).writes h := by
  induction hs generalizing s with
  | nil => simp [told, after]
  | cons x rest ih =>
    show s.writes x ++ (s.meet x).told (rest ++ [h]) = (s.writes x ++ (s.meet x).told rest) ++ _
    rw [ih, List.append_assoc]
    rfl

/-! ### The record of the past -/

/-- What the past of a session tells; `own` are the entries that it has added to the output
channel. -/
structure Chronicle (s : Session) (own : List Entry) : Prop where
  path : ∃ way, s.history = .uninstalled :: way ∧ Stage.Path .uninstalled way s.stage
  failed : s.stage = .failed ↔ s.failure.isSome = true
  errors : errors own = (s.failure.map reportOf).toList

/-- An end is not left. -/
theorem Effect.of_isTerminal (h : Effect task s s') (hs : s.stage.isTerminal = true) :
    s'.stage = s.stage ∧ s'.history = s.history := by
  obtain ⟨way, hhist, hway⟩ := h.path
  obtain ⟨rfl, hstage⟩ := hway.of_isTerminal hs
  exact ⟨hstage, by simpa using hhist⟩

theorem Chronicle.effect (hc : Chronicle s own) (h : Effect task s s') :
    Chronicle s' (own ++ s'.sink.entries.drop s.sink.entries.length) := by
  obtain ⟨way, hhist, hway⟩ := hc.path
  obtain ⟨way', hhist', hway'⟩ := h.path
  obtain ⟨new, hnew, hrec⟩ := h.record
  have hdrop : s'.sink.entries.drop s.sink.entries.length = new := by
    rw [hnew, List.drop_left]
  have happend : Session.errors (own ++ new) = Session.errors own ++ Session.errors new :=
    List.filter_append ..
  rw [hdrop]
  refine ⟨⟨way ++ way', by rw [hhist', hhist]; rfl, hway.trans hway'⟩, ?_, ?_⟩
  · cases hrec with
    | none hf _ hst =>
      rw [hf, ← hc.failed]
      refine ⟨hst, fun hs => ?_⟩
      have hterm : s.stage.isTerminal = true := by rw [hs]; rfl
      rw [(h.of_isTerminal hterm).1, hs]
    | fails _ hst hf _ => simp [hst, hf]
  · rw [happend, hc.errors]
    cases hrec with
    | none hf herr _ => rw [herr, hf, List.append_nil]
    | fails hbefore _ hf herr =>
      -- the session had not failed before
      have hnone : s.failure = none := by
        cases hs : s.failure with
        | none => rfl
        | some f =>
          have hfailed := hc.failed.2 (by rw [hs]; rfl)
          rw [hfailed] at hbefore
          cases hbefore
      rw [herr, hf, hnone]
      rfl

theorem Chronicle.failure_kept (hc : Chronicle s own) (h : Effect task s s') {f : Failure}
    (hf : s.failure = some f) : s'.failure = some f := by
  obtain ⟨new, -, hrec⟩ := h.record
  cases hrec with
  | none hsame _ _ => rw [hsame, hf]
  | fails hbefore _ _ _ =>
    have hfailed := hc.failed.2 (by rw [hf]; rfl)
    rw [hfailed] at hbefore
    cases hbefore

theorem Fresh.chronicle (h : Fresh s) : Chronicle s [] := by
  rw [h]
  exact ⟨⟨[], rfl, rfl⟩, by simp, rfl⟩

/-- **Every course continues the record.** -/
theorem Course.chronicle (hc : Course s₀ hs) : Chronicle (s₀.after hs) (s₀.told hs) := by
  induction hs using List.reverseRecOn with
  | nil => exact hc.fresh.chronicle
  | append_singleton pre h ih =>
    have hpre := ih hc.front
    rw [after_concat, told_concat]
    cases h with
    | move m a =>
      obtain ⟨task, heff⟩ := exists_effect_step (s₀.after pre) a m
      exact hpre.effect heff
    | others held registry entries =>
      rw [show writes _ (Happening.others held registry entries) = [] from rfl, List.append_nil]
      exact ⟨hpre.path, hpre.failed, hpre.errors⟩

/-- What the life of a session is like, whatever happens. -/
structure Orderly (s₀ : Session) (hs : List Happening) : Prop where
  /-- The stages are a way along allowed moves. -/
  path : ∃ way, (s₀.after hs).history = .uninstalled :: way ∧
    Stage.Path .uninstalled way (s₀.after hs).stage
  /-- What has been a part of the way remains one. -/
  published : ∀ pre post, hs = pre ++ post → (s₀.after pre).history <+: (s₀.after hs).history
  /-- An end is not left. -/
  final : ∀ pre post, hs = pre ++ post → (s₀.after pre).stage.isTerminal = true →
    (s₀.after hs).stage = (s₀.after pre).stage ∧ (s₀.after hs).history = (s₀.after pre).history
  /-- A call that has returned stays returned, with what it has returned. -/
  returned : ∀ pre post, hs = pre ++ post → ∀ (i : Nat) (p : Point),
    (s₀.after pre).tasks[i]? = some p → p.hasEnded = true → (s₀.after hs).tasks[i]? = some p
  /-- At most one start succeeds. -/
  once : ∀ i j : Nat, (s₀.after hs).tasks[i]? = some (.started none) →
    (s₀.after hs).tasks[j]? = some (.started none) → i = j
  /-- A start that finds the session in another stage than the first is refused, and that is all. -/
  refused : ∀ pre i a post, hs = pre ++ .move (.grant i) a :: post →
    (s₀.after pre).tasks[i]? = some .startWaiting → (s₀.after pre).holder = none →
    (s₀.after pre).stage ≠ .uninstalled →
    s₀.after (pre ++ [.move (.grant i) a]) =
      (s₀.after pre).goTo i (.started (some (.notStartable (s₀.after pre).stage)))
  /-- There is a failure exactly if the session has failed. -/
  failed : (s₀.after hs).stage = .failed ↔ (s₀.after hs).failure.isSome = true
  /-- A recorded failure is not replaced. -/
  kept : ∀ pre post, hs = pre ++ post → ∀ f, (s₀.after pre).failure = some f →
    (s₀.after hs).failure = some f
  /-- The one error that the session reports is its failure. -/
  reported : errors (s₀.told hs) = ((s₀.after hs).failure.map reportOf).toList

/-- **The life of a session is orderly**, in whatever order its calls, its watcher, the exit of the
server and the end of the channel come, and whatever comes of all it waits for. -/
theorem lifecycle_orderly (hc : Course s₀ hs) : Orderly s₀ hs where
  path := hc.chronicle.path
  published := by
    rintro pre post rfl
    refine hc.persists (P := fun s => (s₀.after pre).history <+: s.history)
      (List.prefix_refl _) ?_ ?_
    · intro mid a m _ hmid
      obtain ⟨task, heff⟩ := exists_effect_step (s₀.after mid) a m
      obtain ⟨way, hhist, -⟩ := heff.path
      rw [hhist]
      exact hmid.trans (List.prefix_append _ _)
    · exact fun _ _ _ => id
  final := by
    rintro pre post rfl hterm
    refine hc.persists (P := fun s => s.stage = (s₀.after pre).stage ∧
      s.history = (s₀.after pre).history) ⟨rfl, rfl⟩ ?_ ?_
    · rintro mid a m - ⟨hstage, hhist⟩
      obtain ⟨task, heff⟩ := exists_effect_step (s₀.after mid) a m
      obtain ⟨hstage', hhist'⟩ := heff.of_isTerminal (by rw [hstage, hterm])
      exact ⟨hstage'.trans hstage, hhist'.trans hhist⟩
    · exact fun _ _ _ => id
  returned := by
    rintro pre post rfl i p hp he
    exact hc.ended_stays hp he
  once := hc.sound.once
  refused := by
    rintro pre i a post rfl hp hfree hs
    rw [after_concat]
    exact grant_refused hfree hp hs
  failed := hc.chronicle.failed
  kept := by
    rintro pre post rfl f hf
    refine hc.persists (P := fun s => s.failure = some f) hf ?_ ?_
    · intro mid a m hmid hf
      obtain ⟨task, heff⟩ := exists_effect_step (s₀.after mid) a m
      exact hmid.chronicle.failure_kept heff hf
    · exact fun _ _ _ => id
  reported := hc.chronicle.errors

/-- The server exits while the session is live, a second start comes too late, and somebody
disposes of the session while the watcher deals with the failure. Meanwhile others take a lease. -/
def mishap : List Happening :=
  [.move .start agreeing, .move .start agreeing, .move (.grant 0) agreeing,
    .move (.checked 0 false) agreeing, .move (.ensured 0 true) agreeing,
    .move (.listed 0 true) agreeing,
    .others [5007] ⟨[5007, 4000]⟩ [⟨.error, "port 4000 is leased by another session"⟩],
    .move (.bound 0 true) agreeing, .move (.connected 0 (.ok ())) agreeing,
    .move (.grant 1) agreeing, .move (.exits ⟨some 1, none⟩) agreeing,
    .move (.seeExit 2) agreeing, .move .dispose agreeing, .move (.grant 2) agreeing,
    .move (.released 2) agreeing, .move (.released 2) agreeing, .move (.grant 3) agreeing]

theorem lifecycle_orderly_mishap : Course {} mishap ∧ Orderly {} mishap ∧
    (after {} mishap).history = [.uninstalled, .installing, .installed, .launching, .awaitingBind,
      .connecting, .active, .failed] ∧
    (after {} mishap).tasks = [.started none, .started (some (.notStartable .active)),
      .watched true, .disposed] := by
  have hc : Course {} mishap := ⟨rfl, .swap .., trivial⟩
  exact ⟨hc, lifecycle_orderly hc, rfl, rfl⟩

end Sidecar.Session
