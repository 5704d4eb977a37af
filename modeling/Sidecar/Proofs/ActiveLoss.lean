/-
# The loss of a live session

What a live session is lost to is settled by the times at which its server
exits and its channel ends, not by which of the two its watcher sees first. An
exit before the end of the channel, or less than the poll interval after it, is
what the session has failed with; with a later one, or none, it has failed with
the end of the channel. An exit that is known while the session is still live
counts in any case (`Clocked.doomed_run`). And lost the session is: time does
not go on without it, and the watcher needs nobody's help
(`Clocked.Reckoned.exists_loss`).

Key definitions: `Clocked.FailedAs`, `Clocked.Attributed`.
Key theorems: `Clocked.doomed_run`, `Clocked.Reckoned.exists_loss`, `Clocked.loss_attributed`.
-/
import Sidecar.Proofs.SessionClock

namespace Sidecar.Clocked

open Session

variable {w : Clocked} {s₀ : Session} {i : Nat} {held : List Nat} {ev : Event}
  {events : List Event}

/-- The session has failed with a failure of a kind. -/
def FailedAs (s : Session) (k : FailureKind) : Prop :=
  s.stage = .failed ∧ ∃ f, s.failure = some f ∧ f.kind = k

/-- The session is live and the exit is known, or the session was lost to it. -/
def Doomed (s : Session) : Prop :=
  (s.stage = .active ∧ s.exit.isSome = true) ∨ FailedAs s .processExited

/-- Whatever the watcher sees next, it learns of the exit. -/
theorem Reckoned.doomed_move (h : Reckoned s₀ w) (hw : OnCourse s₀ w) {m : Move} {a : Answers}
    (hcalm : (w.session.step a m).cancelled = false) (hd : Doomed w.session) :
    Doomed (w.session.step a m) := by
  obtain ⟨hbefore, hm⟩ := hw.sound.cancelled_step hcalm
  rcases hd with ⟨hstage, hexit⟩ | ⟨hfailed, f, hf, hk⟩
  · obtain ⟨i, hvigil⟩ := h.vigil hstage
    obtain ⟨p, hp, hv⟩ := hvigil.exists_task
    cases hw.sound.stirs_step hstage hbefore hp hv a hm with
    | idle hstage' hexit' _ _ => exact .inl ⟨hstage', hexit' ▸ hexit⟩
    | exited e _ hnone _ =>
      rw [hnone] at hexit
      cases hexit
    | ended reason _ _ hs =>
      rw [hs]
      exact .inl ⟨hstage, hexit⟩
    | sawExit e _ _ _ hstage' hfailure => exact .inr ⟨hstage', _, hfailure, rfl⟩
    | sawEnd reason _ _ _ hs =>
      rw [hs]
      exact .inl ⟨hstage, hexit⟩
    | lingered reason _ _ hstage' hfailure =>
      obtain ⟨e, he⟩ := Option.isSome_iff_exists.1 hexit
      rw [he] at hfailure
      exact .inr ⟨hstage', _, hfailure, rfl⟩
  · obtain ⟨task, heffect⟩ := exists_effect_step w.session a m
    have hterm : w.session.stage.isTerminal = true := by rw [hfailed]; rfl
    exact .inr ⟨(heffect.of_isTerminal hterm).1.trans hfailed, f,
      hw.chronicle.failure_kept heffect hf, hk⟩

theorem Reckoned.doomed_step (h : Reckoned s₀ w) (hw : OnCourse s₀ w)
    (hcalm : (w.step ev).session.cancelled = false) (hd : Doomed w.session) :
    Doomed (w.step ev).session := by
  cases ev with
  | pass time =>
    rw [Clocked.step]
    split <;> exact hd
  | meet hap =>
    by_cases hmay : w.mayMeet hap = true
    · rw [step_meet hmay] at hcalm ⊢
      cases hap with
      | others held registry entries => exact hd
      | move m a => exact h.doomed_move hw hcalm hd
    · rw [Clocked.step, if_neg hmay]
      exact hd

theorem doomed_run {pre post : List Event}
    (hc : Course s₀ ((start s₀).run (pre ++ post)).met)
    (hcalm : ((start s₀).run (pre ++ post)).session.cancelled = false)
    (hd : Doomed ((start s₀).run pre).session) :
    Doomed ((start s₀).run (pre ++ post)).session := by
  induction post using List.reverseRecOn with
  | nil => simpa using hd
  | append_singleton post ev ih =>
    rw [← List.append_assoc, run_concat] at hc hcalm ⊢
    have hw := onCourse_run (course_of_step hc)
    have hbefore := hw.calm hcalm
    have hreckoned := reckoned_run hw.course hbefore
    exact hreckoned.doomed_step hw hcalm (ih hw.course hbefore)

/-! ### What the times decide -/

theorem Reckoned.poll_eq (h : Reckoned s₀ w) : w.poll = (start s₀).poll := by
  rw [poll, h.settings]
  rfl

theorem Reckoned.failed_of_exit (h : Reckoned s₀ w) {e l : Nat} (he : w.exitAt = some e)
    (hl : w.liveAt = some l) (hlate : max e l < w.now) : w.session.stage = .failed := by
  refine (h.outcome (by rw [hl]; rfl)).resolve_left fun hstage => ?_
  have hprompt := h.prompt hstage e l he hl
  omega

theorem Reckoned.failed_of_end (h : Reckoned s₀ w) {c : Nat} (hend : w.endAt = some c)
    (hlate : c + w.poll < w.now) : w.session.stage = .failed := by
  refine (h.outcome (h.endLate (by rw [hend]; rfl))).resolve_left fun hstage => ?_
  obtain ⟨i, hvigil⟩ := h.vigil hstage
  cases hvigil with
  | watching _ hnow =>
    have hc := hnow c hend
    omega
  | lingering _ c' _ hend' _ hnow =>
    obtain rfl : c = c' := Option.some.inj (hend.symm.trans hend')
    omega

theorem Reckoned.failedAs_processExited (h : Reckoned s₀ w) (hfailed : w.session.stage = .failed)
    (hlive : w.liveAt.isSome = true) {e : Nat} (he : w.exitAt = some e)
    (hend : ∀ c, w.endAt = some c → e < c + w.poll) : FailedAs w.session .processExited := by
  cases h.verdict hfailed hlive with
  | exited f _ hf hk _ _ => exact ⟨hfailed, f, hf, hk⟩
  | lost _ c _ _ hc _ hexit =>
    have hlate := hexit e he
    have hearly := hend c hc
    omega

theorem Reckoned.failedAs_transportError (h : Reckoned s₀ w) (hfailed : w.session.stage = .failed)
    (hlive : w.liveAt.isSome = true) {c : Nat} (hc : w.endAt = some c)
    (hexit : ∀ e, w.exitAt = some e → c + w.poll < e) : FailedAs w.session .transportError := by
  cases h.verdict hfailed hlive with
  | lost f _ hf hk _ _ _ => exact ⟨hfailed, f, hf, hk⟩
  | exited _ e _ _ he hend =>
    have hearly := hend c hc
    have hlate := hexit e he
    omega

/-! ### The watcher left to itself -/

/-- Time passes, or the watcher does something. -/
def Event.isWatchers : Event → Bool
  | .pass _ | .meet (.move (.seeExit _) _) | .meet (.move (.seeEnd _) _)
  | .meet (.move (.linger _) _) => true
  | _ => false

theorem stage_seeExit {e : Exit} (hstage : w.session.stage = .active)
    (hcalm : w.session.cancelled = false) (hp : w.session.tasks[i]? = some .watching)
    (he : w.session.exit = some e) (a : Answers) :
    (w.step (.meet (.move (.seeExit i) a))).session.stage = .failed := by
  rw [step_meet rfl]
  show (w.session.step a (.seeExit i)).stage = .failed
  rw [Session.step, hp, he]
  exact (lose_of_active hstage hcalm _).1

theorem stage_linger {reason : ChannelEnd} {a : Answers} (hstage : w.session.stage = .active)
    (hcalm : w.session.cancelled = false) (hp : w.session.tasks[i]? = some (.lingering reason))
    (hmay : w.mayMeet (.move (.linger i) a) = true) :
    (w.step (.meet (.move (.linger i) a))).session.stage = .failed := by
  rw [step_meet hmay]
  show (w.session.step a (.linger i)).stage = .failed
  rw [Session.step, hp]
  exact (lose_of_active hstage hcalm _).1

theorem session_pass (w : Clocked) (time : Nat) : (w.step (.pass time)).session = w.session := by
  rw [step]
  split <;> rfl

/-- Unless the exit is known, nothing keeps time from passing up to the end of the wait. -/
theorem mayPass_of_lingering (hsound : Sound held w.session) {reason : ChannelEnd} {c time : Nat}
    (hp : w.session.tasks[i]? = some (.lingering reason)) (hseen : w.seenAt = some c)
    (hexit : w.session.exit = none) (htime : w.now + time ≤ c + w.poll) :
    w.mayPass time = true := by
  rw [mayPass, List.all_eq_true]
  intro q hq
  obtain ⟨j, hj⟩ := List.mem_iff_getElem?.1 hq
  by_cases hv : q.isVigilant = true
  · obtain rfl := hsound.watcher_unique hp rfl hj hv
    rw [hp] at hj
    cases hj
    simpa [hexit, hseen] using htime
  · cases q <;> first | rfl | exact absurd rfl hv

/-- The wait of the watcher comes to its end. -/
theorem Reckoned.exists_loss_of_lingering (h : Reckoned s₀ w) (hsound : Sound held w.session)
    (hstage : w.session.stage = .active) (hcalm : w.session.cancelled = false)
    {reason : ChannelEnd} (hp : w.session.tasks[i]? = some (.lingering reason)) (a : Answers) :
    ∃ time, (w.run [.pass time, .meet (.move (.linger i) a)]).session.stage = .failed := by
  obtain ⟨j, hvigil⟩ := h.vigil hstage
  obtain ⟨q, hq, hv⟩ := hvigil.exists_task
  obtain rfl := hsound.watcher_unique hp rfl hq hv
  cases hvigil with
  | watching htask _ =>
    rw [hp] at htask
    cases htask
  | lingering _ c _ _ hseen hnow =>
    refine ⟨c + w.poll - w.now, ?_⟩
    have hsame := session_pass w (c + w.poll - w.now)
    refine stage_linger (by rw [hsame, hstage]) (by rw [hsame, hcalm]) (by rw [hsame, hp]) ?_
    cases hexit : w.session.exit with
    | some e => simp [mayMeet, hsame, hexit]
    | none =>
      have hmay : w.mayPass (c + w.poll - w.now) = true :=
        mayPass_of_lingering hsound hp hseen hexit (by omega)
      rw [Clocked.step, if_pos hmay]
      show (w.session.exit.isSome ||
        w.seenAt.any fun t => t + w.poll ≤ w.now + (c + w.poll - w.now)) = true
      have hover : c + w.poll ≤ w.now + (c + w.poll - w.now) := by omega
      simpa [hseen] using .inr hover

/-- **Left to itself, the watcher loses a session whose server has exited or whose channel has
ended.** -/
theorem Reckoned.exists_loss (h : Reckoned s₀ w) (hw : OnCourse s₀ w)
    (hstage : w.session.stage = .active) (hcalm : w.session.cancelled = false)
    (hknown : w.exitAt.isSome = true ∨ w.endAt.isSome = true) :
    ∃ more, (∀ ev ∈ more, Event.isWatchers ev = true) ∧ (w.run more).session.stage = .failed := by
  obtain ⟨i, hvigil⟩ := h.vigil hstage
  cases hvigil with
  | lingering reason _ hp _ _ _ =>
    obtain ⟨time, hlost⟩ := h.exists_loss_of_lingering hw.sound hstage hcalm hp agreeing
    exact ⟨_, by simp [Event.isWatchers], hlost⟩
  | watching hp _ =>
    rw [h.exit, h.ended] at hknown
    cases hexit : w.session.exit with
    | some e =>
      exact ⟨[.meet (.move (.seeExit i) agreeing)], by simp [Event.isWatchers],
        stage_seeExit hstage hcalm hp hexit agreeing⟩
    | none =>
      rw [hexit] at hknown
      obtain ⟨reason, hended⟩ := Option.isSome_iff_exists.1 (hknown.resolve_left (by simp))
      -- the watcher sees the end of the channel first, and then waits
      have hs : (w.step (.meet (.move (.seeEnd i) agreeing))).session =
          w.session.goTo i (.lingering reason) := by
        rw [step_meet rfl]
        show w.session.step agreeing (.seeEnd i) = _
        rw [Session.step, hp, hended]
      have hsound' : Sound (s₀.elsewhere w.met) (w.session.goTo i (.lingering reason)) := by
        rw [← hs, step_meet rfl]
        exact hw.sound.step agreeing (.seeEnd i)
      have h' : Reckoned s₀ (w.step (.meet (.move (.seeEnd i) agreeing))) :=
        h.step hw (by rw [hs]; exact hcalm)
      obtain ⟨time, hlost⟩ := h'.exists_loss_of_lingering (by rw [hs]; exact hsound')
        (by rw [hs]; exact hstage) (by rw [hs]; exact hcalm)
        (by rw [hs]; exact goTo_self (lt_length_of_getElem? hp)) agreeing
      exact ⟨[.meet (.move (.seeEnd i) agreeing), .pass time, .meet (.move (.linger i) agreeing)],
        by simp [Event.isWatchers], hlost⟩

/-- What the times at which the server exits, the channel ends and the session becomes live say of
the session that a run leads to. -/
structure Attributed (s₀ : Session) (events : List Event) (w : Clocked) : Prop where
  exit : w.exitAt.isSome = w.session.exit.isSome
  ended : w.endAt.isSome = w.session.ended.isSome
  live : w.session.stage = .active → w.liveAt.isSome = true
  outcome : w.liveAt.isSome = true → w.session.stage = .active ∨ w.session.stage = .failed
  /-- After an exit the session is lost at once, and after the end of its channel before more than
  the poll interval has passed. -/
  failsOnExit : ∀ e l, w.exitAt = some e → w.liveAt = some l → max e l < w.now →
    w.session.stage = .failed
  failsOnEnd : ∀ c, w.endAt = some c → c + (start s₀).poll < w.now → w.session.stage = .failed
  /-- Nothing else is needed for that. -/
  loss : w.session.stage = .active → w.exitAt.isSome = true ∨ w.endAt.isSome = true →
    ∃ more, (∀ ev ∈ more, Event.isWatchers ev = true) ∧ (w.run more).session.stage = .failed
  exited : w.session.stage = .failed → w.liveAt.isSome = true → ∀ e, w.exitAt = some e →
    (∀ c, w.endAt = some c → e < c + (start s₀).poll) → FailedAs w.session .processExited
  lost : w.session.stage = .failed → w.liveAt.isSome = true → ∀ c, w.endAt = some c →
    (∀ e, w.exitAt = some e → c + (start s₀).poll < e) → FailedAs w.session .transportError
  /-- An exit that is known while the session is live is what it is lost to, whatever else is known
  by then and whichever the watcher sees first. -/
  known : ∀ pre post, events = pre ++ post → ((start s₀).run pre).session.stage = .active →
    ((start s₀).run pre).session.exit.isSome = true →
    w.session.stage = .active ∨ FailedAs w.session .processExited

/-- **What a live session is lost to depends on when its server exits and its channel ends**, not on
the order in which the watcher sees them. -/
theorem loss_attributed (hc : Course s₀ ((start s₀).run events).met)
    (hcalm : ((start s₀).run events).session.cancelled = false) :
    Attributed s₀ events ((start s₀).run events) := by
  have h := reckoned_run hc hcalm
  constructor
  case exit => exact h.exit
  case ended => exact h.ended
  case live => exact h.live
  case outcome => exact h.outcome
  case failsOnExit => exact fun e l he hl hlate => h.failed_of_exit he hl hlate
  case failsOnEnd => exact fun c hend hlate => h.failed_of_end hend (h.poll_eq ▸ hlate)
  case loss => exact fun hstage hknown => h.exists_loss (onCourse_run hc) hstage hcalm hknown
  case exited =>
    intro hfailed hlive e he hend
    rw [← h.poll_eq] at hend
    exact h.failedAs_processExited hfailed hlive he hend
  case lost =>
    intro hfailed hlive c hend hexit
    rw [← h.poll_eq] at hexit
    exact h.failedAs_transportError hfailed hlive hend hexit
  case known =>
    rintro pre post rfl hstage hexit
    have hdoomed := doomed_run hc hcalm (.inl ⟨hstage, hexit⟩)
    exact hdoomed.imp_left And.left

/-- The channel of a live session ends, and the watcher waits. The server exits a moment before the
wait is over. -/
def straggling : List Event :=
  [.meet (.move .start agreeing), .meet (.move (.grant 0) agreeing), .pass 5000,
    .meet (.move (.checked 0 true) agreeing), .meet (.others [5007] ⟨[5007]⟩ []),
    .meet (.move (.listed 0 true) agreeing), .meet (.move (.bound 0 true) agreeing),
    .meet (.move (.connected 0 (.ok ())) agreeing), .pass 2000,
    .meet (.move (.ends .closed) agreeing), .meet (.move (.seeEnd 1) agreeing), .pass 99999999,
    .meet (.move (.linger 1) agreeing), .meet (.move (.exits ⟨some 1, none⟩) agreeing),
    .meet (.move (.linger 1) agreeing), .pass 1]

theorem loss_attributed_straggling : Course {} ((start {}).run straggling).met ∧
    ((start {}).run straggling).session.cancelled = false ∧
    ((start {}).run straggling).liveAt = some 5000 ∧
    ((start {}).run straggling).endAt = some 7000 ∧
    ((start {}).run straggling).exitAt = some 100006999 ∧
    Attributed {} straggling ((start {}).run straggling) ∧
    FailedAs ((start {}).run straggling).session .processExited := by
  have hc : Course {} ((start {}).run straggling).met := ⟨rfl, .refl _, trivial⟩
  have hcalm : ((start {}).run straggling).session.cancelled = false := rfl
  have hend : ((start {}).run straggling).endAt = some 7000 := rfl
  have hexit : ((start {}).run straggling).exitAt = some 100006999 := rfl
  have h := loss_attributed hc hcalm
  refine ⟨hc, hcalm, rfl, hend, hexit, h, h.exited rfl rfl _ hexit fun c hc => ?_⟩
  obtain rfl : 7000 = c := Option.some.inj (hend.symm.trans hc)
  decide

end Sidecar.Clocked
