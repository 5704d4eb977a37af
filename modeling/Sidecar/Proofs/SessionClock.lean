/-
# A session on a clock

A live session is lost when its server exits or when its channel ends. The
watcher may see the end of the channel first even though the server has exited,
or is about to: then it waits for an exit, but for no longer than the poll
interval. Here a session lives on a clock, and the watcher is prompt: time does
not pass while there is something for it to see, nor beyond the end of its
wait. Everything else may take any time and come in any order.

As long as the session is live, the clock says what the watcher can have seen
(`Vigil`); once it is lost, the times of the exit and of the end of the channel
fit the kind of the failure (`Verdict`). Both are kept by whatever happens on
the clock, unless somebody disposes of the session.

Key definitions: `Clocked`, `Clocked.step`, `Clocked.Reckoned`.
Key theorems: `Clocked.Reckoned.step`, `Clocked.reckoned_run`.
-/
import Sidecar.Proofs.Signals
import Sidecar.Proofs.Usability

namespace Sidecar

open Session

/-- A session on a clock that counts nanoseconds. -/
structure Clocked where
  session : Session
  now : Nat := 0
  /-- What the session has met. -/
  met : List Happening := []
  /-- When the session became live. -/
  liveAt : Option Nat := none
  /-- When the server exited. -/
  exitAt : Option Nat := none
  /-- When the channel ended. -/
  endAt : Option Nat := none
  /-- When the watcher saw the channel end. -/
  seenAt : Option Nat := none

namespace Clocked

/-- What can happen on the clock. -/
inductive Event where
  | meet (h : Happening)
  | pass (time : Nat)

/-- How long the watcher waits for an exit. -/
def poll (w : Clocked) : Nat := w.session.settings.transport.pollInterval.nanos

/-- Whether the watcher has seen the channel end and waits. -/
def isLingering (s : Session) : Bool := s.tasks.any fun
  | .lingering _ => true
  | _ => false

/-- The wait of the watcher is over with an exit, or at its end. -/
def mayMeet (w : Clocked) : Happening → Bool
  | .move (.linger _) _ => w.session.exit.isSome || w.seenAt.any fun t => t + w.poll ≤ w.now
  | _ => true

/-- Time passes only while there is nothing for the watcher to see, and not beyond the end of its
wait. -/
def mayPass (w : Clocked) (time : Nat) : Bool := w.session.tasks.all fun
  | .watching => w.session.exit.isNone && w.session.ended.isNone
  | .lingering _ => w.session.exit.isNone && w.seenAt.all fun t => w.now + time ≤ t + w.poll
  | _ => true

/-- Notes the time of what has just come about. -/
def mark (before after : Bool) (now : Nat) (time : Option Nat) : Option Nat :=
  if !before && after then some now else time

/-- What an event does. One that may not come yet does nothing. -/
def step (w : Clocked) : Event → Clocked
  | .pass time => if w.mayPass time then { w with now := w.now + time } else w
  | .meet h =>
    if w.mayMeet h then
      let s := w.session.meet h
      { session := s
        now := w.now
        met := w.met ++ [h]
        liveAt := mark (w.session.stage == .active) (s.stage == .active) w.now w.liveAt
        exitAt := mark w.session.exit.isSome s.exit.isSome w.now w.exitAt
        endAt := mark w.session.ended.isSome s.ended.isSome w.now w.endAt
        seenAt := mark (isLingering w.session) (isLingering s) w.now w.seenAt }
    else w

def run (w : Clocked) (events : List Event) : Clocked := events.foldl step w

variable {w : Clocked} {s s₀ : Session} {i : Nat} {p : Point} {held : List Nat} {ev : Event}
  {events : List Event}

@[simp] theorem mark_same (b : Bool) (now : Nat) (time : Option Nat) :
    mark b b now time = time := by
  cases b <;> rfl

@[simp] theorem mark_true (b : Bool) (now : Nat) (time : Option Nat) :
    mark true b now time = time := rfl

@[simp] theorem mark_new (now : Nat) (time : Option Nat) : mark false true now time = some now :=
  rfl

theorem run_concat (w : Clocked) (events : List Event) (ev : Event) :
    w.run (events ++ [ev]) = (w.run events).step ev := by
  simp [run]

/-- What has happened on the clock is a course of the session. -/
structure OnCourse (s₀ : Session) (w : Clocked) : Prop where
  course : Course s₀ w.met
  session : w.session = s₀.after w.met

theorem OnCourse.sound (h : OnCourse s₀ w) : Sound (s₀.elsewhere w.met) w.session := by
  rw [h.session]
  exact h.course.sound

theorem OnCourse.chronicle (h : OnCourse s₀ w) : Chronicle w.session (s₀.told w.met) := by
  rw [h.session]
  exact h.course.chronicle

/-- A session that nobody has disposed of was not disposed of before. -/
theorem OnCourse.calm (h : OnCourse s₀ w) (hcalm : (w.step ev).session.cancelled = false) :
    w.session.cancelled = false := by
  cases ev with
  | pass time =>
    rw [step] at hcalm
    split at hcalm <;> exact hcalm
  | meet hap =>
    rw [step] at hcalm
    split at hcalm
    · cases hap with
      | move m a => exact (h.sound.cancelled_step hcalm).1
      | others held registry entries => exact hcalm
    · exact hcalm

/-- A session on a clock that has just been created. -/
def start (s₀ : Session) : Clocked := { session := s₀ }

theorem session_run (s₀ : Session) (events : List Event) :
    ((start s₀).run events).session = s₀.after ((start s₀).run events).met := by
  induction events using List.reverseRecOn with
  | nil => rfl
  | append_singleton pre ev ih =>
    rw [run_concat]
    cases ev with
    | pass time =>
      rw [step]
      split <;> exact ih
    | meet h =>
      rw [step]
      split
      · rw [after_concat, ← ih]
      · exact ih

theorem onCourse_run (hc : Course s₀ ((start s₀).run events).met) :
    OnCourse s₀ ((start s₀).run events) :=
  ⟨hc, session_run s₀ events⟩

theorem course_of_step (hc : Course s₀ (w.step ev).met) : Course s₀ w.met := by
  cases ev with
  | pass time =>
    rw [step] at hc
    split at hc <;> exact hc
  | meet h =>
    rw [step] at hc
    split at hc
    · exact hc.front
    · exact hc

/-! ### What is known at a time -/

/-- Where the watcher `i` of a live session is. -/
inductive Vigil (w : Clocked) (i : Nat) : Prop where
  /-- It has seen nothing yet, so that the channel has ended just now if at all. -/
  | watching (htask : w.session.tasks[i]? = some .watching) (hend : ∀ c, w.endAt = some c → c = w.now)
  /-- It has seen the channel end, at once, and waits. -/
  | lingering (reason : ChannelEnd) (c : Nat)
      (htask : w.session.tasks[i]? = some (.lingering reason)) (hend : w.endAt = some c)
      (hseen : w.seenAt = some c) (hnow : w.now ≤ c + w.poll)

/-- What a session that was lost has failed with. -/
inductive Verdict (w : Clocked) : Prop where
  /-- The server exited before the watcher's wait was over, if there was one. -/
  | exited (f : Failure) (e : Nat) (hf : w.session.failure = some f) (hk : f.kind = .processExited)
      (hexit : w.exitAt = some e) (hend : ∀ c, w.endAt = some c → e ≤ c + w.poll)
  /-- The server has not exited before that. -/
  | lost (f : Failure) (c : Nat) (hf : w.session.failure = some f) (hk : f.kind = .transportError)
      (hend : w.endAt = some c) (hnow : c + w.poll ≤ w.now)
      (hexit : ∀ e, w.exitAt = some e → c + w.poll ≤ e)

/-- What holds of a session on a clock that nobody has disposed of. -/
structure Reckoned (s₀ : Session) (w : Clocked) : Prop where
  settings : w.session.settings = s₀.settings
  exit : w.exitAt.isSome = w.session.exit.isSome
  ended : w.endAt.isSome = w.session.ended.isSome
  exitPast : ∀ e, w.exitAt = some e → e ≤ w.now
  live : w.session.stage = .active → w.liveAt.isSome = true
  outcome : w.liveAt.isSome = true → w.session.stage = .active ∨ w.session.stage = .failed
  /-- There is no channel before the session is live. -/
  channel : w.session.resources.client = true → w.liveAt.isSome = true
  endLate : w.endAt.isSome = true → w.liveAt.isSome = true
  /-- An exit is seen at once. -/
  prompt : w.session.stage = .active → ∀ e l, w.exitAt = some e → w.liveAt = some l →
    w.now ≤ max e l
  vigil : w.session.stage = .active → ∃ i, Vigil w i
  verdict : w.session.stage = .failed → w.liveAt.isSome = true → Verdict w

theorem Reckoned.exitAt_eq_none (h : Reckoned s₀ w) (hnone : w.session.exit = none) :
    w.exitAt = none := by
  rw [← Option.isNone_iff_eq_none, ← Option.not_isSome, h.exit, hnone]
  rfl

theorem Reckoned.endAt_eq_none (h : Reckoned s₀ w) (hnone : w.session.ended = none) :
    w.endAt = none := by
  rw [← Option.isNone_iff_eq_none, ← Option.not_isSome, h.ended, hnone]
  rfl

theorem Reckoned.exists_exitAt (h : Reckoned s₀ w) {e : Exit} (he : w.session.exit = some e) :
    ∃ t, w.exitAt = some t := by
  rw [← Option.isSome_iff_exists, h.exit, he]
  rfl

theorem Reckoned.exists_endAt (h : Reckoned s₀ w) {reason : ChannelEnd}
    (hended : w.session.ended = some reason) : ∃ c, w.endAt = some c := by
  rw [← Option.isSome_iff_exists, h.ended, hended]
  rfl

theorem reckoned_start (h : Fresh s₀) : Reckoned s₀ (start s₀) := by
  have hstage : s₀.stage = .uninstalled := by rw [h]
  have hexit : s₀.exit = none := by rw [h]
  have hended : s₀.ended = none := by rw [h]
  have hclient : s₀.resources.client = false := by rw [h]
  constructor <;> simp [start, hstage, hexit, hended, hclient]

theorem Vigil.exists_task (h : Vigil w i) :
    ∃ p, w.session.tasks[i]? = some p ∧ p.isVigilant = true := by
  cases h with
  | watching htask _ => exact ⟨_, htask, rfl⟩
  | lingering reason _ htask _ _ _ => exact ⟨_, htask, rfl⟩

theorem Vigil.endAt_eq (h : Vigil w i) (hp : w.session.tasks[i]? = some .watching) {c : Nat}
    (hc : w.endAt = some c) : c = w.now := by
  cases h with
  | watching _ hend => exact hend c hc
  | lingering reason _ htask _ _ _ =>
    rw [hp] at htask
    cases htask

/-- While an exit is known and not yet seen, time stands still. -/
theorem Vigil.exit_eq_none (h : Vigil w i) {time : Nat} (hmay : w.mayPass time = true) :
    w.session.exit = none := by
  rw [mayPass, List.all_eq_true] at hmay
  cases h with
  | watching htask _ =>
    have := hmay _ (List.mem_of_getElem? htask)
    simp_all
  | lingering reason _ htask _ _ _ =>
    have := hmay _ (List.mem_of_getElem? htask)
    simp_all

theorem Vigil.pass (h : Vigil w i) {time : Nat} (hended : w.endAt.isSome = w.session.ended.isSome)
    (hmay : w.mayPass time = true) : Vigil { w with now := w.now + time } i := by
  rw [mayPass, List.all_eq_true] at hmay
  cases h with
  | watching htask _ =>
    have hnone := hmay _ (List.mem_of_getElem? htask)
    refine .watching htask fun c hc => ?_
    simp_all
  | lingering reason c htask hend hseen _ =>
    have hbound := hmay _ (List.mem_of_getElem? htask)
    simp only [hseen, Option.all_some, Bool.and_eq_true, decide_eq_true_eq] at hbound
    exact .lingering reason c htask hend hseen hbound.2

theorem Reckoned.pass (h : Reckoned s₀ w) {time : Nat} (hmay : w.mayPass time = true) :
    Reckoned s₀ { w with now := w.now + time } where
  settings := h.settings
  exit := h.exit
  ended := h.ended
  exitPast e he := Nat.le_trans (h.exitPast e he) (Nat.le_add_right _ _)
  live := h.live
  outcome := h.outcome
  channel := h.channel
  endLate := h.endLate
  prompt hstage e l he hl := by
    obtain ⟨i, hvigil⟩ := h.vigil hstage
    rw [h.exitAt_eq_none (hvigil.exit_eq_none hmay)] at he
    cases he
  vigil hstage := by
    obtain ⟨i, hvigil⟩ := h.vigil hstage
    exact ⟨i, hvigil.pass h.ended hmay⟩
  verdict hstage hlive := by
    cases h.verdict hstage hlive with
    | exited f e hf hk hexit hend => exact .exited f e hf hk hexit hend
    | lost f c hf hk hend hnow hexit =>
      exact .lost f c hf hk hend (Nat.le_trans hnow (Nat.le_add_right _ _)) hexit

/-! ### News from outside -/

theorem Reckoned.exits (h : Reckoned s₀ w) {e : Exit} {met : List Happening}
    (hnone : w.session.exit = none) :
    Reckoned s₀ { w with session := { w.session with exit := some e }, met, exitAt := some w.now } where
  settings := h.settings
  exit := rfl
  ended := h.ended
  exitPast t ht := Nat.le_of_eq (Option.some.inj ht).symm
  live := h.live
  outcome := h.outcome
  channel := h.channel
  endLate := h.endLate
  prompt _ t l ht _ := by
    rw [← Option.some.inj ht]
    exact Nat.le_max_left _ _
  vigil hstage := by
    obtain ⟨i, hvigil⟩ := h.vigil hstage
    refine ⟨i, ?_⟩
    cases hvigil with
    | watching htask hend => exact .watching htask hend
    | lingering reason c htask hend hseen hnow => exact .lingering reason c htask hend hseen hnow
  verdict hstage hlive := by
    cases h.verdict hstage hlive with
    | exited f t hf hk hexit _ =>
      rw [h.exitAt_eq_none hnone] at hexit
      cases hexit
    | lost f c hf hk hend hnow _ =>
      refine .lost f c hf hk hend hnow fun t ht => ?_
      rw [← Option.some.inj ht]
      exact hnow

theorem Reckoned.ends (h : Reckoned s₀ w) {reason : ChannelEnd} {met : List Happening}
    (hnone : w.session.ended = none) (hchannel : w.session.resources.client = true) :
    Reckoned s₀
      { w with session := { w.session with ended := some reason }, met, endAt := some w.now } where
  settings := h.settings
  exit := h.exit
  ended := rfl
  exitPast := h.exitPast
  live := h.live
  outcome := h.outcome
  channel := h.channel
  endLate _ := h.channel hchannel
  prompt := h.prompt
  vigil hstage := by
    obtain ⟨i, hvigil⟩ := h.vigil hstage
    refine ⟨i, ?_⟩
    cases hvigil with
    | watching htask _ => exact .watching htask fun c hc => (Option.some.inj hc).symm
    | lingering reason c _ hend _ _ =>
      rw [h.endAt_eq_none hnone] at hend
      cases hend
  verdict hstage hlive := by
    cases h.verdict hstage hlive with
    | exited f e hf hk hexit _ =>
      refine .exited f e hf hk hexit fun c hc => ?_
      rw [← Option.some.inj hc]
      exact Nat.le_trans (h.exitPast e hexit) (Nat.le_add_right _ _)
    | lost f c _ _ hend _ _ =>
      rw [h.endAt_eq_none hnone] at hend
      cases hend

/-! ### Moves of the session -/

theorem step_meet {h : Happening} (hmay : w.mayMeet h = true) : w.step (.meet h) =
    { session := w.session.meet h
      now := w.now
      met := w.met ++ [h]
      liveAt := mark (w.session.stage == .active) ((w.session.meet h).stage == .active) w.now w.liveAt
      exitAt := mark w.session.exit.isSome (w.session.meet h).exit.isSome w.now w.exitAt
      endAt := mark w.session.ended.isSome (w.session.meet h).ended.isSome w.now w.endAt
      seenAt := mark (isLingering w.session) (isLingering (w.session.meet h)) w.now w.seenAt } :=
  if_pos hmay

theorem step_others (w : Clocked) (held : List Nat) (registry : Registry) (entries : List Entry) :
    w.step (.meet (.others held registry entries)) =
      { w with
        session := w.session.meet (.others held registry entries)
        met := w.met ++ [.others held registry entries] } := by
  have hsame : isLingering (w.session.meet (.others held registry entries)) =
      isLingering w.session := rfl
  rw [step_meet rfl, hsame]
  simp only [meet, mark_same]

/-- A session is lingering if its watcher is. -/
theorem isLingering_eq (h : Sound held s) (hp : s.tasks[i]? = some p) (hv : p.isVigilant = true) :
    isLingering s = decide (p ≠ .watching) := by
  have hiff : isLingering s = true ↔ p ≠ .watching := by
    unfold isLingering
    rw [List.any_eq_true]
    constructor
    · rintro ⟨q, hq, hlingers⟩ rfl
      obtain ⟨j, hj⟩ := List.mem_iff_getElem?.1 hq
      have hvq : q.isVigilant = true := by cases q <;> first | rfl | cases hlingers
      obtain rfl := h.watcher_unique hp hv hj hvq
      rw [hp] at hj
      cases hj
      cases hlingers
    · intro hne
      refine ⟨p, List.mem_of_getElem? hp, ?_⟩
      cases p <;> first | rfl | exact absurd rfl hne | cases hv
  rw [Bool.eq_iff_iff, hiff, decide_eq_true_iff]

section Moves

variable {met : List Happening} {seenAt : Option Nat}

theorem Verdict.kept (h : Verdict w) (hsettings : s.settings = w.session.settings)
    (hfailure : ∀ f, w.session.failure = some f → s.failure = some f) :
    Verdict { w with session := s, met, seenAt } := by
  have hpoll : poll { w with session := s, met, seenAt } = w.poll := by rw [poll, poll, hsettings]
  cases h with
  | exited f e hf hk hexit hend => exact .exited f e (hfailure f hf) hk hexit (hpoll ▸ hend)
  | lost f c hf hk hend hnow hexit =>
    exact .lost f c (hfailure f hf) hk hend (hpoll ▸ hnow) (hpoll ▸ hexit)

/-- Nothing that concerns the watcher has changed. -/
theorem Reckoned.congr (h : Reckoned s₀ w)
    (hsettings : s.settings = w.session.settings) (hstage : s.stage = w.session.stage)
    (hexit : s.exit = w.session.exit) (hended : s.ended = w.session.ended)
    (hclient : s.resources.client = true → w.session.resources.client = true)
    (hfailure : s.stage = .failed → s.failure = w.session.failure)
    (htasks : ∀ (i : Nat) (p : Point), w.session.tasks[i]? = some p → p.isVigilant = true →
      s.tasks[i]? = some p) :
    Reckoned s₀ { w with session := s, met } := by
  have hpoll : poll { w with session := s, met } = w.poll := by rw [poll, poll, hsettings]
  constructor
  case settings => exact hsettings.trans h.settings
  case exit => rw [h.exit, hexit]
  case ended => rw [h.ended, hended]
  case exitPast => exact h.exitPast
  case live => exact fun hs => h.live (hstage.symm.trans hs)
  case outcome =>
    intro hlive
    rw [hstage]
    exact h.outcome hlive
  case channel => exact fun hs => h.channel (hclient hs)
  case endLate => exact h.endLate
  case prompt => exact fun hs => h.prompt (hstage.symm.trans hs)
  case vigil =>
    intro hs
    obtain ⟨i, hvigil⟩ := h.vigil (hstage.symm.trans hs)
    refine ⟨i, ?_⟩
    cases hvigil with
    | watching htask hend => exact .watching (htasks i _ htask rfl) hend
    | lingering reason c htask hend hseen hnow =>
      exact .lingering reason c (htasks i _ htask rfl) hend hseen (hpoll ▸ hnow)
  case verdict =>
    intro hs hlive
    have hverdict := h.verdict (hstage.symm.trans hs) hlive
    exact hverdict.kept hsettings fun f hf => (hfailure hs).trans hf

/-- The watcher sees the channel end at once. -/
theorem Reckoned.sees (h : Reckoned s₀ w) {reason : ChannelEnd} {c : Nat}
    (hstage : w.session.stage = .active) (hi : i < w.session.tasks.length)
    (hend : w.endAt = some c) (hnow : w.now = c) :
    Reckoned s₀
      { w with session := w.session.goTo i (.lingering reason), met, seenAt := some w.now } where
  settings := h.settings
  exit := h.exit
  ended := h.ended
  exitPast := h.exitPast
  live := h.live
  outcome := h.outcome
  channel := h.channel
  endLate := h.endLate
  prompt := h.prompt
  vigil _ := by
    refine ⟨i, .lingering reason c (goTo_self hi) hend (congrArg some hnow) ?_⟩
    show w.now ≤ c + _
    omega
  verdict hs := by
    have hactive : w.session.stage = .failed := hs
    rw [hstage] at hactive
    cases hactive

/-- The session is not live afterwards, and if it has been so, it was lost. -/
theorem Reckoned.notLive (h : Reckoned s₀ w) (hkeeps : Keeps w.session s)
    (hnot : s.stage ≠ .active) (hlost : w.liveAt.isSome = true →
      s.stage = .failed ∧ Verdict { w with session := s, met, seenAt }) :
    Reckoned s₀ { w with session := s, met, seenAt } := by
  constructor
  case settings => exact hkeeps.settings.trans h.settings
  case exit => rw [h.exit, hkeeps.exit]
  case ended => rw [h.ended, hkeeps.ended]
  case exitPast => exact h.exitPast
  case live => exact fun hs => absurd hs hnot
  case outcome => exact fun hlive => .inr (hlost hlive).1
  case channel => exact fun hs => h.channel (hkeeps.channel hs)
  case endLate => exact h.endLate
  case prompt => exact fun hs => absurd hs hnot
  case vigil => exact fun hs => absurd hs hnot
  case verdict => exact fun _ hlive => (hlost hlive).2

/-- The session becomes live, and nothing was known of a channel before. -/
theorem Reckoned.enlivened (h : Reckoned s₀ w) (hs : Enlivened w.session s)
    (hnew : w.liveAt = none) :
    Reckoned s₀ { w with session := s, met, liveAt := some w.now, seenAt } := by
  have hnotFailed : s.stage ≠ .failed := by simp [hs.stage]
  have hnone : w.endAt = none := by
    cases hend : w.endAt with
    | none => rfl
    | some c =>
      have hlive := h.endLate (by rw [hend]; rfl)
      rw [hnew] at hlive
      cases hlive
  constructor
  case settings => exact hs.settings.trans h.settings
  case exit => rw [h.exit, hs.exit]
  case ended => rw [h.ended, hs.ended]
  case exitPast => exact h.exitPast
  case live => exact fun _ => rfl
  case outcome => exact fun _ => .inl hs.stage
  case channel => exact fun _ => rfl
  case endLate => exact fun _ => rfl
  case prompt =>
    intro _ e l _ hl
    rw [← Option.some.inj hl]
    exact Nat.le_max_right _ _
  case vigil =>
    refine fun _ => ⟨w.session.tasks.length, .watching hs.watching fun c hc => ?_⟩
    rw [show w.endAt = some c from hc] at hnone
    cases hnone
  case verdict => exact fun hf => absurd hf hnotFailed

/-- The watcher's wait is over. -/
theorem Reckoned.verdict_of_wait (h : Reckoned s₀ w) (hvigil : Vigil w i) {reason : ChannelEnd}
    {a : Answers} (hp : w.session.tasks[i]? = some (.lingering reason))
    (hmay : w.mayMeet (.move (.linger i) a) = true) (hsettings : s.settings = w.session.settings)
    (hfailure : s.failure = some (.ofChannelLoss reason w.session.exit)) :
    Verdict { w with session := s, met, seenAt } := by
  have hpoll : poll { w with session := s, met, seenAt } = w.poll := by rw [poll, poll, hsettings]
  cases hvigil with
  | watching htask _ =>
    rw [hp] at htask
    cases htask
  | lingering _ c _ hend hseen hnow =>
    cases hexit : w.session.exit with
    | some e =>
      obtain ⟨t, ht⟩ := h.exists_exitAt hexit
      have hpast := h.exitPast t ht
      refine .exited _ t hfailure (by rw [hexit]; rfl) ht fun c' hc' => ?_
      obtain rfl : c = c' := Option.some.inj (hend.symm.trans hc')
      rw [hpoll]
      omega
    | none =>
      have hover : c + w.poll ≤ w.now := by simpa [mayMeet, hexit, hseen] using hmay
      have hnone := h.exitAt_eq_none hexit
      refine .lost _ c hfailure (by rw [hexit]; rfl) hend (hpoll ▸ hover) fun t ht => ?_
      rw [show w.exitAt = some t from ht] at hnone
      cases hnone

/-- The session learns of an exit or of the end of the channel, or knows already. -/
theorem Reckoned.news (h : Reckoned s₀ w) {m : Move} {a : Answers} (hm : m ≠ .dispose)
    (hnews : m.isSignal = true) : Reckoned s₀ (w.step (.meet (.move m a))) := by
  have hidle (met : List Happening) : Reckoned s₀ { w with session := w.session, met } :=
    h.congr rfl rfl rfl rfl id (fun _ => rfl) fun _ _ hp _ => hp
  cases m with
  | dispose => exact absurd rfl hm
  | exits e =>
    rw [step_meet rfl, meet, Session.step]
    split
    · next hnew =>
      rw [Bool.and_eq_true, Option.isNone_iff_eq_none] at hnew
      have hsame : isLingering { w.session with exit := some e } = isLingering w.session := rfl
      simp only [hnew.1, hsame, mark_same, Option.isSome_none, Option.isSome_some, mark_new]
      exact h.exits hnew.1
    · simp only [mark_same]
      exact hidle _
  | ends reason =>
    rw [step_meet rfl, meet, Session.step]
    split
    · next hnew =>
      rw [Bool.and_eq_true, Option.isNone_iff_eq_none] at hnew
      have hsame : isLingering { w.session with ended := some reason } = isLingering w.session := rfl
      simp only [hnew.1, hsame, mark_same, Option.isSome_none, Option.isSome_some, mark_new]
      exact h.ends hnew.1 hnew.2
    · simp only [mark_same]
      exact hidle _
  | _ => cases hnews

/-- A task of a live session moves. -/
theorem Reckoned.move_live (h : Reckoned s₀ w) (hsound : Sound held w.session)
    (hstage : w.session.stage = .active) (hcalm : w.session.cancelled = false) {m : Move}
    {a : Answers} (hnews : m.isSignal = false) (hmay : w.mayMeet (.move m a) = true) :
    Reckoned s₀ (w.step (.meet (.move m a))) := by
  have hm : m ≠ .dispose := by
    rintro rfl
    cases hnews
  obtain ⟨i, hvigil⟩ := h.vigil hstage
  obtain ⟨p, hp, hv⟩ := hvigil.exists_task
  have hsound' : Sound held (w.session.step a m) := hsound.step a m
  have hlinger := isLingering_eq hsound hp hv
  have hwas : (w.session.stage == .active) = true := by simp [hstage]
  rw [step_meet hmay]
  simp only [meet, hwas, mark_true]
  have hkeeps (hnot : (w.session.step a m).stage ≠ .active) :
      Keeps w.session (w.session.step a m) :=
    (hsound.keeps_step a hnews).resolve_right fun hlive => hnot hlive.stage
  cases hsound.stirs_step hstage hcalm hp hv a hm with
  | idle hstage' hexit hended htask =>
    rw [hexit, hended, hlinger, isLingering_eq hsound' htask hv, mark_same, mark_same, mark_same]
    refine h.congr (hsound.settings_step a m) (hstage'.trans hstage.symm) hexit hended ?_ ?_ ?_
    · obtain ⟨pid, e, j, hres, -, -⟩ := hsound.live hstage
      rw [hres]
      exact fun _ => rfl
    · intro hf
      rw [hstage'] at hf
      cases hf
    · intro j q hq hvq
      obtain rfl := hsound.watcher_unique hp hv hq hvq
      rw [hp] at hq
      cases hq
      exact htask
  | exited _ hmove _ _ | ended _ hmove _ _ =>
    subst hmove
    cases hnews
  | sawExit e hmove hpoint he hfailed hfailure =>
    subst hmove
    have hnot : (w.session.step a (.seeExit i)).stage ≠ .active := by simp [hfailed]
    have hkept := hkeeps hnot
    rw [hkept.exit, hkept.ended, mark_same, mark_same]
    refine h.notLive hkept hnot fun _ => ⟨hfailed, ?_⟩
    obtain ⟨t, ht⟩ := h.exists_exitAt he
    refine .exited _ t hfailure rfl ht fun c hc => ?_
    have hpast := h.exitPast t ht
    have hc' := hvigil.endAt_eq (hpoint ▸ hp) hc
    omega
  | sawEnd reason hmove hpoint he hs =>
    subst hpoint
    obtain ⟨c, hc⟩ := h.exists_endAt he
    have hi := lt_length_of_getElem? hp
    have htask : (w.session.step a m).tasks[i]? = some (.lingering reason) := by
      rw [hs]
      exact goTo_self hi
    rw [hlinger, isLingering_eq hsound' htask rfl, hs]
    have hkept := keeps_goTo w.session i (.lingering reason)
    rw [hkept.exit, hkept.ended, mark_same, mark_same]
    exact h.sees hstage hi hc (hvigil.endAt_eq hp hc).symm
  | lingered reason hmove hpoint hfailed hfailure =>
    subst hmove hpoint
    have hnot : (w.session.step a (.linger i)).stage ≠ .active := by simp [hfailed]
    have hkept := hkeeps hnot
    rw [hkept.exit, hkept.ended, mark_same, mark_same]
    refine h.notLive hkept hnot fun _ => ⟨hfailed, ?_⟩
    exact h.verdict_of_wait hvigil hp hmay hkept.settings hfailure

/-- A task of a session that is not live moves. -/
theorem Reckoned.move_apart (h : Reckoned s₀ w) (hw : OnCourse s₀ w)
    (hnot : w.session.stage ≠ .active) {m : Move} {a : Answers} (hnews : m.isSignal = false)
    (hmay : w.mayMeet (.move m a) = true) : Reckoned s₀ (w.step (.meet (.move m a))) := by
  have hwas : (w.session.stage == .active) = false := by simp [hnot]
  obtain ⟨task, heffect⟩ := exists_effect_step w.session a m
  have hfinal (hs : w.session.stage = .failed) : (w.session.step a m).stage = .failed :=
    (heffect.of_isTerminal (by rw [hs]; rfl)).1.trans hs
  rw [step_meet hmay]
  simp only [meet, hwas]
  rcases hw.sound.keeps_step a hnews with hkeeps | hlive
  · have hnot' : (w.session.step a m).stage ≠ .active := fun hs => hnot (hkeeps.live hs)
    have hstill : ((w.session.step a m).stage == .active) = false := by simp [hnot']
    rw [hkeeps.exit, hkeeps.ended, hstill, mark_same, mark_same, mark_same]
    refine h.notLive hkeeps hnot' fun hlive => ?_
    have hfailed := (h.outcome hlive).resolve_left hnot
    refine ⟨hfinal hfailed, (h.verdict hfailed hlive).kept hkeeps.settings fun f hf => ?_⟩
    exact hw.chronicle.failure_kept heffect hf
  · have hnow : ((w.session.step a m).stage == .active) = true := by simp [hlive.stage]
    rw [hlive.exit, hlive.ended, hnow, mark_same, mark_same, mark_new]
    refine h.enlivened hlive ?_
    -- a session that was live before would have failed since, for good
    cases hliveAt : w.liveAt with
    | none => rfl
    | some l =>
      have hfailed := (h.outcome (by rw [hliveAt]; rfl)).resolve_left hnot
      have hstage := hfinal hfailed
      rw [hlive.stage] at hstage
      cases hstage

end Moves

/-- **What a session on a clock does fits the times**, as long as nobody disposes of it. -/
theorem Reckoned.step (h : Reckoned s₀ w) (hw : OnCourse s₀ w)
    (hcalm : (w.step ev).session.cancelled = false) : Reckoned s₀ (w.step ev) := by
  cases ev with
  | pass time =>
    rw [Clocked.step]
    split
    · next hmay => exact h.pass hmay
    · exact h
  | meet hap =>
    by_cases hmay : w.mayMeet hap = true
    · cases hap with
      | others held registry entries =>
        rw [step_others]
        exact h.congr rfl rfl rfl rfl id (fun _ => rfl) fun _ _ hp _ => hp
      | move m a =>
        rw [step_meet hmay] at hcalm
        obtain ⟨hbefore, hm⟩ := hw.sound.cancelled_step hcalm
        cases hnews : m.isSignal with
        | true => exact h.news hm hnews
        | false =>
          by_cases hstage : w.session.stage = .active
          · exact h.move_live hw.sound hstage hbefore hnews hmay
          · exact h.move_apart hw hstage hnews hmay
    · rw [Clocked.step, if_neg hmay]
      exact h

theorem reckoned_run (hc : Course s₀ ((start s₀).run events).met)
    (hcalm : ((start s₀).run events).session.cancelled = false) :
    Reckoned s₀ ((start s₀).run events) := by
  induction events using List.reverseRecOn with
  | nil => exact reckoned_start hc.fresh
  | append_singleton pre ev ih =>
    rw [run_concat] at hc hcalm ⊢
    have hpre := onCourse_run (course_of_step hc)
    exact (ih hpre.course (hpre.calm hcalm)).step hpre hcalm

end Clocked

end Sidecar
