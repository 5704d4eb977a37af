/-
# Disposing of a session that is being started

A start sets something going (a package listing, the installer, the server,
a connection) and waits for it. If the session is disposed of meanwhile, the
start returns that it was cancelled, whatever comes of what it waits for; the
session begins nothing new, never becomes live and records no failure; and
when the dispose returns, the session has stopped and nothing is left of it.

The start and the dispose go on at the same time, and the dispose has to wait
until the start has let the resources go. What holds in the meantime, and is
kept by every move, is `Unwinding`. On a site, where what a start asks for is
done by a shell, nothing is done for it from the dispose on.

Key definitions: `Session.Wakes`, `Session.Unwinding`, `Session.Withdrawn`.
Key theorems: `Session.Unwinding.step`, `Session.dispose_cancels_start`.
-/
import Sidecar.Proofs.Gate
import Sidecar.Proofs.Lifecycle
import Sidecar.Proofs.Teardown

namespace Sidecar

theorem Stage.of_isStarting {a : Stage} (h : a.isStarting = true) :
    a.isTerminal = false ∧ a.isLate = false := by
  cases a <;> first | exact ⟨rfl, rfl⟩ | cases h

namespace Session

/-- A start waits for something that it has set going. -/
def Point.pends : Point → Bool
  | .checking | .ensuring | .listing | .binding | .connecting => true
  | _ => false

/-- The move ends the wait of a start: what it waits for is over, with whatever result, or it
notices that the session was disposed of. -/
inductive Wakes (i : Nat) : Point → Move → Prop where
  | checked (found : Bool) : Wakes i .checking (.checked i found)
  | ensured (ok : Bool) : Wakes i .ensuring (.ensured i ok)
  | listed (ok : Bool) : Wakes i .listing (.listed i ok)
  | bound (ready : Bool) : Wakes i .binding (.bound i ready)
  | connected (result : Except ConnectError Unit) : Wakes i .connecting (.connected i result)
  | cancel (p : Point) : Wakes i p (.cancel i)

variable {s s' t s₀ : Session} {hs pre post : List Happening} {held : List Nat} {i j : Nat}
  {p q : Point} {m : Move} {a : Answers}

/-- What holds of a session that was disposed of while it was as `t`, when a start waited at a
point. -/
structure Unwinding (t : Session) (i : Nat) (p : Point) (s : Session) : Prop where
  cancelled : s.cancelled = true
  stage : s.stage.isStarting = true ∨ s.stage = .stopping ∨ s.stage = .stopped
  unseen : .active ∉ s.history
  failure : s.failure = none
  process : s.resources.process = t.resources.process ∨ s.resources.process = none
  channel : s.resources.client = false
  watcher : s.resources.watcher = none
  point : s.tasks[i]? = some p ∨ s.tasks[i]? = some (.started (some .cancelled))
  /-- No start waits for anything else. -/
  alone : ∀ (j : Nat) (q : Point), s.tasks[j]? = some q → q.pends = true → j = i ∧ q = p

theorem Unwinding.congr (h : Unwinding t i p s) (tasks : s'.tasks = s.tasks)
    (cancelled : s'.cancelled = s.cancelled) (stage : s'.stage = s.stage)
    (history : s'.history = s.history) (failure : s'.failure = s.failure)
    (process : s'.resources.process = s.resources.process ∨ s'.resources.process = none)
    (channel : s'.resources.client = false) (watcher : s'.resources.watcher = none) :
    Unwinding t i p s' where
  cancelled := by rw [cancelled]; exact h.cancelled
  stage := by rw [stage]; exact h.stage
  unseen := by rw [history]; exact h.unseen
  failure := by rw [failure]; exact h.failure
  process := by
    rcases process with hsame | hnone
    · rw [hsame]; exact h.process
    · exact .inr hnone
  channel := channel
  watcher := watcher
  point := by rw [tasks]; exact h.point
  alone := by rw [tasks]; exact h.alone

theorem Unwinding.moveTo (h : Unwinding t i p s) {next : Stage}
    (hn : next = .stopping ∨ next = .stopped) : Unwinding t i p (s.moveTo next) := by
  unfold Session.moveTo
  split
  · refine ⟨h.cancelled, .inr hn, ?_, h.failure, h.process, h.channel, h.watcher, h.point, h.alone⟩
    have hne : Stage.active ≠ next := by rcases hn with rfl | rfl <;> decide
    simp [h.unseen, hne]
  · exact h

/-- A task goes where nothing is waited for. The start can only return that it was cancelled. -/
theorem Unwinding.put (h : Unwinding t i p s) (hj : j < s.tasks.length) (hq : q.pends = false)
    (hi : j = i → q = .started (some .cancelled)) {holder : Option Nat} :
    Unwinding t i p { s.goTo j q with holder } := by
  refine ⟨h.cancelled, h.stage, h.unseen, h.failure, h.process, h.channel, h.watcher, ?_, ?_⟩
  · by_cases hij : j = i
    · subst hij
      exact .inr ((goTo_self hj).trans (by rw [hi rfl]))
    · rcases h.point with hp | hp
      · exact .inl ((goTo_ne (Ne.symm hij)).trans hp)
      · exact .inr ((goTo_ne (Ne.symm hij)).trans hp)
  · intro k r hr hpend
    rcases goTo_cases hr with ⟨-, rfl⟩ | ⟨-, hr⟩
    · rw [hq] at hpend; cases hpend
    · exact h.alone k r hr hpend

/-- A task that neither waits as the start does nor has ended is another one. -/
theorem Unwinding.ne (h : Unwinding t i p s) (hp : p.pends = true) (hj : s.tasks[j]? = some q)
    (hq : q.pends = false) (he : q.hasEnded = false) : j ≠ i := by
  rintro rfl
  rcases h.point with hpoint | hpoint
  · rw [hj] at hpoint
    cases hpoint
    rw [hp] at hq; cases hq
  · rw [hj] at hpoint
    cases hpoint
    cases he

/-! ### Giving back -/

theorem Unwinding.releaseEndpoint (h : Unwinding t i p s) : Unwinding t i p s.releaseEndpoint := by
  unfold Session.releaseEndpoint
  split
  · exact h.congr rfl rfl rfl rfl rfl (.inl rfl) h.channel h.watcher
  · exact h

theorem Unwinding.releaseProcess (h : Unwinding t i p s) :
    Unwinding t i p s.releaseProcess.1 := by
  unfold Session.releaseProcess
  split
  · exact h.congr rfl rfl rfl rfl rfl (.inr rfl) h.channel h.watcher
  · exact h.releaseEndpoint

/-- There is no channel to close and no watcher to stop. -/
theorem Unwinding.release (h : Unwinding t i p s) : Unwinding t i p (s.release true).1 := by
  have habort : s.abortWatcher = s := by
    unfold abortWatcher
    rw [h.watcher]
  unfold Session.release
  rw [if_pos rfl, habort]
  dsimp only
  rw [if_neg (by rw [h.channel]; decide)]
  exact Unwinding.releaseProcess (h.congr rfl rfl rfl rfl rfl (.inl rfl) h.channel rfl)

theorem Unwinding.releaseOn (h : Unwinding t i p s) (r : Releasing) :
    Unwinding t i p (s.releaseOn r).1 := by
  cases r with
  | closing => exact h.releaseProcess
  | terminating => exact h.releaseEndpoint

theorem Unwinding.disposingOn {x : Session × Option Releasing} (h : Unwinding t i p x.1)
    (hj : j < x.1.tasks.length) (hne : j ≠ i) (last : Bool) :
    Unwinding t i p (disposingOn j last x) := by
  obtain ⟨u, r⟩ := x
  cases r with
  | some r =>
    show Unwinding t i p { u.goTo j (.disposing last r) with holder := u.holder }
    exact h.put hj rfl fun hji => absurd hji hne
  | none =>
    cases last with
    | false => exact h.put hj rfl fun hji => absurd hji hne
    | true =>
      have hstop : Unwinding t i p (u.moveTo .stopped) := h.moveTo (.inr rfl)
      have hmove : Effect j u (u.moveTo .stopped) := effect_moveTo u (by decide)
      have hnote : Unwinding t i p { u.moveTo .stopped with
          sink := (u.moveTo .stopped).sink.add .info stoppedText } :=
        hstop.congr rfl rfl rfl rfl rfl (.inl rfl) hstop.channel hstop.watcher
      exact hnote.put (Nat.lt_of_lt_of_le hj hmove.length) rfl fun hji => absurd hji hne

theorem Unwinding.beginDispose (h : Unwinding t i p s) (hj : j < s.tasks.length) (hne : j ≠ i) :
    Unwinding t i p (s.beginDispose j) := by
  unfold Session.beginDispose
  split
  · have hrelease : Effect j s (s.release true).1 := effect_release s true
    exact h.release.disposingOn (Nat.lt_of_lt_of_le hj hrelease.length) hne false
  · have hstop : Unwinding t i p (s.moveTo .stopping) := h.moveTo (.inl rfl)
    have hmove : Effect j s (s.moveTo .stopping) := effect_moveTo s (by decide)
    have hrelease := hmove.trans (effect_release _ true)
    dsimp only
    rw [h.channel, Bool.and_false, if_neg nofun]
    exact hstop.release.disposingOn (Nat.lt_of_lt_of_le hj hrelease.length) hne true

theorem Unwinding.call (h : Unwinding t i p s) (hq : q.pends = false) :
    Unwinding t i p { s with cancelled := true, tasks := s.tasks ++ [q] } := by
  refine ⟨rfl, h.stage, h.unseen, h.failure, h.process, h.channel, h.watcher, ?_, ?_⟩
  · rcases h.point with hp | hp
    · exact .inl ((List.getElem?_append_left (lt_length_of_getElem? hp)).trans hp)
    · exact .inr ((List.getElem?_append_left (lt_length_of_getElem? hp)).trans hp)
  · intro j r hr hpend
    rcases of_getElem?_concat hr with ⟨-, rfl⟩ | hr
    · rw [hq] at hpend; cases hpend
    · exact h.alone j r hr hpend

theorem Unwinding.grant (hs : Sound held s) (h : Unwinding t i p s) (hp : p.pends = true)
    (j : Nat) : Unwinding t i p (s.grant j) := by
  have hg := granted s j
  generalize s.grant j = s' at hg ⊢
  cases hg with
  | idle => exact h
  | refused _ hq _ =>
    have hne := h.ne hp hq rfl rfl
    show Unwinding t i p { s.goTo j _ with holder := s.holder }
    exact h.put (lt_length_of_getElem? hq) rfl fun hji => absurd hji hne
  | start _ _ hfirst =>
    rcases h.stage with hst | hst | hst <;> rw [hfirst] at hst <;> cases hst
  | dispose _ hq =>
    have hheld : Unwinding t i p { s with holder := some j } :=
      h.congr rfl rfl rfl rfl rfl (.inl rfl) h.channel h.watcher
    exact hheld.beginDispose (lt_length_of_getElem? hq) (h.ne hp hq rfl rfl)
  | watch _ hq =>
    have hw := hs.watch j _ hq rfl
    rw [h.watcher] at hw; cases hw

theorem Unwinding.startReturns (h : Unwinding t i p s) (hi : i < s.tasks.length) :
    Unwinding t i p (s.startReturns i (some .cancelled)) :=
  h.put hi rfl fun _ => rfl

theorem Unwinding.resume (h : Unwinding t i p s) (hq : s.tasks[j]? = some q)
    (hpend : q.pends = true) {go : Session → Session} : Unwinding t i p (s.resume j go) := by
  obtain ⟨rfl, -⟩ := h.alone j q hq hpend
  unfold Session.resume
  rw [if_pos h.cancelled]
  exact h.startReturns (lt_length_of_getElem? hq)

/-- **The start unwinds**, whatever the next move. -/
theorem Unwinding.step (hs : Sound held s) (h : Unwinding t i p s) (hp : p.pends = true)
    (a : Answers) (m : Move) : Unwinding t i p (s.step a m) := by
  have hfailed : s.stage ≠ .failed := by
    intro hf
    rcases h.stage with hst | hst | hst <;> rw [hf] at hst <;> cases hst
  have hunwatched : ∀ (j : Nat) (q : Point), s.tasks[j]? = some q → q.watches = false := by
    refine fun j q hq => Bool.eq_false_iff.2 fun hw => ?_
    have hwatcher := hs.watch j q hq hw
    rw [h.watcher] at hwatcher
    cases hwatcher
  cases m with
  | start =>
    have hcall := h.call (q := .startWaiting) rfl
    rwa [← h.cancelled] at hcall
  | dispose => exact h.call rfl
  | takeEvents => exact h.congr rfl rfl rfl rfl rfl (.inl rfl) h.channel h.watcher
  | exits e =>
    rw [Session.step]
    split
    · exact h.congr rfl rfl rfl rfl rfl (.inl rfl) h.channel h.watcher
    · exact h
  | ends reason =>
    rw [Session.step]
    split
    · exact h.congr rfl rfl rfl rfl rfl (.inl rfl) h.channel h.watcher
    · exact h
  | grant j => exact h.grant hs hp j
  | checked j found | ensured j ok | listed j ok | bound j ready | connected j result =>
    rw [Session.step]
    split
    · next hq => exact h.resume hq rfl
    · exact h
  | cancel j =>
    rw [Session.step]
    split
    · exact h
    · split
      on_goal 6 => exact h
      all_goals
        next hq =>
          obtain ⟨rfl, -⟩ := h.alone j _ hq rfl
          exact h.startReturns (lt_length_of_getElem? hq)
  | shaken j =>
    rw [Session.step]
    split
    · next hq =>
      -- a dispose asks the server only if there is a channel
      obtain ⟨-, pid, e, w, hres, -⟩ := hs.fits j _ hq
      have hchannel := h.channel
      rw [hres] at hchannel
      cases hchannel
    · exact h
  | released j =>
    rw [Session.step]
    split
    · next hq => exact absurd (hs.fits j _ hq).1 hfailed
    · next last r hq =>
      have hrelease : Effect j s (s.releaseOn r).1 := effect_releaseOn s r
      have hj := Nat.lt_of_lt_of_le (lt_length_of_getElem? hq) hrelease.length
      exact (h.releaseOn r).disposingOn hj (h.ne hp hq rfl rfl) last
    · next hq => exact absurd (hs.fits j _ hq).1 hfailed
    · exact h
  | seeExit j | seeEnd j =>
    rw [Session.step]
    split
    · next hq _ => cases hunwatched j _ hq
    · exact h
  | linger j =>
    rw [Session.step]
    split
    · next hq => cases hunwatched j _ hq
    · exact h

/-- A start that is woken returns that it was cancelled. -/
theorem Unwinding.woken (h : Unwinding t i p s) (hpend : p.pends = true) (hw : Wakes i p m) :
    (s.step a m).tasks[i]? = some (.started (some .cancelled)) := by
  rcases h.point with hp | hp
  · have hreturns : (s.startReturns i (some .cancelled)).tasks[i]? =
        some (.started (some .cancelled)) := goTo_self (lt_length_of_getElem? hp)
    cases hw with
    | checked found | ensured ok | listed ok | bound ready | connected result =>
      rw [Session.step, hp]
      dsimp only [Session.resume]
      rwa [if_pos h.cancelled]
    | cancel =>
      rw [Session.step, h.cancelled, hp]
      cases p <;> first | (cases hpend; done) | exact hreturns
  · have hm : m.task? = some i := by cases hw <;> rfl
    rwa [step_of_hasEnded hp rfl hm]

/-- Once it was disposed of, a session asks the system for nothing: neither for a port nor for a
process. -/
theorem step_of_cancelled (h : s.cancelled = true) (m : Move) (a a' : Answers) :
    s.step a m = s.step a' m := by
  cases m
  case listed i ok =>
    rw [Session.step, Session.step]
    unfold Session.resume
    rw [if_pos h, if_pos h]
  all_goals rfl

/-! ### The whole course -/

/-- What disposing of a session as it is in `t`, while a start waits, leads to. -/
structure Withdrawn (t : Session) (i : Nat) (p : Point) (held : List Nat) (s : Session) : Prop where
  /-- The start still waits, or has returned that it was cancelled. -/
  returns : s.tasks[i]? = some p ∨ s.tasks[i]? = some (.started (some .cancelled))
  /-- Neither a package listing nor the installer nor a connection is begun, by no start. -/
  idle : ∀ (j : Nat) (q : Point), s.tasks[j]? = some q → q.pends = true → j = i ∧ q = p
  /-- No server is started, and no channel opened. -/
  unopened : (s.resources.process = t.resources.process ∨ s.resources.process = none) ∧
    s.resources.client = false
  /-- It makes no difference what the system would answer. -/
  unasked : ∀ m a a', s.step a m = s.step a' m
  /-- The session has never been live. -/
  unseen : .active ∉ s.history
  failure : s.failure = none
  /-- When a dispose has returned, the session has stopped, and nothing is left. -/
  disposed : ∀ j : Nat, s.tasks[j]? = some .disposed → s.stage = .stopped ∧ Cleared held s

theorem Unwinding.withdrawn (hs : Sound held s) (h : Unwinding t i p s) :
    Withdrawn t i p held s := by
  refine ⟨h.point, h.alone, ⟨h.process, h.channel⟩, step_of_cancelled h.cancelled, h.unseen,
    h.failure, fun j hj => ?_⟩
  obtain ⟨hterm, hbare⟩ := hs.fits j _ hj
  refine ⟨?_, hs.cleared hterm hbare⟩
  rcases h.stage with hst | hst | hst
  · rw [(Stage.of_isStarting hst).1] at hterm; cases hterm
  · rw [hst] at hterm; cases hterm
  · exact hst

/-- A start waits only in a stage on the way to a live session. -/
theorem Point.Fits.pending (h : p.Fits s) (hp : p.pends = true) :
    s.stage.isStarting = true ∧ s.resources.client = false ∧ s.resources.watcher = none := by
  cases p with
  | checking | ensuring | listing =>
    obtain ⟨hstage, hbare⟩ := h
    rw [hstage, hbare.resources]
    exact ⟨rfl, rfl, rfl⟩
  | binding | connecting =>
    obtain ⟨hstage, pid, e, hres, -⟩ := h
    rw [hstage, hres]
    exact ⟨rfl, rfl, rfl⟩
  | _ => cases hp

/-- With the call of dispose the start begins to unwind. -/
theorem Sound.unwinding (hs : Sound held s) {own : List Entry} (hc : Chronicle s own)
    (hp : s.tasks[i]? = some p) (hpend : p.pends = true) (a : Answers) :
    Unwinding s i p (s.step a .dispose) := by
  obtain ⟨hstage, hchannel, hwatcher⟩ := (hs.fits i p hp).pending hpend
  obtain ⟨hterm, hlate⟩ := Stage.of_isStarting hstage
  have hholds : ∀ q : Point, q.pends = true → q.holds = true := by
    intro q hq
    cases q <;> first | rfl | cases hq
  refine ⟨rfl, .inl hstage, ?_, ?_, .inl rfl, hchannel, hwatcher, .inl ?_, ?_⟩
  · -- a session that has been live would be past these stages
    obtain ⟨way, hhist, hway⟩ := hc.path
    show .active ∉ s.history
    rw [hhist]
    intro hmem
    rcases List.mem_cons.1 hmem with hmem | hmem
    · cases hmem
    · rw [hway.isLate_of_active_mem hmem] at hlate; cases hlate
  · show s.failure = none
    cases hf : s.failure with
    | none => rfl
    | some f =>
      have hfailed := hc.failed.2 (by rw [hf]; rfl)
      rw [hfailed] at hterm; cases hterm
  · exact (List.getElem?_append_left (lt_length_of_getElem? hp)).trans hp
  · intro j q hq hqp
    rcases of_getElem?_concat hq with ⟨-, rfl⟩ | hq
    · cases hqp
    · -- both would have the resources
      have hlock := hs.lock i p hp (hholds p hpend)
      rw [hs.lock j q hq (hholds q hqp)] at hlock
      cases hlock
      rw [hp] at hq
      cases hq
      exact ⟨rfl, rfl⟩

theorem Course.unwinding (hc : Course s₀ (pre ++ .move .dispose a :: post))
    (hp : (s₀.after pre).tasks[i]? = some p) (hpend : p.pends = true) :
    Unwinding (s₀.after pre) i p (s₀.after (pre ++ .move .dispose a :: post)) := by
  rw [List.append_cons] at hc ⊢
  refine hc.persists (P := Unwinding (s₀.after pre) i p) ?_ ?_ ?_
  · rw [after_concat]
    exact hc.front.front.sound.unwinding hc.front.front.chronicle hp hpend a
  · exact fun mid a m hmid h => h.step hmid.sound hpend a m
  · exact fun s registry sink h =>
      h.congr rfl rfl rfl rfl rfl (.inl rfl) h.channel h.watcher

/-- **Disposing of a session cancels the start that is under way**: it returns that it was cancelled
as soon as it is woken, by whatever result; nothing is begun, nothing fails, and when the dispose
returns, the session has stopped and nothing is left. Whatever the system is, it is not asked for a
file, a listing or an installer any more. -/
theorem dispose_cancels_start (hc : Course s₀ (pre ++ .move .dispose a :: post))
    (hp : (s₀.after pre).tasks[i]? = some p) (hpend : p.pends = true) :
    Withdrawn (s₀.after pre) i p (s₀.elsewhere (pre ++ .move .dispose a :: post))
        (s₀.after (pre ++ .move .dispose a :: post)) ∧
      (∀ m a', .move m a' ∈ post → Wakes i p m →
        (s₀.after (pre ++ .move .dispose a :: post)).tasks[i]? =
          some (.started (some .cancelled))) ∧
      ∀ (σ : Type) (sh : Shell σ) (world : σ) (before later : List (Site.Event σ)),
        Site.Fair sh (.start s₀ world) (before ++ later) →
        ((Site.start s₀ world).run sh before).met = pre ++ [.move .dispose a] →
        ((Site.start s₀ world).run sh (before ++ later)).calls =
          ((Site.start s₀ world).run sh before).calls := by
  refine ⟨(hc.unwinding hp hpend).withdrawn hc.sound, fun m a' hm hw => ?_, ?_⟩
  · obtain ⟨mid, rest, rfl⟩ := List.append_of_mem hm
    have hsplit : pre ++ .move .dispose a :: (mid ++ .move m a' :: rest) =
        ((pre ++ .move .dispose a :: mid) ++ [.move m a']) ++ rest := by simp
    rw [hsplit] at hc ⊢
    refine hc.ended_stays ?_ rfl
    rw [after_concat]
    exact (hc.front.front.unwinding hp hpend).woken hpend hw
  · intro σ sh world before later hfair hmet
    have hbefore := (Site.fair_append.1 hfair).1
    refine (Site.calls_run hc.fresh hfair ?_).1
    rw [Site.session, Site.origin_run hc.fresh hbefore, hmet, after_concat]
    rfl

/-- The server has been started for a port of its own, and the session is disposed of while the
start waits until it listens. -/
def recalled : List Happening :=
  [.move .start agreeing, .move (.grant 0) agreeing, .move (.checked 0 true) agreeing,
    .move (.listed 0 true) agreeing]

/-- The server listens after all, too late; the dispose goes on. -/
def belated : List Happening :=
  [.others [5007] ⟨[4000, 5007]⟩ [], .move (.bound 0 true) agreeing, .move (.grant 1) agreeing,
    .move (.released 1) agreeing]

/-- On a system without the package, a session is disposed of while a start waits for the listing
that comes before the installer. -/
def forestalled : List (Site.Event Bool) :=
  [.meet (.move .start agreeing), .meet (.move (.grant 0) agreeing),
    .meet (.move .dispose agreeing)]

theorem dispose_cancels_start_recalled :
    (after {} recalled).tasks = [.binding] ∧ (after {} recalled).registry.ports = [4000] ∧
      (after {} (recalled ++ .move .dispose agreeing :: belated)).tasks[0]? =
        some (.started (some .cancelled)) ∧
      (after {} (recalled ++ .move .dispose agreeing :: belated)).tasks[1]? = some .disposed ∧
      (after {} (recalled ++ .move .dispose agreeing :: belated)).stage = .stopped ∧
      Cleared [5007] (after {} (recalled ++ .move .dispose agreeing :: belated)) ∧
      ((Site.start {} false).run Site.wayward forestalled).calls.length = 2 ∧
      ((Site.start {} false).run Site.wayward (forestalled ++ [.answer 0 agreeing])).calls =
        ((Site.start {} false).run Site.wayward forestalled).calls := by
  have hc : Course {} (recalled ++ .move .dispose agreeing :: belated) := ⟨rfl, .refl _, trivial⟩
  obtain ⟨hw, hwoken, -⟩ := dispose_cancels_start (i := 0) hc rfl rfl
  have hmem : Happening.move (.bound 0 true) agreeing ∈ belated := by simp [belated]
  have hearly : Course {} ([.move .start agreeing, .move (.grant 0) agreeing] ++
      [.move .dispose agreeing]) := ⟨rfl, trivial⟩
  obtain ⟨-, -, hcalls⟩ := dispose_cancels_start (i := 0) hearly rfl rfl
  have hfair : Site.Fair Site.wayward (.start {} false) (forestalled ++ [.answer 0 agreeing]) := by
    refine ⟨?_, ?_, ?_, ?_, trivial⟩ <;> rintro h ⟨⟩ <;> trivial
  exact ⟨rfl, rfl, hwoken _ _ hmem (.bound true), rfl, (hw.disposed 1 rfl).1, (hw.disposed 1 rfl).2,
    rfl, hcalls Bool Site.wayward false forestalled _ hfair rfl⟩

end Session

end Sidecar
