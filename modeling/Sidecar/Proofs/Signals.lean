/-
# What a session learns of its server

The exit of the server and the end of the channel are told to a session from
outside. No task of the session changes what is known of them, nor the
settings, nor whether the session was disposed of (`Keeps`); and there is a
channel only once the session is live, because the move that opens it is the
one that makes the session live (`Enlivened`).

While a session is live and nobody disposes of it, almost nothing can happen to
it (`Stirs`): it learns of an exit or of the end of the channel, and its
watcher notices.

Key definitions: `Session.Keeps`, `Session.Enlivened`, `Session.Stirs`.
Key theorems: `Session.Sound.keeps_step`, `Session.Sound.stirs_step`.
-/
import Sidecar.Proofs.Attribution

namespace Sidecar.Session

variable {s t s' : Session} {i : Nat} {p : Point} {f : Failure} {a : Answers} {held : List Nat}

/-- Nothing that comes from outside has changed, and the session has not become live. -/
structure Keeps (s s' : Session) : Prop where
  settings : s'.settings = s.settings
  cancelled : s'.cancelled = s.cancelled
  exit : s'.exit = s.exit
  ended : s'.ended = s.ended
  channel : s'.resources.client = true → s.resources.client = true
  live : s'.stage = .active → s.stage = .active

theorem Keeps.refl (s : Session) : Keeps s s := ⟨rfl, rfl, rfl, rfl, id, id⟩

theorem Keeps.trans (h : Keeps s t) (h' : Keeps t s') : Keeps s s' :=
  ⟨h'.settings.trans h.settings, h'.cancelled.trans h.cancelled, h'.exit.trans h.exit,
    h'.ended.trans h.ended, fun hc => h.channel (h'.channel hc), fun hl => h.live (h'.live hl)⟩

theorem keeps_goTo (s : Session) (i : Nat) (p : Point) : Keeps s (s.goTo i p) :=
  ⟨rfl, rfl, rfl, rfl, id, id⟩

theorem keeps_moveTo (s : Session) (next : Stage) (hn : next ≠ .active) :
    Keeps s (s.moveTo next) := by
  unfold moveTo
  split
  · exact ⟨rfl, rfl, rfl, rfl, id, fun h => absurd h hn⟩
  · exact .refl s

theorem keeps_fail (s : Session) (f : Failure) : Keeps s (s.fail f) := by
  unfold Session.fail
  split
  · have hmove := keeps_moveTo s .failed (by decide)
    exact ⟨hmove.settings, hmove.cancelled, hmove.exit, hmove.ended, hmove.channel, hmove.live⟩
  · exact .refl s

theorem keeps_releaseEndpoint (s : Session) : Keeps s s.releaseEndpoint := by
  unfold releaseEndpoint
  split <;> exact ⟨rfl, rfl, rfl, rfl, id, id⟩

theorem keeps_releaseProcess (s : Session) : Keeps s s.releaseProcess.1 := by
  unfold releaseProcess
  split
  · exact ⟨rfl, rfl, rfl, rfl, id, id⟩
  · exact keeps_releaseEndpoint s

theorem keeps_release (s : Session) (abort : Bool) : Keeps s (s.release abort).1 := by
  have habort : Keeps s (if abort then s.abortWatcher else s) := by
    unfold abortWatcher
    repeat' split
    all_goals exact ⟨rfl, rfl, rfl, rfl, id, id⟩
  refine habort.trans ?_
  unfold release
  generalize (if abort then s.abortWatcher else s) = t
  dsimp only
  split
  · exact ⟨rfl, rfl, rfl, rfl, by simp, id⟩
  · refine Keeps.trans ?_ (keeps_releaseProcess _)
    exact ⟨rfl, rfl, rfl, rfl, id, id⟩

theorem keeps_releaseOn (s : Session) (r : Releasing) : Keeps s (s.releaseOn r).1 := by
  cases r with
  | closing => exact keeps_releaseProcess s
  | terminating => exact keeps_releaseEndpoint s

theorem keeps_startReturns (s : Session) (e : Option StartError) : Keeps s (s.startReturns i e) :=
  ⟨rfl, rfl, rfl, rfl, id, id⟩

theorem keeps_advance (s : Session) {next : Stage} (hn : next ≠ .active) {go : Session → Session}
    (hgo : ∀ t, Keeps t (go t)) : Keeps s (s.advance i next go) := by
  unfold advance
  split
  · exact (keeps_moveTo s next hn).trans (hgo _)
  · exact keeps_startReturns s _

theorem keeps_await (s : Session) (p : Point) : Keeps s (s.await i p) := by
  unfold await
  split
  · exact keeps_startReturns s _
  · exact keeps_goTo s i p

theorem keeps_failingOn {x : Session × Option Releasing} (f : Failure) (h : Keeps s x.1) :
    Keeps s (failingOn i f x) := by
  obtain ⟨t, r⟩ := x
  cases r with
  | none => exact h.trans (keeps_startReturns t _)
  | some r => exact h.trans (keeps_goTo t i _)

theorem keeps_startFails (s : Session) (f : Failure) : Keeps s (s.startFails i f) :=
  keeps_failingOn f ((keeps_fail s f).trans (keeps_release _ true))

theorem keeps_spawn (s : Session) (a : Answers) (e : Endpoint) : Keeps s (s.spawn i a e) := by
  unfold Session.spawn
  dsimp only
  split
  · refine Keeps.trans ?_ (keeps_startFails _ _)
    exact ⟨rfl, rfl, rfl, rfl, id, id⟩
  · refine Keeps.trans ?_ (keeps_advance _ (by decide) fun t => keeps_await t _)
    exact ⟨rfl, rfl, rfl, rfl, id, id⟩

theorem keeps_launch (s : Session) (a : Answers) : Keeps s (s.launch i a) := by
  unfold launch
  refine keeps_advance s (by decide) fun t => keeps_advance t (by decide) fun u => ?_
  split
  · exact keeps_startFails u _
  · split
    · refine Keeps.trans ?_ (keeps_startFails _ _)
      exact ⟨rfl, rfl, rfl, rfl, id, id⟩
    · refine Keeps.trans ?_ (keeps_spawn _ a _)
      exact ⟨rfl, rfl, rfl, rfl, id, id⟩

theorem keeps_disposingOn {x : Session × Option Releasing} (last : Bool) (h : Keeps s x.1) :
    Keeps s (disposingOn i last x) := by
  obtain ⟨t, r⟩ := x
  cases r with
  | some r => exact h.trans (keeps_goTo t i _)
  | none =>
    refine h.trans ?_
    cases last with
    | false => exact ⟨rfl, rfl, rfl, rfl, id, id⟩
    | true =>
      refine (keeps_moveTo t .stopped (by decide)).trans ?_
      unfold disposingOn
      dsimp only
      rw [if_pos rfl]
      exact ⟨rfl, rfl, rfl, rfl, id, id⟩

theorem keeps_watchOn {x : Session × Option Releasing} (h : Keeps s x.1) :
    Keeps s (watchOn i x) := by
  obtain ⟨t, r⟩ := x
  cases r with
  | none => exact h.trans ⟨rfl, rfl, rfl, rfl, id, id⟩
  | some r => exact h.trans (keeps_goTo t i _)

theorem keeps_beginDispose (s : Session) : Keeps s (s.beginDispose i) := by
  unfold beginDispose
  split
  · exact keeps_disposingOn false (keeps_release s true)
  · have hmove := keeps_moveTo s .stopping (by decide)
    dsimp only
    split
    · exact hmove.trans (keeps_goTo _ i _)
    · exact keeps_disposingOn true (hmove.trans (keeps_release _ true))

theorem keeps_grant (s : Session) (i : Nat) : Keeps s (s.grant i) := by
  have hheld : Keeps s { s with holder := some i } := ⟨rfl, rfl, rfl, rfl, id, id⟩
  unfold grant
  split
  · exact .refl s
  · dsimp only
    split
    · refine hheld.trans ?_
      unfold beginStart
      split
      · exact keeps_startReturns _ _
      · exact keeps_advance _ (by decide) fun t => keeps_await t _
    · exact hheld.trans (keeps_beginDispose _)
    · exact keeps_watchOn (hheld.trans (keeps_release _ false))
    · exact .refl s

theorem keeps_lose (s : Session) (f : Failure) : Keeps s (s.lose i f) := by
  unfold Session.lose
  split
  · exact keeps_goTo s i _
  · split
    · exact (keeps_fail s f).trans (keeps_goTo _ i _)
    · exact keeps_goTo s i _

theorem keeps_resume (s : Session) {go : Session → Session} (hgo : Keeps s (go s)) :
    Keeps s (s.resume i go) := by
  unfold resume
  split
  · exact keeps_startReturns s _
  · exact hgo

/-! ### Becoming live -/

/-- The session has become live with a new watcher, and nothing else from outside has changed. -/
structure Enlivened (s s' : Session) : Prop where
  settings : s'.settings = s.settings
  cancelled : s'.cancelled = s.cancelled
  exit : s'.exit = s.exit
  ended : s'.ended = s.ended
  stage : s'.stage = .active
  watching : s'.tasks[s.tasks.length]? = some .watching

theorem enlivened_activate (hi : i < s.tasks.length) (hstage : s.stage = .connecting)
    (hl : s.Launched) : Enlivened s (s.activate i) := by
  obtain ⟨pid, e, hres, -, -⟩ := hl
  have hallows : s.stage.allows .active = true := by rw [hstage]; rfl
  unfold Session.activate
  rw [hres]
  dsimp only
  unfold advance moveTo
  rw [if_pos hallows, if_pos hallows]
  refine ⟨rfl, rfl, rfl, rfl, rfl, ?_⟩
  have hne : s.tasks.length ≠ i := by omega
  show ((s.tasks ++ [Point.watching]).set i _)[s.tasks.length]? = _
  rw [List.getElem?_set_ne hne.symm, List.getElem?_concat_length]

theorem enlivened_of_moveTo {next : Stage} (h : Enlivened (s.moveTo next) s') : Enlivened s s' := by
  have htasks : (s.moveTo next).tasks = s.tasks := by
    unfold moveTo
    split <;> rfl
  have hsame : (s.moveTo next).settings = s.settings ∧ (s.moveTo next).cancelled = s.cancelled ∧
      (s.moveTo next).exit = s.exit ∧ (s.moveTo next).ended = s.ended := by
    unfold moveTo
    split <;> exact ⟨rfl, rfl, rfl, rfl⟩
  obtain ⟨hsettings, hcancelled, hexit, hended⟩ := hsame
  exact ⟨h.settings.trans hsettings, h.cancelled.trans hcancelled, h.exit.trans hexit,
    h.ended.trans hended, h.stage, htasks ▸ h.watching⟩

theorem launched_moveTo {next : Stage} (h : s.Launched) : (s.moveTo next).Launched := by
  unfold moveTo
  split <;> exact h

theorem keeps_bound (hi : i < s.tasks.length) (hstage : s.stage = .awaitingBind)
    (hl : s.Launched) (ready : Bool) :
    Keeps s (s.bound i ready) ∨ Enlivened s (s.bound i ready) := by
  have hallows : s.stage.allows .connecting = true := by rw [hstage]; rfl
  have hmove := keeps_moveTo s .connecting (by decide)
  unfold Session.bound
  split
  · exact .inl (.refl s)
  · split
    · exact .inl (keeps_startFails s _)
    · unfold advance
      rw [if_pos hallows]
      dsimp only
      split
      · exact .inl (hmove.trans (keeps_startFails _ _))
      · refine .inr (enlivened_of_moveTo (enlivened_activate ?_ ?_ (launched_moveTo hl)))
        · unfold moveTo
          rwa [if_pos hallows]
        · exact moveTo_stage hallows
      · exact .inl (hmove.trans (keeps_await _ _))

/-- What comes from outside comes with a move of its own. -/
def Move.isSignal : Move → Bool
  | .dispose | .exits _ | .ends _ => true
  | _ => false

/-- **No task changes what comes from outside**, and only a start makes the session live. -/
theorem Sound.keeps_step (h : Sound held s) (a : Answers) {m : Move} (hm : m.isSignal = false) :
    Keeps s (s.step a m) ∨ Enlivened s (s.step a m) := by
  have hidle : Keeps s s ∨ Enlivened s s := .inl (.refl s)
  cases m with
  | dispose | exits | ends => cases hm
  | start | takeEvents => exact .inl ⟨rfl, rfl, rfl, rfl, id, id⟩
  | grant i => exact .inl (keeps_grant s i)
  | checked i found =>
    rw [Session.step]
    split
    · refine .inl (keeps_resume s ?_)
      split
      · exact keeps_await s _
      · exact keeps_goTo s _ _
    · exact hidle
  | ensured i ok =>
    rw [Session.step]
    split
    · refine .inl (keeps_resume s ?_)
      split
      · exact keeps_await s _
      · exact keeps_startFails s _
    · exact hidle
  | listed i ok =>
    rw [Session.step]
    split
    · refine .inl (keeps_resume s ?_)
      split
      · exact keeps_launch s a
      · exact keeps_startFails s _
    · exact hidle
  | bound i ready =>
    rw [Session.step]
    split
    · next hp =>
      obtain ⟨hstage, hl⟩ := h.fits i _ hp
      unfold Session.resume
      split
      · exact .inl (keeps_startReturns s _)
      · exact keeps_bound (lt_length_of_getElem? hp) hstage hl ready
    · exact hidle
  | connected i result =>
    rw [Session.step]
    split
    · next hp =>
      obtain ⟨hstage, hl⟩ := h.fits i _ hp
      unfold Session.resume
      split
      · exact .inl (keeps_startReturns s _)
      · cases result with
        | ok _ => exact .inr (enlivened_activate (lt_length_of_getElem? hp) hstage hl)
        | error e => exact .inl (keeps_startFails s _)
    · exact hidle
  | cancel i =>
    rw [Session.step]
    repeat' split
    all_goals exact .inl ⟨rfl, rfl, rfl, rfl, id, id⟩
  | shaken i =>
    rw [Session.step]
    split
    · exact .inl (keeps_disposingOn true (keeps_release s true))
    · exact hidle
  | released i =>
    rw [Session.step]
    split
    · exact .inl (keeps_failingOn _ (keeps_releaseOn s _))
    · exact .inl (keeps_disposingOn _ (keeps_releaseOn s _))
    · exact .inl (keeps_watchOn (keeps_releaseOn s _))
    · exact hidle
  | seeExit i =>
    rw [Session.step]
    split
    · exact .inl (keeps_lose s _)
    · exact hidle
  | seeEnd i =>
    rw [Session.step]
    split
    · exact .inl (keeps_goTo s i _)
    · exact hidle
  | linger i =>
    rw [Session.step]
    split
    · exact .inl (keeps_lose s _)
    · exact hidle

theorem Sound.settings_step (h : Sound held s) (a : Answers) (m : Move) :
    (s.step a m).settings = s.settings := by
  cases hm : m.isSignal with
  | false =>
    rcases h.keeps_step a hm with hkeeps | hlive
    · exact hkeeps.settings
    · exact hlive.settings
  | true =>
    cases m with
    | dispose => rfl
    | exits | ends =>
      rw [Session.step]
      split <;> rfl
    | _ => cases hm

/-- A session that was disposed of stays so. -/
theorem Sound.cancelled_step (h : Sound held s) {a : Answers} {m : Move}
    (hcalm : (s.step a m).cancelled = false) : s.cancelled = false ∧ m ≠ .dispose := by
  have hm : m ≠ .dispose := by
    rintro rfl
    cases hcalm
  refine ⟨?_, hm⟩
  cases hsignal : m.isSignal with
  | false =>
    rcases h.keeps_step a hsignal with hkeeps | hlive
    · rw [← hkeeps.cancelled, hcalm]
    · rw [← hlive.cancelled, hcalm]
  | true =>
    cases m with
    | dispose => exact absurd rfl hm
    | exits | ends =>
      rw [Session.step] at hcalm
      split at hcalm <;> exact hcalm
    | _ => cases hsignal

/-- A session that was disposed of stays so. -/
theorem Sound.cancelled_stays (h : Sound held s) {a : Answers} {m : Move}
    (hc : s.cancelled = true) : (s.step a m).cancelled = true := by
  by_contra hcalm
  rw [(h.cancelled_step (Bool.eq_false_iff.2 hcalm)).1] at hc
  cases hc

/-! ### A live session -/

/-- The watcher has not yet lost the session. -/
def Point.isVigilant : Point → Bool
  | .watching | .lingering _ => true
  | _ => false

theorem Point.watches_of_isVigilant (hp : p.isVigilant = true) : p.watches = true := by
  cases p <;> first | rfl | cases hp

/-- What a move can do to a live session that nobody disposes of and whose watcher `i` is at `p`. -/
inductive Stirs (s : Session) (i : Nat) (p : Point) (m : Move) (s' : Session) : Prop where
  /-- Nothing that concerns the watcher. -/
  | idle (hstage : s'.stage = .active) (hexit : s'.exit = s.exit) (hended : s'.ended = s.ended)
      (htask : s'.tasks[i]? = some p)
  | exited (e : Exit) (hm : m = .exits e) (hnone : s.exit = none)
      (hs : s' = { s with exit := some e })
  | ended (reason : ChannelEnd) (hm : m = .ends reason) (hnone : s.ended = none)
      (hs : s' = { s with ended := some reason })
  /-- The watcher sees the exit, and the session is lost. -/
  | sawExit (e : Exit) (hm : m = .seeExit i) (hp : p = .watching) (he : s.exit = some e)
      (hstage : s'.stage = .failed) (hfailure : s'.failure = some (.ofExit e))
  /-- The watcher sees the end of the channel. -/
  | sawEnd (reason : ChannelEnd) (hm : m = .seeEnd i) (hp : p = .watching)
      (he : s.ended = some reason) (hs : s' = s.goTo i (.lingering reason))
  /-- The watcher has waited, and the session is lost. -/
  | lingered (reason : ChannelEnd) (hm : m = .linger i) (hp : p = .lingering reason)
      (hstage : s'.stage = .failed) (hfailure : s'.failure = some (.ofChannelLoss reason s.exit))

theorem lose_of_active (hstage : s.stage = .active) (hcalm : s.cancelled = false) (f : Failure) :
    (s.lose i f).stage = .failed ∧ (s.lose i f).failure = some f := by
  have hallows : s.stage.allows .failed = true := by rw [hstage]; rfl
  have hterm : s.stage.isTerminal = false := by rw [hstage]; rfl
  unfold Session.lose
  rw [hcalm, if_neg (by simp), if_pos hallows]
  exact ⟨fail_stage hterm f, (fail_record hterm f).1⟩

/-- All tasks of a session are one watcher, if they watch. -/
theorem Sound.watcher_unique (h : Sound held s) {j : Nat} {q : Point} (hp : s.tasks[i]? = some p)
    (hv : p.isVigilant = true) (hq : s.tasks[j]? = some q) (hv' : q.isVigilant = true) : j = i := by
  have hi := h.watch i p hp (Point.watches_of_isVigilant hv)
  have hj := h.watch j q hq (Point.watches_of_isVigilant hv')
  rw [hi] at hj
  exact (Option.some.inj hj).symm

/-- While a session is live and not disposed of, the points of its other tasks say that they are
waiting for the resources or have returned. -/
theorem Sound.not_holds_of_active (h : Sound held s) (hstage : s.stage = .active) {j : Nat}
    {q : Point} (hq : s.tasks[j]? = some q) : q.holds = false ∧ q ≠ .watchWaiting := by
  have hfits := h.fits j q hq
  cases q with
  | checking | ensuring | listing | binding | connecting | failing | handshaking
  | watchReleasing =>
    have hother := hfits.1
    rw [hstage] at hother
    cases hother
  | disposing last r =>
    have hother := hfits.1
    rw [hstage] at hother
    cases last <;> cases hother
  | watchWaiting =>
    have hother : s.stage = .failed := hfits
    rw [hstage] at hother
    cases hother
  | _ => exact ⟨rfl, by simp⟩

/-- **Nothing but its watcher can end a live session** that nobody disposes of. -/
theorem Sound.stirs_step (h : Sound held s) (hstage : s.stage = .active)
    (hcalm : s.cancelled = false) (hp : s.tasks[i]? = some p) (hv : p.isVigilant = true)
    (a : Answers) {m : Move} (hm : m ≠ .dispose) : Stirs s i p m (s.step a m) := by
  have hidle : Stirs s i p m s := .idle hstage rfl rfl hp
  have hi := lt_length_of_getElem? hp
  -- a task that holds the resources would say that the session is not live
  have hfree {j : Nat} {q : Point} (hq : s.tasks[j]? = some q) (hh : q.holds = true) : False := by
    rw [(h.not_holds_of_active hstage hq).1] at hh
    cases hh
  cases m with
  | dispose => exact absurd rfl hm
  | start => exact .idle hstage rfl rfl ((List.getElem?_append_left hi).trans hp)
  | takeEvents => exact .idle hstage rfl rfl hp
  | grant j =>
    show Stirs s i p _ (s.grant j)
    unfold Session.grant
    split
    · exact hidle
    · split
      · next hq =>
        have hne : i ≠ j := by
          rintro rfl
          rw [hp] at hq
          cases hq
          cases hv
        have hstarted : s.stage ≠ .uninstalled := by simp [hstage]
        unfold beginStart
        rw [if_pos (by simpa using hstarted)]
        exact .idle hstage rfl rfl ((List.getElem?_set_ne hne.symm).trans hp)
      · next hq =>
        have hcancelled : s.cancelled = true := h.fits j _ hq
        rw [hcalm] at hcancelled
        cases hcancelled
      · next hq => exact absurd rfl (h.not_holds_of_active hstage hq).2
      · exact hidle
  | checked j found | ensured j ok | listed j ok | bound j ready | connected j result
  | shaken j =>
    rw [Session.step]
    split
    · next hq => exact (hfree hq rfl).elim
    · exact hidle
  | cancel j =>
    rw [Session.step, hcalm]
    exact hidle
  | released j =>
    rw [Session.step]
    split
    · next hq => exact (hfree hq rfl).elim
    · next hq => exact (hfree hq rfl).elim
    · next hq => exact (hfree hq rfl).elim
    · exact hidle
  | exits e =>
    rw [Session.step]
    split
    · next hnew =>
      rw [Bool.and_eq_true, Option.isNone_iff_eq_none] at hnew
      exact .exited e rfl hnew.1 rfl
    · exact hidle
  | ends reason =>
    rw [Session.step]
    split
    · next hnew =>
      rw [Bool.and_eq_true, Option.isNone_iff_eq_none] at hnew
      exact .ended reason rfl hnew.1 rfl
    · exact hidle
  | seeExit j =>
    rw [Session.step]
    split
    · next e hq he =>
      obtain rfl := h.watcher_unique hp hv hq rfl
      rw [hp] at hq
      cases hq
      obtain ⟨hfailed, hfailure⟩ := lose_of_active (i := j) hstage hcalm (.ofExit e)
      exact .sawExit e rfl rfl he hfailed hfailure
    · exact hidle
  | seeEnd j =>
    rw [Session.step]
    split
    · next reason hq he =>
      obtain rfl := h.watcher_unique hp hv hq rfl
      rw [hp] at hq
      cases hq
      exact .sawEnd reason rfl rfl he rfl
    · exact hidle
  | linger j =>
    rw [Session.step]
    split
    · next reason hq =>
      obtain rfl := h.watcher_unique hp hv hq rfl
      rw [hp] at hq
      cases hq
      obtain ⟨hfailed, hfailure⟩ :=
        lose_of_active (i := j) hstage hcalm (.ofChannelLoss reason s.exit)
      exact .lingered reason rfl rfl hfailed hfailure
    · exact hidle

end Sidecar.Session
