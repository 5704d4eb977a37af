/-
# What a start can fail with

A start that does not succeed returns an error, and a session that has failed
shows why. Neither comes out of nowhere: each has a cause in the move in which
it came up (`Cause`). A start is cancelled only if the session was disposed of,
it is refused only if it came too late, and it blames a lease only if the
registry refused one in that very moment. `Leads` says so of a part of a move,
and `Sound.leads_step` of moves.

Key definitions: `Session.Point.error?`, `Session.Cause`, `Session.Leads`.
Key theorem: `Session.Sound.leads_step`.
-/
import Sidecar.Proofs.Soundness
import Sidecar.Proofs.Tenancy

namespace Sidecar.Session

/-- The error that a start has returned with, or will. -/
def Point.error? : Point → Option StartError
  | .failing f _ => some (.failed f)
  | .started error => error
  | _ => none

/-- A dispose, wherever it is. -/
def Point.disposes : Point → Bool
  | .disposeWaiting | .handshaking | .disposing .. | .disposed => true
  | _ => false

/-- What a move can blame. -/
inductive Cause (s : Session) (a : Answers) (m : Move) : StartError → Prop where
  | provisioning : Cause s a m (.failed s.provisioningFailure)
  | allocate {i : Nat} {ok : Bool} {e : AllocateError} (hm : m = .listed i ok)
      (waits : s.tasks[i]? = some .listing)
      (h : s.registry.allocate s.settings.transport a.freshPath a.freePort = .error e) :
      Cause s a m (.failed (.ofAllocate e))
  | occupied (e : Endpoint) : Cause s a m (.failed (.ofOccupied e))
  | spawn (e : SpawnError) : Cause s a m (.failed (.ofSpawn e))
  | bindTimeout (e : Endpoint) (after : Duration) : Cause s a m (.failed (.ofBindTimeout e after))
  | connect (e : ConnectError) : Cause s a m (.failed (.ofConnect e))
  | earlyExit (e : Exit) : Cause s a m (.failed (Session.earlyExit e))
  | exit (e : Exit) : Cause s a m (.failed (.ofExit e))
  | channelLoss (c : ChannelEnd) (e : Option Exit) : Cause s a m (.failed (.ofChannelLoss c e))
  /-- It has failed before, and gives the resources back. -/
  | before {i : Nat} {f : Failure} {r : Releasing} (h : s.tasks[i]? = some (.failing f r)) :
      Cause s a m (.failed f)
  | cancelled (h : s.cancelled = true) : Cause s a m .cancelled
  | late {i : Nat} (hm : m = .grant i) (waits : s.tasks[i]? = some .startWaiting)
      (late : s.stage ≠ .uninstalled) : Cause s a m (.notStartable s.stage)

/-- A part of a move blames nothing but what `P` holds of, sends no task back to the start and makes
no dispose of what is none. -/
structure Leads (P : StartError → Prop) (s s' : Session) : Prop where
  failure : s'.failure = s.failure ∨ ∃ f, s'.failure = some f ∧ P (.failed f)
  points : ∀ (i : Nat) (p : Point), s'.tasks[i]? = some p → s.tasks[i]? = some p ∨
    (p ≠ .startWaiting ∧ ∀ e, p.error? = some e → P e)
  disposes : ∀ (i : Nat) (p : Point), s'.tasks[i]? = some p → p.disposes = true →
    ∃ q, s.tasks[i]? = some q ∧ q.disposes = true
  cancelled : s'.cancelled = s.cancelled

variable {P : StartError → Prop} {s t s' : Session} {i : Nat} {p : Point} {f : Failure}
  {a : Answers}

theorem Leads.trans (h : Leads P s t) (h' : Leads P t s') : Leads P s s' where
  failure := by
    rcases h'.failure with hf | hf
    · rw [hf]
      exact h.failure
    · exact .inr hf
  points i p hp := by
    rcases h'.points i p hp with hp | hp
    · exact h.points i p hp
    · exact .inr hp
  disposes i p hp hd := by
    obtain ⟨q, hq, hd⟩ := h'.disposes i p hp hd
    exact h.disposes i q hq hd
  cancelled := h'.cancelled.trans h.cancelled

theorem Leads.frame (failure : s'.failure = s.failure) (tasks : s'.tasks = s.tasks)
    (cancelled : s'.cancelled = s.cancelled) : Leads P s s' :=
  ⟨.inl failure, fun i p hp => .inl (by rwa [← tasks]),
    fun i p hp hd => ⟨p, by rwa [← tasks], hd⟩, cancelled⟩

theorem Leads.refl (s : Session) : Leads P s s := .frame rfl rfl rfl

theorem Leads.after (h : Leads P t s') (failure : t.failure = s.failure) (tasks : t.tasks = s.tasks)
    (cancelled : t.cancelled = s.cancelled) : Leads P s s' :=
  Leads.trans (.frame failure tasks cancelled) h

theorem Leads.before (h : Leads P s t) (failure : s'.failure = t.failure)
    (tasks : s'.tasks = t.tasks) (cancelled : s'.cancelled = t.cancelled) : Leads P s s' :=
  h.trans (.frame failure tasks cancelled)

/-- Nobody has disposed of the session. -/
structure Wanted (s : Session) : Prop where
  cancelled : s.cancelled = false
  undisposed : ∀ p ∈ s.tasks, p.disposes = false

theorem Leads.wanted (h : Leads P s s') (hw : Wanted s) : Wanted s' where
  cancelled := h.cancelled.trans hw.cancelled
  undisposed p hp := by
    obtain ⟨i, hi⟩ := List.getElem?_of_mem hp
    refine Bool.eq_false_iff.2 fun hdisposes => ?_
    obtain ⟨q, hq, hdisposes⟩ := h.disposes i p hi hdisposes
    rw [hw.undisposed q (List.mem_of_getElem? hq)] at hdisposes
    cases hdisposes

theorem leads_goTo (s : Session) (i : Nat) (p : Point) (hp : p ≠ .startWaiting)
    (hd : p.disposes = false) (he : ∀ e, p.error? = some e → P e) : Leads P s (s.goTo i p) where
  failure := .inl rfl
  points j q hq := by
    rcases goTo_cases hq with ⟨-, rfl⟩ | ⟨-, hq⟩
    · exact .inr ⟨hp, he⟩
    · exact .inl hq
  disposes j q hq hdisposes := by
    rcases goTo_cases hq with ⟨-, rfl⟩ | ⟨-, hq⟩
    · rw [hd] at hdisposes
      cases hdisposes
    · exact ⟨q, hq, hdisposes⟩
  cancelled := rfl

/-- A dispose goes on as one. -/
theorem Leads.goTo_of_disposes (h : Leads P s t) {q : Point} (hi : s.tasks[i]? = some q)
    (hq : q.disposes = true) (hp : p.disposes = true) : Leads P s (t.goTo i p) where
  failure := h.failure
  points j r hr := by
    rcases goTo_cases hr with ⟨-, rfl⟩ | ⟨-, hr⟩
    · refine .inr ⟨?_, fun e he => ?_⟩
      · rintro rfl
        cases hp
      · cases r with
        | failing | started => cases hp
        | _ => cases he
    · exact h.points j r hr
  disposes j r hr hdisposes := by
    rcases goTo_cases hr with ⟨rfl, -⟩ | ⟨-, hr⟩
    · exact ⟨q, hi, hq⟩
    · exact h.disposes j r hr hdisposes
  cancelled := h.cancelled

/-- A new task. -/
theorem leads_concat (failure : s'.failure = s.failure) (tasks : s'.tasks = s.tasks ++ [p])
    (cancelled : s'.cancelled = s.cancelled) (hp : p ≠ .startWaiting) (hd : p.disposes = false)
    (he : ∀ e, p.error? = some e → P e) : Leads P s s' := by
  refine ⟨.inl failure, fun j q hq => ?_, fun j q hq hdisposes => ?_, cancelled⟩
  all_goals
    rw [tasks] at hq
    rcases of_getElem?_concat hq with ⟨-, rfl⟩ | hq
  · exact .inr ⟨hp, he⟩
  · exact .inl hq
  · rw [hd] at hdisposes
    cases hdisposes
  · exact ⟨q, hq, hdisposes⟩

theorem leads_moveTo (s : Session) (next : Stage) : Leads P s (s.moveTo next) := by
  unfold moveTo
  split <;> exact .frame rfl rfl rfl

theorem leads_fail (s : Session) (hf : P (.failed f)) : Leads P s (s.fail f) := by
  unfold fail
  split
  · have hmove := leads_moveTo (P := P) s .failed
    exact ⟨.inr ⟨f, rfl, hf⟩, hmove.points, hmove.disposes, hmove.cancelled⟩
  · exact .refl s

theorem leads_releaseEndpoint (s : Session) : Leads P s s.releaseEndpoint := by
  unfold releaseEndpoint
  split <;> exact .frame rfl rfl rfl

theorem leads_releaseProcess (s : Session) : Leads P s s.releaseProcess.1 := by
  unfold releaseProcess
  split
  · exact .frame rfl rfl rfl
  · exact leads_releaseEndpoint s

theorem leads_abortWatcher (s : Session) : Leads P s s.abortWatcher := by
  unfold abortWatcher
  split
  · exact leads_goTo s _ _ nofun rfl nofun
  · exact .refl s

theorem leads_release (s : Session) (abort : Bool) : Leads P s (s.release abort).1 := by
  unfold release
  have habort : Leads P s (if abort then s.abortWatcher else s) := by
    cases abort
    · exact .refl s
    · exact leads_abortWatcher s
  refine habort.trans ?_
  generalize (if abort then s.abortWatcher else s) = t
  dsimp only
  split
  · exact .frame rfl rfl rfl
  · exact (leads_releaseProcess _).after rfl rfl rfl

theorem leads_releaseOn (s : Session) (r : Releasing) : Leads P s (s.releaseOn r).1 := by
  cases r with
  | closing => exact leads_releaseProcess s
  | terminating => exact leads_releaseEndpoint s

/-! ### Starting -/

theorem leads_unlock (s : Session) : Leads P s s.unlock := .frame rfl rfl rfl

theorem leads_startReturns (s : Session) (error : Option StartError) (he : ∀ e ∈ error, P e) :
    Leads P s (s.startReturns i error) :=
  (leads_goTo s i (.started error) nofun rfl he).trans (leads_unlock _)

theorem leads_await (s : Session) (hc : s.cancelled = true → P .cancelled)
    (hp : p ≠ .startWaiting) (hd : p.disposes = false) (he : p.error? = none) :
    Leads P s (s.await i p) := by
  unfold await
  split
  · next h => exact leads_startReturns s _ (by simpa using hc h)
  · exact leads_goTo s i p hp hd (by simp [he])

theorem leads_advance {next : Stage} {go : Session → Session} (h : s.stage.allows next = true)
    (hgo : Leads P (s.moveTo next) (go (s.moveTo next))) : Leads P s (s.advance i next go) := by
  unfold advance
  rw [if_pos h]
  exact (leads_moveTo s next).trans hgo

theorem leads_failingOn {x : Session × Option Releasing} (h : Leads P s x.1)
    (hf : P (.failed f)) : Leads P s (failingOn i f x) := by
  obtain ⟨t, r⟩ := x
  cases r with
  | some r => exact h.trans (leads_goTo t i _ nofun rfl (by simpa [Point.error?] using hf))
  | none => exact h.trans (leads_startReturns t _ (by simpa using hf))

theorem leads_startFails (s : Session) (hf : P (.failed f)) : Leads P s (s.startFails i f) :=
  leads_failingOn ((leads_fail s hf).trans (leads_release _ true)) hf

theorem moveTo_registry (s : Session) (next : Stage) : (s.moveTo next).registry = s.registry := by
  unfold moveTo
  split <;> rfl

theorem moveTo_settings (s : Session) (next : Stage) : (s.moveTo next).settings = s.settings := by
  unfold moveTo
  split <;> rfl

theorem leads_beginStart (hs : s.stage = .uninstalled) (hc : s.cancelled = true → P .cancelled) :
    Leads P s (s.beginStart i) := by
  unfold beginStart
  rw [if_neg (by simp [hs])]
  have hallows : s.stage.allows .installing = true := by rw [hs]; rfl
  refine leads_advance hallows ?_
  refine leads_await _ (by rwa [moveTo_cancelled]) ?_ ?_ ?_
  · split <;> nofun
  · split <;> rfl
  · split <;> rfl

theorem leads_spawn (hs : s.stage = .launching) (hc : s.cancelled = true → P .cancelled)
    (hspawn : ∀ e, P (.failed (.ofSpawn e))) (e : Endpoint) : Leads P s (s.spawn i a e) := by
  have hallows : s.stage.allows .awaitingBind = true := by rw [hs]; rfl
  unfold spawn
  dsimp only
  split
  · exact (leads_startFails _ (hspawn _)).after rfl rfl rfl
  · refine Leads.after (leads_advance ?_ ?_) rfl rfl rfl
    · exact hallows
    · exact leads_await _ (by rwa [moveTo_cancelled]) nofun rfl rfl

theorem leads_launch (hs : s.stage = .installing) (hc : s.cancelled = true → P .cancelled)
    (hallocate : ∀ e, s.registry.allocate s.settings.transport a.freshPath a.freePort = .error e →
      P (.failed (.ofAllocate e)))
    (hoccupied : ∀ e, P (.failed (.ofOccupied e))) (hspawn : ∀ e, P (.failed (.ofSpawn e))) :
    Leads P s (s.launch i a) := by
  have hallows : s.stage.allows .installed = true := by rw [hs]; rfl
  have hinstalled := moveTo_stage hallows
  have hallows' : (s.moveTo .installed).stage.allows .launching = true := by rw [hinstalled]; rfl
  have hnext := moveTo_stage hallows'
  unfold launch
  refine leads_advance hallows (leads_advance hallows' ?_)
  rw [← moveTo_cancelled s .installed, ← moveTo_cancelled _ .launching] at hc
  rw [← moveTo_registry s .installed, ← moveTo_registry _ .launching,
    ← moveTo_settings s .installed, ← moveTo_settings _ .launching] at hallocate
  generalize (s.moveTo .installed).moveTo .launching = t at hnext hc hallocate
  split
  · next e he => exact leads_startFails t (hallocate e he)
  · split
    · exact (leads_startFails _ (hoccupied _)).after rfl rfl rfl
    · refine Leads.after (leads_spawn ?_ ?_ hspawn _) rfl rfl rfl
      · exact hnext
      · exact hc

theorem leads_activate (hs : s.stage = .connecting) : Leads P s (s.activate i) := by
  have hallows : s.stage.allows .active = true := by rw [hs]; rfl
  unfold activate
  split
  · refine Leads.after (leads_advance ?_ ?_) rfl rfl rfl
    · exact hallows
    · refine Leads.trans ?_ (leads_startReturns _ none nofun)
      exact leads_concat rfl rfl rfl nofun rfl nofun
  · exact .refl s

theorem leads_bound (hs : s.stage = .awaitingBind) (hc : s.cancelled = true → P .cancelled)
    (htimeout : ∀ e after, P (.failed (.ofBindTimeout e after)))
    (hexit : ∀ e, P (.failed (earlyExit e))) (ready : Bool) : Leads P s (s.bound i ready) := by
  have hallows : s.stage.allows .connecting = true := by rw [hs]; rfl
  unfold bound
  split
  · exact .refl s
  · split
    · exact leads_startFails s (htimeout _ _)
    · refine leads_advance hallows ?_
      split
      · exact leads_startFails _ (hexit _)
      · exact leads_activate (moveTo_stage hallows)
      · exact leads_await _ (by rwa [moveTo_cancelled]) nofun rfl rfl

theorem leads_disposingOn {x : Session × Option Releasing} (h : Leads P s x.1)
    (hi : s.tasks[i]? = some p) (hp : p.disposes = true) (last : Bool) :
    Leads P s (disposingOn i last x) := by
  obtain ⟨t, r⟩ := x
  cases r with
  | some r => exact h.goTo_of_disposes hi hp rfl
  | none =>
    refine Leads.trans (Leads.goTo_of_disposes ?_ hi hp rfl) (leads_unlock _)
    cases last
    · exact h
    · exact h.trans ((leads_moveTo t .stopped).before rfl rfl rfl)

theorem leads_beginDispose (hi : s.tasks[i]? = some p) (hp : p.disposes = true) :
    Leads P s (s.beginDispose i) := by
  unfold beginDispose
  split
  · exact leads_disposingOn (leads_release s true) hi hp false
  · dsimp only
    split
    · exact (leads_moveTo s _).goTo_of_disposes hi hp rfl
    · exact leads_disposingOn ((leads_moveTo s _).trans (leads_release _ true)) hi hp true

theorem leads_watchOn {x : Session × Option Releasing} (h : Leads P s x.1) :
    Leads P s (watchOn i x) := by
  obtain ⟨t, r⟩ := x
  cases r with
  | some r => exact h.trans (leads_goTo t i _ nofun rfl nofun)
  | none => exact h.trans ((leads_goTo t i (.watched true) nofun rfl nofun).trans (leads_unlock _))

theorem leads_lose (s : Session) (hf : P (.failed f)) : Leads P s (s.lose i f) := by
  unfold lose
  split
  · exact leads_goTo s i _ nofun rfl nofun
  · split
    · exact (leads_fail s hf).trans (leads_goTo _ i _ nofun rfl nofun)
    · exact leads_goTo s i _ nofun rfl nofun

/-! ### Moves -/

theorem leads_grant (hc : s.cancelled = true → P .cancelled)
    (hlate : s.tasks[i]? = some .startWaiting → s.stage ≠ .uninstalled →
      P (.notStartable s.stage)) :
    Leads P s (s.grant i) := by
  have hg := granted s i
  generalize s.grant i = s' at hg ⊢
  cases hg with
  | idle => exact .refl s
  | refused _ hp hs =>
    exact leads_goTo s i _ nofun rfl (by simpa [Point.error?] using hlate hp hs)
  | start _ _ hfirst =>
    refine Leads.after (leads_beginStart ?_ ?_) rfl rfl rfl
    · exact hfirst
    · exact hc
  | dispose _ hp => exact Leads.after (leads_beginDispose hp rfl) rfl rfl rfl
  | watch => exact leads_watchOn ((leads_release _ true).after rfl rfl rfl)

theorem leads_resume (s : Session) {go : Session → Session} (hc : s.cancelled = true → P .cancelled)
    (hgo : Leads P s (go s)) : Leads P s (s.resume i go) := by
  unfold resume
  split
  · next h => exact leads_startReturns s _ (by simpa using hc h)
  · exact hgo

/-- **Whatever a move blames has a cause in it.** A call only adds a task. -/
theorem Sound.leads_step {held : List Nat} (h : Sound held s) (a : Answers) {m : Move}
    (hstart : m ≠ .start) (hdispose : m ≠ .dispose) : Leads (Cause s a m) s (s.step a m) := by
  have hc : s.cancelled = true → Cause s a m .cancelled := .cancelled
  cases m with
  | start => exact absurd rfl hstart
  | dispose => exact absurd rfl hdispose
  | exits | ends =>
    rw [Session.step]
    split <;> exact .frame rfl rfl rfl
  | takeEvents => exact .frame rfl rfl rfl
  | grant i => exact leads_grant hc (.late rfl)
  | checked i found =>
    rw [Session.step]
    split
    · refine leads_resume s hc ?_
      split
      · exact leads_await s hc (by simp) rfl rfl
      · exact leads_goTo s _ _ (by simp) rfl (by simp [Point.error?])
    · exact .refl s
  | ensured i ok =>
    rw [Session.step]
    split
    · refine leads_resume s hc ?_
      split
      · exact leads_await s hc (by simp) rfl rfl
      · exact leads_startFails s .provisioning
    · exact .refl s
  | listed i ok =>
    rw [Session.step]
    split
    · next hp =>
      refine leads_resume s hc ?_
      split
      · exact leads_launch (h.fits i _ hp).1 hc (fun _ => .allocate rfl hp) .occupied .spawn
      · exact leads_startFails s .provisioning
    · exact .refl s
  | bound i ready =>
    rw [Session.step]
    split
    · next hp =>
      exact leads_resume s hc (leads_bound (h.fits i _ hp).1 hc .bindTimeout .earlyExit ready)
    · exact .refl s
  | connected i result =>
    rw [Session.step]
    split
    · next hp =>
      refine leads_resume s hc ?_
      cases result with
      | ok _ => exact leads_activate (h.fits i _ hp).1
      | error e => exact leads_startFails s (.connect e)
    · exact .refl s
  | cancel i =>
    rw [Session.step]
    split
    · exact .refl s
    · next hcancelled =>
      have hcause := hc (by simpa using hcancelled)
      split
      on_goal 6 => exact .refl s
      all_goals exact leads_startReturns s _ (by simpa using hcause)
  | shaken i =>
    rw [Session.step]
    split
    · next hp => exact leads_disposingOn (leads_release s true) hp rfl true
    · exact .refl s
  | released i =>
    rw [Session.step]
    split
    · next f r hp => exact leads_failingOn (leads_releaseOn s r) (.before hp)
    · next r hp => exact leads_disposingOn (leads_releaseOn s r) hp rfl _
    · next r _ => exact leads_watchOn (leads_releaseOn s r)
    · exact .refl s
  | seeExit i =>
    rw [Session.step]
    split
    · exact leads_lose s (.exit _)
    · exact .refl s
  | seeEnd i =>
    rw [Session.step]
    split
    · exact leads_goTo s i _ (by simp) rfl (by simp [Point.error?])
    · exact .refl s
  | linger i =>
    rw [Session.step]
    split
    · exact leads_lose s (.channelLoss _ _)
    · exact .refl s

/-- The session, or a start of it, says that it failed with `f`. -/
def Blames (s : Session) (f : Failure) : Prop :=
  s.failure = some f ∨ ∃ (i : Nat) (p : Point), s.tasks[i]? = some p ∧ p.error? = some (.failed f)

theorem Leads.blames (h : Leads P s s') (hb : s'.Blames f) : s.Blames f ∨ P (.failed f) := by
  rcases hb with hf | ⟨i, p, hp, he⟩
  · rcases h.failure with hsame | ⟨g, hg, hP⟩
    · exact .inl (.inl (hsame.symm.trans hf))
    · rw [hg] at hf
      cases hf
      exact .inr hP
  · rcases h.points i p hp with hp | ⟨-, herr⟩
    · exact .inl (.inr ⟨i, p, hp, he⟩)
    · exact .inr (herr _ he)

/-- The last letter of a text is that of its last part. -/
theorem getLast?_append_text (text rest : String) {x : Char} (h : rest.toList.getLast? = some x) :
    (text ++ rest).toList.getLast? = some x := by
  rw [String.toList_append, List.getLast?_append, h]
  rfl

theorem ofOccupied_ne_leased (e : Endpoint) (port : Nat) :
    Failure.ofOccupied e ≠ .ofAllocate (.leased port) := by
  intro h
  have hs : (Failure.ofOccupied e).message.toList.getLast? = some 's' :=
    getLast?_append_text _ _ (by decide)
  have hn : (Failure.ofAllocate (.leased port)).message.toList.getLast? = some 'n' :=
    getLast?_append_text _ _ (by decide)
  rw [h, hn] at hs
  cases hs

/-- Only a lease that is refused is blamed as one. -/
theorem Cause.of_leased {m : Move} {port : Nat}
    (h : Cause s a m (.failed (.ofAllocate (.leased port)))) :
    s.Blames (.ofAllocate (.leased port)) ∨
      (∃ i : Nat, s.tasks[i]? = some .listing) ∧ s.registry.ports ≠ [] := by
  generalize hf : Failure.ofAllocate (.leased port) = f at h
  -- the stage tells most failures apart, and the kind the rest
  cases h with
  | @allocate i _ e _ hp ha =>
    cases e with
    | leased port' =>
      have hmem := (Registry.allocate_eq_leased_iff.1 ha).2.2
      exact .inr ⟨⟨i, hp⟩, List.ne_nil_of_mem hmem⟩
    | exhausted | probe => cases congrArg Failure.kind hf
  | spawn => cases congrArg Failure.kind hf
  | occupied e => exact absurd hf.symm (ofOccupied_ne_leased e port)
  | before hp => exact .inl (.inr ⟨_, _, hp, rfl⟩)
  | channelLoss _ e => cases e <;> cases congrArg Failure.stage hf
  | _ => cases congrArg Failure.stage hf

/-- **A session that asks for leases only where there are none never blames one.** -/
theorem Sound.not_blames_leased_step {held : List Nat} (h : Sound held s)
    (hfree : ∀ i : Nat, s.tasks[i]? = some .listing → s.registry.ports = [])
    (hb : ∀ port, ¬ s.Blames (.ofAllocate (.leased port))) (a : Answers) (m : Move) (port : Nat) :
    ¬ (s.step a m).Blames (.ofAllocate (.leased port)) := by
  intro hblames
  by_cases hm : m = .start ∨ m = .dispose
  · have hcall : s.Blames (.ofAllocate (.leased port)) := by
      rcases hm with rfl | rfl <;> rcases hblames with hf | ⟨i, p, hp, he⟩
      on_goal 1 => exact .inl hf
      on_goal 2 => exact .inl hf
      all_goals
        rcases of_getElem?_concat hp with ⟨-, rfl⟩ | hp
        · cases he
        · exact .inr ⟨i, p, hp, he⟩
    exact hb port hcall
  · rw [not_or] at hm
    rcases (h.leads_step a hm.1 hm.2).blames hblames with hblames | hcause
    · exact hb port hblames
    · rcases hcause.of_leased with hblames | ⟨⟨i, hp⟩, hports⟩
      · exact hb port hblames
      · exact hports (hfree i hp)

/-! ### A start that nobody disturbs -/

/-- Only one start was called, and until the session is disposed of that is all there is: it waits
for a session that has not begun, or it has gone on, and if it does not succeed the session has
failed. -/
structure Undisturbed (s : Session) : Prop where
  waits : s.cancelled = false → ∀ i : Nat, s.tasks[i]? = some .startWaiting →
    s.tasks = [.startWaiting] ∧ s.stage = .uninstalled
  fails : s.cancelled = false → ∀ (i : Nat) (p : Point) (e : StartError), s.tasks[i]? = some p →
    p.error? = some e → ∃ f, e = .failed f

/-- While there is only a start that waits, nothing happens until it gets the resources. -/
theorem step_of_waiting (h : s.tasks = [.startWaiting]) {m : Move} (hstart : m ≠ .start)
    (hdispose : m ≠ .dispose) (hgrant : ∀ i, m ≠ .grant i) :
    (s.step a m).tasks = s.tasks ∧ (s.step a m).stage = s.stage := by
  have hpoint : ∀ (i : Nat) (p : Point), s.tasks[i]? = some p → p = .startWaiting := by
    intro i p hp
    rw [h] at hp
    simpa using List.mem_of_getElem? hp
  cases m with
  | start => exact absurd rfl hstart
  | dispose => exact absurd rfl hdispose
  | grant i => exact absurd rfl (hgrant i)
  | takeEvents => exact ⟨rfl, rfl⟩
  | exits | ends =>
    rw [step]
    split <;> exact ⟨rfl, rfl⟩
  | cancel i =>
    rw [step]
    split
    · exact ⟨rfl, rfl⟩
    · split
      on_goal 6 => exact ⟨rfl, rfl⟩
      all_goals next hp => cases hpoint _ _ hp
  | released i =>
    rw [step]
    split
    on_goal 4 => exact ⟨rfl, rfl⟩
    all_goals next hp => cases hpoint _ _ hp
  | seeExit i | seeEnd i =>
    rw [step]
    split
    · next hp _ => cases hpoint _ _ hp
    · exact ⟨rfl, rfl⟩
  | _ =>
    rw [step]
    split
    · next hp => cases hpoint _ _ hp
    · exact ⟨rfl, rfl⟩

theorem tasks_beginStart (hs : s.stage = .uninstalled) (hc : s.cancelled = false) :
    ∃ p, p ≠ .startWaiting ∧ (s.beginStart i).tasks = s.tasks.set i p := by
  have hallows : s.stage.allows .installing = true := by rw [hs]; rfl
  have hnext : s.moveTo .installing =
      { s with stage := .installing, history := s.history ++ [.installing] } := if_pos hallows
  unfold beginStart advance await
  rw [if_neg (by simp [hs]), if_pos hallows, hnext]
  dsimp only
  rw [if_neg (by simp [hc])]
  refine ⟨_, ?_, rfl⟩
  split <;> nofun

/-- When the only start gets the resources, it no longer waits for them. -/
theorem grant_of_waiting (h : s.tasks = [.startWaiting]) (hs : s.stage = .uninstalled)
    (hc : s.cancelled = false) :
    s.grant i = s ∨ ∀ j : Nat, (s.grant i).tasks[j]? ≠ some .startWaiting := by
  have hpoint : ∀ p : Point, s.tasks[i]? = some p → p = .startWaiting := by
    intro p hp
    rw [h] at hp
    simpa using List.mem_of_getElem? hp
  have hg := granted s i
  generalize s.grant i = s' at hg ⊢
  cases hg with
  | idle => exact .inl rfl
  | refused _ _ hlate => exact absurd hs hlate
  | start _ hp _ =>
    have hi : i = 0 := by
      have hlt := lt_length_of_getElem? hp
      rw [h] at hlt
      simpa using hlt
    subst hi
    obtain ⟨p, hp, htasks⟩ := tasks_beginStart (s := { s with holder := some 0 }) (i := 0) hs hc
    refine .inr fun j hj => hp ?_
    rw [htasks, h] at hj
    have hmem := List.mem_of_getElem? hj
    simpa using (List.mem_singleton.1 hmem).symm
  | dispose _ hp => cases hpoint _ hp
  | watch _ hp => cases hpoint _ hp

/-- **Nothing but another call disturbs a start.** -/
theorem Undisturbed.step {held : List Nat} (hu : Undisturbed s) (h : Sound held s) (a : Answers)
    {m : Move} (hm : m ≠ .start) : Undisturbed (s.step a m) := by
  by_cases hd : m = .dispose
  · subst hd
    exact ⟨nofun, nofun⟩
  have hl := h.leads_step a hm hd
  constructor
  · intro hc i hp
    rw [hl.cancelled] at hc
    rcases hl.points i _ hp with hp' | ⟨hne, -⟩
    · obtain ⟨htasks, hstage⟩ := hu.waits hc i hp'
      by_cases hg : ∃ j, m = .grant j
      · obtain ⟨j, rfl⟩ := hg
        rcases grant_of_waiting htasks hstage hc (i := j) with hsame | hgone
        · rw [Session.step, hsame]
          exact ⟨htasks, hstage⟩
        · exact absurd hp (hgone i)
      · obtain ⟨hsame, hsame'⟩ := step_of_waiting (a := a) htasks hm hd fun j hj => hg ⟨j, hj⟩
        exact ⟨hsame.trans htasks, hsame'.trans hstage⟩
    · exact absurd rfl hne
  · intro hc i p e hp he
    rw [hl.cancelled] at hc
    rcases hl.points i p hp with hp | ⟨-, hcause⟩
    · exact hu.fails hc i p e hp he
    · cases hcause e he with
      | cancelled hs => rw [hc] at hs; cases hs
      | late _ hwaits hlate => exact absurd (hu.waits hc _ hwaits).2 hlate
      | _ => exact ⟨_, rfl⟩

/-- A start that nobody has disturbed and that does not succeed leaves the session failed. -/
theorem Undisturbed.failed {held : List Nat} (hu : Undisturbed s) (h : Sound held s)
    (hc : s.cancelled = false) {e : StartError} (hp : s.tasks[i]? = some (.started (some e))) :
    (∃ f, e = .failed f) ∧ s.stage = .failed := by
  obtain ⟨f, rfl⟩ := hu.fails hc i _ e hp rfl
  refine ⟨⟨f, rfl⟩, ?_⟩
  have hterm := ((h.fits i _ hp).settled rfl).1
  have hst := h.standing
  unfold Standing at hst
  cases hs : s.stage with
  | failed => rfl
  | stopped =>
    rw [hs] at hst
    rw [hc] at hst
    cases hst
  | _ => rw [hs] at hterm; cases hterm

end Sidecar.Session
