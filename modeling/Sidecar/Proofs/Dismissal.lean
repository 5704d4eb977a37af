/-
# How a run leaves its session

A run has one session, and many ways out: the start fails, the server does not
take what it is told, a file is not there, a diagnostic cannot be shown, the
events end, the user interrupts it. A start that has failed, the end of the
events and an interruption are followed by a shutdown. Once that has returned,
the session has been disposed of: it has ended, its server, its endpoint and
its channel are given back, its lease is free again and its local socket is
gone (`TornDown`). On every other way out the run just returns, and the
manager goes with it. That kills the server and frees the lease; but nobody
has disposed of the session, it is in the stage in which it was, and its local
socket stays where it is, with no session that would remove it (`LetGo`).

A world has a manager, which only a start and a shutdown call. Whatever else
happens, the manager sees nothing of it but moves that its sessions make by
themselves and what others write to the output channel. Servers make local
sockets only where a session has its endpoint.

Key definitions: `Scene.Passes`, `Scene.TornDown`, `Scene.LetGo`, `RunWorld.Managed`.
Key theorems: `Manager.Attending.step`, `Manager.Dismissing.step`, `RunWorld.run_leaves_session`.
-/
import Mathlib.Logic.Relation
import Sidecar.Cli.Run
import Sidecar.Proofs.Succession
import Sidecar.Proofs.Usability

namespace Sidecar

namespace Session

variable {held : List Nat} {s : Session}

/-- What a session is when it was let go: nobody has disposed of it, and it is in the stage in which
it was. -/
structure Dropped (s s' : Session) : Prop where
  stage : s'.stage = s.stage
  cancelled : s'.cancelled = true
  undisposed : .disposed ∉ s'.tasks
  resources : s'.resources = {}
  handle : s'.handle = none
  client : s'.client = false

theorem Wanted.dropped (h : s.Wanted) : Dropped s s.discard := by
  have hsteady := steady_releaseEndpoint s.abortWatcher
  refine ⟨hsteady.1.trans ?_, rfl, fun hmem => ?_, rfl, rfl, rfl⟩
  · unfold abortWatcher
    split <;> rfl
  · have hleads := (leads_abortWatcher (P := fun _ => False) s).trans (leads_releaseEndpoint _)
    have hdisposes := (hleads.wanted h).undisposed .disposed hmem
    cases hdisposes

/-- The lease of a session that was let go is free. -/
theorem Sound.perm_discard (h : Sound held s) : s.discard.registry.ports.Perm held := by
  have habort : s.abortWatcher.registry = s.registry ∧ s.abortWatcher.resources = s.resources := by
    unfold abortWatcher
    split <;> exact ⟨rfl, rfl⟩
  show s.abortWatcher.releaseEndpoint.registry.ports.Perm held
  have hperm := h.leases
  unfold releaseEndpoint
  rw [habort.1, habort.2]
  split
  · next e he =>
    simp only [Session.leases, he, Option.bind_some] at hperm
    exact Registry.perm_release hperm
  · next he =>
    simpa [Session.leases, he, habort.1] using hperm

end Session

namespace Manager

variable {m : Manager} {s : Session} {a : Answers} {i j k task : Nat} {mv : Session.Move}
  {p : Session.Point}

/-- What others write changes nothing that counts. -/
theorem Sound.write (h : Sound m) (sink : Sink) : Sound { m with sink } where
  past := h.past
  last := h.last
  live k s hk hs :=
    (h.live k s hk hs).congr rfl rfl rfl rfl rfl rfl rfl (h.live k s hk hs).leases
  absent := h.absent
  current := h.current
  unblamed := h.unblamed

theorem Kept.write (h : Kept m) (sink : Sink) : Kept { m with sink } :=
  ⟨h.undisturbed, h.wanted, h.starting, h.returned⟩

/-- What a task has ended with stays, whatever the sessions do. -/
theorem Sound.point?_stepSession (h : Sound m) (hp : m.point? j i = some p)
    (he : p.hasEnded = true) : (m.stepSession a k mv).point? j i = some p := by
  obtain ⟨t, ht, hpoint⟩ := Option.bind_eq_some_iff.1 hp
  cases hs : m.sessions[k]? with
  | none =>
    rw [Manager.stepSession, hs]
    exact hp
  | some s =>
    rw [stepSession_eq hs]
    refine Option.bind_eq_some_iff.2 ?_
    by_cases hjk : k = j
    · subst hjk
      rw [hs] at ht
      cases ht
      obtain ⟨held, hsound⟩ := h.sound_view hs
      have hlt : k < m.sessions.length := (List.getElem?_eq_some_iff.1 hs).1
      exact ⟨_, List.getElem?_set_self hlt, hsound.ended_step hpoint he⟩
    · exact ⟨t, (List.getElem?_set_ne hjk).trans ht, hpoint⟩

/-- While there is a current session, the manager waits for nothing but its start. -/
theorem Sound.advance_of_current (h : Sound m) (hk : m.current = some k) :
    m.advance a = m ∨ m.advance a = { m with phase := .idle } := by
  unfold Manager.advance
  split
  · exact .inl rfl
  · next j task again hphase =>
    have hnone := h.current j task again hphase
    rw [hk] at hnone
    cases hnone
  · split
    · exact .inr rfl
    · exact .inl rfl

/-- The manager has had one session, and that is the current one. -/
structure Attending (m : Manager) : Prop where
  sound : Sound m
  kept : Kept m
  single : m.sessions.length = 1
  current : m.current = some 0

theorem Fresh.attending (h : Fresh m) (a : Answers) : Attending (m.step a .start) := by
  have hown : ∀ x ∈ [(Move.start, a)], x.1.Own := by simp [Move.Own]
  have hsessions : m.sessions = [] := by rw [h]
  have hcurrent : m.current = none := by rw [h]
  have hphase : m.phase = .idle := by rw [h]
  have hstep : m.step a .start = m.beginStart a := by
    simp [step, hphase, beginShutdown, hcurrent]
  refine ⟨h.sound.step a .start, h.kept_run hown, ?_, ?_⟩
  · rw [hstep, beginStart_eq, hsessions]
    rfl
  · rw [hstep, beginStart_eq, hsessions]
    rfl

/-- **A session that nobody calls stays the current one.** -/
theorem Attending.step (h : Attending m) (a : Answers) (hown : Move.Own (.session k mv)) :
    Attending (m.step a (.session k mv)) := by
  have hcurrent : (m.stepSession a k mv).current = some 0 := current_stepSession.trans h.current
  have hsingle : (m.stepSession a k mv).sessions.length = 1 := length_stepSession.trans h.single
  -- the manager may only notice that the start has returned
  have hsteps := (h.sound.stepSession a k mv).advance_of_current (a := a) hcurrent
  refine ⟨h.sound.step a _, h.kept.step h.sound a hown, ?_, ?_⟩
  · show ((m.stepSession a k mv).advance a).sessions.length = 1
    rcases hsteps with hsame | hidle
    · rw [hsame, hsingle]
    · rw [hidle]
      exact hsingle
  · show ((m.stepSession a k mv).advance a).current = some 0
    rcases hsteps with hsame | hidle
    · rw [hsame, hcurrent]
    · rw [hidle]
      exact hcurrent

theorem Attending.write (h : Attending m) (sink : Sink) : Attending { m with sink } :=
  ⟨h.sound.write sink, h.kept.write sink, h.single, h.current⟩

/-- The one session is being disposed of, or has been. -/
structure Dismissing (task : Nat) (m : Manager) : Prop where
  sound : Sound m
  single : m.sessions.length = 1
  current : m.current = none
  phase : m.phase = .disposing 0 task false ∨
    m.phase = .idle ∧ m.point? 0 task = some .disposed

theorem Attending.dismissing (h : Attending m) (hidle : m.phase = .idle) (a : Answers) :
    ∃ task, Dismissing task (m.step a .shutdown) := by
  let task := ((m.sessions[0]?).map fun s => s.tasks.length).getD 0
  have hstep : m.step a .shutdown =
      { m.stepSession a 0 .dispose with current := none, phase := .disposing 0 task false } := by
    simp [Manager.step, hidle, beginShutdown, h.current, task]
  refine ⟨task, h.sound.step a .shutdown, ?_, ?_, ?_⟩
  · rw [hstep]
    exact length_stepSession.trans h.single
  · rw [hstep]
  · exact .inl (by rw [hstep])

/-- **A session that is being disposed of goes**, and does not come back. -/
theorem Dismissing.step (h : Dismissing task m) (a : Answers) (k : Nat) (mv : Session.Move) :
    Dismissing task (m.step a (.session k mv)) := by
  have hsound := h.sound.step a (.session k mv)
  have hsingle : (m.stepSession a k mv).sessions.length = 1 := length_stepSession.trans h.single
  have hcurrent : (m.stepSession a k mv).current = none := current_stepSession.trans h.current
  rcases h.phase with hphase | ⟨hidle, hpoint⟩
  · have hsame : (m.stepSession a k mv).phase = .disposing 0 task false :=
      phase_stepSession.trans hphase
    have hstep : m.step a (.session k mv) = (m.stepSession a k mv).advance a := rfl
    rcases advance_of_disposing (a := a) hsame with ⟨hwaits, -⟩ | ⟨hdone, hpoint⟩
    · rw [hstep, hwaits] at hsound ⊢
      exact ⟨hsound, hsingle, hcurrent, .inl hsame⟩
    · rw [hstep, hdone] at hsound ⊢
      exact ⟨hsound, hsingle, hcurrent, .inr ⟨rfl, hpoint⟩⟩
  · rw [step_of_idle hidle] at hsound ⊢
    exact ⟨hsound, hsingle, hcurrent,
      .inr ⟨phase_stepSession.trans hidle, h.sound.point?_stepSession hpoint rfl⟩⟩

theorem Dismissing.write (h : Dismissing task m) (sink : Sink) : Dismissing task { m with sink } :=
  ⟨h.sound.write sink, h.single, h.current, h.phase⟩

/-- Nothing is left of the session when the manager has done with it. -/
theorem Dismissing.cleared (h : Dismissing task m) (hidle : m.phase = .idle) :
    ∃ s, m.sessions = [s] ∧ .disposed ∈ s.tasks ∧ Session.Cleared [] (m.view s) := by
  have hpoint : m.point? 0 task = some .disposed := by
    rcases h.phase with hphase | ⟨-, hpoint⟩
    · rw [hidle] at hphase
      cases hphase
    · exact hpoint
  have hnone : m.present? = none := by rw [present?, hidle, h.current]
  obtain ⟨s, hs⟩ := List.length_eq_one_iff.1 h.single
  have hfirst : m.sessions[0]? = some s := by rw [hs]; rfl
  have hpast := h.sound.past 0 s hfirst (by simp [hnone])
  obtain ⟨hterminal, hresources, hhandle, hclient⟩ := hpast.cleared
  refine ⟨s, hs, ?_, hterminal, hresources, hhandle, hclient, ?_⟩
  · rw [point?, hfirst] at hpoint
    exact List.mem_of_getElem? hpoint
  · show m.registry.ports.Perm []
    rw [h.sound.absent hnone]

end Manager

/-! ### What passes between two calls -/

/-- A manager, and the local sockets that are there. -/
structure Scene where
  manager : Manager
  sockets : List String := []

namespace Scene

variable {x y : Scene} {sockets : List String}

/-- The manager goes, and the current session with it. Nobody removes its socket. -/
def discard (x : Scene) : Scene := { x with manager := x.manager.discard }

/-- A move of the manager. A session that gives its endpoint back removes its socket. -/
def act (x : Scene) (a : Answers) (mv : Manager.Move) : Scene where
  manager := x.manager.step a mv
  sockets := x.manager.remaining (x.manager.step a mv) x.sockets

/-- What happens without a call to the manager. -/
inductive Happens (x : Scene) : Scene → Prop where
  /-- A session makes a move by itself. -/
  | move (a : Answers) {k : Nat} {mv : Session.Move} (hown : Manager.Move.Own (.session k mv)) :
    Happens x (x.act a (.session k mv))
  /-- Someone writes to the output channel. -/
  | write (sink : Sink) : Happens x { x with manager := { x.manager with sink } }
  /-- A server makes the local socket of a session. -/
  | bind {path : String} (hheld : path ∈ x.manager.socketPaths) :
    Happens x { x with sockets := path :: x.sockets }

/-- All that happens between two calls. -/
def Passes : Scene → Scene → Prop := Relation.ReflTransGen Happens

theorem Passes.keeps {P : Manager → Prop} (h : Passes x y) (hx : P x.manager)
    (hmove : ∀ m a k mv, Manager.Move.Own (.session k mv) → P m → P (m.step a (.session k mv)))
    (hwrite : ∀ m sink, P m → P { m with sink }) : P y.manager := by
  induction h with
  | refl => exact hx
  | tail _ hlast ih =>
    cases hlast with
    | move a hown => exact hmove _ a _ _ hown ih
    | write sink => exact hwrite _ sink ih
    | bind => exact ih

theorem Passes.attending (h : Passes x y) (hx : x.manager.Attending) : y.manager.Attending :=
  h.keeps hx (fun _ a _ _ hown hm => hm.step a hown) fun _ sink hm => hm.write sink

theorem Passes.dismissing {task : Nat} (h : Passes x y) (hx : x.manager.Dismissing task) :
    y.manager.Dismissing task :=
  h.keeps hx (fun _ a k mv _ hm => hm.step a k mv) fun _ sink hm => hm.write sink

/-- A start that has returned stays as it has returned, and the manager goes on waiting for
nothing. -/
theorem Passes.returned {r : Option StartError} (h : Passes x y) (hx : x.manager.Attending)
    (hidle : x.manager.phase = .idle) (hpoint : x.manager.point? 0 0 = some (.started r)) :
    y.manager.phase = .idle ∧ y.manager.point? 0 0 = some (.started r) := by
  have hall : y.manager.Sound ∧ y.manager.phase = .idle ∧
      y.manager.point? 0 0 = some (.started r) := by
    refine h.keeps (P := fun m => m.Sound ∧ m.phase = .idle ∧ m.point? 0 0 = some (.started r))
      ⟨hx.sound, hidle, hpoint⟩ ?_ ?_
    · rintro m a k mv - ⟨hsound, hidle, hpoint⟩
      refine ⟨hsound.step a _, ?_, ?_⟩
      · rw [Manager.step_of_idle hidle, Manager.phase_stepSession, hidle]
      · rw [Manager.step_of_idle hidle]
        exact hsound.point?_stepSession hpoint rfl
    · rintro m sink ⟨hsound, hidle, hpoint⟩
      exact ⟨hsound.write sink, hidle, hpoint⟩
  exact hall.2

/-- Every socket was there before or belongs to a session. -/
def Tracked (sockets : List String) (x : Scene) : Prop :=
  ∀ path ∈ x.sockets, path ∈ sockets ∨ path ∈ x.manager.socketPaths

theorem Tracked.act (h : Tracked sockets x) (a : Answers) (mv : Manager.Move) :
    Tracked sockets (x.act a mv) := by
  intro path hpath
  obtain ⟨hbefore, hleft⟩ := List.mem_filter.1 hpath
  rcases h path hbefore with hold | hheld
  · exact .inl hold
  · rw [List.contains_iff_mem.2 hheld, Bool.not_true, Bool.false_or] at hleft
    exact .inr (List.contains_iff_mem.1 hleft)

theorem Passes.tracked (h : Passes x y) (hx : Tracked sockets x) : Tracked sockets y := by
  induction h with
  | refl => exact hx
  | tail _ hlast ih =>
    cases hlast with
    | move a => exact ih.act a _
    | write => exact ih
    | bind hheld =>
      intro path hpath
      rcases List.mem_cons.1 hpath with rfl | hpath
      · exact .inr hheld
      · exact ih path hpath

/-! ### Both ways out -/

/-- The only session was disposed of and nothing is left of it, nor of its socket. -/
structure TornDown (x y : Scene) : Prop where
  current : y.manager.current = none
  session : ∃ s, y.manager.sessions = [s] ∧ .disposed ∈ s.tasks ∧
    Session.Cleared [] (y.manager.view s)
  sockets : ∀ path ∈ y.sockets, path ∈ x.sockets

/-- The only session is the current one, was started and is still wanted. It is either live, with
its server and its endpoint, or it was lost. -/
structure Holds (x : Scene) (s : Session) : Prop where
  current : x.manager.current = some 0
  session : x.manager.sessions = [s]
  started : s.tasks[0]? = some (.started none)
  wanted : s.Wanted
  stage : s.stage = .failed ∨ s.stage = .active ∧ ∃ h e, Session.Serves (x.manager.view s) h e

/-- The only session was let go. Its lease is free, but a local socket is still there, and no
session has it. -/
structure LetGo (x : Scene) (s : Session) (y : Scene) : Prop where
  current : y.manager.current = none
  session : ∃ s', y.manager.sessions = [s'] ∧ Session.Dropped s s'
  leases : y.manager.registry.ports = []
  sockets : y.sockets = x.sockets
  unowned : y.manager.socketPaths = []

/-- Nobody has disposed of a session that was let go. -/
theorem LetGo.not_tornDown {z : Scene} {s : Session} (h : LetGo x s y) : ¬ TornDown z y := by
  intro htorn
  obtain ⟨s', hs', hdropped⟩ := h.session
  obtain ⟨t, ht, hdisposed, -⟩ := htorn.session
  rw [hs'] at ht
  cases ht
  exact hdropped.undisposed hdisposed

theorem tornDown_of_dismissing {task : Nat} (hy : y.manager.Dismissing task)
    (hidle : y.manager.phase = .idle) (htracked : Tracked x.sockets y) : TornDown x y := by
  have hcleared := hy.cleared hidle
  refine ⟨hy.current, hcleared, fun path hpath => ?_⟩
  obtain ⟨s, hs, -, hbare⟩ := hcleared
  have hnone : y.manager.socketPaths = [] := by
    have hresources : s.resources = {} := hbare.resources
    simp [Manager.socketPaths, hs, hresources]
  rcases htracked path hpath with hold | hheld
  · exact hold
  · rw [hnone] at hheld
    cases hheld

theorem holds_of_attending (hy : y.manager.Attending)
    (hpoint : y.manager.point? 0 0 = some (.started none)) : ∃ s, Holds y s := by
  obtain ⟨s, hs⟩ := List.length_eq_one_iff.1 hy.single
  have hfirst : y.manager.sessions[0]? = some s := by rw [hs]; rfl
  have hstarted : s.tasks[0]? = some (.started none) := by
    rw [Manager.point?, hfirst] at hpoint
    exact hpoint
  have hwanted : s.Wanted := hy.kept.wanted 0 s hy.current hfirst
  obtain ⟨held, hsound⟩ := hy.sound.sound_view hfirst
  refine ⟨s, hy.current, hs, hstarted, hwanted, ?_⟩
  -- a session whose start has succeeded leaves the active stage only by a failure or by a dispose
  have hlate : s.stage.isLate = true := hsound.fits 0 _ hstarted
  have hstanding := hsound.standing
  cases hstage : s.stage with
  | failed => exact .inl rfl
  | active => exact .inr ⟨rfl, hsound.serves hstage⟩
  | stopping | stopped =>
    have hcancelled : s.cancelled = true := by
      unfold Session.Standing at hstanding
      rwa [show (y.manager.view s).stage = s.stage from rfl, hstage] at hstanding
    rw [hwanted.cancelled] at hcancelled
    cases hcancelled
  | _ =>
    rw [hstage] at hlate
    cases hlate

theorem Holds.letGo {s : Session} (h : Holds x s) (hsound : x.manager.Sound) :
    LetGo x s x.discard := by
  have hfirst : x.manager.sessions[0]? = some s := by rw [h.session]; rfl
  have hpresent : x.manager.present? = some 0 := by
    cases hphase : x.manager.phase with
    | disposing k task again =>
      have hcurrent := hsound.current k task again hphase
      rw [h.current] at hcurrent
      cases hcurrent
    | _ => rw [Manager.present?, hphase, h.current]
  have hlive := hsound.live 0 s hpresent hfirst
  have hdiscard : x.discard.manager = { x.manager with
      registry := (x.manager.view s).discard.registry
      sessions := [(x.manager.view s).discard]
      current := none
      phase := .idle } := by
    show x.manager.discard = _
    rw [Manager.discard, h.current]
    dsimp only
    rw [hfirst, h.session]
    rfl
  have hwanted : (x.manager.view s).Wanted := ⟨h.wanted.cancelled, h.wanted.undisposed⟩
  have hdropped := hwanted.dropped
  refine ⟨?_, ⟨(x.manager.view s).discard, ?_, ?_⟩, ?_, rfl, ?_⟩
  · rw [hdiscard]
  · rw [hdiscard]
  · exact ⟨hdropped.stage, hdropped.cancelled, hdropped.undisposed, hdropped.resources,
      hdropped.handle, hdropped.client⟩
  · rw [hdiscard]
    exact List.perm_nil.1 hlive.perm_discard
  · simp [Manager.socketPaths, hdiscard, hdropped.resources]

end Scene

/-! ### Runs -/

namespace RunEnd

/-- The run came to its end, or the user ended it. -/
def isOrderly : RunEnd → Bool
  | finished _ | interrupted _ => true
  | _ => false

/-- The run returned in the middle. -/
def isSudden : RunEnd → Bool
  | failed _ | broken _ => true
  | _ => false

end RunEnd

namespace RunWorld

open Scene (Passes TornDown Holds LetGo)

variable {σ : Type} {w : RunWorld σ} {scene : σ → Scene} {selector : Selector}
  {files : List String} {once : Bool} {fuel : Nat} {s s' : σ} {e : RunEnd}

/-- How a run leaves its session does not change how it ends. -/
theorem leave_of_eq {x : RunEnd × σ} (h : w.leave x = (e, s')) : w.leave (e, x.2) = (e, s') := by
  have hend : x.1 = e := by rw [← w.fst_leave, h]
  rw [← hend] at h ⊢
  exact h

theorem leave_of_isOrderly (h : e.isOrderly = true) : w.leave (e, s) = (e, w.shutdown s) := by
  cases e with
  | finished | interrupted => rfl
  | _ => cases h

theorem leave_of_isSudden (h : e.isSudden = true) : w.leave (e, s) = (e, w.discard s) := by
  cases e with
  | failed | broken => rfl
  | _ => cases h

/-- In the world a manager has the session of a run. A start and a shutdown call it and wait; all
else leaves it alone, until the manager goes. -/
structure Managed (w : RunWorld σ) (scene : σ → Scene) : Prop where
  start : ∀ s, ∃ a, Passes ((scene s).act a .start) (scene (w.start s).2)
  started : ∀ s, (w.start s).1 = none → ∃ k, (scene (w.start s).2).manager.current = some k ∧
    (scene (w.start s).2).manager.point? k 0 = some (.started none)
  shutdown : ∀ s, ∃ a, Passes ((scene s).act a .shutdown) (scene (w.shutdown s))
  discard : ∀ s, scene (w.discard s) = (scene s).discard
  introduce : ∀ s, Passes (scene s) (scene (w.introduce s).2)
  configure : ∀ s, Passes (scene s) (scene (w.configure s).2)
  opens : ∀ s uri text, Passes (scene s) (scene (w.opens s uri text).2)
  save : ∀ s uri, Passes (scene s) (scene (w.save s uri).2)
  next : ∀ s, Passes (scene s) (scene (w.next s).2)

theorem Managed.handIn (h : Managed w scene) (selector : Selector) (s : σ) (file : String) :
    Passes (scene s) (scene (w.handIn selector s file).2) := by
  unfold RunWorld.handIn
  split
  · exact .refl
  · split
    · exact .refl
    · next uri _ =>
      split
      · exact .refl
      · split
        · exact .refl
        · next text _ =>
          have hopens := h.opens s uri text
          split
          · next hs =>
            rw [hs] at hopens
            exact hopens
          · next s₁ hs =>
            rw [hs] at hopens
            have hsave := h.save s₁ uri
            split
            all_goals
              next hs =>
                rw [hs] at hsave
                exact hopens.trans hsave

theorem Managed.handInAll (h : Managed w scene) (selector : Selector) (s : σ)
    (pending files : List String) :
    Passes (scene s) (scene (w.handInAll selector s pending files).2) := by
  induction files generalizing s pending with
  | nil => exact .refl
  | cons file rest ih =>
    have hfirst := h.handIn selector s file
    unfold RunWorld.handInAll
    split
    · next hs =>
      rw [hs] at hfirst
      exact hfirst
    all_goals
      next hs =>
        rw [hs] at hfirst
        exact hfirst.trans (ih _ _)

theorem Managed.follow (h : Managed w scene) (once : Bool) (t : Tally) (fuel : Nat) (s : σ) :
    Passes (scene s) (scene (w.follow once t fuel s).2) := by
  induction fuel generalizing s t with
  | zero => exact .refl
  | succ fuel ih =>
    have hnext := h.next s
    unfold RunWorld.follow
    split
    · exact .refl
    · split
      on_goal 4 =>
        next hs =>
          rw [hs] at hnext
          split
          · exact hnext
          · exact hnext.trans (ih _ _)
      all_goals
        next hs =>
          rw [hs] at hnext
          exact hnext

/-- The ways out of a run: a shutdown after a start that has failed, or one of those that a run has
once its session is there. -/
theorem Managed.run_cases (h : Managed w scene)
    (hrun : w.run selector files once fuel s = (e, s')) :
    (w.start s).1 ≠ none ∧ s' = w.shutdown (w.start s).2 ∨
      (w.start s).1 = none ∧ ∃ s₁, Passes (scene (w.start s).2) (scene s₁) ∧
        w.leave (e, s₁) = (e, s') := by
  unfold RunWorld.run at hrun
  split at hrun
  · next hs =>
    cases hrun
    exact .inl ⟨by simp [hs], by rw [hs]⟩
  · next s₁ hs =>
    refine .inr ⟨by rw [hs], ?_⟩
    rw [hs]
    have hintroduce := h.introduce s₁
    split at hrun
    · next hi =>
      rw [hi] at hintroduce
      exact ⟨_, hintroduce, leave_of_eq hrun⟩
    · next s₂ hi =>
      rw [hi] at hintroduce
      have hconfigure := hintroduce.trans (h.configure s₂)
      split at hrun
      · next hc =>
        rw [hc] at hconfigure
        exact ⟨_, hconfigure, leave_of_eq hrun⟩
      · next s₃ hc =>
        rw [hc] at hconfigure
        have hfiles := hconfigure.trans (h.handInAll selector s₃ [] files)
        split at hrun
        · next hf =>
          rw [hf] at hfiles
          exact ⟨_, hfiles, leave_of_eq hrun⟩
        · next pending s₄ hf =>
          rw [hf] at hfiles
          exact ⟨_, hfiles.trans (h.follow once { pending } fuel s₄), leave_of_eq hrun⟩

/-- What a shutdown leaves once it has returned. -/
theorem Managed.tornDown (h : Managed w scene) {x : Scene}
    (hattending : (scene s).manager.Attending) (hidle : (scene s).manager.phase = .idle)
    (htracked : (scene s).Tracked x.sockets)
    (hdone : (scene (w.shutdown s)).manager.phase = .idle) :
    TornDown x (scene (w.shutdown s)) := by
  obtain ⟨a, hpasses⟩ := h.shutdown s
  obtain ⟨task, hdismissing⟩ := hattending.dismissing hidle a
  exact Scene.tornDown_of_dismissing (hpasses.dismissing hdismissing) hdone
    (hpasses.tracked (htracked.act a .shutdown))

/-- What a start leaves, whether or not it has returned. -/
theorem Managed.attending (h : Managed w scene) (hfresh : (scene s).manager.Fresh) :
    (scene (w.start s).2).manager.Attending ∧
      (scene (w.start s).2).Tracked (scene s).sockets := by
  obtain ⟨a, hpasses⟩ := h.start s
  have hbefore : (scene s).Tracked (scene s).sockets := fun path hpath => .inl hpath
  exact ⟨hpasses.attending (hfresh.attending a), hpasses.tracked (hbefore.act a .start)⟩

/-- What a start that has succeeded leaves, and what passes leaves of it. -/
theorem Managed.started_stays (h : Managed w scene) (hfresh : (scene s).manager.Fresh)
    (hstart : (scene (w.start s).2).manager.phase = .idle) (hok : (w.start s).1 = none)
    (hpasses : Passes (scene (w.start s).2) (scene s')) :
    (scene s').manager.phase = .idle ∧ (scene s').manager.point? 0 0 = some (.started none) := by
  obtain ⟨hattending, -⟩ := h.attending hfresh
  obtain ⟨k, hcurrent, hpoint⟩ := h.started s hok
  have hk : k = 0 := by
    rw [hattending.current] at hcurrent
    exact (Option.some.inj hcurrent).symm
  rw [hk] at hpoint
  exact hpasses.returned hattending hstart hpoint

theorem Managed.tornDown_of_failed_start (h : Managed w scene) (hfresh : (scene s).manager.Fresh)
    (hrun : w.run selector files once fuel s = (e, s'))
    (hstart : (scene (w.start s).2).manager.phase = .idle)
    (hidle : (scene s').manager.phase = .idle) (hfailed : (w.start s).1 ≠ none) :
    TornDown (scene s) (scene s') := by
  obtain ⟨hattending, htracked⟩ := h.attending hfresh
  rcases h.run_cases hrun with ⟨-, rfl⟩ | ⟨hok, -⟩
  · exact h.tornDown hattending hstart htracked hidle
  · exact absurd hok hfailed

theorem Managed.tornDown_of_isOrderly (h : Managed w scene) (hfresh : (scene s).manager.Fresh)
    (hrun : w.run selector files once fuel s = (e, s'))
    (hstart : (scene (w.start s).2).manager.phase = .idle)
    (hidle : (scene s').manager.phase = .idle) (he : e.isOrderly = true) :
    TornDown (scene s) (scene s') := by
  rcases h.run_cases hrun with ⟨hfailed, -⟩ | ⟨hok, s₁, hpasses, hleave⟩
  · exact h.tornDown_of_failed_start hfresh hrun hstart hidle hfailed
  · rw [leave_of_isOrderly he] at hleave
    cases hleave
    obtain ⟨hattending, htracked⟩ := h.attending hfresh
    obtain ⟨hstill, -⟩ := h.started_stays hfresh hstart hok hpasses
    exact h.tornDown (hpasses.attending hattending) hstill (hpasses.tracked htracked) hidle

/-- A run that fails once its session is there lets it go as it is. -/
theorem Managed.letGo (h : Managed w scene) (hfresh : (scene s).manager.Fresh)
    (hrun : w.run selector files once fuel s = (e, s'))
    (hstart : (scene (w.start s).2).manager.phase = .idle) (hok : (w.start s).1 = none)
    (he : e.isSudden = true) :
    ∃ x t, Passes (scene (w.start s).2) x ∧ Holds x t ∧ LetGo x t (scene s') := by
  rcases h.run_cases hrun with ⟨hfailed, -⟩ | ⟨-, s₁, hpasses, hleave⟩
  · exact absurd hok hfailed
  · rw [leave_of_isSudden he] at hleave
    cases hleave
    obtain ⟨hattending, -⟩ := h.attending hfresh
    obtain ⟨-, hreturned⟩ := h.started_stays hfresh hstart hok hpasses
    have hattending := hpasses.attending hattending
    obtain ⟨t, hholds⟩ := Scene.holds_of_attending hattending hreturned
    refine ⟨scene s₁, t, hpasses, hholds, ?_⟩
    rw [h.discard]
    exact hholds.letGo hattending.sound

/-- A run that goes on for ever has its session. -/
theorem Managed.current_of_endless (h : Managed w scene) (hfresh : (scene s).manager.Fresh)
    (hrun : w.run selector files once fuel s = (.endless, s')) (hok : (w.start s).1 = none) :
    (scene s').manager.current = some 0 := by
  rcases h.run_cases hrun with ⟨hfailed, -⟩ | ⟨-, s₁, hpasses, hleave⟩
  · exact absurd hok hfailed
  · cases hleave
    exact (hpasses.attending (h.attending hfresh).1).current

/-- **A run tears its session down if the start has failed, the events have ended or the user has
interrupted it, and on no other way out.** There it lets the session go as it is, and a local socket
stays. -/
theorem run_leaves_session (h : Managed w scene) (hfresh : (scene s).manager.Fresh)
    (hrun : w.run selector files once fuel s = (e, s'))
    (hstart : (scene (w.start s).2).manager.phase = .idle)
    (hidle : (scene s').manager.phase = .idle) :
    (TornDown (scene s) (scene s') ↔ (w.start s).1 ≠ none ∨ e.isOrderly = true) ∧
      ((w.start s).1 = none → e.isSudden = true →
        ∃ x t, Passes (scene (w.start s).2) x ∧ Holds x t ∧ LetGo x t (scene s')) := by
  have hletGo : (w.start s).1 = none → e.isSudden = true →
      ∃ x t, Passes (scene (w.start s).2) x ∧ Holds x t ∧ LetGo x t (scene s') :=
    h.letGo hfresh hrun hstart
  refine ⟨⟨fun htorn => ?_, ?_⟩, hletGo⟩
  · by_contra hneither
    rw [not_or, not_not] at hneither
    obtain ⟨hok, hdisorderly⟩ := hneither
    cases e with
    | finished | interrupted => exact hdisorderly rfl
    | failed | broken =>
      obtain ⟨x, t, -, -, hgone⟩ := hletGo hok rfl
      exact hgone.not_tornDown htorn
    | endless =>
      have hsome := h.current_of_endless hfresh hrun hok
      rw [htorn.current] at hsome
      cases hsome
  · rintro (hfailed | horderly)
    · exact h.tornDown_of_failed_start hfresh hrun hstart hidle hfailed
    · exact h.tornDown_of_isOrderly hfresh hrun hstart hidle horderly

end RunWorld

namespace Scene

variable {x : Scene} {moves : List Session.Move}

/-- The server makes its socket as soon as it has been told where. -/
def listen (x : Scene) : Scene :=
  if Session.agreeing.freshPath ∈ x.manager.socketPaths then
    { x with sockets := Session.agreeing.freshPath :: x.sockets }
  else x

/-- The first session makes some moves. -/
def play (x : Scene) (moves : List Session.Move) : Scene :=
  moves.foldl (fun x mv => x.act Session.agreeing (.session 0 mv)) x

theorem passes_listen (x : Scene) : Passes x x.listen := by
  unfold listen
  split
  · next hheld => exact .single (.bind hheld)
  · exact .refl

theorem passes_play (h : ∀ mv ∈ moves, Manager.Move.Own (.session 0 mv)) :
    Passes x (x.play moves) := by
  induction moves generalizing x with
  | nil => exact .refl
  | cons mv moves ih =>
    have hfirst : Happens x (x.act Session.agreeing (.session 0 mv)) :=
      .move _ (h mv List.mem_cons_self)
    exact .head hfirst (ih fun mv hmv => h mv (List.mem_cons_of_mem _ hmv))

/-- How the start of the current session has returned. -/
def outcome (x : Scene) : Option StartError :=
  match x.manager.current.bind fun k => x.manager.point? k 0 with
  | some (.started r) => r
  | _ => some .cancelled

theorem started_of_outcome (h : x.outcome = none) :
    ∃ k, x.manager.current = some k ∧ x.manager.point? k 0 = some (.started none) := by
  unfold outcome at h
  split at h
  · next hr =>
    subst h
    exact Option.bind_eq_some_iff.1 hr
  · cases h

/-- A session is installed and launched. -/
def launching : List Session.Move := [.grant 0, .checked 0 true, .listed 0 true]

/-- Its server listens and is connected to. -/
def connecting : List Session.Move := [.bound 0 true, .connected 0 (.ok ())]

/-- A dispose gets hold of a live session and gives everything back. -/
def leaving : List Session.Move := [.grant 2, .shaken 2, .released 2, .released 2]

/-- A start that goes well. -/
def raised (x : Scene) : Scene :=
  (((x.act Session.agreeing .start).play launching).listen).play connecting

/-- All goes well, but no file is there. -/
def deserted (o : Occurrence) : RunWorld Scene where
  start x := (x.raised.outcome, x.raised)
  shutdown x := (x.act Session.agreeing .shutdown).play leaving
  discard := discard
  introduce x := (.ok (), x)
  configure x := (.ok (), x)
  canonical _ _ := .error .noEntry
  read _ _ := .error .noEntry
  opens x _ _ := (.ok (), x)
  save x _ := (.ok (), x)
  next x := (o, x)

theorem managed_deserted (o : Occurrence) : (deserted o).Managed id where
  start x := by
    have hlaunching : ∀ mv ∈ launching, Manager.Move.Own (.session 0 mv) := by
      simp [launching, Manager.Move.Own]
    have hconnecting : ∀ mv ∈ connecting, Manager.Move.Own (.session 0 mv) := by
      simp [connecting, Manager.Move.Own]
    refine ⟨Session.agreeing, ?_⟩
    exact ((passes_play hlaunching).trans (passes_listen _)).trans (passes_play hconnecting)
  started x hx := by
    have hstart : (deserted o).start x = (x.raised.outcome, x.raised) := rfl
    rw [hstart] at hx ⊢
    dsimp only [id] at hx ⊢
    exact started_of_outcome hx
  shutdown x := by
    have hleaving : ∀ mv ∈ leaving, Manager.Move.Own (.session 0 mv) := by
      simp [leaving, Manager.Move.Own]
    exact ⟨Session.agreeing, passes_play hleaving⟩
  discard _ := rfl
  introduce _ := .refl
  configure _ := .refl
  opens _ _ _ := .refl
  save _ _ := .refl
  next _ := .refl

/-- A manager that has done nothing yet, and a socket of somebody else. -/
def doorstep : Scene :=
  { manager := { settings := { transport := { kind := .ipc } } }, sockets := ["/tmp/other"] }

end Scene

namespace RunWorld

open Scene (Passes TornDown Holds LetGo deserted managed_deserted doorstep)

/-- A run without files, one that is interrupted, and one that does not find its file. -/
theorem run_leaves_session_deserted :
    (∀ o, (deserted o).Managed id) ∧ doorstep.manager.Fresh ∧
      ((deserted .ended).start doorstep).2.sockets = ["/tmp/sidecar", "/tmp/other"] ∧
      ((deserted .ended).run {} [] false 1 doorstep).2.sockets = ["/tmp/other"] ∧
      TornDown doorstep ((deserted .ended).run {} [] false 1 doorstep).2 ∧
      TornDown doorstep ((deserted .interrupted).run {} [] false 1 doorstep).2 ∧
      ∃ x t, Passes ((deserted .ended).start doorstep).2 x ∧ Holds x t ∧
        LetGo x t ((deserted .ended).run {} ["a.yara"] true 1 doorstep).2 := by
  have hfresh : doorstep.manager.Fresh := rfl
  have hstart : ∀ o, ((deserted o).start doorstep).2.manager.phase = .idle := fun _ => rfl
  have hok : ((deserted .ended).start doorstep).1 = none := rfl
  have hfinished : (deserted .ended).run {} [] false 1 doorstep =
      (.finished {}, ((deserted .ended).run {} [] false 1 doorstep).2) := rfl
  have hinterrupted : (deserted .interrupted).run {} [] false 1 doorstep =
      (.interrupted {}, ((deserted .interrupted).run {} [] false 1 doorstep).2) := rfl
  have hfailed : (deserted .ended).run {} ["a.yara"] true 1 doorstep =
      (.failed ⟨"a.yara", [SystemError.noEntry.message]⟩,
        ((deserted .ended).run {} ["a.yara"] true 1 doorstep).2) := rfl
  refine ⟨managed_deserted, hfresh, rfl, rfl, ?_, ?_, ?_⟩
  · exact (run_leaves_session (managed_deserted _) hfresh hfinished (hstart _) rfl).1.2 (.inr rfl)
  · exact (run_leaves_session (managed_deserted _) hfresh hinterrupted (hstart _) rfl).1.2
      (.inr rfl)
  · exact (run_leaves_session (managed_deserted _) hfresh hfailed (hstart _) rfl).2 hok rfl

/-- **A run does not tear its session down if a file is missing**: the session is neither stopped
nor failed, and the socket of its server stays although no session has it any more. -/
theorem missing_file_leaves_socket :
    (deserted .ended).Managed id ∧ doorstep.manager.Fresh ∧
      ((deserted .ended).start doorstep).1 = none ∧
      (∃ c, ((deserted .ended).run {} ["a.yara"] true 1 doorstep).1 = .failed c) ∧
      ((deserted .ended).run {} ["a.yara"] true 1 doorstep).2.manager.sessions.map (·.stage) =
        [.active] ∧
      ((deserted .ended).run {} ["a.yara"] true 1 doorstep).2.sockets =
        ["/tmp/sidecar", "/tmp/other"] ∧
      ((deserted .ended).run {} ["a.yara"] true 1 doorstep).2.manager.socketPaths = [] ∧
      ¬ TornDown doorstep ((deserted .ended).run {} ["a.yara"] true 1 doorstep).2 := by
  have hsockets : ((deserted .ended).run {} ["a.yara"] true 1 doorstep).2.sockets =
      ["/tmp/sidecar", "/tmp/other"] := rfl
  refine ⟨managed_deserted _, rfl, rfl, ⟨_, rfl⟩, rfl, hsockets, rfl, fun htorn => ?_⟩
  have hbefore := htorn.sockets "/tmp/sidecar" (by rw [hsockets]; exact List.mem_cons_self)
  simp [doorstep] at hbefore

end RunWorld

end Sidecar
