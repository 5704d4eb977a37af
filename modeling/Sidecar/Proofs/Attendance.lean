/-
# What a rehearsal does to its manager

Much happens on a host while someone waits: programs print, channels are read,
installers run, alarms ring. The manager is called only by those who wait for
it. Everything else reaches it as a move that a session makes by itself, since
an alarm is for a task and nobody notices a call, or as an entry of the output
channel (`Leads`). So the world of the command line is one in which a manager
has the session of a run, and what holds of runs in such worlds holds of the
program.

Local sockets are left out: whether a program makes one in time is its own
affair.

Key definition: `Rehearsal.Leads`.
Key theorems: `Rehearsal.leads_perform`, `Rehearsal.leads_runUntil`, `Cli.managed_runWorld`,
`Cli.session_let_go`.
-/
import Sidecar.Cli.Program
import Sidecar.Proofs.Dismissal

namespace Sidecar

namespace Rehearsal

variable {r r' r₁ : Rehearsal} {k task : Nat} {s : Session} {mv : Session.Move}

/-- The manager of a rehearsal. -/
def scene (r : Rehearsal) : Scene := { manager := r.manager }

/-- Nobody calls the manager between one rehearsal and another. -/
def Leads (r r' : Rehearsal) : Prop := Scene.Passes r.scene r'.scene

theorem Leads.trans (h : Leads r r₁) (h' : Leads r₁ r') : Leads r r' :=
  Relation.ReflTransGen.trans h h'

theorem leads_of_eq (h : r'.manager = r.manager) : Leads r r' := by
  rw [Leads, scene, scene, h]
  exact .refl

theorem leads_write (h : r'.manager = { r.manager with sink := r'.manager.sink }) :
    Leads r r' := by
  rw [Leads, scene, scene, h]
  exact .single (.write r'.manager.sink)

theorem leads_foldl {β : Type} {f : Rehearsal → β → Rehearsal} (hf : ∀ r b, Leads r (f r b))
    (bs : List β) (r : Rehearsal) : Leads r (bs.foldl f r) := by
  induction bs generalizing r with
  | nil => exact leads_of_eq rfl
  | cons b bs ih => exact (hf r b).trans (ih (f r b))

/-! ### Servers and channels -/

theorem leads_exchange (r : Rehearsal) (k : Nat) : Leads r (r.exchange k) := by
  unfold exchange
  dsimp only
  split
  · exact leads_of_eq rfl
  · split
    · exact leads_write rfl
    · exact leads_write rfl

theorem leads_exchangeAll (r : Rehearsal) : Leads r r.exchangeAll :=
  leads_foldl (fun _ _ => leads_foldl leads_exchange _ _) _ r

theorem manager_startServer {pid : Nat} : (r.startServer k s pid).manager = r.manager := by
  unfold startServer
  split
  · rfl
  · dsimp only
    split <;> rfl

theorem manager_beginTerminate : (r.beginTerminate k s).manager = r.manager := by
  unfold beginTerminate
  dsimp only
  split <;> rfl

theorem manager_enterRelease (x : Session.Releasing) :
    (r.enterRelease k task s x).manager = r.manager := by
  cases x with
  | closing => rfl
  | terminating => exact manager_beginTerminate

/-- Only an installer says something. -/
theorem leads_enter (p : Session.Point) : Leads r (r.enter k task s p) := by
  cases p with
  | ensuring =>
    rw [enter]
    generalize Provision.install Host.shell s.settings.provision s.settings.server.root
      s.settings.server.envPath r.host r.manager.sink = x
    exact leads_write rfl
  | checking | listing =>
    rw [enter]
    generalize Provision.isInstalled Host.shell s.settings.provision s.settings.server.envPath
      r.host = x
    exact leads_of_eq rfl
  | binding =>
    refine leads_of_eq ?_
    rw [enter]
    split <;> rfl
  | connecting =>
    refine leads_of_eq ?_
    rw [enter]
    split <;> rfl
  | failing _ x => exact leads_of_eq (manager_enterRelease x)
  | disposing _ x => exact leads_of_eq (manager_enterRelease x)
  | watchReleasing x => exact leads_of_eq (manager_enterRelease x)
  | _ => exact leads_of_eq rfl

theorem manager_equip (old new : Session) : (r.equip k old new).manager = r.manager := by
  have hserver : ∀ pid, (r.startServer k new pid).manager = r.manager :=
    fun _ => manager_startServer
  unfold equip
  dsimp only
  split
  · split
    · exact hserver _
    · rfl
  · split
    · exact hserver _
    · rfl

theorem leads_follow (old new : Session) (task : Option Nat) :
    Leads r (r.follow k old new task) := by
  have hequip : Leads r (r.equip k old new) := leads_of_eq (manager_equip old new)
  unfold follow
  dsimp only
  split
  · exact hequip
  · split
    · split
      · exact hequip
      · exact hequip.trans (leads_enter _)
    · exact hequip

theorem scene_move (r : Rehearsal) (mv : Manager.Move) :
    (r.move mv).scene = r.scene.act r.answers mv := rfl

/-- A move that a session makes by itself, and all that it sets going. -/
theorem leads_perform (r : Rehearsal) (hown : Manager.Move.Own (.session k mv)) :
    Leads r (r.perform (.session k mv)) := by
  have hmove : Leads r (r.move (.session k mv)) := by
    rw [Leads, scene_move]
    exact .single (.move r.answers hown)
  unfold perform
  dsimp only
  split
  · exact hmove.trans (leads_follow _ _ _)
  · exact hmove

theorem own_of_task (h : mv.task?.isSome) : Manager.Move.Own (.session k mv) := by
  cases mv with
  | start | dispose => cases h
  | _ => trivial

theorem own_of_unnoticed? {a : Actor} (h : unnoticed? s a = some mv) :
    Manager.Move.Own (.session k mv) := by
  unfold unnoticed? at h
  dsimp only at h
  split at h
  · split at h
    · cases h
      trivial
    · cases h
  · split at h
    · cases h
      trivial
    · cases h
  · cases h

/-- If there is a move, it is one of the task. -/
def Offers (task : Nat) (o : Option Session.Move) : Prop := ∀ mv, o = some mv → mv.task? = some task

theorem offers_if {b : Bool} (h : mv.task? = some task) :
    Offers task (if b then some mv else none) := by
  intro m hm
  cases b with
  | true =>
    cases hm
    exact h
  | false => cases hm

theorem offers_map {α : Type} {f : α → Session.Move} (h : ∀ x, (f x).task? = some task)
    (o : Option α) : Offers task (o.map f) := by
  intro m hm
  obtain ⟨x, -, rfl⟩ := Option.map_eq_some_iff.1 hm
  exact h x

theorem offers_orElse {o o' : Option Session.Move} (h : Offers task o) (h' : Offers task o') :
    Offers task (o <|> o') := by
  intro m hm
  cases o with
  | none => exact h' m hm
  | some _ => exact h m hm

theorem offers_releasable (a : Actor) (x : Session.Releasing) :
    Offers task (releasable a task x) := by
  cases x with
  | closing =>
    intro m hm
    cases hm
  | terminating => exact offers_if rfl

/-- What a task does by itself is its own move. -/
theorem offers_ready? (s : Session) (a : Actor) (p : Session.Point) :
    Offers task (ready? s a task p) := by
  have hcancel : Offers task (if s.cancelled then some (.cancel task) else none) := offers_if rfl
  cases p with
  | startWaiting | disposeWaiting | watchWaiting => exact offers_if rfl
  | checking | ensuring | listing | connecting => exact hcancel
  | binding => exact offers_orElse hcancel (offers_map (fun _ => rfl) _)
  | failing _ x | disposing _ x | watchReleasing x => exact offers_releasable a x
  | handshaking => exact offers_if rfl
  | watching => exact offers_orElse (offers_map (fun _ => rfl) _) (offers_map (fun _ => rfl) _)
  | lingering => exact offers_map (fun _ => rfl) _
  | _ =>
    intro m hm
    cases hm

theorem own_of_next? {mv : Manager.Move} (h : r.next? = some mv) :
    ∃ k m, mv = .session k m ∧ Manager.Move.Own (.session k m) := by
  obtain ⟨k, -, hk⟩ := List.exists_of_findSome?_eq_some h
  split at hk
  · cases hk
  · obtain ⟨m, hm, rfl⟩ := Option.map_eq_some_iff.1 hk
    refine ⟨k, m, rfl, ?_⟩
    rcases Option.or_eq_some_iff.1 ((Option.orElse_eq_or ..).symm.trans hm) with hm | ⟨-, hm⟩
    · exact own_of_unnoticed? hm
    · obtain ⟨i, -, hi⟩ := List.exists_of_findSome?_eq_some hm
      obtain ⟨p, -, hp⟩ := Option.bind_eq_some_iff.1 hi
      have htask : m.task? = some i := offers_ready? _ _ p m hp
      exact own_of_task (by rw [htask]; rfl)

/-! ### Waiting -/

theorem leads_ring (r : Rehearsal) (a : Alarm) : Leads r (r.ring a) := by
  cases a with
  | move k m htask => exact leads_perform r (own_of_task htask)
  | attempt k task p =>
    unfold ring
    dsimp only
    split
    · exact leads_of_eq rfl
    · split
      · exact leads_perform r (own_of_task rfl)
      · exact leads_perform r (own_of_task rfl)
      · exact leads_of_eq rfl
  | expire k call =>
    unfold ring
    dsimp only
    split <;> exact leads_of_eq rfl

theorem manager_due? {a : Alarm} (h : r.due? = some (a, r')) : r'.manager = r.manager := by
  unfold due? at h
  split at h
  · cases h
    rfl
  · cases h

theorem manager_moveClock (time : Nat) : (r.moveClock time).manager = r.manager := rfl

theorem manager_setChannel (v : Conversation) : (r.setChannel k v).manager = r.manager := rfl

/-- **However long someone waits, the manager is not called.** -/
theorem leads_runUntil (done : Rehearsal → Bool) (deadline fuel : Nat) (r : Rehearsal) :
    Leads r (runUntil done deadline fuel r) := by
  induction fuel generalizing r with
  | zero => exact leads_of_eq rfl
  | succ fuel ih =>
    have hexchange := leads_exchangeAll r
    refine hexchange.trans ?_
    unfold runUntil
    dsimp only
    split
    · exact leads_of_eq rfl
    · split
      · next mv hmv =>
        obtain ⟨k, m, rfl, hown⟩ := own_of_next? hmv
        exact (leads_perform _ hown).trans (ih _)
      · split
        · next a r₁ hdue =>
          have hring := (leads_of_eq (manager_due? hdue)).trans (leads_ring r₁ a)
          exact hring.trans (ih _)
        · split
          · exact (leads_of_eq (manager_moveClock _)).trans (ih _)
          · exact leads_of_eq (manager_moveClock _)

theorem leads_waitFor (r : Rehearsal) (done : Rehearsal → Bool) (d : Duration) :
    Leads r (r.waitFor done d) := leads_runUntil done _ _ r

theorem leads_request (r : Rehearsal) (v : Conversation) (method : String) (params : Option Json)
    (sequel : Sequel) : Leads r (r.request k v method params sequel).2 := by
  unfold request
  dsimp only
  refine Leads.trans ?_ (leads_waitFor _ _ _)
  exact leads_of_eq (manager_setChannel _)

theorem leads_nextEvent (r : Rehearsal) (k : Nat) (d : Duration) :
    Leads r (r.nextEvent k d).2 := by
  have hwait := leads_waitFor r (fun r =>
    (r.actor k).talk.all fun v => !v.client.events.isEmpty || !v.client.reading) d
  unfold nextEvent
  dsimp only
  generalize r.waitFor _ d = r₁ at hwait ⊢
  split
  · exact hwait
  · split
    · exact hwait.trans (leads_of_eq (manager_setChannel _))
    · exact hwait

theorem leads_restart (r : Rehearsal) : Leads (r.move .start) r.restart.2 := by
  have hcall : r.perform .start = r.move .start := rfl
  unfold restart
  dsimp only
  rw [hcall]
  exact leads_waitFor _ _ _

theorem leads_shutdown (r : Rehearsal) : Leads (r.move .shutdown) r.shutdown := by
  have hcall : r.perform .shutdown = r.move .shutdown := rfl
  unfold shutdown
  rw [hcall]
  exact leads_waitFor _ _ _

theorem scene_discard (r : Rehearsal) : r.discard.scene = r.scene.discard := by
  unfold discard
  dsimp only
  split <;> rfl

theorem isIdle_iff : r.isIdle = true ↔ r.scene.manager.phase = .idle := beq_iff_eq

theorem started_of_restart (h : r.restart.1 = none) :
    ∃ k, r.restart.2.scene.manager.current = some k ∧
      r.restart.2.scene.manager.point? k 0 = some (.started none) := by
  unfold restart at h ⊢
  dsimp only [scene] at h ⊢
  generalize (r.perform .start).waitFor isIdle patience = r' at h ⊢
  cases hreturned : r'.manager.current.bind fun k => r'.started? k 0 with
  | none =>
    rw [hreturned] at h
    cases h
  | some e =>
    rw [hreturned] at h
    obtain rfl : e = none := h
    obtain ⟨k, hk, hstarted⟩ := Option.bind_eq_some_iff.1 hreturned
    refine ⟨k, hk, ?_⟩
    unfold started? at hstarted
    split at hstarted
    · next hpoint =>
      cases hstarted
      exact hpoint
    · cases hstarted

end Rehearsal

namespace Cli

theorem leads_tellCurrent (r : Rehearsal) (f : Client → Except ClientError Unit × Client) :
    r.Leads (tellCurrent r f).2 := by
  unfold tellCurrent
  split
  · exact Rehearsal.leads_of_eq rfl
  · next k _ =>
    cases r.channel? k with
    | none => exact Rehearsal.leads_of_eq rfl
    | some v => exact Rehearsal.leads_of_eq rfl

theorem leads_introduce (r : Rehearsal) : r.Leads (runWorld.introduce r).2 := by
  unfold runWorld
  dsimp only
  split
  · exact Rehearsal.leads_of_eq rfl
  · next k _ =>
    cases r.channel? k with
    | none => exact Rehearsal.leads_of_eq rfl
    | some v =>
      dsimp only [Option.elim_some]
      exact r.leads_request v _ _ _

theorem leads_next (r : Rehearsal) : r.Leads (runWorld.next r).2 := by
  unfold runWorld
  dsimp only
  split
  · exact Rehearsal.leads_of_eq rfl
  · next k _ =>
    have hevent := r.leads_nextEvent k Rehearsal.patience
    split
    all_goals
      next hr =>
        rw [hr] at hevent
        exact hevent

theorem runWorld_start (r : Rehearsal) : runWorld.start r = r.restart := by
  rw [runWorld]

theorem runWorld_shutdown (r : Rehearsal) : runWorld.shutdown r = r.shutdown := by
  rw [runWorld]

/-- **In the world of the command line a manager has the session.** -/
theorem managed_runWorld : runWorld.Managed Rehearsal.scene where
  start r := by
    have hwait := r.leads_restart
    rw [Rehearsal.Leads, Rehearsal.scene_move, ← runWorld_start] at hwait
    exact ⟨r.answers, hwait⟩
  started r hr := by
    rw [runWorld_start] at hr ⊢
    exact Rehearsal.started_of_restart hr
  shutdown r := by
    have hwait := r.leads_shutdown
    rw [Rehearsal.Leads, Rehearsal.scene_move, ← runWorld_shutdown] at hwait
    exact ⟨r.answers, hwait⟩
  discard r := by
    have hdiscard : runWorld.discard r = r.discard := by rw [runWorld]
    rw [hdiscard, Rehearsal.scene_discard]
  introduce := leads_introduce
  configure r := leads_tellCurrent r _
  opens r _ _ := leads_tellCurrent r _
  save r _ := leads_tellCurrent r _
  next := leads_next

variable {h : Host} {settings : Settings} {selector : Selector} {files : List String} {once : Bool}
  {fuel : Nat} {c : Complaint} {r : Rehearsal}

/-- **The program lets its session go as it is** if it fails after a start that has succeeded: nobody
disposes of it. -/
theorem session_let_go (hok : (Rehearsal.ofHost h settings 0).restart.1 = none)
    (hidle : (Rehearsal.ofHost h settings 0).restart.2.isIdle = true)
    (hrun : runWorld.run selector files once fuel (Rehearsal.ofHost h settings 0) =
      (.failed c, r)) : ∃ x t, Scene.Holds x t ∧ x.LetGo t r.scene := by
  have hfresh : (Rehearsal.ofHost h settings 0).scene.manager.Fresh := rfl
  rw [← runWorld_start] at hok hidle
  rw [Rehearsal.isIdle_iff] at hidle
  obtain ⟨x, t, -, hholds, hgone⟩ := managed_runWorld.letGo hfresh hrun hidle hok rfl
  exact ⟨x, t, hholds, hgone⟩

end Cli

end Sidecar
