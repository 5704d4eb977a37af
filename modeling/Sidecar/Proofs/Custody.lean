/-
# Who has what of a session

At every time at most one task works on the resources of a session, and the
point at which it is says which of them there are (`Point.Fits`). The watcher
is known to the resources as long as it watches. When a start has failed, a
dispose has returned, or the watcher has dealt with a failure, nothing is
left and nobody works on the resources again. And the registry holds, besides
what others hold, exactly the lease of the session's endpoint.

All this is `Sound`. In the middle of a move, the task that works is between
two points; what holds then of all other tasks is `Holding`. It is kept by
each small step, and at the end of the move the task stays with the resources
(`Holding.stay`) or leaves them (`Holding.leave`). So whatever a start or a
dispose does with the resources, it leaves the session sound.

Key definitions: `Point.Fits`, `Sound`, `Holding`.
Key theorems: `Holding.startFails`, `Holding.launch`, `Holding.bound`,
`Holding.beginDispose`.
-/
import Sidecar.Proofs.Effect
import Sidecar.Proofs.Leases

namespace Sidecar.Session

namespace Point

/-- The task works on the resources. -/
def holds : Point → Bool
  | .checking | .ensuring | .listing | .binding | .connecting | .failing .. => true
  | .handshaking | .disposing .. => true
  | .watchReleasing _ => true
  | _ => false

/-- The watcher, before it has got the resources. -/
def watches : Point → Bool
  | .watching | .lingering _ | .watchWaiting => true
  | _ => false

/-- The task has ended. -/
def hasEnded : Point → Bool
  | .started _ | .disposed | .watched _ => true
  | _ => false

/-- The task has ended, and with it the session: a start that failed, a dispose, or the watcher
after a failure that it recorded. -/
def settles : Point → Bool
  | .started (some (.failed _)) | .disposed | .watched true => true
  | _ => false

end Point

/-- Nothing is there. -/
structure Bare (s : Session) : Prop where
  resources : s.resources = {}
  handle : s.handle = none
  client : s.client = false

/-- There is a server for an endpoint, and no channel yet. -/
def Launched (s : Session) : Prop :=
  ∃ pid e, s.resources = { process := some pid, endpoint := some e } ∧
    s.handle = none ∧ s.client = false

/-- Everything is there, and the handle shows it. -/
def Live (s : Session) : Prop :=
  ∃ pid e i, s.resources = ⟨some pid, some e, true, some i⟩ ∧
    s.handle = some ⟨pid, e.kind, e.host?, e.port?⟩ ∧ s.client = true

/-- What is gone while the resources are given back. -/
structure Clearing (r : Releasing) (s : Session) : Prop where
  handle : s.handle = none
  client : s.client = false
  channel : s.resources.client = false
  watcher : s.resources.watcher = none
  process : r = .terminating → s.resources.process = none

/-- The port whose lease the session has, if there is one. -/
def leases (s : Session) : List Nat := (s.resources.endpoint.bind Endpoint.port?).toList

theorem Bare.leases {s : Session} (h : s.Bare) : s.leases = [] := by
  simp [Session.leases, h.resources]

/-- What holds of a session while a task is at a point. -/
def Point.Fits (s : Session) : Point → Prop
  | .checking | .ensuring | .listing => s.stage = .installing ∧ s.Bare
  | .binding => s.stage = .awaitingBind ∧ s.Launched
  | .connecting => s.stage = .connecting ∧ s.Launched
  | .failing _ r => s.stage = .failed ∧ s.Clearing r
  | .started none => s.stage.isLate = true
  | .started (some (.failed _)) => s.stage.isTerminal = true ∧ s.Bare
  | .disposeWaiting => s.cancelled = true
  | .handshaking => s.stage = .stopping ∧ s.Live
  | .disposing last r =>
    (if last then s.stage = .stopping else s.stage.isTerminal = true) ∧ s.Clearing r
  | .disposed => s.stage.isTerminal = true ∧ s.Bare
  | .watchWaiting => s.stage = .failed
  | .watchReleasing r => s.stage = .failed ∧ s.Clearing r
  | .watched true => s.stage.isTerminal = true ∧ s.Bare
  | _ => True

/-- What holds of a session in a stage, whatever its tasks do. -/
def Standing (s : Session) : Prop :=
  match s.stage with
  | .uninstalled => s.Bare
  | .active => s.Live
  | .stopping | .stopped => s.cancelled = true
  | _ => True

/-- Neither the stage changes nor whether the session was disposed of. -/
def Steady (s s' : Session) : Prop := s'.stage = s.stage ∧ s'.cancelled = s.cancelled

/-- What holds of a session at every time; `held` is what others have leased. -/
structure Sound (held : List Nat) (s : Session) : Prop where
  lock : ∀ (i : Nat) (p : Point), s.tasks[i]? = some p → p.holds = true → s.holder = some i
  watch : ∀ (i : Nat) (p : Point), s.tasks[i]? = some p → p.watches = true →
    s.resources.watcher = some i
  watcher : ∀ i : Nat, s.resources.watcher = some i →
    ∃ p, s.tasks[i]? = some p ∧ (p.watches = true ∨ p = .watched false)
  fits : ∀ (i : Nat) (p : Point), s.tasks[i]? = some p → p.Fits s
  standing : s.Standing
  /-- At most one start succeeds. -/
  once : ∀ i j : Nat, s.tasks[i]? = some (.started none) → s.tasks[j]? = some (.started none) →
    i = j
  /-- Once the session has ended, nobody works on the resources. -/
  settled : ∀ (i : Nat) (p : Point), s.tasks[i]? = some p → p.settles = true →
    ∀ (j : Nat) (q : Point), s.tasks[j]? = some q → q.holds = false
  leases : s.registry.ports.Perm (s.leases ++ held)

/-- What holds in the middle of a move of the task that works on the resources. -/
structure Holding (held : List Nat) (i : Nat) (s : Session) : Prop where
  here : i < s.tasks.length
  holder : s.holder = some i
  idle : ∀ (j : Nat) (p : Point), j ≠ i → s.tasks[j]? = some p →
    p.holds = false ∧ p.settles = false
  watch : ∀ (j : Nat) (p : Point), j ≠ i → s.tasks[j]? = some p → p.watches = true →
    s.resources.watcher = some j
  watcher : ∀ j : Nat, s.resources.watcher = some j →
    j ≠ i ∧ ∃ p, s.tasks[j]? = some p ∧ (p.watches = true ∨ p = .watched false)
  fits : ∀ (j : Nat) (p : Point), j ≠ i → s.tasks[j]? = some p → p.Fits s
  once : ∀ j k : Nat, j ≠ i → k ≠ i → s.tasks[j]? = some (.started none) →
    s.tasks[k]? = some (.started none) → j = k
  leases : s.registry.ports.Perm (s.leases ++ held)

variable {held : List Nat} {i j : Nat} {p q : Point} {s s' : Session} {a : Answers}

theorem goTo_self (h : i < s.tasks.length) : (s.goTo i p).tasks[i]? = some p := by
  simp [goTo, h]

theorem goTo_ne (h : j ≠ i) : (s.goTo i p).tasks[j]? = s.tasks[j]? :=
  List.getElem?_set_ne (Ne.symm h)

theorem lt_length_of_getElem? (h : s.tasks[i]? = some p) : i < s.tasks.length :=
  (List.getElem?_eq_some_iff.1 h).1

/-- A task is the one that has moved, or is where it was. -/
theorem goTo_cases (h : (s.goTo i p).tasks[j]? = some q) :
    (j = i ∧ q = p) ∨ (j ≠ i ∧ s.tasks[j]? = some q) := by
  rw [goTo, List.getElem?_set] at h
  split at h
  · next hij =>
    split at h
    · exact .inl ⟨hij.symm, (Option.some.inj h).symm⟩
    · cases h
  · next hij => exact .inr ⟨Ne.symm hij, h⟩

/-- What is in a longer list is the new element, or was there before. -/
theorem of_getElem?_concat {α : Type} {xs : List α} {x y : α} {j : Nat}
    (h : (xs ++ [x])[j]? = some y) : (j = xs.length ∧ y = x) ∨ xs[j]? = some y := by
  rcases Nat.lt_trichotomy j xs.length with hj | rfl | hj
  · rw [List.getElem?_append_left hj] at h
    exact .inr h
  · rw [List.getElem?_concat_length] at h
    exact .inl ⟨rfl, (Option.some.inj h).symm⟩
  · rw [List.getElem?_eq_none (by simp; omega)] at h
    cases h

/-- A point says nothing of the other tasks. -/
theorem Point.Fits.congr (h : p.Fits s) (stage : s'.stage = s.stage)
    (resources : s'.resources = s.resources) (handle : s'.handle = s.handle)
    (client : s'.client = s.client) (cancelled : s.cancelled = true → s'.cancelled = true) :
    p.Fits s' := by
  have hbare : s.Bare → s'.Bare := fun h =>
    ⟨resources.trans h.resources, handle.trans h.handle, client.trans h.client⟩
  have hclearing : ∀ r, s.Clearing r → s'.Clearing r := fun r h =>
    ⟨handle.trans h.handle, client.trans h.client, by rw [resources]; exact h.channel,
      by rw [resources]; exact h.watcher, by rw [resources]; exact h.process⟩
  unfold Point.Fits at h ⊢
  unfold Launched Live at *
  split at h <;> simp_all

/-- What the point of a task says that neither works nor has ended the session stays true as the
session goes on. -/
theorem Point.Fits.later (h : p.Fits s) (hp : p.holds = false ∧ p.settles = false)
    (way : ∃ way, Stage.Path s.stage way s'.stage)
    (cancelled : s.cancelled = true → s'.cancelled = true) : p.Fits s' := by
  obtain ⟨way, hway⟩ := way
  obtain ⟨hh, hs⟩ := hp
  cases p with
  | started e =>
    cases e with
    | none => exact hway.isLate h
    | some e => cases e <;> trivial
  | disposeWaiting => exact cancelled h
  | watchWaiting =>
    have hfailed : s.stage = .failed := h
    have hterm : s.stage.isTerminal = true := by rw [hfailed]; rfl
    exact (hway.of_isTerminal hterm).2.trans hfailed
  | watched handled => cases handled <;> trivial
  | startWaiting | watching | lingering => trivial
  | checking | ensuring | listing | binding | connecting | failing | handshaking => cases hh
  | disposing => cases hh
  | disposed => cases hs
  | watchReleasing => cases hh

/-- With some ends of a task, the session is over. -/
theorem Point.Fits.settled (h : p.Fits s) (hp : p.settles = true) :
    s.stage.isTerminal = true ∧ s.Bare := by
  unfold Point.settles at hp
  split at hp
  · exact h
  · exact h
  · exact h
  · cases hp

/-! ### In the middle of a move -/

theorem Holding.congr (h : Holding held i s) (holder : s'.holder = s.holder)
    (tasks : s'.tasks = s.tasks) (watcher : s'.resources.watcher = s.resources.watcher)
    (way : ∃ way, Stage.Path s.stage way s'.stage) (cancelled : s'.cancelled = s.cancelled)
    (leases : s'.registry.ports.Perm (s'.leases ++ held)) : Holding held i s' where
  here := by rw [tasks]; exact h.here
  holder := holder.trans h.holder
  idle := by rw [tasks]; exact h.idle
  watch := by rw [tasks, watcher]; exact h.watch
  watcher := by rw [tasks, watcher]; exact h.watcher
  fits j p hne hp := by
    rw [tasks] at hp
    exact (h.fits j p hne hp).later (h.idle j p hne hp) way (by rw [cancelled]; exact id)
  once := by rw [tasks]; exact h.once
  leases := leases

theorem Holding.moveTo (h : Holding held i s) (next : Stage) : Holding held i (s.moveTo next) := by
  unfold Session.moveTo
  split
  · next ha => exact h.congr rfl rfl rfl ⟨_, Stage.path_single ha⟩ rfl h.leases
  · exact h

theorem Holding.fail (h : Holding held i s) (f : Failure) : Holding held i (s.fail f) := by
  unfold Session.fail
  split
  · exact (h.moveTo .failed).congr rfl rfl rfl ⟨[], rfl⟩ rfl (h.moveTo .failed).leases
  · exact h

theorem Standing.congr (h : s.Standing) (stage : s'.stage = s.stage)
    (resources : s'.resources = s.resources) (handle : s'.handle = s.handle)
    (client : s'.client = s.client) (cancelled : s.cancelled = true → s'.cancelled = true) :
    s'.Standing := by
  have hbare : s.Bare → s'.Bare := fun h =>
    ⟨resources.trans h.resources, handle.trans h.handle, client.trans h.client⟩
  unfold Standing at h ⊢
  unfold Live at *
  rw [stage]
  split at h <;> simp_all

theorem Standing.cancelled (h : s.Standing) (hs : s.stage = .stopping) : s.cancelled = true := by
  unfold Standing at h
  rwa [hs] at h

/-- In a stage that is not live, nothing but that stage counts. -/
theorem Standing.steady (h : s.Standing) (hs : s.stage = .stopping ∨ s.stage.isTerminal = true)
    (hsteady : Steady s s') : s'.Standing := by
  unfold Standing at h ⊢
  rw [hsteady.1, hsteady.2]
  rcases hs with hs | hs
  · rw [hs] at h ⊢
    exact h
  · cases hstage : s.stage with
    | stopped =>
      rw [hstage] at h
      exact h
    | failed => trivial
    | _ => rw [hstage] at hs; cases hs

/-- At the end of a move the task is at a point again, and has the resources or not. -/
theorem Holding.put (h : Holding held i s) {holder : Option Nat} (hwatch : p.watches = false)
    (hhold : p.holds = true → holder = some i ∧ p.settles = false) (hf : p.Fits s)
    (hst : s.Standing)
    (honce : p = .started none → ∀ j, j ≠ i → s.tasks[j]? ≠ some (.started none)) :
    Sound held { s.goTo i p with holder } := by
  have hcases : ∀ (j : Nat) (q : Point), (s.goTo i p).tasks[j]? = some q →
      (j = i ∧ q = p) ∨ (j ≠ i ∧ s.tasks[j]? = some q) := fun j q => goTo_cases
  refine ⟨?_, ?_, ?_, ?_, hst.congr rfl rfl rfl rfl id, ?_, ?_, h.leases⟩
  · intro j q hq hh
    rcases hcases j q hq with ⟨rfl, rfl⟩ | ⟨hne, hq⟩
    · exact (hhold hh).1
    · rw [(h.idle j q hne hq).1] at hh; cases hh
  · intro j q hq hw
    rcases hcases j q hq with ⟨-, rfl⟩ | ⟨hne, hq⟩
    · rw [hwatch] at hw; cases hw
    · exact h.watch j q hne hq hw
  · intro j hj
    obtain ⟨hne, q, hq, hw⟩ := h.watcher j hj
    exact ⟨q, (goTo_ne hne).trans hq, hw⟩
  · intro j q hq
    rcases hcases j q hq with ⟨-, rfl⟩ | ⟨hne, hq⟩
    · exact hf.congr rfl rfl rfl rfl id
    · exact (h.fits j q hne hq).congr rfl rfl rfl rfl id
  · intro j k hj hk
    rcases hcases j _ hj with ⟨hji, hpj⟩ | ⟨hne, hj⟩
    · rcases hcases k _ hk with ⟨hki, -⟩ | ⟨hne, hk⟩
      · exact hji.trans hki.symm
      · exact absurd hk (honce hpj.symm k hne)
    · rcases hcases k _ hk with ⟨-, hpk⟩ | ⟨hne', hk⟩
      · exact absurd hj (honce hpk.symm j hne)
      · exact h.once j k hne hne' hj hk
  · intro j q hq hs k r hr
    rcases hcases j q hq with ⟨-, rfl⟩ | ⟨hne, hq⟩
    · rcases hcases k r hr with ⟨-, rfl⟩ | ⟨hne, hr⟩
      · refine Bool.eq_false_iff.2 fun hh => ?_
        rw [(hhold hh).2] at hs; cases hs
      · exact (h.idle k r hne hr).1
    · rw [(h.idle j q hne hq).2] at hs; cases hs

/-- The task goes on working on the resources. -/
theorem Holding.stay (h : Holding held i s) (hp : p.holds = true) (hf : p.Fits s)
    (hst : s.Standing) : Sound held (s.goTo i p) := by
  have hwatch : p.watches = false := by cases p <;> first | rfl | cases hp
  have hsettle : p.settles = false := by cases p <;> first | rfl | cases hp
  show Sound held { s.goTo i p with holder := s.holder }
  refine h.put hwatch (fun _ => ⟨h.holder, hsettle⟩) hf hst ?_
  rintro rfl
  cases hp

/-- The task ends and lets the resources go. -/
theorem Holding.leave (h : Holding held i s) (hp : p.hasEnded = true) (hf : p.Fits s)
    (hst : s.Standing)
    (honce : p = .started none → ∀ j, j ≠ i → s.tasks[j]? ≠ some (.started none)) :
    Sound held (s.goTo i p).unlock := by
  have hwatch : p.watches = false := by cases p <;> first | rfl | cases hp
  have hhold : p.holds = false := by cases p <;> first | rfl | cases hp
  refine h.put hwatch (fun hh => ?_) hf hst honce
  rw [hhold] at hh; cases hh

/-! ### Giving resources back -/

/-- What giving the resources back leads to: there is something to wait for, or nothing is left. -/
def Freed : Session × Option Releasing → Prop
  | (s, some r) => s.Clearing r
  | (s, none) => s.Bare

theorem Holding.releaseEndpoint (h : Holding held i s) : Holding held i s.releaseEndpoint := by
  unfold Session.releaseEndpoint
  split
  · next e he =>
    refine h.congr rfl rfl rfl ⟨[], rfl⟩ rfl ?_
    have hperm := h.leases
    simp only [Session.leases, he, Option.bind_some] at hperm
    exact Registry.perm_release hperm
  · exact h

theorem Holding.releaseProcess (h : Holding held i s) : Holding held i s.releaseProcess.1 := by
  unfold Session.releaseProcess
  split
  · exact h.congr rfl rfl rfl ⟨[], rfl⟩ rfl h.leases
  · exact h.releaseEndpoint

/-- The watcher is stopped and forgotten, and callers no longer see anything. -/
theorem Holding.abort (h : Holding held i s) : Holding held i { s.abortWatcher with
    resources := { s.abortWatcher.resources with watcher := none }
    client := false
    handle := none } := by
  unfold abortWatcher
  split
  · next w hw =>
    obtain ⟨hne, -⟩ := h.watcher w hw
    -- a task other than the watcher is where it was, and does not watch
    have hcases : ∀ (j : Nat) (q : Point), j ≠ i → (s.goTo w (.watched false)).tasks[j]? = some q →
        q = .watched false ∨ (s.tasks[j]? = some q ∧ q.watches = false) := by
      intro j q hji hq
      by_cases hjw : j = w
      · have hlen : w < s.tasks.length := by
          simpa [goTo, hjw] using lt_length_of_getElem? hq
        rw [hjw, goTo_self hlen] at hq
        exact .inl (Option.some.inj hq).symm
      · rw [goTo_ne hjw] at hq
        refine .inr ⟨hq, Bool.eq_false_iff.2 fun hwq => hjw ?_⟩
        have := h.watch j q hji hq hwq
        rw [hw] at this
        exact (Option.some.inj this).symm
    refine ⟨by simpa [goTo] using h.here, h.holder, ?_, ?_, ?_, ?_, ?_, h.leases⟩
    · intro j q hji hq
      rcases hcases j q hji hq with rfl | ⟨hq, -⟩
      · exact ⟨rfl, rfl⟩
      · exact h.idle j q hji hq
    · intro j q hji hq hwq
      rcases hcases j q hji hq with rfl | ⟨-, hnw⟩
      · cases hwq
      · rw [hnw] at hwq; cases hwq
    · intro j hj
      cases hj
    · intro j q hji hq
      rcases hcases j q hji hq with rfl | ⟨hq, -⟩
      · trivial
      · exact (h.fits j q hji hq).later (h.idle j q hji hq) ⟨[], rfl⟩ id
    · intro j k hji hki hj hk
      rcases hcases j _ hji hj with hj | ⟨hj, -⟩
      · cases hj
      · rcases hcases k _ hki hk with hk | ⟨hk, -⟩
        · cases hk
        · exact h.once j k hji hki hj hk
  · next hw =>
    exact h.congr rfl rfl hw.symm ⟨[], rfl⟩ rfl h.leases

theorem Holding.release (h : Holding held i s) : Holding held i (s.release true).1 := by
  unfold Session.release
  have habort := h.abort
  dsimp only
  rw [if_pos rfl]
  split
  · exact habort.congr rfl rfl rfl ⟨[], rfl⟩ rfl habort.leases
  · exact habort.releaseProcess

theorem Holding.releaseOn (h : Holding held i s) (r : Releasing) :
    Holding held i (s.releaseOn r).1 := by
  cases r with
  | closing => exact h.releaseProcess
  | terminating => exact h.releaseEndpoint

theorem freed_releaseEndpoint (h : s.Clearing .terminating) : Freed (s.releaseEndpoint, none) := by
  have hproc := h.process rfl
  unfold Session.releaseEndpoint
  split
  · exact ⟨by simp [hproc, h.channel, h.watcher], h.handle, h.client⟩
  · next he =>
    refine ⟨?_, h.handle, h.client⟩
    rw [show s.resources = ⟨s.resources.process, s.resources.endpoint, s.resources.client,
      s.resources.watcher⟩ from rfl, hproc, he, h.channel, h.watcher]

theorem freed_releaseProcess (h : s.Clearing .closing) : Freed s.releaseProcess := by
  unfold Session.releaseProcess
  split
  · exact ⟨h.handle, h.client, h.channel, h.watcher, fun _ => rfl⟩
  · next hproc =>
    exact freed_releaseEndpoint ⟨h.handle, h.client, h.channel, h.watcher, fun _ => hproc⟩

theorem freed_release (s : Session) (abort : Bool) : Freed (s.release abort) := by
  unfold Session.release
  generalize (if abort then s.abortWatcher else s) = t
  dsimp only
  split
  · exact ⟨rfl, rfl, rfl, rfl, nofun⟩
  · next hclient => exact freed_releaseProcess ⟨rfl, rfl, by simpa using hclient, rfl, nofun⟩

theorem freed_releaseOn {r : Releasing} (h : s.Clearing r) : Freed (s.releaseOn r) := by
  cases r with
  | closing => exact freed_releaseProcess h
  | terminating => exact freed_releaseEndpoint h

theorem steady_abortWatcher (s : Session) : Steady s s.abortWatcher := by
  unfold abortWatcher
  split <;> exact ⟨rfl, rfl⟩

theorem steady_releaseEndpoint (s : Session) : Steady s s.releaseEndpoint := by
  unfold Session.releaseEndpoint
  split <;> exact ⟨rfl, rfl⟩

theorem steady_releaseProcess (s : Session) : Steady s s.releaseProcess.1 := by
  unfold Session.releaseProcess
  split
  · exact ⟨rfl, rfl⟩
  · exact steady_releaseEndpoint s

theorem steady_release (s : Session) (abort : Bool) : Steady s (s.release abort).1 := by
  have habort : Steady s (if abort then s.abortWatcher else s) := by
    cases abort
    · exact ⟨rfl, rfl⟩
    · exact steady_abortWatcher s
  unfold Session.release
  revert habort
  generalize (if abort then s.abortWatcher else s) = t
  intro habort
  dsimp only
  split
  · exact habort
  · have hproc := steady_releaseProcess { t with
      resources := { t.resources with watcher := none }, client := false, handle := none }
    exact ⟨hproc.1.trans habort.1, hproc.2.trans habort.2⟩

theorem steady_releaseOn (s : Session) (r : Releasing) : Steady s (s.releaseOn r).1 := by
  cases r with
  | closing => exact steady_releaseProcess s
  | terminating => exact steady_releaseEndpoint s

/-- Where nothing is left there is nothing to give back. -/
theorem release_bare (h : s.Bare) : s.release true = (s, none) := by
  obtain ⟨hres, hhandle, hclient⟩ := h
  cases s
  simp only at hres hhandle hclient
  subst hres hhandle hclient
  rfl

/-! ### Starting -/

theorem standing_of_failed (h : s.stage = .failed) : s.Standing := by
  unfold Standing
  rw [h]
  trivial

theorem standing_of_isStarting (h : s.stage.isStarting = true) : s.Standing := by
  unfold Standing
  split <;> simp_all [Stage.isStarting]

theorem moveTo_stage {next : Stage} (h : s.stage.allows next = true) :
    (s.moveTo next).stage = next := by
  unfold Session.moveTo
  rw [if_pos h]

theorem sound_advance {next : Stage} {go : Session → Session} (h : s.stage.allows next = true)
    (hgo : Sound held (go (s.moveTo next))) : Sound held (s.advance i next go) := by
  unfold advance
  rwa [if_pos h]

theorem fail_stage (h : s.stage.isTerminal = false) (f : Failure) : (s.fail f).stage = .failed := by
  have hallows : s.stage.allows .failed = true := by simp [Stage.allows, h]
  unfold Session.fail
  rw [if_pos hallows]
  exact moveTo_stage hallows

/-- A start that is told of the end of the session returns. -/
theorem Holding.cancelled (h : Holding held i s) (hst : s.Standing) :
    Sound held (s.startReturns i (some .cancelled)) :=
  h.leave rfl trivial hst nofun

theorem Holding.await (h : Holding held i s) (hp : p.holds = true) (hf : p.Fits s)
    (hst : s.Standing) : Sound held (s.await i p) := by
  unfold Session.await
  split
  · exact h.cancelled hst
  · exact h.stay hp hf hst

theorem Holding.failingOn {x : Session × Option Releasing} (h : Holding held i x.1) (hx : Freed x)
    (hstage : x.1.stage = .failed) (f : Failure) : Sound held (failingOn i f x) := by
  obtain ⟨t, r⟩ := x
  cases r with
  | some r => exact h.stay rfl ⟨hstage, hx⟩ (standing_of_failed hstage)
  | none =>
    have hterm : t.stage.isTerminal = true := by rw [hstage]; rfl
    exact h.leave rfl ⟨hterm, hx⟩ (standing_of_failed hstage) nofun

theorem Holding.startFails (h : Holding held i s) (hs : s.stage.isTerminal = false) (f : Failure) :
    Sound held (s.startFails i f) := by
  refine (h.fail f).release.failingOn (freed_release _ _) ?_ f
  rw [(steady_release _ _).1, fail_stage hs]

theorem Bare.moveTo (h : s.Bare) (next : Stage) : (s.moveTo next).Bare := by
  unfold Session.moveTo
  split
  · exact ⟨h.resources, h.handle, h.client⟩
  · exact h

theorem Launched.moveTo (h : s.Launched) (next : Stage) : (s.moveTo next).Launched := by
  unfold Session.moveTo
  split <;> exact h

theorem Live.moveTo (h : s.Live) (next : Stage) : (s.moveTo next).Live := by
  unfold Session.moveTo
  split <;> exact h

theorem Holding.beginStart (h : Holding held i s) (hst : s.Standing) :
    Sound held (s.beginStart i) := by
  unfold Session.beginStart
  split
  · exact h.leave rfl trivial hst nofun
  · next hu =>
    have hstage : s.stage = .uninstalled := by simpa using hu
    have hbare : s.Bare := by
      unfold Standing at hst
      rwa [hstage] at hst
    have hallows : s.stage.allows .installing = true := by rw [hstage]; rfl
    have hnext := moveTo_stage hallows
    refine sound_advance hallows ?_
    refine (h.moveTo _).await ?_ ?_ (standing_of_isStarting (by rw [hnext]; rfl))
    · split <;> rfl
    · split <;> exact ⟨hnext, hbare.moveTo _⟩

theorem Holding.spawn {e : Endpoint}
    (h : Holding held i { s with resources := { s.resources with endpoint := some e } })
    (hstage : s.stage = .launching) (hb : s.Bare) : Sound held (s.spawn i a e) := by
  unfold Session.spawn
  dsimp only
  split
  · exact h.startFails (by simp [hstage, Stage.isTerminal]) _
  · next pid _ =>
    have hallows : s.stage.allows .awaitingBind = true := by rw [hstage]; rfl
    refine sound_advance hallows ?_
    set t : Session := { s with
      resources := { s.resources with endpoint := some e, process := some pid } } with ht
    have hlaunched : t.Launched := ⟨pid, e, by simp [ht, hb.resources], hb.handle, hb.client⟩
    have hold : Holding held i t := h.congr rfl rfl rfl ⟨[], rfl⟩ rfl h.leases
    have hnext : (t.moveTo .awaitingBind).stage = .awaitingBind := moveTo_stage hallows
    exact (hold.moveTo _).await rfl ⟨hnext, hlaunched.moveTo _⟩
      (standing_of_isStarting (by rw [hnext]; rfl))

theorem Holding.launch (h : Holding held i s) (hstage : s.stage = .installing) (hb : s.Bare) :
    Sound held (s.launch i a) := by
  have hallows : s.stage.allows .installed = true := by rw [hstage]; rfl
  have hinstalled := moveTo_stage hallows
  have hallows' : (s.moveTo .installed).stage.allows .launching = true := by rw [hinstalled]; rfl
  have hnext := moveTo_stage hallows'
  unfold Session.launch
  refine sound_advance hallows (sound_advance hallows' ?_)
  have hold := (h.moveTo .installed).moveTo .launching
  have hbare := (hb.moveTo .installed).moveTo .launching
  generalize (s.moveTo .installed).moveTo .launching = t at hnext hold hbare
  have hterm : t.stage.isTerminal = false := by rw [hnext]; rfl
  have hfree : t.registry.ports.Perm held := by simpa [hbare.leases] using hold.leases
  split
  · exact hold.startFails hterm _
  · next e registry hr =>
    have hports : registry.ports.Perm (e.port?.toList ++ held) := by
      rw [(Registry.ports_allocate hr).2]
      exact hfree.append_left _
    split
    · -- an endpoint that somebody else occupies is given back at once
      have hback : Holding held i { t with registry := registry.release e } := by
        refine hold.congr rfl rfl rfl ⟨[], rfl⟩ rfl ?_
        show (registry.release e).ports.Perm (t.leases ++ held)
        rw [hbare.leases]
        exact Registry.perm_release hports
      exact hback.startFails hterm _
    · refine Holding.spawn (hold.congr rfl rfl rfl ⟨[], rfl⟩ rfl hports) hnext ?_
      exact ⟨hbare.resources, hbare.handle, hbare.client⟩

/-- The watcher is added, where there is none. -/
theorem Holding.addWatcher (h : Holding held i s) (hw : s.resources.watcher = none) :
    Holding held i { s with
      resources := { s.resources with watcher := some s.tasks.length }
      tasks := s.tasks ++ [Point.watching] } := by
  have hlen := h.here
  refine ⟨by simp; omega, h.holder, ?_, ?_, ?_, ?_, ?_, h.leases⟩
  · intro j q hne hq
    rcases of_getElem?_concat hq with ⟨-, rfl⟩ | hq
    · exact ⟨rfl, rfl⟩
    · exact h.idle j q hne hq
  · intro j q hne hq hwq
    rcases of_getElem?_concat hq with ⟨rfl, -⟩ | hq
    · rfl
    · have := h.watch j q hne hq hwq
      rw [hw] at this; cases this
  · intro j hj
    cases hj
    exact ⟨by omega, .watching, List.getElem?_concat_length, .inl rfl⟩
  · intro j q hne hq
    rcases of_getElem?_concat hq with ⟨-, rfl⟩ | hq
    · trivial
    · exact (h.fits j q hne hq).later (h.idle j q hne hq) ⟨[], rfl⟩ id
  · intro j k hji hki hj hk
    rcases of_getElem?_concat hj with ⟨-, hj⟩ | hj
    · cases hj
    · rcases of_getElem?_concat hk with ⟨-, hk⟩ | hk
      · cases hk
      · exact h.once j k hji hki hj hk

theorem Holding.activate (h : Holding held i s) (hstage : s.stage = .connecting)
    (hl : s.Launched) : Sound held (s.activate i) := by
  obtain ⟨pid, e, hres, hhandle, hclient⟩ := hl
  have hallows : s.stage.allows .active = true := by rw [hstage]; rfl
  -- so far no start has succeeded
  have hnone : ∀ j, j ≠ i → s.tasks[j]? ≠ some (.started none) := by
    intro j hne hj
    have hlate : s.stage.isLate = true := h.fits j _ hne hj
    rw [hstage] at hlate; cases hlate
  unfold Session.activate
  rw [hres]
  refine sound_advance hallows ?_
  set t : Session := { s with
    client := true
    events := true
    handle := some ⟨pid, e.kind, e.host?, e.port?⟩
    resources := { process := some pid, endpoint := some e, client := true } } with ht
  have hold : Holding held i t := by
    refine h.congr rfl rfl (by rw [hres]) ⟨[], rfl⟩ rfl ?_
    have hleases : t.leases = s.leases := by simp [Session.leases, ht, hres]
    rw [hleases]
    exact h.leases
  have hnext : t.moveTo .active = { t with stage := .active, history := t.history ++ [.active] } :=
    if_pos hallows
  have hold' := (hold.moveTo .active).addWatcher (by rw [hnext])
  rw [hnext] at hold' ⊢
  refine Holding.leave (hold'.congr rfl rfl rfl ⟨[], rfl⟩ rfl hold'.leases) rfl rfl ?_ ?_
  · exact ⟨pid, e, t.tasks.length, rfl, rfl, rfl⟩
  · intro _ j hne hj
    rcases of_getElem?_concat hj with ⟨-, hw⟩ | hj
    · cases hw
    · exact hnone j hne hj

theorem Holding.bound (h : Holding held i s) (hstage : s.stage = .awaitingBind)
    (hl : s.Launched) (ready : Bool) : Sound held (s.bound i ready) := by
  have hterm : s.stage.isTerminal = false := by rw [hstage]; rfl
  have hallows : s.stage.allows .connecting = true := by rw [hstage]; rfl
  have hnext := moveTo_stage hallows
  have hl' := hl.moveTo .connecting
  obtain ⟨pid, e, hres, -⟩ := hl
  unfold Session.bound
  rw [hres]
  dsimp only
  split
  · exact h.startFails hterm _
  · refine sound_advance hallows ?_
    split
    · exact (h.moveTo _).startFails (by rw [hnext]; rfl) _
    · exact (h.moveTo _).activate hnext hl'
    · exact (h.moveTo _).await rfl ⟨hnext, hl'⟩ (standing_of_isStarting (by rw [hnext]; rfl))

theorem Holding.disposingOn {x : Session × Option Releasing} (h : Holding held i x.1)
    (hx : Freed x) (last : Bool)
    (hstage : if last then x.1.stage = .stopping else x.1.stage.isTerminal = true)
    (hst : x.1.Standing) : Sound held (disposingOn i last x) := by
  obtain ⟨t, r⟩ := x
  cases r with
  | some r => exact h.stay rfl ⟨hstage, hx⟩ hst
  | none =>
    cases last with
    | false => exact h.leave rfl ⟨hstage, hx⟩ hst nofun
    | true =>
      have hallows : t.stage.allows .stopped = true := by rw [show t.stage = _ from hstage]; rfl
      have hnext : t.moveTo .stopped =
          { t with stage := .stopped, history := t.history ++ [.stopped] } := if_pos hallows
      have hold := h.moveTo .stopped
      have hc := hst.cancelled hstage
      unfold Session.disposingOn
      dsimp only
      rw [if_pos rfl]
      rw [hnext] at hold ⊢
      refine Holding.leave (hold.congr rfl rfl rfl ⟨[], rfl⟩ rfl hold.leases) rfl ⟨rfl, ?_⟩ hc nofun
      exact ⟨hx.resources, hx.handle, hx.client⟩

theorem moveTo_stopping (h : s.stage.isTerminal = false) :
    (s.moveTo .stopping).stage = .stopping := by
  unfold Session.moveTo
  split
  · rfl
  · next hn => simpa [Stage.allows, h] using hn

theorem moveTo_cancelled (s : Session) (next : Stage) :
    (s.moveTo next).cancelled = s.cancelled := by
  unfold Session.moveTo
  split <;> rfl

theorem Holding.beginDispose (h : Holding held i s) (hst : s.Standing) (hc : s.cancelled = true) :
    Sound held (s.beginDispose i) := by
  unfold Session.beginDispose
  split
  · next hterm =>
    refine h.release.disposingOn (freed_release _ _) false ?_ ?_
    · simpa [(steady_release s true).1] using hterm
    · exact hst.steady (.inr hterm) (steady_release s true)
  · next hterm =>
    have hstop := moveTo_stopping (by simpa using hterm)
    have hold := h.moveTo .stopping
    have hc' : (s.moveTo .stopping).cancelled = true := by rw [moveTo_cancelled, hc]
    have hst' : (s.moveTo .stopping).Standing := by
      unfold Standing
      rw [hstop]
      exact hc'
    dsimp only
    split
    · next hlive =>
      have hactive : s.stage = .active := by simp at hlive; exact hlive.1
      have hl : s.Live := by
        unfold Standing at hst
        rwa [hactive] at hst
      exact hold.stay rfl ⟨hstop, hl.moveTo _⟩ hst'
    · refine hold.release.disposingOn (freed_release _ _) true ?_ ?_
      · rw [if_pos rfl, (steady_release _ _).1, hstop]
      · exact hst'.steady (.inl hstop) (steady_release _ true)

end Sidecar.Session
