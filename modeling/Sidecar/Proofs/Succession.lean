/-
# One session at a time

A manager replaces sessions, and a session takes its time to go: its watcher
may still be giving back what a failed session had when the next start is
called. The sessions share one registry, so an overlap would be a clash over a
port. There is none: the manager has to do with one session only, the current
one or the one it disposes of (`present?`), and every other session it has ever
had is past: it has ended, nothing is left of it, and nothing that its tasks
still do changes that (`Past`).

So the registry holds at most the lease of the session at hand, and none when
that asks for one (`Sound`). A session that nobody but the manager calls is
still the current one when its start has failed, and it is in the failed stage
(`Kept`). A call is over when the manager is idle again: then a shutdown has
left nothing (`Released`), and a start has left a new session (`Renewed`).

Key definitions: `Manager.present?`, `Manager.Past`, `Manager.Sound`, `Manager.Kept`,
`Manager.Released`, `Manager.Renewed`.
Key theorems: `Manager.Sound.step`, `Manager.Kept.step`, `Manager.one_session_at_a_time`.
-/
import Sidecar.Proofs.Causes
import Sidecar.Proofs.Teardown
import Sidecar.Session.Manager

namespace Sidecar.Manager

/-- The session that the manager has to do with: the one it disposes of, or else the current one. -/
def present? (m : Manager) : Option Nat :=
  match m.phase with
  | .disposing k _ _ => some k
  | _ => m.current

/-- A session with what it shares. -/
def view (m : Manager) (s : Session) : Session := { s with registry := m.registry, sink := m.sink }

/-- A session that is over, whatever others have leased. -/
structure Past (s : Session) : Prop where
  ended : ∃ (i : Nat) (p : Session.Point), s.tasks[i]? = some p ∧ p.settles = true
  sound : ∀ registry sink, Session.Sound registry.ports { s with registry, sink }

variable {m : Manager} {s : Session} {a : Answers} {k n task : Nat} {mv : Session.Move}

theorem past_of_settles {held : List Nat} (h : Session.Sound held s) {i : Nat} {p : Session.Point}
    (hp : s.tasks[i]? = some p) (hset : p.settles = true) : Past s := by
  refine ⟨⟨i, p, hp, hset⟩, fun registry sink => ?_⟩
  refine h.congr rfl rfl rfl rfl rfl rfl rfl ?_
  rw [((h.fits i p hp).settled hset).2.leases]
  exact .refl _

theorem Past.over (h : Past s) (registry : Registry) (sink : Sink) :
    Session.Over { s with registry, sink } := by
  obtain ⟨i, p, hp, hset⟩ := h.ended
  exact (h.sound registry sink).over_of_settles hp hset

/-- What a past session still does is of no consequence. -/
theorem Past.step (h : Past s) (registry : Registry) (sink : Sink) (a : Answers)
    (mv : Session.Move) :
    Past ({ s with registry, sink }.step a mv) ∧
      ({ s with registry, sink }.step a mv).registry = registry := by
  obtain ⟨i, p, hp, hset⟩ := h.ended
  have hended : p.hasEnded = true := by
    unfold Session.Point.settles at hset
    split at hset <;> first | rfl | cases hset
  have hsound := h.sound registry sink
  have hlater : ({ s with registry, sink }.step a mv).tasks[i]? = some p :=
    hsound.ended_step hp hended
  exact ⟨past_of_settles (hsound.step a mv) hlater hset, ((h.over registry sink).step mv a).registry⟩

theorem Past.cleared (h : Past s) :
    s.stage.isTerminal = true ∧ s.resources = {} ∧ s.handle = none ∧ s.client = false := by
  have hover := h.over s.registry s.sink
  exact ⟨hover.terminal, hover.bare.resources, hover.bare.handle, hover.bare.client⟩

/-- Without a past no session asks for a lease while there is one. -/
theorem ports_of_bare (h : Session.Sound [] s) (hb : s.Bare) : s.registry.ports = [] := by
  have hleases := h.leases
  rw [hb.leases] at hleases
  exact hleases.eq_nil

/-! ### What holds of a manager at every time -/

structure Sound (m : Manager) : Prop where
  past : ∀ (j : Nat) (s : Session), m.sessions[j]? = some s → m.present? ≠ some j → Past s
  last : ∀ k, m.present? = some k → k + 1 = m.sessions.length
  live : ∀ (k : Nat) (s : Session), m.present? = some k → m.sessions[k]? = some s →
    Session.Sound [] (m.view s)
  absent : m.present? = none → m.registry.ports = []
  current : ∀ k task again, m.phase = .disposing k task again → m.current = none
  unblamed : ∀ (j : Nat) (s : Session), m.sessions[j]? = some s →
    ∀ port, ¬ s.Blames (.ofAllocate (.leased port))

theorem stepSession_eq (hs : m.sessions[k]? = some s) (a : Answers) (mv : Session.Move) :
    m.stepSession a k mv = { m with
      registry := ((m.view s).step a mv).registry
      sink := ((m.view s).step a mv).sink
      sessions := m.sessions.set k ((m.view s).step a mv) } := by
  rw [stepSession, hs]
  rfl

theorem getElem?_set_cases {sessions : List Session} {s' t : Session} {j : Nat}
    (h : (sessions.set k s')[j]? = some t) :
    (j = k ∧ t = s') ∨ (j ≠ k ∧ sessions[j]? = some t) := by
  by_cases hj : j = k
  · subst hj
    have hlt : j < sessions.length := by
      have := (List.getElem?_eq_some_iff.1 h).1
      simpa using this
    rw [List.getElem?_set_self hlt] at h
    exact .inl ⟨rfl, (Option.some.inj h).symm⟩
  · rw [List.getElem?_set_ne (Ne.symm hj)] at h
    exact .inr ⟨hj, h⟩

/-- Every session is sound with what it shares, whether it is present or past. -/
theorem Sound.sound_view (h : Sound m) (hs : m.sessions[k]? = some s) :
    ∃ held, Session.Sound held (m.view s) := by
  by_cases hk : m.present? = some k
  · exact ⟨_, h.live k s hk hs⟩
  · exact ⟨_, (h.past k s hs hk).sound m.registry m.sink⟩

/-- Leases are asked for only where there are none. -/
theorem Sound.free_of_listing (h : Sound m) (hs : m.sessions[k]? = some s) {i : Nat}
    (hp : s.tasks[i]? = some .listing) : m.registry.ports = [] := by
  by_cases hk : m.present? = some k
  · have hsound := h.live k s hk hs
    have hbare := (hsound.fits i .listing hp).2
    exact ports_of_bare hsound hbare
  · have hidle := ((h.past k s hs hk).over m.registry m.sink).idle i _ hp
    cases hidle.1

theorem Sound.stepSession (h : Sound m) (a : Answers) (k : Nat) (mv : Session.Move) :
    Sound (m.stepSession a k mv) := by
  cases hs : m.sessions[k]? with
  | none =>
    rw [Manager.stepSession, hs]
    exact h
  | some s =>
    have hunblamed : ∀ port, ¬ ((m.view s).step a mv).Blames (.ofAllocate (.leased port)) := by
      obtain ⟨held, hsound⟩ := h.sound_view hs
      exact hsound.not_blames_leased_step (fun i hp => h.free_of_listing hs hp) (h.unblamed k s hs)
        a mv
    -- a past session leaves the leases alone
    have hsame : m.present? ≠ some k → ((m.view s).step a mv).registry = m.registry :=
      fun hk => ((h.past k s hs hk).step m.registry m.sink a mv).2
    rw [stepSession_eq hs]
    refine ⟨?_, ?_, ?_, ?_, h.current, ?_⟩
    · intro j t ht hj
      rcases getElem?_set_cases ht with ⟨rfl, rfl⟩ | ⟨-, ht⟩
      · exact ((h.past j s hs hj).step m.registry m.sink a mv).1
      · exact h.past j t ht hj
    · intro j hj
      rw [List.length_set]
      exact h.last j hj
    · intro j t hj ht
      change m.present? = some j at hj
      rcases getElem?_set_cases ht with ⟨rfl, rfl⟩ | ⟨hne, ht⟩
      · exact (h.live j s hj hs).step a mv
      · have hk : m.present? ≠ some k := by
          rw [hj]
          exact fun he => hne (Option.some.inj he)
        have hlive := h.live j t hj ht
        refine hlive.congr rfl rfl rfl rfl rfl rfl rfl ?_
        show ((m.view s).step a mv).registry.ports.Perm _
        rw [hsame hk]
        exact hlive.leases
    · intro hnone
      change m.present? = none at hnone
      show ((m.view s).step a mv).registry.ports = []
      rw [hsame (by rw [hnone]; nofun)]
      exact h.absent hnone
    · intro j t ht
      rcases getElem?_set_cases ht with ⟨-, rfl⟩ | ⟨-, ht⟩
      · exact hunblamed
      · exact h.unblamed j t ht

/-- Nothing that counts depends on what the manager waits for, but for whom it has to do with. -/
theorem Sound.rephase (h : Sound m) {current : Option Nat} {phase : Phase}
    (hpresent : { m with current, phase }.present? = m.present?)
    (hcurrent : ∀ k task again, phase = .disposing k task again → current = none) :
    Sound { m with current, phase } := by
  refine ⟨?_, ?_, ?_, ?_, hcurrent, h.unblamed⟩
  · rw [hpresent]
    exact h.past
  · rw [hpresent]
    exact h.last
  · rw [hpresent]
    exact h.live
  · rw [hpresent]
    exact h.absent

/-- A session right after its start was called. -/
def newborn (m : Manager) : Session :=
  { settings := m.settings, registry := m.registry, sink := m.sink, tasks := [.startWaiting] }

theorem beginStart_eq (m : Manager) (a : Answers) : m.beginStart a = { m with
    sessions := m.sessions ++ [m.newborn]
    current := some m.sessions.length
    phase := .starting m.sessions.length 0 } := by
  have hs : m.create.sessions[m.sessions.length]? = some { settings := m.settings } := by
    simp [create]
  rw [beginStart, stepSession_eq hs]
  simp [create, view, newborn, Session.step]

theorem Sound.beginStart (h : Sound m) (hnone : m.present? = none) (a : Answers) :
    Sound (m.beginStart a) := by
  have hports := h.absent hnone
  have hnew : Session.Sound [] m.newborn := by
    have hfresh : Session.Fresh { settings := m.settings, registry := m.registry, sink := m.sink } :=
      rfl
    have hsound := hfresh.sound
    rw [hports] at hsound
    exact hsound.step a .start
  rw [beginStart_eq]
  refine ⟨?_, ?_, ?_, nofun, nofun, ?_⟩
  · intro j s hs hj
    rcases Session.of_getElem?_concat hs with ⟨rfl, rfl⟩ | hs
    · exact absurd rfl hj
    · exact h.past j s hs (by rw [hnone]; nofun)
  · rintro k ⟨⟩
    simp
  · rintro k s ⟨⟩ hs
    rw [List.getElem?_concat_length] at hs
    cases hs
    exact hnew
  · intro j s hs port hb
    rcases Session.of_getElem?_concat hs with ⟨-, rfl⟩ | hs
    · rcases hb with hb | ⟨i, p, hp, he⟩
      · cases hb
      · have hmem := List.mem_of_getElem? hp
        rw [List.mem_singleton.1 hmem] at he
        cases he
    · exact h.unblamed j s hs port hb

@[simp]
theorem phase_stepSession : (m.stepSession a k mv).phase = m.phase := by
  unfold stepSession
  split <;> rfl

@[simp]
theorem current_stepSession : (m.stepSession a k mv).current = m.current := by
  unfold stepSession
  split <;> rfl

theorem present?_stepSession : (m.stepSession a k mv).present? = m.present? := by
  simp [present?]

theorem Sound.beginShutdown (h : Sound m) (hidle : m.phase = .idle) (a : Answers) (again : Bool) :
    Sound (m.beginShutdown a again) := by
  have hpresent : m.present? = m.current := by rw [present?, hidle]
  unfold Manager.beginShutdown
  split
  · next k hk =>
    refine (h.stepSession a k .dispose).rephase ?_ fun _ _ _ _ => rfl
    rw [present?_stepSession, hpresent, hk]
    rfl
  · next hnone =>
    split
    · exact h.beginStart (hpresent.trans hnone) a
    · exact h

/-- The session that the manager disposes of is past once that is done. -/
theorem Sound.disposed (h : Sound m) {task : Nat} {again : Bool}
    (hphase : m.phase = .disposing k task again) (hp : m.point? k task = some .disposed) :
    Sound { m with phase := .idle } ∧ { m with phase := .idle }.present? = none := by
  have hcurrent := h.current k task again hphase
  have hpresent : m.present? = some k := by rw [present?, hphase]
  have hnone : Manager.present? { m with phase := .idle } = none := hcurrent
  obtain ⟨s, hs, hpoint⟩ := Option.bind_eq_some_iff.1 hp
  have hsound := h.live k s hpresent hs
  have hfits := (hsound.fits task .disposed hpoint).settled rfl
  refine ⟨⟨?_, ?_, ?_, ?_, nofun, h.unblamed⟩, hnone⟩
  · intro j t ht _
    by_cases hj : j = k
    · subst hj
      rw [hs] at ht
      cases ht
      have hpast : Past (m.view s) := past_of_settles hsound hpoint rfl
      exact ⟨hpast.ended, hpast.sound⟩
    · exact h.past j t ht (by rw [hpresent]; exact fun he => hj (Option.some.inj he).symm)
  · intro j hj
    rw [hnone] at hj
    cases hj
  · intro j t hj
    rw [hnone] at hj
    cases hj
  · exact fun _ => ports_of_bare hsound hfits.2

theorem Sound.advance (h : Sound m) (a : Answers) : Sound (m.advance a) := by
  unfold Manager.advance
  split
  · exact h
  · next k task again hphase =>
    split
    · next hp =>
      obtain ⟨hsound, hnone⟩ := h.disposed hphase hp
      dsimp only
      split
      · exact hsound.beginStart hnone a
      · exact hsound
    · exact h
  · next k task hphase =>
    split
    · refine h.rephase ?_ nofun
      rw [present?, present?, hphase]
    · exact h

/-- **Whatever happens, a manager stays sound.** -/
theorem Sound.step (h : Sound m) (a : Answers) (mv : Move) : Sound (m.step a mv) := by
  cases mv with
  | start | shutdown =>
    rw [Manager.step]
    split
    · next hidle => exact h.beginShutdown (by simpa using hidle) a _
    · exact h
  | session k mv => exact (h.stepSession a k mv).advance a

/-- A manager that has done nothing yet, with a registry of its own. -/
def Fresh (m : Manager) : Prop := m = { settings := m.settings, sink := m.sink }

theorem Fresh.sound (h : Fresh m) : Sound m := by
  have hsessions : m.sessions = [] := by rw [h]
  have hpresent : m.present? = none := by rw [h]; rfl
  refine ⟨?_, ?_, ?_, ?_, ?_, ?_⟩
  · simp [hsessions]
  · simp [hpresent]
  · simp [hpresent]
  · intro _
    rw [h]
  · rw [h]
    nofun
  · simp [hsessions]

theorem run_concat (m : Manager) (moves : List (Move × Answers)) (x : Move × Answers) :
    m.run (moves ++ [x]) = (m.run moves).step x.2 x.1 := by
  simp [run]

theorem Fresh.sound_run (h : Fresh m) (moves : List (Move × Answers)) : Sound (m.run moves) := by
  induction moves using List.reverseRecOn with
  | nil => exact h.sound
  | append_singleton moves x ih =>
    rw [run_concat]
    exact ih.step x.2 x.1

/-! ### Sessions that only the manager calls -/

/-- Nobody but the manager starts a session or disposes of it. -/
def Move.Own : Move → Prop
  | .session _ .start | .session _ .dispose => False
  | _ => True

/-- The current session was started once and is still wanted, and between two calls to the manager
its start has returned. -/
structure Kept (m : Manager) : Prop where
  undisturbed : ∀ (j : Nat) (s : Session), m.sessions[j]? = some s → s.Undisturbed
  wanted : ∀ (k : Nat) (s : Session), m.current = some k → m.sessions[k]? = some s → s.Wanted
  starting : ∀ k task, m.phase = .starting k task → m.current = some k ∧ task = 0
  returned : m.phase = .idle → ∀ (k : Nat) (s : Session), m.current = some k →
    m.sessions[k]? = some s → ∃ r, s.tasks[0]? = some (.started r)

theorem Kept.undisturbed_view (hk : Kept m) (hs : m.sessions[k]? = some s) :
    (m.view s).Undisturbed :=
  have h := hk.undisturbed k s hs
  ⟨h.waits, h.fails⟩

theorem Kept.undisturbed_stepSession (hk : Kept m) (h : Sound m) (a : Answers) (k : Nat)
    (hstart : mv ≠ .start) {j : Nat} {t : Session}
    (ht : (m.stepSession a k mv).sessions[j]? = some t) : t.Undisturbed := by
  cases hs : m.sessions[k]? with
  | none =>
    rw [stepSession, hs] at ht
    exact hk.undisturbed j t ht
  | some s =>
    rw [stepSession_eq hs] at ht
    rcases getElem?_set_cases ht with ⟨-, rfl⟩ | ⟨-, ht⟩
    · obtain ⟨held, hsound⟩ := h.sound_view hs
      exact (hk.undisturbed_view hs).step hsound a hstart
    · exact hk.undisturbed j t ht

theorem Kept.stepSession (hk : Kept m) (h : Sound m) (a : Answers) (k : Nat) (hstart : mv ≠ .start)
    (hdispose : mv ≠ .dispose) : Kept (m.stepSession a k mv) := by
  refine ⟨fun j t => hk.undisturbed_stepSession h a k hstart, ?_, ?_, ?_⟩
  · intro j t hj ht
    rw [current_stepSession] at hj
    cases hs : m.sessions[k]? with
    | none =>
      rw [Manager.stepSession, hs] at ht
      exact hk.wanted j t hj ht
    | some s =>
      rw [stepSession_eq hs] at ht
      rcases getElem?_set_cases ht with ⟨rfl, rfl⟩ | ⟨-, ht⟩
      · obtain ⟨held, hsound⟩ := h.sound_view hs
        have hwanted := hk.wanted j s hj hs
        exact (hsound.leads_step a hstart hdispose).wanted ⟨hwanted.cancelled, hwanted.undisposed⟩
      · exact hk.wanted j t hj ht
  · rw [phase_stepSession, current_stepSession]
    exact hk.starting
  · intro hidle j t hj ht
    rw [phase_stepSession] at hidle
    rw [current_stepSession] at hj
    cases hs : m.sessions[k]? with
    | none =>
      rw [Manager.stepSession, hs] at ht
      exact hk.returned hidle j t hj ht
    | some s =>
      rw [stepSession_eq hs] at ht
      rcases getElem?_set_cases ht with ⟨rfl, rfl⟩ | ⟨-, ht⟩
      · obtain ⟨held, hsound⟩ := h.sound_view hs
        obtain ⟨r, hr⟩ := hk.returned hidle j s hj hs
        exact ⟨r, hsound.ended_step hr rfl⟩
      · exact hk.returned hidle j t hj ht

theorem undisturbed_newborn (m : Manager) : m.newborn.Undisturbed := by
  refine ⟨fun _ _ _ => ⟨rfl, rfl⟩, fun _ i p e hp he => ?_⟩
  rw [List.mem_singleton.1 (List.mem_of_getElem? hp)] at he
  cases he

theorem Kept.beginStart (hk : Kept m) (a : Answers) : Kept (m.beginStart a) := by
  rw [beginStart_eq]
  refine ⟨?_, ?_, ?_, nofun⟩
  · intro j s hs
    rcases Session.of_getElem?_concat hs with ⟨-, rfl⟩ | hs
    · exact undisturbed_newborn m
    · exact hk.undisturbed j s hs
  · rintro k s ⟨⟩ hs
    rw [List.getElem?_concat_length] at hs
    cases hs
    exact ⟨rfl, by simp [newborn, Session.Point.disposes]⟩
  · rintro k task ⟨⟩
    exact ⟨rfl, rfl⟩

theorem Kept.beginShutdown (hk : Kept m) (h : Sound m) (a : Answers) (again : Bool) :
    Kept (m.beginShutdown a again) := by
  unfold Manager.beginShutdown
  split
  · next k _ =>
    have hcall : Session.Move.dispose ≠ .start := nofun
    refine ⟨fun j t => hk.undisturbed_stepSession h a k hcall, ?_, ?_, ?_⟩
    · intro k s hk
      cases hk
    · intro k task hphase
      cases hphase
    · intro hphase
      cases hphase
  · split
    · exact hk.beginStart a
    · exact hk

theorem Kept.advance (hk : Kept m) (h : Sound m) (a : Answers) : Kept (m.advance a) := by
  unfold Manager.advance
  split
  · exact hk
  · next k task again hphase =>
    have hcurrent := h.current k task again hphase
    have hnone : ∀ j, m.current ≠ some j := by simp [hcurrent]
    split
    · have hidle : Kept { m with phase := .idle } :=
        ⟨hk.undisturbed, fun j _ hj => absurd hj (hnone j), nofun,
          fun _ j _ hj => absurd hj (hnone j)⟩
      dsimp only
      split
      · exact hidle.beginStart a
      · exact hidle
    · exact hk
  · next k task hphase =>
    obtain ⟨hcurrent, rfl⟩ := hk.starting k task hphase
    split
    · next r hp =>
      refine ⟨hk.undisturbed, hk.wanted, nofun, fun _ j s hj hs => ⟨r, ?_⟩⟩
      rw [show m.current = some j from hj] at hcurrent
      cases hcurrent
      obtain ⟨s', hs', hpoint⟩ := Option.bind_eq_some_iff.1 hp
      rw [show m.sessions[k]? = some s from hs] at hs'
      cases hs'
      exact hpoint
    · exact hk

/-- **What only the manager calls, it keeps.** -/
theorem Kept.step (hk : Kept m) (h : Sound m) (a : Answers) {mv : Move} (hown : mv.Own) :
    Kept (m.step a mv) := by
  cases mv with
  | start | shutdown =>
    rw [Manager.step]
    split
    · exact hk.beginShutdown h a _
    · exact hk
  | session k mv =>
    have hstart : mv ≠ .start := by
      rintro rfl
      exact hown
    have hdispose : mv ≠ .dispose := by
      rintro rfl
      exact hown
    exact (hk.stepSession h a k hstart hdispose).advance (h.stepSession a k mv) a

theorem Fresh.kept_run (h : Fresh m) {moves : List (Move × Answers)}
    (hown : ∀ x ∈ moves, x.1.Own) : Kept (m.run moves) := by
  induction moves using List.reverseRecOn with
  | nil =>
    have hsessions : m.sessions = [] := by rw [h]
    have hcurrent : m.current = none := by rw [h]
    have hphase : m.phase = .idle := by rw [h]
    show Kept m
    constructor <;> simp [hsessions, hcurrent, hphase]
  | append_singleton moves x ih =>
    rw [run_concat]
    have hbefore := ih fun y hy => hown y (List.mem_append_left _ hy)
    exact hbefore.step (h.sound_run moves) x.2 (hown x (by simp))

/-- There is one session at most that has not ended, and the others have left nothing behind. -/
structure Alone (m : Manager) : Prop where
  single : ∀ (j : Nat) (s : Session), m.sessions[j]? = some s → s.stage.isTerminal = false →
    m.present? = some j
  /-- Between two calls that is the current one. -/
  current : m.phase = .idle → m.present? = m.current
  /-- A session is replaced only when it is past. -/
  last : ∀ k, m.present? = some k → k + 1 = m.sessions.length
  past : ∀ (j : Nat) (s : Session), m.sessions[j]? = some s → m.present? ≠ some j →
    s.stage.isTerminal = true ∧ s.resources = {} ∧ s.handle = none ∧ s.client = false
  leases : m.registry.count ≤ 1
  unleased : m.present? = none → m.registry.count = 0
  unblamed : ∀ (j : Nat) (s : Session), m.sessions[j]? = some s →
    ∀ port, ¬ s.Blames (.ofAllocate (.leased port))

theorem Sound.alone (h : Sound m) : Alone m where
  single j s hs hlive := by
    refine not_not.1 fun hj => ?_
    rw [(h.past j s hs hj).cleared.1] at hlive
    cases hlive
  current hidle := by rw [present?, hidle]
  last := h.last
  past j s hs hj := (h.past j s hs hj).cleared
  leases := by
    cases hp : m.present? with
    | none =>
      rw [Registry.count, h.absent hp]
      exact Nat.zero_le 1
    | some k =>
      have hlt : k < m.sessions.length := by
        have := h.last k hp
        omega
      have hperm := (h.live k _ hp (List.getElem?_eq_getElem hlt)).leases
      rw [List.append_nil] at hperm
      rw [Registry.count, show m.registry.ports.length = _ from hperm.length_eq]
      rw [Session.leases]
      exact Option.length_toList_le
  unleased hnone := by rw [Registry.count, h.absent hnone, List.length_nil]
  unblamed := h.unblamed

/-- Between two calls the start of the current session has returned, and if it has failed, so has
the session. -/
def FailureShown (m : Manager) : Prop :=
  m.phase = .idle → ∀ (k : Nat) (s : Session), m.current = some k → m.sessions[k]? = some s →
    ∃ r, s.tasks[0]? = some (.started r) ∧
      ∀ e, r = some e → (∃ f, e = .failed f) ∧ s.stage = .failed

theorem Kept.failureShown (hk : Kept m) (h : Sound m) : FailureShown m := by
  intro hidle k s hcurrent hs
  obtain ⟨r, hr⟩ := hk.returned hidle k s hcurrent hs
  refine ⟨r, hr, ?_⟩
  rintro e rfl
  obtain ⟨held, hsound⟩ := h.sound_view hs
  exact (hk.undisturbed_view hs).failed hsound (hk.wanted k s hcurrent hs).cancelled hr

/-! ### Calls that have returned -/

theorem length_stepSession :
    (m.stepSession a k mv).sessions.length = m.sessions.length := by
  cases hs : m.sessions[k]? with
  | none => rw [stepSession, hs]
  | some s => rw [stepSession_eq hs, List.length_set]

theorem advance_of_idle (h : m.phase = .idle) : m.advance a = m := by
  rw [advance, h]

theorem step_of_idle (h : m.phase = .idle) :
    m.step a (.session k mv) = m.stepSession a k mv :=
  advance_of_idle (phase_stepSession.trans h)

/-- The manager has done with the session once the dispose has returned. -/
theorem advance_of_disposing {again : Bool} (h : m.phase = .disposing k task again) :
    m.advance a = m ∧ m.point? k task ≠ some .disposed ∨
      m.advance a = (bif again then { m with phase := .idle }.beginStart a
        else { m with phase := .idle }) ∧ m.point? k task = some .disposed := by
  unfold advance
  split
  · next hphase =>
    rw [h] at hphase
    cases hphase
  · next hphase =>
    rw [h] at hphase
    cases hphase
    split
    · next hp => exact .inr ⟨(Bool.cond_eq_ite ..).symm, hp⟩
    · next hp => exact .inl ⟨rfl, hp⟩
  · next hphase =>
    rw [h] at hphase
    cases hphase

/-- A call to the manager itself. -/
def Move.isCall : Move → Bool
  | .start | .shutdown => true
  | .session .. => false

/-- What the sessions do between two calls keeps what each of their moves keeps. -/
theorem run_keeps {P : Manager → Prop} (hP : ∀ m a k mv, P m → P (m.step a (.session k mv)))
    {post : List (Move × Answers)} (hpost : ∀ x ∈ post, x.1.isCall = false) (hm : P m) :
    P (m.run post) := by
  induction post generalizing m with
  | nil => exact hm
  | cons x post ih =>
    obtain ⟨mv, a⟩ := x
    have hrest : ∀ x ∈ post, x.1.isCall = false := fun y hy => hpost y (List.mem_cons_of_mem _ hy)
    cases mv with
    | start | shutdown => cases hpost _ List.mem_cons_self
    | session k mv => exact ih hrest (hP m a k mv hm)

theorem run_append_cons (m : Manager) (pre post : List (Move × Answers)) (mv : Move)
    (a : Answers) : m.run (pre ++ (mv, a) :: post) = ((m.run pre).step a mv).run post := by
  simp [run]

/-- No session is left that is not over, and no lease. -/
structure Released (m : Manager) : Prop where
  current : m.current = none
  sessions : ∀ s ∈ m.sessions, s.stage.isTerminal = true ∧ s.resources = {} ∧ s.handle = none ∧
    s.client = false
  leases : m.registry.count = 0

/-- The manager is shutting down, or has. -/
structure Closing (m : Manager) : Prop where
  current : m.current = none
  phase : m.phase = .idle ∨ ∃ k task, m.phase = .disposing k task false

theorem Closing.step (h : Closing m) (a : Answers) (k : Nat) (mv : Session.Move) :
    Closing (m.step a (.session k mv)) := by
  have hcurrent : (m.stepSession a k mv).current = none := current_stepSession.trans h.current
  rcases h.phase with hidle | ⟨j, task, hphase⟩
  · rw [step_of_idle hidle]
    exact ⟨hcurrent, .inl (phase_stepSession.trans hidle)⟩
  · have hsame : (m.stepSession a k mv).phase = .disposing j task false :=
      phase_stepSession.trans hphase
    show Closing ((m.stepSession a k mv).advance a)
    rcases advance_of_disposing (a := a) hsame with ⟨hwaits, -⟩ | ⟨hdone, -⟩
    · rw [hwaits]
      exact ⟨hcurrent, .inr ⟨j, task, hsame⟩⟩
    · rw [hdone]
      exact ⟨hcurrent, .inl rfl⟩

theorem closing_of_shutdown (hidle : m.phase = .idle) (a : Answers) :
    Closing (m.step a .shutdown) := by
  have hstep : m.step a .shutdown = m.beginShutdown a false := by simp [step, hidle]
  rw [hstep, beginShutdown]
  cases hcurrent : m.current with
  | none => exact ⟨hcurrent, .inl hidle⟩
  | some k => exact ⟨rfl, .inr ⟨k, _, rfl⟩⟩

theorem Sound.released (h : Sound m) (hclosing : Closing m) (hidle : m.phase = .idle) :
    Released m := by
  have hnone : m.present? = none := by rw [present?, hidle, hclosing.current]
  refine ⟨hclosing.current, fun s hs => ?_, ?_⟩
  · obtain ⟨j, hj⟩ := List.getElem?_of_mem hs
    exact (h.past j s hj (by simp [hnone])).cleared
  · rw [Registry.count, h.absent hnone, List.length_nil]

/-- There is a new session after the first `n`. It is the current one, its start has returned, and
if that has failed, so has the session. -/
structure Renewed (n : Nat) (m : Manager) : Prop where
  current : m.current = some n
  last : m.sessions.length = n + 1
  result : ∃ s r, m.sessions[n]? = some s ∧ s.tasks[0]? = some (.started r) ∧
    ∀ e, r = some e → (∃ f, e = .failed f) ∧ s.stage = .failed

/-- The manager makes a new session after the first `n`, or has. -/
inductive Renewing (n : Nat) (m : Manager) : Prop where
  | before {k task : Nat} (phase : m.phase = .disposing k task true) (length : m.sessions.length = n)
  | after (phase : m.phase = .starting n 0 ∨ m.phase = .idle) (length : m.sessions.length = n + 1)
      (current : m.current = some n)

theorem renewing_beginStart (hlength : m.sessions.length = n) (a : Answers) :
    Renewing n (m.beginStart a) := by
  subst hlength
  rw [beginStart_eq]
  exact .after (.inl rfl) (by simp) rfl

theorem renewing_of_start (hidle : m.phase = .idle) (a : Answers) :
    Renewing m.sessions.length (m.step a .start) := by
  have hstep : m.step a .start = m.beginShutdown a true := by simp [step, hidle]
  rw [hstep, beginShutdown]
  cases m.current with
  | none => exact renewing_beginStart rfl a
  | some k => exact .before rfl length_stepSession

theorem Renewing.stepSession (h : Renewing n m) (a : Answers) (k : Nat) (mv : Session.Move) :
    Renewing n (m.stepSession a k mv) := by
  cases h with
  | before phase length =>
    exact .before (phase_stepSession.trans phase) (length_stepSession.trans length)
  | after phase length current =>
    refine .after ?_ (length_stepSession.trans length) (current_stepSession.trans current)
    rwa [phase_stepSession]

theorem Renewing.advance (h : Renewing n m) (a : Answers) : Renewing n (m.advance a) := by
  cases h with
  | before phase length =>
    rcases advance_of_disposing (a := a) phase with ⟨hwaits, -⟩ | ⟨hdone, -⟩
    · rw [hwaits]
      exact .before phase length
    · have hlength : { m with phase := .idle }.sessions.length = n := length
      rw [hdone]
      exact renewing_beginStart hlength a
  | after phase length current =>
    rcases phase with phase | phase
    · rw [Manager.advance, phase]
      dsimp only
      split
      · exact .after (.inr rfl) length current
      · exact .after (.inl phase) length current
    · rw [advance_of_idle phase]
      exact .after (.inr phase) length current

theorem Renewing.step (h : Renewing n m) (a : Answers) (k : Nat) (mv : Session.Move) :
    Renewing n (m.step a (.session k mv)) :=
  (h.stepSession a k mv).advance a

theorem Renewing.renewed (h : Renewing n m) (hsound : Sound m) (hk : Kept m)
    (hidle : m.phase = .idle) : Renewed n m := by
  cases h with
  | before phase =>
    rw [hidle] at phase
    cases phase
  | after _ length current =>
    have hlt : n < m.sessions.length := by omega
    have hs : m.sessions[n]? = some m.sessions[n] := List.getElem?_eq_getElem hlt
    obtain ⟨r, hr, hfailed⟩ := hk.failureShown hsound hidle n _ current hs
    exact ⟨current, length, _, r, hs, hr, hfailed⟩

/-- **A manager has one session at a time**, whoever calls its sessions. A shutdown that has returned
leaves nothing of any session. If only the manager calls its sessions, a start that has returned
leaves a new one, and if it has failed, that session stays to be seen. -/
theorem one_session_at_a_time {m₀ : Manager} (h : Fresh m₀) (moves : List (Move × Answers)) :
    Alone (m₀.run moves) ∧ ((∀ x ∈ moves, x.1.Own) → FailureShown (m₀.run moves)) ∧
      ∀ pre call a post, moves = pre ++ (call, a) :: post → (m₀.run pre).phase = .idle →
        (∀ x ∈ post, x.1.isCall = false) → (m₀.run moves).phase = .idle →
        (call = .shutdown → Released (m₀.run moves)) ∧
          (call = .start → (∀ x ∈ moves, x.1.Own) →
            Renewed (m₀.run pre).sessions.length (m₀.run moves)) := by
  have hsound := h.sound_run moves
  refine ⟨hsound.alone, fun hown => (h.kept_run hown).failureShown hsound, ?_⟩
  rintro pre call a post hmoves hidle hpost hdone
  have hrun : m₀.run moves = ((m₀.run pre).step a call).run post := by
    rw [hmoves, run_append_cons]
  constructor
  · rintro rfl
    have hclosing := run_keeps (fun _ a k mv hm => hm.step a k mv) hpost
      (closing_of_shutdown hidle a)
    rw [← hrun] at hclosing
    exact hsound.released hclosing hdone
  · rintro rfl hown
    have hrenewing := run_keeps (fun _ a k mv hm => hm.step a k mv) hpost
      (renewing_of_start hidle a)
    rw [← hrun] at hrenewing
    exact hrenewing.renewed hsound (h.kept_run hown) hdone

/-- All sessions want port 4000. -/
def onePort : Manager := { settings := { transport := { kind := .socket, port := some 4000 } } }

/-- The server of the first session never listens. The second session has the port while the first
one is already forgotten. -/
def replacement : List (Move × Answers) :=
  [.start, .session 0 (.grant 0), .session 0 (.checked 0 true), .session 0 (.listed 0 true),
    .session 0 (.bound 0 false), .session 0 (.released 0), .start, .session 0 (.grant 1),
    .session 1 (.grant 0), .session 1 (.checked 0 true), .session 1 (.listed 0 true)].map
    (·, Session.agreeing)

/-- The second session gets live, and the manager is shut down. -/
def retirement : List (Move × Answers) :=
  [.session 1 (.bound 0 true), .session 1 (.connected 0 (.ok ())), .shutdown,
    .session 1 (.grant 2), .session 1 (.shaken 2), .session 1 (.released 2),
    .session 1 (.released 2)].map (·, Session.agreeing)

theorem one_session_at_a_time_replacement :
    Fresh onePort ∧ (onePort.run (replacement.take 4)).registry.ports = [4000] ∧
      (onePort.run (replacement.take 6)).currentSession?.map (·.stage) = some .failed ∧
      (onePort.run replacement).registry.ports = [4000] ∧
      (onePort.run replacement).current = some 1 ∧ Alone (onePort.run replacement) ∧
      FailureShown (onePort.run (replacement.take 6)) ∧
      Renewed 0 (onePort.run (replacement.take 6)) ∧
      (onePort.run (replacement ++ retirement.take 2)).currentSession?.map (·.stage) =
        some .active ∧
      Renewed 1 (onePort.run (replacement ++ retirement.take 2)) ∧
      Released (onePort.run (replacement ++ retirement)) := by
  have hfresh : Fresh onePort := rfl
  have hfirst : ∀ x ∈ replacement.take 6, x.1.Own := by simp [replacement, Move.Own]
  have hsecond : ∀ x ∈ replacement ++ retirement.take 2, x.1.Own := by
    simp [replacement, retirement, Move.Own]
  obtain ⟨-, hshown, hcalls⟩ := one_session_at_a_time hfresh (replacement.take 6)
  have hrenewed := (hcalls [] .start _ _ rfl rfl (by simp [Move.isCall]) rfl).2 rfl
  have hagain := ((one_session_at_a_time hfresh (replacement ++ retirement.take 2)).2.2
    (replacement.take 6) .start _ _ rfl rfl (by simp [retirement, Move.isCall]) rfl).2 rfl
  have hreleased := ((one_session_at_a_time hfresh (replacement ++ retirement)).2.2
    (replacement ++ retirement.take 2) .shutdown _ _ rfl rfl
    (by simp [Move.isCall]) rfl).1 rfl
  exact ⟨hfresh, rfl, rfl, rfl, rfl, (one_session_at_a_time hfresh replacement).1, hshown hfirst,
    hrenewed hfirst, rfl, hagain hsecond, hreleased⟩

end Sidecar.Manager
