/-
# Every move keeps a session sound

What a task does that has the resources is in `Sidecar.Proofs.Custody`. Here
are the tasks that do not have them: they wait, are told to stop, or watch and
see that the server is gone. The one delicate point is that the watcher
records a failure without having the resources. It may do so because then
nobody has them (`Sound.idle_of_watches`): whoever worked would have stopped
the watcher, or would be a dispose, of which the watcher takes note.

Key theorem: `Sound.step`.
-/
import Sidecar.Proofs.Custody

namespace Sidecar.Session

variable {held : List Nat} {i j : Nat} {p q : Point} {s s' : Session} {a : Answers}

/-- A task that does not work on the resources goes to another such point. -/
theorem Sound.shift (h : Sound held s) (hp : s.tasks[i]? = some p) (hq : q.holds = false)
    (hw : q.watches = true → p.watches = true)
    (hw' : s.resources.watcher = some i → q.watches = true ∨ q = .watched false) (hf : q.Fits s)
    (honce : q ≠ .started none)
    (hover : q.settles = true → ∀ (j : Nat) (r : Point), s.tasks[j]? = some r → r.holds = false) :
    Sound held (s.goTo i q) := by
  have hi : i < s.tasks.length := lt_length_of_getElem? hp
  have hcases : ∀ (j : Nat) (r : Point), (s.goTo i q).tasks[j]? = some r →
      (j = i ∧ r = q) ∨ (j ≠ i ∧ s.tasks[j]? = some r) := fun j r => goTo_cases
  refine ⟨?_, ?_, ?_, ?_, h.standing.congr rfl rfl rfl rfl id, ?_, ?_, h.leases⟩
  · intro j r hr hh
    rcases hcases j r hr with ⟨-, rfl⟩ | ⟨-, hr⟩
    · rw [hq] at hh; cases hh
    · exact h.lock j r hr hh
  · intro j r hr hwr
    rcases hcases j r hr with ⟨rfl, rfl⟩ | ⟨-, hr⟩
    · exact h.watch j p hp (hw hwr)
    · exact h.watch j r hr hwr
  · intro j hj
    by_cases hij : j = i
    · subst hij
      exact ⟨q, goTo_self hi, hw' hj⟩
    · obtain ⟨r, hr, hwr⟩ := h.watcher j hj
      exact ⟨r, (goTo_ne hij).trans hr, hwr⟩
  · intro j r hr
    rcases hcases j r hr with ⟨-, rfl⟩ | ⟨-, hr⟩
    · exact hf.congr rfl rfl rfl rfl id
    · exact (h.fits j r hr).congr rfl rfl rfl rfl id
  · intro j k hj hk
    rcases hcases j _ hj with ⟨-, hj⟩ | ⟨-, hj⟩
    · exact absurd hj.symm honce
    · rcases hcases k _ hk with ⟨-, hk⟩ | ⟨-, hk⟩
      · exact absurd hk.symm honce
      · exact h.once j k hj hk
  · intro j r hr hs k u hu
    rcases hcases k u hu with ⟨-, hu⟩ | ⟨-, hu⟩
    · rw [hu]; exact hq
    · rcases hcases j r hr with ⟨-, hr⟩ | ⟨-, hr⟩
      · exact hover (hr ▸ hs) k u hu
      · exact h.settled j r hr hs k u hu

/-- A call adds a task, which waits. -/
theorem Sound.call (h : Sound held s) {c : Bool} (hc : s.cancelled = true → c = true)
    (hp : p = .startWaiting ∨ (p = .disposeWaiting ∧ c = true)) :
    Sound held { s with cancelled := c, tasks := s.tasks ++ [p] } := by
  have hpoint : p.holds = false ∧ p.watches = false ∧ p.settles = false ∧ p ≠ .started none ∧
      p.Fits { s with cancelled := c, tasks := s.tasks ++ [p] } := by
    rcases hp with rfl | ⟨rfl, rfl⟩ <;> exact ⟨rfl, rfl, rfl, nofun, by trivial⟩
  obtain ⟨hhold, hwatch, hsettle, honce, hf⟩ := hpoint
  refine ⟨?_, ?_, ?_, ?_, h.standing.congr rfl rfl rfl rfl hc, ?_, ?_, h.leases⟩
  · intro j q hq hh
    rcases of_getElem?_concat hq with ⟨-, rfl⟩ | hq
    · rw [hhold] at hh; cases hh
    · exact h.lock j q hq hh
  · intro j q hq hw
    rcases of_getElem?_concat hq with ⟨-, rfl⟩ | hq
    · rw [hwatch] at hw; cases hw
    · exact h.watch j q hq hw
  · intro j hj
    obtain ⟨q, hq, hw⟩ := h.watcher j hj
    exact ⟨q, (List.getElem?_append_left (lt_length_of_getElem? hq)).trans hq, hw⟩
  · intro j q hq
    rcases of_getElem?_concat hq with ⟨-, rfl⟩ | hq
    · exact hf
    · exact (h.fits j q hq).congr rfl rfl rfl rfl hc
  · intro j k hj hk
    rcases of_getElem?_concat hj with ⟨-, hj⟩ | hj
    · exact absurd hj.symm honce
    · rcases of_getElem?_concat hk with ⟨-, hk⟩ | hk
      · exact absurd hk.symm honce
      · exact h.once j k hj hk
  · intro j q hq hs k r hr
    rcases of_getElem?_concat hr with ⟨-, rfl⟩ | hr
    · exact hhold
    · rcases of_getElem?_concat hq with ⟨-, rfl⟩ | hq
      · rw [hsettle] at hs; cases hs
      · exact h.settled j q hq hs k r hr

/-- What tells nothing of tasks, resources and stages may change. -/
theorem Sound.congr {held' : List Nat} (h : Sound held s) (tasks : s'.tasks = s.tasks)
    (holder : s'.holder = s.holder) (stage : s'.stage = s.stage)
    (resources : s'.resources = s.resources) (handle : s'.handle = s.handle)
    (client : s'.client = s.client) (cancelled : s'.cancelled = s.cancelled)
    (leases : s'.registry.ports.Perm (s.leases ++ held')) : Sound held' s' where
  lock := by rw [tasks, holder]; exact h.lock
  watch := by rw [tasks, resources]; exact h.watch
  watcher := by rw [tasks, resources]; exact h.watcher
  fits j p hp := by
    rw [tasks] at hp
    exact (h.fits j p hp).congr stage resources handle client (by rw [cancelled]; exact id)
  standing := h.standing.congr stage resources handle client (by rw [cancelled]; exact id)
  once := by rw [tasks]; exact h.once
  settled := by rw [tasks]; exact h.settled
  leases := by rw [Session.leases, resources]; exact leases

/-! ### Watching -/

theorem Holding.watchOn {x : Session × Option Releasing} (h : Holding held i x.1) (hx : Freed x)
    (hstage : x.1.stage = .failed) : Sound held (watchOn i x) := by
  obtain ⟨t, r⟩ := x
  cases r with
  | some r => exact h.stay rfl ⟨hstage, hx⟩ (standing_of_failed hstage)
  | none =>
    have hterm : t.stage.isTerminal = true := by rw [hstage]; rfl
    exact h.leave rfl ⟨hterm, hx⟩ (standing_of_failed hstage) nofun

/-- While the watcher watches a session that nobody disposes of, nobody works on it, and it has not
ended. -/
theorem Sound.idle_of_watches (h : Sound held s) (hp : s.tasks[i]? = some p)
    (hw : p.watches = true) (hc : s.cancelled = false) (hq : s.tasks[j]? = some q) :
    q.holds = false ∧ q.settles = false := by
  have hwatcher := h.watch i p hp hw
  have hf := h.fits j q hq
  have hbare : ¬ s.Bare := fun hb => by rw [hb.resources] at hwatcher; cases hwatcher
  have hlaunched : ¬ s.Launched := fun ⟨_, _, hres, _⟩ => by rw [hres] at hwatcher; cases hwatcher
  have hclearing : ∀ r, ¬ s.Clearing r := fun r hcl => by
    rw [hcl.watcher] at hwatcher; cases hwatcher
  have hstopping : s.stage ≠ .stopping := fun hs => by
    rw [h.standing.cancelled hs] at hc; cases hc
  refine ⟨?_, Bool.eq_false_iff.2 fun hs => hbare (hf.settled hs).2⟩
  cases q with
  | checking | ensuring | listing => exact absurd hf.2 hbare
  | binding | connecting => exact absurd hf.2 hlaunched
  | failing _ r => exact absurd hf.2 (hclearing r)
  | handshaking => exact absurd hf.1 hstopping
  | disposing _ r => exact absurd hf.2 (hclearing r)
  | watchReleasing r => exact absurd hf.2 (hclearing r)
  | _ => rfl

/-- The session fails while nobody works on it. -/
theorem Sound.fail (h : Sound held s) (hs : s.stage.isTerminal = false)
    (hidle : ∀ (j : Nat) (q : Point), s.tasks[j]? = some q → q.holds = false ∧ q.settles = false)
    (f : Failure) : Sound held (s.fail f) := by
  have hallows : s.stage.allows .failed = true := by simp [Stage.allows, hs]
  unfold Session.fail Session.moveTo
  rw [if_pos hallows, if_pos hallows]
  refine ⟨h.lock, h.watch, h.watcher, ?_, trivial, h.once, h.settled, h.leases⟩
  intro j q hq
  exact (h.fits j q hq).later (hidle j q hq) ⟨_, Stage.path_single hallows⟩ id

theorem Sound.lose (h : Sound held s) (hp : s.tasks[i]? = some p) (hw : p.watches = true)
    (f : Failure) : Sound held (s.lose i f) := by
  have hstop : Sound held (s.goTo i (.watched false)) :=
    h.shift hp rfl nofun (fun _ => .inr rfl) trivial nofun nofun
  unfold Session.lose
  split
  · exact hstop
  · next hc =>
    split
    · next hallows =>
      have hterm := Stage.isTerminal_of_allows hallows
      have hidle : ∀ (j : Nat) (q : Point), s.tasks[j]? = some q →
          q.holds = false ∧ q.settles = false :=
        fun j q hq => h.idle_of_watches hp hw (by simpa using hc) hq
      have hp' : (s.fail f).tasks[i]? = some p := by
        unfold Session.fail Session.moveTo
        rw [if_pos hallows, if_pos hallows]
        exact hp
      exact (h.fail hterm hidle f).shift hp' rfl (fun _ => hw) (fun _ => .inl rfl)
        (fail_stage hterm f) nofun nofun
    · exact hstop

/-! ### Moves -/

/-- The task at a working point has the resources. -/
theorem Sound.holding (h : Sound held s) (hp : s.tasks[i]? = some p) (hh : p.holds = true) :
    Holding held i s := by
  have hholder := h.lock i p hp hh
  refine ⟨lt_length_of_getElem? hp, hholder, ?_, fun j q _ => h.watch j q, ?_,
    fun j q _ => h.fits j q, fun j k _ _ => h.once j k, h.leases⟩
  · intro j q hne hq
    refine ⟨Bool.eq_false_iff.2 fun hhq => hne ?_, Bool.eq_false_iff.2 fun hs => ?_⟩
    · have := h.lock j q hq hhq
      rw [hholder] at this
      exact (Option.some.inj this).symm
    · rw [h.settled j q hq hs i p hp] at hh; cases hh
  · intro j hj
    obtain ⟨q, hq, hw⟩ := h.watcher j hj
    refine ⟨?_, q, hq, hw⟩
    rintro rfl
    rw [hp] at hq
    cases hq
    rcases hw with hw | rfl
    · cases p <;> first | (cases hh; done) | cases hw
    · cases hh

theorem Sound.idle_of_free (h : Sound held s) (hfree : s.holder = none)
    (hq : s.tasks[j]? = some q) : q.holds = false := by
  refine Bool.eq_false_iff.2 fun hh => ?_
  rw [h.lock j q hq hh] at hfree
  cases hfree

/-- A task gets the resources of a session that has not ended. -/
theorem Sound.take (h : Sound held s) (hfree : s.holder = none)
    (hlive : ∀ (j : Nat) (q : Point), s.tasks[j]? = some q → q.settles = false)
    (hi : i < s.tasks.length) (hw : s.resources.watcher ≠ some i) :
    Holding held i { s with holder := some i } := by
  refine ⟨hi, rfl, fun j q _ hq => ⟨h.idle_of_free hfree hq, hlive j q hq⟩,
    fun j q _ => h.watch j q, ?_, ?_, fun j k _ _ => h.once j k, h.leases⟩
  · intro j hj
    refine ⟨?_, h.watcher j hj⟩
    rintro rfl
    exact hw hj
  · exact fun j q _ hq => (h.fits j q hq).congr rfl rfl rfl rfl id

/-- The watcher gets the resources, and they forget it. -/
theorem Sound.takeOver (h : Sound held s) (hfree : s.holder = none)
    (hp : s.tasks[i]? = some .watchWaiting) :
    Holding held i { s with
      holder := some i, resources := { s.resources with watcher := none } } := by
  have hw := h.watch i _ hp rfl
  have hbare : ¬ s.Bare := fun hb => by rw [hb.resources] at hw; cases hw
  have hlive : ∀ (j : Nat) (q : Point), s.tasks[j]? = some q →
      q.holds = false ∧ q.settles = false := by
    intro j q hq
    refine ⟨h.idle_of_free hfree hq, Bool.eq_false_iff.2 fun hs => ?_⟩
    exact hbare ((h.fits j q hq).settled hs).2
  refine ⟨lt_length_of_getElem? hp, rfl, fun j q _ => hlive j q, ?_, nofun, ?_,
    fun j k _ _ => h.once j k, h.leases⟩
  · intro j q hne hq hwq
    have := h.watch j q hq hwq
    rw [hw] at this
    exact absurd (Option.some.inj this).symm hne
  · exact fun j q _ hq => (h.fits j q hq).later (hlive j q hq) ⟨[], rfl⟩ id

/-- A dispose of a session of which nothing is left only returns. -/
theorem beginDispose_bare (hfree : s.holder = none) (hs : s.stage.isTerminal = true) (hb : s.Bare) :
    { s with holder := some i }.beginDispose i = s.goTo i .disposed := by
  have hb' : Bare { s with holder := some i } := ⟨hb.resources, hb.handle, hb.client⟩
  unfold Session.beginDispose
  rw [if_pos hs, release_bare hb']
  cases s
  cases hfree
  rfl

/-- A task that waits for the first time is not the watcher. -/
theorem Sound.not_watcher (h : Sound held s) (hp : s.tasks[i]? = some p)
    (hw : p.watches = false) (he : p.hasEnded = false) : s.resources.watcher ≠ some i := by
  intro hi
  obtain ⟨q, hq, hwq⟩ := h.watcher i hi
  rw [hp] at hq
  cases hq
  rcases hwq with hwq | rfl
  · rw [hw] at hwq; cases hwq
  · cases he

theorem Sound.grant (h : Sound held s) (i : Nat) : Sound held (s.grant i) := by
  have hg := granted s i
  generalize s.grant i = s' at hg ⊢
  cases hg with
  | idle => exact h
  | refused _ hp _ =>
    have hw := h.not_watcher hp rfl rfl
    exact h.shift hp rfl nofun (fun hi => absurd hi hw) trivial nofun nofun
  | start hfree hp hfirst =>
    have hlive : ∀ (j : Nat) (q : Point), s.tasks[j]? = some q → q.settles = false := by
      refine fun j q hq => Bool.eq_false_iff.2 fun hset => ?_
      have hterm := ((h.fits j q hq).settled hset).1
      rw [hfirst] at hterm; cases hterm
    have hold := h.take hfree hlive (lt_length_of_getElem? hp) (h.not_watcher hp rfl rfl)
    exact hold.beginStart (h.standing.congr rfl rfl rfl rfl id)
  | dispose hfree hp =>
    have hw := h.not_watcher hp rfl rfl
    by_cases hover : ∃ (j : Nat) (q : Point), s.tasks[j]? = some q ∧ q.settles = true
    · obtain ⟨j, q, hq, hset⟩ := hover
      obtain ⟨hterm, hb⟩ := (h.fits j q hq).settled hset
      rw [beginDispose_bare hfree hterm hb]
      exact h.shift hp rfl nofun (fun hi => absurd hi hw) ⟨hterm, hb⟩ nofun
        fun _ j q hq => h.idle_of_free hfree hq
    · have hlive : ∀ (j : Nat) (q : Point), s.tasks[j]? = some q → q.settles = false :=
        fun j q hq => Bool.eq_false_iff.2 fun hset => hover ⟨j, q, hq, hset⟩
      have hold := h.take hfree hlive (lt_length_of_getElem? hp) hw
      exact hold.beginDispose (h.standing.congr rfl rfl rfl rfl id) (h.fits i _ hp)
  | watch hfree hp =>
    have hold := h.takeOver hfree hp
    exact hold.release.watchOn (freed_release _ _) ((steady_release _ _).1.trans (h.fits i _ hp))

/-- A start goes on, unless it is told of the end of the session. -/
theorem Sound.resume (h : Sound held s) (hp : s.tasks[i]? = some p) (hh : p.holds = true)
    {go : Session → Session} (hgo : Sound held (go s)) : Sound held (s.resume i go) := by
  unfold Session.resume
  split
  · exact (h.holding hp hh).cancelled h.standing
  · exact hgo

/-- **Every move keeps a session sound.** -/
theorem Sound.step (h : Sound held s) (a : Answers) (m : Move) : Sound held (s.step a m) := by
  cases m with
  | start => exact h.call id (.inl rfl)
  | dispose => exact h.call (fun _ => rfl) (.inr ⟨rfl, rfl⟩)
  | exits e =>
    rw [Session.step]
    split
    · exact h.congr rfl rfl rfl rfl rfl rfl rfl h.leases
    · exact h
  | ends reason =>
    rw [Session.step]
    split
    · exact h.congr rfl rfl rfl rfl rfl rfl rfl h.leases
    · exact h
  | takeEvents => exact h.congr rfl rfl rfl rfl rfl rfl rfl h.leases
  | grant i => exact h.grant i
  | checked i found =>
    rw [Session.step]
    split
    · next hp =>
      have hold := h.holding hp rfl
      obtain ⟨hstage, hb⟩ := h.fits i _ hp
      refine h.resume hp rfl ?_
      split
      · exact hold.await rfl ⟨hstage, hb⟩ h.standing
      · exact hold.stay rfl ⟨hstage, hb⟩ h.standing
    · exact h
  | ensured i ok =>
    rw [Session.step]
    split
    · next hp =>
      have hold := h.holding hp rfl
      obtain ⟨hstage, hb⟩ := h.fits i _ hp
      refine h.resume hp rfl ?_
      split
      · exact hold.await rfl ⟨hstage, hb⟩ h.standing
      · exact hold.startFails (by rw [hstage]; rfl) _
    · exact h
  | listed i ok =>
    rw [Session.step]
    split
    · next hp =>
      have hold := h.holding hp rfl
      obtain ⟨hstage, hb⟩ := h.fits i _ hp
      refine h.resume hp rfl ?_
      split
      · exact hold.launch hstage hb
      · exact hold.startFails (by rw [hstage]; rfl) _
    · exact h
  | bound i ready =>
    rw [Session.step]
    split
    · next hp =>
      obtain ⟨hstage, hl⟩ := h.fits i _ hp
      exact h.resume hp rfl ((h.holding hp rfl).bound hstage hl ready)
    · exact h
  | connected i result =>
    rw [Session.step]
    split
    · next hp =>
      have hold := h.holding hp rfl
      obtain ⟨hstage, hl⟩ := h.fits i _ hp
      refine h.resume hp rfl ?_
      cases result with
      | ok _ => exact hold.activate hstage hl
      | error e => exact hold.startFails (by rw [hstage]; rfl) _
    · exact h
  | cancel i =>
    rw [Session.step]
    split
    · exact h
    · split
      on_goal 6 => exact h
      all_goals
        next hp => exact (h.holding hp rfl).cancelled h.standing
  | shaken i =>
    rw [Session.step]
    split
    · next hp =>
      have hstage : s.stage = .stopping := (h.fits i _ hp).1
      refine (h.holding hp rfl).release.disposingOn (freed_release _ _) true ?_ ?_
      · exact (steady_release s true).1.trans hstage
      · exact h.standing.steady (.inl hstage) (steady_release s true)
    · exact h
  | released i =>
    rw [Session.step]
    split
    · next f r hp =>
      obtain ⟨hstage, hcl⟩ := h.fits i _ hp
      exact ((h.holding hp rfl).releaseOn r).failingOn (freed_releaseOn hcl)
        ((steady_releaseOn s r).1.trans hstage) f
    · next last r hp =>
      obtain ⟨hstage, hcl⟩ := h.fits i _ hp
      have hsteady := steady_releaseOn s r
      refine ((h.holding hp rfl).releaseOn r).disposingOn (freed_releaseOn hcl) last ?_ ?_
      · rwa [hsteady.1]
      · refine h.standing.steady ?_ hsteady
        cases last
        · exact .inr hstage
        · exact .inl hstage
    · next r hp =>
      obtain ⟨hstage, hcl⟩ := h.fits i _ hp
      exact ((h.holding hp rfl).releaseOn r).watchOn (freed_releaseOn hcl)
        ((steady_releaseOn s r).1.trans hstage)
    · exact h
  | seeExit i =>
    rw [Session.step]
    split
    · next hp _ => exact h.lose hp rfl _
    · exact h
  | seeEnd i =>
    rw [Session.step]
    split
    · next hp _ =>
      exact h.shift hp rfl (fun _ => rfl) (fun _ => .inl rfl) trivial (by simp)
        (by simp [Point.settles])
    · exact h
  | linger i =>
    rw [Session.step]
    split
    · next hp => exact h.lose hp rfl _
    · exact h

end Sidecar.Session
