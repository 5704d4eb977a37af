/-
# Which stage a failure belongs to

A session that has failed says in which stage that came up, and the kind of
the failure is one that can come up there. The stage is the one in which the
session was right before it failed, the last but one of its history.

A start may pass several stages in one move and fail then, so each part of a
move is shown to name the last stage of the history so far (`Blamed`); that a
start is where it should be is known from its point. The watcher records a
failure without working on the resources. It finds the session live, because
nothing but a live session has a watcher, and one that is being disposed of is
left alone.

Key definitions: `FailureKind.stages`, `Session.Blamed`.
Key theorems: `Session.Sound.blamed_step`, `Session.failure_attributed`.
-/
import Sidecar.Proofs.Causes
import Sidecar.Proofs.Lifecycle

namespace Sidecar

/-- The stages in which a failure of a kind can come up. -/
def FailureKind.stages : FailureKind → List Stage
  | provisioningFailed => [.installing]
  | launchFailed => [.launching]
  | bindTimeout => [.launching, .awaitingBind]
  | connectionRefused => [.connecting]
  | transportError => [.launching, .connecting, .active]
  | processExited => [.active]

namespace Failure

/-- The failure names a stage, and is of a kind that can come up there. -/
structure BelongsTo (st : Stage) (f : Failure) : Prop where
  stage : f.stage = st
  kind : st ∈ f.kind.stages

theorem belongsTo_ofProvisioning (target : String) (autoInstall : Bool) :
    BelongsTo .installing (ofProvisioning target autoInstall) := ⟨rfl, .head _⟩

theorem belongsTo_ofSpawn (e : SpawnError) : BelongsTo .launching (ofSpawn e) := ⟨rfl, .head _⟩

theorem belongsTo_ofAllocate (e : AllocateError) : BelongsTo .launching (ofAllocate e) := by
  cases e <;> exact ⟨rfl, .head _⟩

theorem belongsTo_ofOccupied (e : Endpoint) : BelongsTo .launching (ofOccupied e) :=
  ⟨rfl, .head _⟩

theorem belongsTo_ofBindTimeout (e : Endpoint) (after : Duration) :
    BelongsTo .awaitingBind (ofBindTimeout e after) := ⟨rfl, .tail _ (.head _)⟩

theorem belongsTo_ofConnect (e : ConnectError) : BelongsTo .connecting (ofConnect e) := by
  cases e with
  | refused | notFound => exact ⟨rfl, .head _⟩
  | timedOut | system | stdioNotConnectable => exact ⟨rfl, .tail _ (.head _)⟩

theorem belongsTo_earlyExit (e : Exit) : BelongsTo .connecting (Session.earlyExit e) :=
  ⟨rfl, .head _⟩

theorem belongsTo_ofExit (e : Exit) : BelongsTo .active (ofExit e) := ⟨rfl, .head _⟩

theorem belongsTo_ofChannelLoss (c : ChannelEnd) (exit : Option Exit) :
    BelongsTo .active (ofChannelLoss c exit) := by
  cases exit with
  | some e => exact ⟨rfl, .head _⟩
  | none => exact ⟨rfl, .tail _ (.tail _ (.head _))⟩

end Failure

/-- A way ends in the stage it leads to. -/
theorem Stage.Path.last {a b : Stage} {way : List Stage} (h : Path a way b) :
    ∃ before, a :: way = before ++ [b] := by
  induction way generalizing a with
  | nil =>
    cases h
    exact ⟨[], rfl⟩
  | cons x rest ih =>
    obtain ⟨before, hbefore⟩ := ih h.2
    exact ⟨a :: before, by rw [hbefore, List.cons_append]⟩

namespace Session

variable {s t s' s₀ : Session} {i : Nat} {f : Failure} {a : Answers} {hs : List Happening}
  {held : List Nat} {own : List Entry}

/-- The history ends with the stage that the session is in. -/
def Dated (s : Session) : Prop := ∃ before, s.history = before ++ [s.stage]

/-- The history ends with the stage that the failure belongs to, and with the failure. -/
def Traced (f : Failure) (s : Session) : Prop :=
  ∃ before st, s.history = before ++ [st, .failed] ∧ f.BelongsTo st

/-- A part of a move records no failure, or one that belongs to the stage right before it. -/
def Blamed (s s' : Session) : Prop :=
  s'.failure = s.failure ∨ ∃ f, s'.failure = some f ∧ Traced f s'

theorem Chronicle.dated (h : Chronicle s own) : s.Dated := by
  obtain ⟨way, hhist, hway⟩ := h.path
  obtain ⟨before, hbefore⟩ := hway.last
  exact ⟨before, hhist.trans hbefore⟩

theorem Dated.moveTo (h : s.Dated) (next : Stage) : (s.moveTo next).Dated := by
  unfold Session.moveTo
  split
  · exact ⟨s.history, rfl⟩
  · exact h

/-- No failure of the session is to blame. -/
def Blameless (e : StartError) : Prop := ∀ f, e ≠ .failed f

theorem blameless_cancelled : Blameless .cancelled := by simp [Blameless]

theorem blameless_notStartable (st : Stage) : Blameless (.notStartable st) := by simp [Blameless]

theorem Leads.failure_eq (h : Leads Blameless s s') : s'.failure = s.failure := by
  rcases h.failure with hsame | ⟨f, -, hf⟩
  · exact hsame
  · exact absurd rfl (hf f)

theorem Leads.blamed (h : Leads Blameless s s') : Blamed s s' := .inl h.failure_eq

theorem fail_record (hs : s.stage.isTerminal = false) (f : Failure) :
    (s.fail f).failure = some f ∧ (s.fail f).history = s.history ++ [.failed] := by
  have hallows : s.stage.allows .failed = true := by simp [Stage.allows, hs]
  unfold Session.fail Session.moveTo
  rw [if_pos hallows, if_pos hallows]
  exact ⟨rfl, rfl⟩

theorem failure_failingOn (x : Session × Option Releasing) (f : Failure) :
    (failingOn i f x).failure = x.1.failure := by
  obtain ⟨t, r⟩ := x
  cases r <;> rfl

theorem startFails_record (hs : s.stage.isTerminal = false) (f : Failure) :
    (s.startFails i f).failure = some f ∧ (s.startFails i f).history = s.history ++ [.failed] := by
  obtain ⟨hfailure, hhist⟩ := fail_record hs f
  have hterm : (s.fail f).stage.isTerminal = true := by rw [fail_stage hs]; rfl
  have hrest : Effect i (s.fail f) (s.startFails i f) := effect_failingOn f (effect_release _ true)
  refine ⟨?_, (hrest.of_isTerminal hterm).2.trans hhist⟩
  calc (s.startFails i f).failure = ((s.fail f).release true).1.failure := failure_failingOn _ f
    _ = (s.fail f).failure := (leads_release _ true).failure_eq
    _ = some f := hfailure

theorem traced_of_history {before : List Stage} (hd : s.history = before ++ [s.stage])
    (hf : f.BelongsTo s.stage) (hhist : s'.history = s.history ++ [.failed]) : Traced f s' :=
  ⟨before, s.stage, by rw [hhist, hd, List.append_assoc]; rfl, hf⟩

/-- A start that is in the stage of its failure fails. -/
theorem blamed_startFails {st : Stage} (hd : s.Dated) (hstage : s.stage = st)
    (hst : st.isTerminal = false) (hf : f.BelongsTo st) : Blamed s (s.startFails i f) := by
  subst hstage
  obtain ⟨before, hbefore⟩ := hd
  obtain ⟨hfailure, hhist⟩ := startFails_record (i := i) hst f
  exact .inr ⟨f, hfailure, traced_of_history hbefore hf hhist⟩

/-! ### Starting -/

theorem blamed_advance {next : Stage} {go : Session → Session} (h : s.stage.allows next = true)
    (hgo : Blamed (s.moveTo next) (go (s.moveTo next))) : Blamed s (s.advance i next go) := by
  unfold advance
  rw [if_pos h]
  rcases hgo with hsame | hfails
  · refine .inl (hsame.trans ?_)
    unfold Session.moveTo
    rw [if_pos h]
  · exact .inr hfails

theorem blamed_spawn (hd : s.Dated) (hstage : s.stage = .launching) (e : Endpoint) :
    Blamed s (s.spawn i a e) := by
  have hallows : s.stage.allows .awaitingBind = true := by rw [hstage]; rfl
  unfold Session.spawn
  dsimp only
  split
  · exact blamed_startFails (s := { s with resources := { s.resources with endpoint := some e } })
      hd hstage rfl (Failure.belongsTo_ofSpawn _)
  · refine Leads.blamed (Leads.after (leads_advance ?_ ?_) rfl rfl rfl)
    · exact hallows
    · exact leads_await _ (fun _ => blameless_cancelled) (by simp) rfl rfl

theorem blamed_launch (hd : s.Dated) (hstage : s.stage = .installing) :
    Blamed s (s.launch i a) := by
  have hallows : s.stage.allows .installed = true := by rw [hstage]; rfl
  have hinstalled := moveTo_stage hallows
  have hallows' : (s.moveTo .installed).stage.allows .launching = true := by rw [hinstalled]; rfl
  have hnext := moveTo_stage hallows'
  have hdated := (hd.moveTo .installed).moveTo .launching
  unfold launch
  refine blamed_advance hallows (blamed_advance hallows' ?_)
  generalize (s.moveTo .installed).moveTo .launching = t at hnext hdated
  split
  · exact blamed_startFails hdated hnext rfl (Failure.belongsTo_ofAllocate _)
  · next e registry _ =>
    split
    · exact blamed_startFails (s := { t with registry := registry.release e }) hdated hnext rfl
        (Failure.belongsTo_ofOccupied e)
    · exact blamed_spawn (s := { t with registry }) hdated hnext e

theorem blamed_bound (hd : s.Dated) (hstage : s.stage = .awaitingBind) (ready : Bool) :
    Blamed s (s.bound i ready) := by
  have hallows : s.stage.allows .connecting = true := by rw [hstage]; rfl
  have hnext := moveTo_stage hallows
  have hdated := hd.moveTo .connecting
  unfold Session.bound
  split
  · exact .inl rfl
  · split
    · exact blamed_startFails hd hstage rfl (Failure.belongsTo_ofBindTimeout _ _)
    · refine blamed_advance hallows ?_
      split
      · exact blamed_startFails hdated hnext rfl (Failure.belongsTo_earlyExit _)
      · exact (leads_activate hnext).blamed
      · exact (leads_await _ (fun _ => blameless_cancelled) (by simp) rfl rfl).blamed

theorem blamed_resume {go : Session → Session} (hgo : Blamed s (go s)) :
    Blamed s (s.resume i go) := by
  unfold resume
  split
  · exact (leads_startReturns s _ (by simpa using blameless_cancelled)).blamed
  · exact hgo

/-- While there is a watcher, the session is live or past it. -/
def Watched (s : Session) : Prop := ∀ j, s.resources.watcher = some j → s.stage.isLate = true

theorem Watched.effect {task : Nat} (hw : s.Watched) (h : Effect task s s') : s'.Watched := by
  intro j hj
  obtain ⟨way, -, hway⟩ := h.path
  rcases h.watcher j hj with hold | ⟨-, hlate⟩
  · exact hway.isLate (hw j hold)
  · exact hlate

theorem Course.watched (hc : Course s₀ hs) : (s₀.after hs).Watched := by
  have hfresh : (s₀.after []).Watched := by
    have hnone : s₀.resources.watcher = none := by rw [hc.fresh]
    simp [Watched, after, hnone]
  have hc' : Course s₀ ([] ++ hs) := hc
  refine hc'.persists hfresh ?_ ?_
  · intro mid a m _ hmid
    obtain ⟨task, heff⟩ := exists_effect_step (s₀.after mid) a m
    exact hmid.effect heff
  · exact fun _ _ _ => id

/-- The watcher that loses a session finds it live. -/
theorem Sound.blamed_lose (h : Sound held s) (hd : s.Dated) (hw : s.Watched) {p : Point}
    (hp : s.tasks[i]? = some p) (hwatches : p.watches = true) (hf : f.BelongsTo .active) :
    Blamed s (s.lose i f) := by
  unfold Session.lose
  split
  · exact .inl rfl
  · next hcancelled =>
    split
    · next hallows =>
      have hlate := hw i (h.watch i p hp hwatches)
      have hterm := Stage.isTerminal_of_allows hallows
      have hstopping : s.stage ≠ .stopping := fun hs => hcancelled (h.standing.cancelled hs)
      have hactive : s.stage = .active := by
        cases hs : s.stage <;> simp_all [Stage.isLate, Stage.isTerminal]
      obtain ⟨before, hbefore⟩ := hd
      obtain ⟨hfailure, hhist⟩ := fail_record hterm f
      exact .inr ⟨f, hfailure, traced_of_history hbefore (hactive ▸ hf) hhist⟩
    · exact .inl rfl

/-! ### Moves -/

/-- **Whatever a move fails with belongs to the stage right before.** -/
theorem Sound.blamed_step (h : Sound held s) (hd : s.Dated) (hw : s.Watched) (a : Answers)
    (m : Move) : Blamed s (s.step a m) := by
  have hcancelled : s.cancelled = true → Blameless .cancelled := fun _ => blameless_cancelled
  cases m with
  | start | dispose | takeEvents => exact .inl rfl
  | exits | ends | seeEnd =>
    rw [Session.step]
    split <;> exact .inl rfl
  | grant i => exact (leads_grant hcancelled fun _ _ => blameless_notStartable _).blamed
  | checked i found =>
    rw [Session.step]
    split
    · refine blamed_resume ?_
      split
      · exact (leads_await s hcancelled (by simp) rfl rfl).blamed
      · exact .inl rfl
    · exact .inl rfl
  | ensured i ok =>
    rw [Session.step]
    split
    · next hp =>
      refine blamed_resume ?_
      split
      · exact (leads_await s hcancelled (by simp) rfl rfl).blamed
      · exact blamed_startFails hd (h.fits i _ hp).1 rfl (Failure.belongsTo_ofProvisioning _ _)
    · exact .inl rfl
  | listed i ok =>
    rw [Session.step]
    split
    · next hp =>
      refine blamed_resume ?_
      split
      · exact blamed_launch hd (h.fits i _ hp).1
      · exact blamed_startFails hd (h.fits i _ hp).1 rfl (Failure.belongsTo_ofProvisioning _ _)
    · exact .inl rfl
  | bound i ready =>
    rw [Session.step]
    split
    · next hp => exact blamed_resume (blamed_bound hd (h.fits i _ hp).1 ready)
    · exact .inl rfl
  | connected i result =>
    rw [Session.step]
    split
    · next hp =>
      refine blamed_resume ?_
      cases result with
      | ok _ => exact (leads_activate (h.fits i _ hp).1).blamed
      | error e => exact blamed_startFails hd (h.fits i _ hp).1 rfl (Failure.belongsTo_ofConnect e)
    · exact .inl rfl
  | cancel i =>
    rw [Session.step]
    split
    · exact .inl rfl
    · split <;> exact .inl rfl
  | shaken i =>
    rw [Session.step]
    split
    · next hp => exact (leads_disposingOn (leads_release s true) hp rfl true).blamed
    · exact .inl rfl
  | released i =>
    rw [Session.step]
    split
    · next f r _ => exact .inl ((failure_failingOn _ f).trans (leads_releaseOn s r).failure_eq)
    · next r hp => exact (leads_disposingOn (leads_releaseOn s r) hp rfl _).blamed
    · next r _ => exact (leads_watchOn (leads_releaseOn s r)).blamed
    · exact .inl rfl
  | seeExit i =>
    rw [Session.step]
    split
    · next hp _ => exact h.blamed_lose hd hw hp rfl (Failure.belongsTo_ofExit _)
    · exact .inl rfl
  | linger i =>
    rw [Session.step]
    split
    · next hp => exact h.blamed_lose hd hw hp rfl (Failure.belongsTo_ofChannelLoss _ _)
    · exact .inl rfl

/-- **Along every course a failure is recorded right behind the stage that it belongs to.** -/
theorem Course.traced (hc : Course s₀ hs) :
    ∀ f, (s₀.after hs).failure = some f → Traced f (s₀.after hs) := by
  have hfresh : ∀ f, (s₀.after []).failure = some f → Traced f (s₀.after []) := by
    have hnone : s₀.failure = none := by rw [hc.fresh]
    simp [after, hnone]
  have hc' : Course s₀ ([] ++ hs) := hc
  refine hc'.persists (P := fun s => ∀ f, s.failure = some f → Traced f s) hfresh ?_ ?_
  · intro mid a m hmid htraced f hf
    have hchronicle := hmid.chronicle
    rcases hmid.sound.blamed_step hchronicle.dated hmid.watched a m with hsame | ⟨g, hg, hg'⟩
    · -- the failure is older, and the history has come to its end
      rw [hsame] at hf
      have hfailed := hchronicle.failed.2 (by rw [hf]; rfl)
      obtain ⟨task, heff⟩ := exists_effect_step (s₀.after mid) a m
      obtain ⟨-, hhist⟩ := heff.of_isTerminal (by rw [hfailed]; rfl)
      obtain ⟨before, st, hbefore, hst⟩ := htraced f hf
      exact ⟨before, st, hhist.trans hbefore, hst⟩
    · rw [hg] at hf
      cases hf
      exact hg'
  · exact fun _ _ _ => id

/-- **A failure names the stage it came up in**: a session that has failed shows a failure that
names the stage right before, of a kind that can come up in that stage. -/
theorem failure_attributed (hc : Course s₀ hs) (hf : (s₀.after hs).stage = .failed) :
    ∃ f before, (s₀.after hs).failure = some f ∧
      (s₀.after hs).history = before ++ [f.stage, .failed] ∧ f.stage ∈ f.kind.stages := by
  obtain ⟨f, hfailure⟩ := Option.isSome_iff_exists.1 (hc.chronicle.failed.1 hf)
  obtain ⟨before, st, hhist, hst⟩ := hc.traced f hfailure
  refine ⟨f, before, hfailure, ?_, ?_⟩
  · rw [hst.stage]
    exact hhist
  · rw [hst.stage]
    exact hst.kind

/-- Somebody else sits on the port: from the package listing on, the start goes through two more
stages before it fails. -/
def crowded : List Happening :=
  [.move .start agreeing, .move (.grant 0) agreeing, .move (.checked 0 true) agreeing,
    .move (.listed 0 true) { agreeing with isOccupied := fun _ => true },
    .others [4000] ⟨[4000]⟩ [], .move .dispose agreeing, .move (.grant 1) agreeing]

theorem failure_attributed_crowded : Course {} crowded ∧
    (after {} crowded).history = [.uninstalled, .installing, .installed, .launching, .failed] ∧
    ∃ f before, (after {} crowded).failure = some f ∧
      (after {} crowded).history = before ++ [f.stage, .failed] ∧ f.stage ∈ f.kind.stages := by
  have hc : Course {} crowded := ⟨rfl, .refl _, trivial⟩
  exact ⟨hc, rfl, failure_attributed hc rfl⟩

end Session

end Sidecar
