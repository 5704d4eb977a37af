/-
# What a move can do to the life of a session

Whatever a task does in a move, the session goes on along the stages, each
move of stage an allowed one; it records a failure only on the way out of a
stage that is no end, and reports exactly that failure; and no other task is
touched, except that the watcher may be stopped. This holds of each part of a
move (`Effect`), and the parts compose, so it holds of every move
(`effect_step`) whatever state the session is in.

Key definitions: `Stage.Path`, `Session.Effect`, `Session.Granted`.
Key theorem: `Session.effect_step`.
-/
import Mathlib.Tactic.Common
import Sidecar.Session.Basic

namespace Sidecar

namespace Stage

/-- A way from one stage to another along allowed moves. The stage it starts in is not a part of
it. -/
def Path : Stage → List Stage → Stage → Prop
  | a, [], b => a = b
  | a, x :: rest, b => a.allows x = true ∧ Path x rest b

variable {a b c : Stage} {way way' : List Stage}

theorem Path.trans (h : Path a way b) (h' : Path b way' c) : Path a (way ++ way') c := by
  induction way generalizing a with
  | nil =>
    cases h
    exact h'
  | cons x rest ih => exact ⟨h.1, ih h.2⟩

theorem path_single (h : a.allows b = true) : Path a [b] b := ⟨h, rfl⟩

theorem isTerminal_of_allows (h : a.allows b = true) : a.isTerminal = false := by
  cases ht : a.isTerminal with
  | false => rfl
  | true => rw [allows_of_isTerminal ht] at h; cases h

/-- From an end there is no way on. -/
theorem Path.of_isTerminal (h : Path a way b) (ha : a.isTerminal = true) : way = [] ∧ b = a := by
  cases way with
  | nil =>
    cases h
    exact ⟨rfl, rfl⟩
  | cons x rest => rw [isTerminal_of_allows h.1] at ha; cases ha

/-- Live, or past it. -/
def isLate : Stage → Bool
  | active | stopping | stopped | failed => true
  | _ => false

theorem isLate_of_allows (h : a.allows b = true) (ha : a.isLate = true) : b.isLate = true := by
  cases a <;> cases ha <;> cases b <;> first | rfl | cases h

theorem Path.isLate (h : Path a way b) (ha : a.isLate = true) : b.isLate = true := by
  induction way generalizing a with
  | nil =>
    cases h
    exact ha
  | cons x rest ih => exact ih h.2 (isLate_of_allows h.1 ha)

/-- A way through `active` ends there or behind it. -/
theorem Path.isLate_of_active_mem (h : Path a way b) (hx : .active ∈ way) : b.isLate = true := by
  induction way generalizing a with
  | nil => cases hx
  | cons x rest ih =>
    rcases List.mem_cons.1 hx with rfl | hx
    · exact Path.isLate h.2 rfl
    · exact ih h.2 hx

end Stage

namespace Session

/-- The errors among some entries of the output channel. -/
def errors (es : List Entry) : List Entry := es.filter fun e => e.level == .error

/-- The entry that reports a failure. -/
def reportOf (f : Failure) : Entry := ⟨.error, f.userText⟩

/-- What may become of the recorded failure, with the entries that are new: nothing, and then there
is no error among them, or the session fails, and the one error reports that. -/
inductive Records (s s' : Session) (new : List Entry) : Prop where
  | none (failure : s'.failure = s.failure) (new : errors new = [])
      (stage : s'.stage = .failed → s.stage = .failed)
  | fails {f : Failure} (before : s.stage.isTerminal = false) (stage : s'.stage = .failed)
      (failure : s'.failure = some f) (new : errors new = [reportOf f])

/-- What a part of a move can do that is made for the given task. -/
structure Effect (task : Nat) (s s' : Session) : Prop where
  path : ∃ way, s'.history = s.history ++ way ∧ Stage.Path s.stage way s'.stage
  record : ∃ new, s'.sink.entries = s.sink.entries ++ new ∧ Records s s' new
  /-- Other tasks stay where they are, but the watcher may be stopped. -/
  tasks : ∀ j < s.tasks.length, j ≠ task → s'.tasks[j]? = s.tasks[j]? ∨
    (s.resources.watcher = some j ∧ s'.tasks[j]? = some (.watched false))
  /-- A watcher that was not there before is a new task, of a session that has been live. -/
  watcher : ∀ j, s'.resources.watcher = some j → s.resources.watcher = some j ∨
    (s.tasks.length ≤ j ∧ s'.stage.isLate = true)
  length : s.tasks.length ≤ s'.tasks.length

variable {s t s' : Session} {task i : Nat}

theorem Records.trans {new new' : List Entry} (h : Records s t new) (h' : Records t s' new')
    (way : ∃ way, Stage.Path s.stage way t.stage) (way' : ∃ way, Stage.Path t.stage way s'.stage) :
    Records s s' (new ++ new') := by
  have happend : errors (new ++ new') = errors new ++ errors new' := List.filter_append ..
  obtain ⟨way, hway⟩ := way
  obtain ⟨way', hway'⟩ := way'
  cases h with
  | none hf hnew hs =>
    cases h' with
    | none hf' hnew' hs' =>
      exact .none (hf'.trans hf) (by rw [happend, hnew, hnew']; rfl) fun h => hs (hs' h)
    | fails hb hst hf' hnew' =>
      refine .fails ?_ hst hf' (by rw [happend, hnew, hnew']; rfl)
      -- an end would not have been left
      cases hterm : s.stage.isTerminal with
      | false => rfl
      | true => rw [(hway.of_isTerminal hterm).2, hterm] at hb; cases hb
  | fails hb hst hf hnew =>
    have hend : t.stage.isTerminal = true := by rw [hst]; rfl
    cases h' with
    | none hf' hnew' hs' =>
      refine .fails hb ?_ (hf'.trans hf) (by rw [happend, hnew, hnew']; rfl)
      rw [(hway'.of_isTerminal hend).2, hst]
    | fails hb' _ _ _ => rw [hend] at hb'; cases hb'

theorem Effect.trans (h : Effect task s t) (h' : Effect task t s') : Effect task s s' := by
  obtain ⟨way, hh, hp⟩ := h.path
  obtain ⟨way', hh', hp'⟩ := h'.path
  obtain ⟨new, hs, hr⟩ := h.record
  obtain ⟨new', hs', hr'⟩ := h'.record
  refine ⟨⟨way ++ way', ?_, hp.trans hp'⟩, ⟨new ++ new', ?_, hr.trans hr' ⟨_, hp⟩ ⟨_, hp'⟩⟩,
    ?_, ?_, ?_⟩
  · rw [hh', hh, List.append_assoc]
  · rw [hs', hs, List.append_assoc]
  · intro j hj hne
    have hj' : j < t.tasks.length := Nat.lt_of_lt_of_le hj h.length
    rcases h'.tasks j hj' hne with hsame | ⟨hw, hstop⟩
    · rcases h.tasks j hj hne with hsame' | ⟨hw', hstop'⟩
      · exact .inl (hsame.trans hsame')
      · exact .inr ⟨hw', hsame.trans hstop'⟩
    · rcases h.watcher j hw with hw' | ⟨hnew, -⟩
      · exact .inr ⟨hw', hstop⟩
      · omega
  · intro j hw
    rcases h'.watcher j hw with hw' | ⟨hnew, hlate⟩
    · rcases h.watcher j hw' with hw' | ⟨hnew, hlate⟩
      · exact .inl hw'
      · exact .inr ⟨hnew, hp'.isLate hlate⟩
    · have := h.length
      exact .inr ⟨by omega, hlate⟩
  · exact Nat.le_trans h.length h'.length

/-- A part of a move that leaves the life of the session and all tasks alone. -/
theorem Effect.frame (stage : s'.stage = s.stage) (history : s'.history = s.history)
    (failure : s'.failure = s.failure) (sink : s'.sink = s.sink) (tasks : s'.tasks = s.tasks)
    (watcher : ∀ j, s'.resources.watcher = some j → s.resources.watcher = some j) :
    Effect task s s' where
  path := ⟨[], by simp [history], stage.symm⟩
  record := ⟨[], by simp [sink], .none failure rfl (by simp [stage])⟩
  tasks := by simp [tasks]
  watcher j hj := .inl (watcher j hj)
  length := by simp [tasks]

theorem Effect.refl (task : Nat) (s : Session) : Effect task s s :=
  .frame rfl rfl rfl rfl rfl fun _ => id

theorem effect_goTo (s : Session) (task : Nat) (p : Point) : Effect task s (s.goTo task p) where
  path := ⟨[], by simp [goTo], rfl⟩
  record := ⟨[], by simp [goTo], .none rfl rfl id⟩
  tasks j _ hne := .inl (List.getElem?_set_ne (Ne.symm hne))
  watcher _ := .inl
  length := by simp [goTo]

theorem effect_unlock (s : Session) : Effect task s s.unlock :=
  .frame rfl rfl rfl rfl rfl fun _ => id

theorem effect_moveTo (s : Session) {next : Stage} (hn : next ≠ .failed) :
    Effect task s (s.moveTo next) := by
  unfold moveTo
  split
  · next h =>
    refine ⟨⟨[next], rfl, Stage.path_single h⟩, ⟨[], by simp, .none rfl rfl ?_⟩, ?_, ?_,
      Nat.le_refl _⟩
    · exact fun h => absurd h hn
    · exact fun j _ _ => .inl rfl
    · exact fun _ => .inl
  · exact .refl task s

theorem effect_fail (s : Session) (f : Failure) : Effect task s (s.fail f) := by
  unfold Session.fail
  split
  · next h =>
    have hmove : s.moveTo .failed =
        { s with stage := .failed, history := s.history ++ [.failed] } := if_pos h
    rw [hmove]
    refine ⟨⟨[.failed], rfl, Stage.path_single h⟩, ⟨[reportOf f], rfl, ?_⟩, ?_, ?_, Nat.le_refl _⟩
    · exact .fails (Stage.isTerminal_of_allows h) rfl rfl rfl
    · exact fun j _ _ => .inl rfl
    · exact fun _ => .inl
  · exact .refl task s

/-- A note in the output channel that is no error. -/
theorem effect_note (s : Session) (text : String) :
    Effect task s { s with sink := s.sink.add .info text } where
  path := ⟨[], by simp, rfl⟩
  record := ⟨[⟨.info, text⟩], rfl, .none rfl rfl id⟩
  tasks _ _ _ := .inl rfl
  watcher _ := .inl
  length := Nat.le_refl _

/-! ### Giving resources back -/

theorem effect_abortWatcher (s : Session) : Effect task s s.abortWatcher := by
  unfold abortWatcher
  split
  · next i hi =>
    refine ⟨⟨[], by simp [goTo], rfl⟩, ⟨[], by simp [goTo], .none rfl rfl id⟩, ?_, ?_,
      by simp [goTo]⟩
    · intro j hj _
      by_cases hij : i = j
      · subst hij
        exact .inr ⟨hi, by simp [goTo, hj]⟩
      · exact .inl (List.getElem?_set_ne hij)
    · exact fun _ => .inl
  · exact .refl task s

theorem effect_releaseEndpoint (s : Session) : Effect task s s.releaseEndpoint := by
  unfold releaseEndpoint
  split
  · exact .frame rfl rfl rfl rfl rfl fun _ => id
  · exact .refl task s

theorem effect_releaseProcess (s : Session) : Effect task s s.releaseProcess.1 := by
  unfold releaseProcess
  split
  · exact .frame rfl rfl rfl rfl rfl fun _ => id
  · exact effect_releaseEndpoint s

theorem effect_release (s : Session) (abort : Bool) : Effect task s (s.release abort).1 := by
  unfold release
  have habort : Effect task s (if abort then s.abortWatcher else s) := by
    cases abort
    · exact .refl task s
    · exact effect_abortWatcher s
  refine habort.trans ?_
  generalize (if abort then s.abortWatcher else s) = t
  have hclear : Effect task t { t with
      resources := { t.resources with watcher := none }, client := false, handle := none } :=
    .frame rfl rfl rfl rfl rfl nofun
  refine hclear.trans ?_
  dsimp only
  split
  · exact .frame rfl rfl rfl rfl rfl fun _ => id
  · exact effect_releaseProcess _

theorem effect_releaseOn (s : Session) (r : Releasing) : Effect task s (s.releaseOn r).1 := by
  cases r with
  | closing => exact effect_releaseProcess s
  | terminating => exact effect_releaseEndpoint s

/-! ### Starting -/

theorem effect_startReturns (s : Session) (e : Option StartError) :
    Effect task s (s.startReturns task e) :=
  (effect_goTo s task _).trans (effect_unlock _)

theorem effect_advance (s : Session) {next : Stage} (hn : next ≠ .failed)
    {go : Session → Session} (hgo : ∀ t, t.stage = next → Effect task t (go t)) :
    Effect task s (s.advance task next go) := by
  unfold advance
  split
  · next h => exact (effect_moveTo s hn).trans (hgo _ (by rw [moveTo, if_pos h]))
  · exact effect_startReturns s _

theorem effect_await (s : Session) (p : Point) : Effect task s (s.await task p) := by
  unfold await
  split
  · exact effect_startReturns s _
  · exact effect_goTo s task p

theorem effect_failingOn {x : Session × Option Releasing} (f : Failure) (h : Effect task s x.1) :
    Effect task s (failingOn task f x) := by
  obtain ⟨t, r⟩ := x
  cases r with
  | none => exact h.trans (effect_startReturns t _)
  | some r => exact h.trans (effect_goTo t task _)

theorem effect_startFails (s : Session) (f : Failure) : Effect task s (s.startFails task f) :=
  effect_failingOn f ((effect_fail s f).trans (effect_release _ true))

theorem effect_beginStart (s : Session) : Effect task s (s.beginStart task) := by
  unfold beginStart
  split
  · exact effect_startReturns s _
  · exact effect_advance s (by decide) fun t _ => effect_await t _

theorem effect_spawn (s : Session) (a : Answers) (e : Endpoint) :
    Effect task s (s.spawn task a e) := by
  unfold Session.spawn
  refine Effect.trans (t := { s with resources := { s.resources with endpoint := some e } })
    (.frame rfl rfl rfl rfl rfl fun _ => id) ?_
  dsimp only
  split
  · exact effect_startFails _ _
  · next pid _ =>
    refine Effect.trans (t := { s with
      resources := { s.resources with endpoint := some e, process := some pid } })
      (.frame rfl rfl rfl rfl rfl fun _ => id) ?_
    exact effect_advance _ (by decide) fun t _ => effect_await t _

/-- A start with an environment moves on to `installed`, and goes on from there. -/
theorem launch_eq (s : Session) (task : Nat) (a : Answers) : ∃ go : Session → Session,
    s.launch task a = s.advance task .installed go ∧ ∀ t, Effect task t (go t) := by
  refine ⟨_, rfl, fun t => effect_advance t (by decide) fun u _ => ?_⟩
  split
  · exact effect_startFails u _
  · next e registry _ =>
    split
    · refine Effect.trans (t := { u with registry := registry.release e }) ?_
        (effect_startFails _ _)
      exact .frame rfl rfl rfl rfl rfl fun _ => id
    · refine Effect.trans (t := { u with registry }) ?_ (effect_spawn _ a e)
      exact .frame rfl rfl rfl rfl rfl fun _ => id

theorem effect_launch (s : Session) (a : Answers) : Effect task s (s.launch task a) := by
  obtain ⟨go, hlaunch, hgo⟩ := launch_eq s task a
  rw [hlaunch]
  exact effect_advance s (by decide) fun t _ => hgo t

/-- The watcher of a live session is a new task. -/
theorem effect_watch (s : Session) (hs : s.stage = .active) : Effect task s { s with
    resources := { s.resources with watcher := some s.tasks.length }
    tasks := s.tasks ++ [Point.watching] } where
  path := ⟨[], by simp, rfl⟩
  record := ⟨[], by simp, .none rfl rfl id⟩
  tasks j hj _ := .inl (List.getElem?_append_left hj)
  watcher j hj := by
    cases hj
    exact .inr ⟨Nat.le_refl _, by rw [hs]; rfl⟩
  length := by simp

theorem effect_activate (s : Session) : Effect task s (s.activate task) := by
  unfold activate
  split
  · next pid e _ _ =>
    refine Effect.trans (t := { s with
      client := true
      events := true
      handle := some ⟨pid, e.kind, e.host?, e.port?⟩
      resources := { s.resources with client := true } }) ?_ ?_
    · exact .frame rfl rfl rfl rfl rfl fun _ => id
    · refine effect_advance _ (by decide) fun t ht => ?_
      exact ((effect_watch t ht).trans (effect_note _ _)).trans (effect_startReturns _ none)
  · exact .refl task s

theorem effect_bound (s : Session) (ready : Bool) : Effect task s (s.bound task ready) := by
  unfold Session.bound
  split
  · exact .refl task s
  · split
    · exact effect_startFails s _
    · refine effect_advance s (by decide) fun t _ => ?_
      split
      · exact effect_startFails t _
      · exact effect_activate t
      · exact effect_await t _

theorem effect_disposingOn {x : Session × Option Releasing} (last : Bool) (h : Effect task s x.1) :
    Effect task s (disposingOn task last x) := by
  obtain ⟨t, r⟩ := x
  cases r with
  | some r => exact h.trans (effect_goTo t task _)
  | none =>
    refine h.trans (Effect.trans ?_ ((effect_goTo _ task .disposed).trans (effect_unlock _)))
    cases last
    · exact .refl task t
    · exact (effect_moveTo t (by decide)).trans (effect_note _ _)

theorem effect_beginDispose (s : Session) : Effect task s (s.beginDispose task) := by
  unfold beginDispose
  split
  · exact effect_disposingOn false (effect_release s true)
  · have hmove : Effect task s (s.moveTo .stopping) := effect_moveTo s (by decide)
    dsimp only
    split
    · exact hmove.trans (effect_goTo _ task _)
    · exact effect_disposingOn true (hmove.trans (effect_release _ true))

theorem effect_watchOn {x : Session × Option Releasing} (h : Effect task s x.1) :
    Effect task s (watchOn task x) := by
  obtain ⟨t, r⟩ := x
  cases r with
  | none => exact h.trans ((effect_goTo t task _).trans (effect_unlock _))
  | some r => exact h.trans (effect_goTo t task _)

theorem effect_lose (s : Session) (f : Failure) : Effect task s (s.lose task f) := by
  unfold lose
  split
  · exact effect_goTo s task _
  · split
    · exact (effect_fail s f).trans (effect_goTo _ task _)
    · exact effect_goTo s task _

/-! ### Moves -/

/-- A start that comes too late is refused, and nothing else happens. -/
theorem grant_refused (hfree : s.holder = none) (hp : s.tasks[i]? = some .startWaiting)
    (hs : s.stage ≠ .uninstalled) :
    s.grant i = s.goTo i (.started (some (.notStartable s.stage))) := by
  unfold Session.grant Session.beginStart
  rw [hfree, hp]
  dsimp only [Option.isSome_none]
  rw [if_neg nofun, if_pos (by simpa using hs)]
  cases s
  cases hfree
  rfl

/-- What becomes of a session when a task may have the resources. -/
inductive Granted (s : Session) (i : Nat) : Session → Prop where
  /-- Somebody else has them, or the task does not wait for them. -/
  | idle : Granted s i s
  | refused (free : s.holder = none) (waits : s.tasks[i]? = some .startWaiting)
      (late : s.stage ≠ .uninstalled) :
      Granted s i (s.goTo i (.started (some (.notStartable s.stage))))
  | start (free : s.holder = none) (waits : s.tasks[i]? = some .startWaiting)
      (first : s.stage = .uninstalled) : Granted s i ({ s with holder := some i }.beginStart i)
  | dispose (free : s.holder = none) (waits : s.tasks[i]? = some .disposeWaiting) :
      Granted s i ({ s with holder := some i }.beginDispose i)
  /-- There is no watcher to stop but the task itself. -/
  | watch (free : s.holder = none) (waits : s.tasks[i]? = some .watchWaiting) :
      Granted s i (watchOn i (release { s with
        holder := some i, resources := { s.resources with watcher := none } } true))

theorem granted (s : Session) (i : Nat) : Granted s i (s.grant i) := by
  cases hfree : s.holder with
  | some k =>
    unfold Session.grant
    rw [hfree]
    exact .idle
  | none =>
    by_cases hlate : s.tasks[i]? = some .startWaiting ∧ s.stage ≠ .uninstalled
    · rw [grant_refused hfree hlate.1 hlate.2]
      exact .refused hfree hlate.1 hlate.2
    · unfold Session.grant
      rw [hfree]
      dsimp only [Option.isSome_none]
      rw [if_neg nofun]
      split
      · next hp => exact .start hfree hp (not_not.1 fun hs => hlate ⟨hp, hs⟩)
      · next hp => exact .dispose hfree hp
      · next hp => exact .watch hfree hp
      · exact .idle

theorem effect_grant (s : Session) : Effect task s (s.grant task) := by
  have hg := granted s task
  generalize s.grant task = s' at hg ⊢
  have hheld : Effect task s { s with holder := some task } :=
    .frame rfl rfl rfl rfl rfl fun _ => id
  cases hg with
  | idle => exact .refl task s
  | refused => exact effect_goTo s task _
  | start => exact hheld.trans (effect_beginStart _)
  | dispose => exact hheld.trans (effect_beginDispose _)
  | watch =>
    refine effect_watchOn (Effect.trans ?_ (effect_release _ true))
    exact .frame rfl rfl rfl rfl rfl nofun

theorem effect_resume (s : Session) {go : Session → Session} (hgo : Effect task s (go s)) :
    Effect task s (s.resume task go) := by
  unfold resume
  split
  · exact effect_startReturns s _
  · exact hgo

/-- A call adds a task. -/
theorem effect_call (s : Session) (p : Point) (c : Bool) :
    Effect task s { s with cancelled := c, tasks := s.tasks ++ [p] } where
  path := ⟨[], by simp, rfl⟩
  record := ⟨[], by simp, .none rfl rfl id⟩
  tasks j hj _ := .inl (List.getElem?_append_left hj)
  watcher _ := .inl
  length := by simp

/-- **No move does anything else** to the life of the session, nor to the tasks it is not about. -/
theorem effect_step (s : Session) (a : Answers) (m : Move) (hm : ∀ i ∈ m.task?, i = task) :
    Effect task s (s.step a m) := by
  cases m with
  | start => exact effect_call s _ _
  | dispose => exact effect_call s _ _
  | exits e =>
    rw [step]
    split
    · exact .frame rfl rfl rfl rfl rfl fun _ => id
    · exact .refl task s
  | ends reason =>
    rw [step]
    split
    · exact .frame rfl rfl rfl rfl rfl fun _ => id
    · exact .refl task s
  | takeEvents => exact .frame rfl rfl rfl rfl rfl fun _ => id
  | grant i =>
    cases hm i rfl
    exact effect_grant s
  | checked i found =>
    cases hm i rfl
    rw [step]
    split
    · refine effect_resume s ?_
      split
      · exact effect_await s _
      · exact effect_goTo s _ _
    · exact .refl _ s
  | ensured i ok =>
    cases hm i rfl
    rw [step]
    split
    · refine effect_resume s ?_
      split
      · exact effect_await s _
      · exact effect_startFails s _
    · exact .refl _ s
  | listed i ok =>
    cases hm i rfl
    rw [step]
    split
    · refine effect_resume s ?_
      split
      · exact effect_launch s a
      · exact effect_startFails s _
    · exact .refl _ s
  | bound i ready =>
    cases hm i rfl
    rw [step]
    split
    · exact effect_resume s (effect_bound s ready)
    · exact .refl _ s
  | connected i result =>
    cases hm i rfl
    rw [step]
    split
    · refine effect_resume s ?_
      cases result with
      | ok _ => exact effect_activate s
      | error e => exact effect_startFails s _
    · exact .refl _ s
  | cancel i =>
    cases hm i rfl
    rw [step]
    split
    · exact .refl _ s
    · split
      on_goal 6 => exact .refl _ s
      all_goals exact effect_startReturns s _
  | shaken i =>
    cases hm i rfl
    rw [step]
    split
    · exact effect_disposingOn true (effect_release s true)
    · exact .refl _ s
  | released i =>
    cases hm i rfl
    rw [step]
    split
    · next r _ => exact effect_failingOn _ (effect_releaseOn s r)
    · next r _ => exact effect_disposingOn _ (effect_releaseOn s r)
    · next r _ => exact effect_watchOn (effect_releaseOn s r)
    · exact .refl _ s
  | seeExit i =>
    cases hm i rfl
    rw [step]
    split
    · exact effect_lose s _
    · exact .refl _ s
  | seeEnd i =>
    cases hm i rfl
    rw [step]
    split
    · exact effect_goTo s _ _
    · exact .refl _ s
  | linger i =>
    cases hm i rfl
    rw [step]
    split
    · exact effect_lose s _
    · exact .refl _ s

end Session

end Sidecar
