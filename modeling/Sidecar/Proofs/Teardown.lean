/-
# Nothing is left of a session

A start that fails, a dispose and the watcher after a failure all give back
what the session has, and any of them may find that another has begun. But
once one of them is done, all is: the session has ended, has neither process
nor endpoint nor channel nor watcher, shows neither handle nor client, and has
no lease. From then on no move of any task changes any of this.

Key definitions: `Session.Cleared`, `Session.Alike`.
Key theorem: `Session.nothing_left`.
-/
import Sidecar.Proofs.Course

namespace Sidecar.Session

variable {s s₀ : Session} {hs pre post : List Happening} {held : List Nat} {i : Nat} {p : Point}

/-- Nothing is left of the session, and the registry holds only what others hold. -/
structure Cleared (held : List Nat) (s : Session) : Prop where
  terminal : s.stage.isTerminal = true
  resources : s.resources = {}
  handle : s.handle = none
  client : s.client = false
  leases : s.registry.ports.Perm held

/-- Two sessions that are in the same stage and have the same. -/
structure Alike (s s' : Session) : Prop where
  stage : s'.stage = s.stage
  resources : s'.resources = s.resources
  handle : s'.handle = s.handle
  client : s'.client = s.client
  registry : s'.registry = s.registry

/-- The session has ended, and what its tasks still do is of no consequence. -/
structure Over (s : Session) : Prop where
  terminal : s.stage.isTerminal = true
  bare : s.Bare
  idle : ∀ (j : Nat) (q : Point), s.tasks[j]? = some q → q.holds = false ∧ q.watches = false

theorem Sound.over_of_settles (h : Sound held s) (hp : s.tasks[i]? = some p)
    (hset : p.settles = true) : Over s := by
  obtain ⟨hterm, hbare⟩ := (h.fits i p hp).settled hset
  refine ⟨hterm, hbare, fun j q hq => ⟨h.settled i p hp hset j q hq, ?_⟩⟩
  refine Bool.eq_false_iff.2 fun hw => ?_
  have hwatcher := h.watch j q hq hw
  rw [hbare.resources] at hwatcher
  cases hwatcher

theorem Sound.cleared (h : Sound held s) (hterm : s.stage.isTerminal = true) (hb : s.Bare) :
    Cleared held s := by
  refine ⟨hterm, hb.resources, hb.handle, hb.client, ?_⟩
  have hleases := h.leases
  rwa [hb.leases, List.nil_append] at hleases

theorem Alike.refl (s : Session) : Alike s s := ⟨rfl, rfl, rfl, rfl, rfl⟩

theorem alike_goTo (s : Session) (i : Nat) (p : Point) : Alike s (s.goTo i p) :=
  ⟨rfl, rfl, rfl, rfl, rfl⟩

theorem Over.grant (h : Over s) (i : Nat) : Alike s (s.grant i) := by
  have hg := granted s i
  generalize s.grant i = s' at hg ⊢
  cases hg with
  | idle => exact .refl s
  | refused => exact alike_goTo s i _
  | start _ _ hfirst =>
    have hterm := h.terminal
    rw [hfirst] at hterm; cases hterm
  | dispose hfree =>
    rw [beginDispose_bare hfree h.terminal h.bare]
    exact alike_goTo s i _
  | watch _ hp => cases (h.idle i _ hp).2

/-- No move changes anything that counts: the tasks that could are not there. -/
theorem Over.step (h : Over s) (m : Move) (a : Answers) : Alike s (s.step a m) := by
  cases m with
  | start | dispose | takeEvents => exact ⟨rfl, rfl, rfl, rfl, rfl⟩
  | exits e =>
    rw [Session.step]
    split <;> exact ⟨rfl, rfl, rfl, rfl, rfl⟩
  | ends reason =>
    rw [Session.step]
    split <;> exact ⟨rfl, rfl, rfl, rfl, rfl⟩
  | grant i => exact h.grant i
  | checked i found | ensured i ok | listed i ok | bound i ready | connected i result
  | shaken i =>
    rw [Session.step]
    split
    · next hp => cases (h.idle i _ hp).1
    · exact .refl s
  | cancel i =>
    rw [Session.step]
    split
    · exact .refl s
    · split
      on_goal 6 => exact .refl s
      all_goals
        next hp => cases (h.idle i _ hp).1
  | released i =>
    rw [Session.step]
    split
    on_goal 4 => exact .refl s
    all_goals
      next hp => cases (h.idle i _ hp).1
  | seeExit i | seeEnd i =>
    rw [Session.step]
    split
    · next hp _ => cases (h.idle i _ hp).2
    · exact .refl s
  | linger i =>
    rw [Session.step]
    split
    · next hp => cases (h.idle i _ hp).2
    · exact .refl s

/-- **Once a start has failed, a dispose has returned or the watcher has dealt with a failure,
nothing is left**, then and ever after, and no move changes that. -/
theorem nothing_left (hc : Course s₀ (pre ++ post)) (hp : (s₀.after pre).tasks[i]? = some p)
    (hset : p.settles = true) :
    Cleared (s₀.elsewhere (pre ++ post)) (s₀.after (pre ++ post)) ∧
      ∀ m a, Alike (s₀.after (pre ++ post)) ((s₀.after (pre ++ post)).step a m) := by
  have hended : p.hasEnded = true := by
    unfold Point.settles at hset
    split at hset <;> first | rfl | cases hset
  have hlater := hc.ended_stays hp hended
  have hover := hc.sound.over_of_settles hlater hset
  exact ⟨hc.sound.cleared hover.terminal hover.bare, hover.step⟩

/-- A server that never listens: the start fails and gives its lease back, while others have one. -/
def stillborn : List Happening :=
  [.move .start agreeing, .move (.grant 0) agreeing, .move (.checked 0 true) agreeing,
    .move (.listed 0 true) agreeing, .others [5007] ⟨[5007, 4000]⟩ [],
    .move (.bound 0 false) agreeing, .move (.released 0) agreeing]

/-- Somebody disposes of it afterwards. -/
def burial : List Happening := [.move .dispose agreeing, .move (.grant 1) agreeing]

theorem nothing_left_stillborn :
    (after {} (stillborn.take 5)).registry.ports = [5007, 4000] ∧
      (∃ f, (after {} stillborn).tasks[0]? = some (.started (some (.failed f)))) ∧
      Cleared [5007] (after {} (stillborn ++ burial)) := by
  have hc : Course {} (stillborn ++ burial) := ⟨rfl, .swap .., trivial⟩
  exact ⟨rfl, ⟨_, rfl⟩, (nothing_left (i := 0) hc rfl rfl).1⟩

end Sidecar.Session
