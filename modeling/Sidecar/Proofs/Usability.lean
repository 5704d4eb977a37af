/-
# A live session is of use

Whoever finds a session live can use it: it shows a handle and has a client,
and behind them are a process and an endpoint. The handle says where that
endpoint is. It has an address exactly if the endpoint is a socket, and then
the registry holds the lease of the port, whatever other sessions lease and
release meanwhile.

This is so not only when a move is over, which is a part of `Sound`, but after
every single write of every task, however the tasks come between each other:
the slots are filled before the stage says that the session is live, and the
stage says that it no longer is before the first of them is emptied. A session
with tasks in the middle of their moves is `Fine` if all is well and each
thread is safe. One write keeps that, and so does every run of them.

Key definitions: `Session.Serves`, `Weave.Fine`.
Key theorems: `Weave.Fine.step`, `Session.active_usable`.
-/
import Sidecar.Proofs.Course
import Sidecar.Proofs.ThreadSafety
import Sidecar.Proofs.Writes

namespace Sidecar

namespace Endpoint

theorem isSome_host?_iff (e : Endpoint) : e.host?.isSome = true ↔ e.kind = .socket := by
  cases e <;> simp [host?, kind]

theorem isSome_port?_iff (e : Endpoint) : e.port?.isSome = true ↔ e.kind = .socket := by
  cases e <;> simp [port?, kind]

end Endpoint

namespace Session

variable {s s₀ : Session} {hs : List Happening} {held : List Nat}

/-- The session shows the handle `h` of a server at the endpoint `e`. -/
structure Serves (s : Session) (h : Handle) (e : Endpoint) : Prop where
  handle : s.handle = some h
  client : s.client = true
  process : s.resources.process = some h.pid
  endpoint : s.resources.endpoint = some e
  transport : h.transport = e.kind
  host : h.host = e.host?
  port : h.port = e.port?
  /-- Sockets have an address, and nothing else has. -/
  addressed : (h.host.isSome = true ↔ e.kind = .socket) ∧ (h.port.isSome = true ↔ e.kind = .socket)
  leased : ∀ port, h.port = some port → s.registry.isLeased port = true

/-- The port of the session's endpoint is leased. -/
theorem Sound.isLeased (h : Sound held s) {e : Endpoint} {port : Nat}
    (he : s.resources.endpoint = some e) (hp : e.port? = some port) :
    s.registry.isLeased port = true := by
  have hmem : port ∈ s.leases ++ held := by simp [Session.leases, he, hp]
  rw [Registry.isLeased, List.contains_iff_mem]
  exact h.leases.mem_iff.2 hmem

theorem Sound.live (h : Sound held s) (hs : s.stage = .active) : s.Live := by
  have hst := h.standing
  unfold Standing at hst
  rwa [hs] at hst

theorem Sound.serves (h : Sound held s) (hs : s.stage = .active) : ∃ hd e, Serves s hd e := by
  obtain ⟨pid, e, i, hres, hhandle, hclient⟩ := h.live hs
  have hendpoint : s.resources.endpoint = some e := by rw [hres]
  refine ⟨⟨pid, e.kind, e.host?, e.port?⟩, e, ?_⟩
  constructor
  · exact hhandle
  · exact hclient
  · rw [hres]
  · exact hendpoint
  · rfl
  · rfl
  · rfl
  · exact ⟨e.isSome_host?_iff, e.isSome_port?_iff⟩
  · intro port hp
    exact h.isLeased hendpoint hp

end Session

/-! ### After every write -/

namespace Shared

variable {x : Shared} {e : Endpoint} {port : Nat}

theorem Good.serves (h : Good x) (ha : x.session.stage = .active) :
    ∃ hd e, Session.Serves x.session hd e := by
  obtain ⟨pid, e, hprocess, hendpoint, hhandle, hclient⟩ := h.live ha
  refine ⟨_, e, hhandle, hclient, hprocess, hendpoint, rfl, rfl, rfl, ?_, ?_⟩
  · exact ⟨e.isSome_host?_iff, e.isSome_port?_iff⟩
  · intro port hport
    rw [Registry.isLeased, List.contains_iff_mem]
    exact (h.leased e hendpoint port hport).1

/-- A call, which makes a new task, takes nothing from anybody. -/
theorem harmless_call {f : Session → Session} {p : Session.Point} (hp : p.isFree = true)
    (hf : ∀ s, ∃ cancelled, f s = { s with cancelled, tasks := s.tasks ++ [p] }) :
    Harmless f where
  rely x i := by
    obtain ⟨cancelled, hx⟩ := hf x.session
    rw [set, hx]
    refine ⟨id, fun q hq => ?_, fun _ => ⟨rfl, rfl, rfl, rfl, id, fun _ => id⟩⟩
    rcases Session.of_getElem?_concat hq with ⟨-, rfl⟩ | hq
    · exact .inr hp
    · exact .inl hq
  good x hx := by
    obtain ⟨cancelled, hset⟩ := hf x.session
    rw [set, hset]
    exact ⟨hx.live, hx.leased, hx.held⟩

/-- What is not the move of a task takes nothing from anybody. -/
theorem harmless_step {m : Session.Move} (hm : m.task? = none) (a : Answers) :
    Harmless (·.step a m) := by
  cases m with
  | start => exact harmless_call rfl fun s => ⟨s.cancelled, rfl⟩
  | dispose => exact harmless_call rfl fun _ => ⟨true, rfl⟩
  | exits | ends =>
    refine harmless_of_untouched fun s => ?_
    rw [Session.step]
    split <;> exact ⟨rfl, rfl, rfl, rfl, rfl, rfl, rfl⟩
  | takeEvents => exact harmless_of_untouched fun _ => ⟨rfl, rfl, rfl, rfl, rfl, rfl, rfl⟩
  | _ => cases hm

/-- What others do with the registry. The session's own leases are not touched. -/
structure Elsewhere (x y : Shared) : Prop where
  session : ∃ registry, y.session = { x.session with registry }
  leases : ∀ e, x.Leased e → y.Leased e
  held : x.held.Subperm x.session.registry.ports → y.held.Subperm y.session.registry.ports

theorem Elsewhere.rely {y : Shared} (h : Elsewhere x y) (i : Nat) : Rely i x y := by
  obtain ⟨registry, hs⟩ := h.session
  refine ⟨?_, fun p hp => .inl ?_, fun _ =>
    ⟨by rw [hs], by rw [hs], by rw [hs], by rw [hs], ?_, h.leases⟩⟩
  · rw [hs]
    exact id
  · rw [hs] at hp
    exact hp
  · rw [hs]
    exact id

theorem Elsewhere.good {y : Shared} (h : Elsewhere x y) (hx : Good x) : Good y := by
  obtain ⟨registry, hs⟩ := h.session
  refine ⟨?_, fun e he => h.leases e (hx.leased e ?_), h.held hx.held⟩
  · rw [hs]
    exact hx.live
  · rw [hs] at he
    exact he

theorem elsewhere_lease {registry : Registry}
    (h : x.session.registry.lease? port = some registry) :
    Elsewhere x { session := { x.session with registry }, held := port :: x.held } := by
  obtain ⟨hnew, hports⟩ := Registry.ports_lease? h
  refine ⟨⟨registry, rfl⟩, fun e he q hq => ?_, fun hheld => ?_⟩
  · obtain ⟨hmem, hothers⟩ := he q hq
    refine ⟨?_, ?_⟩
    · show q ∈ registry.ports
      rw [hports]
      exact List.mem_cons_of_mem _ hmem
    · have hne : q ≠ port := by
        rintro rfl
        exact hnew hmem
      exact List.not_mem_cons_of_ne_of_not_mem hne hothers
  · show (port :: x.held).Subperm registry.ports
    rw [hports]
    exact (List.subperm_cons port).2 hheld

theorem elsewhere_free (h : port ∈ x.held) :
    Elsewhere x {
      session := { x.session with registry := ⟨x.session.registry.ports.erase port⟩ }
      held := x.held.erase port } := by
  refine ⟨⟨_, rfl⟩, fun e he q hq => ?_, fun hheld => hheld.erase port⟩
  obtain ⟨hmem, hothers⟩ := he q hq
  have hne : q ≠ port := by
    rintro rfl
    exact hothers h
  exact ⟨(List.mem_erase_of_ne hne).2 hmem, fun hq => hothers (List.mem_of_mem_erase hq)⟩

end Shared

namespace Weave

variable {w : Weave} {s₀ : Session}

/-- A session of which nothing has been asked yet. All leases are those of others. -/
def start (s₀ : Session) : Weave := { session := s₀, held := s₀.registry.ports }

/-- All is well, and whatever the tasks still have to do, they will leave it so. -/
structure Fine (w : Weave) : Prop where
  good : w.toShared.Good
  safe : ∀ i, (w.todo i).Safe i w.toShared

theorem fine_start (h : s₀.Fresh) : Fine (start s₀) where
  good := by
    have hstage : s₀.stage = .uninstalled := by rw [h]
    have hresources : s₀.resources = {} := by rw [h]
    refine ⟨fun ha => ?_, fun e he => ?_, .refl _⟩
    · rw [show (start s₀).session.stage = s₀.stage from rfl, hstage] at ha
      cases ha
    · rw [show (start s₀).session.resources = s₀.resources from rfl, hresources] at he
      cases he
  safe i p hp := by
    have htasks : s₀.tasks = [] := by rw [h]
    rw [show (start s₀).session.tasks = s₀.tasks from rfl, htasks] at hp
    cases hp

/-- Nobody minds what others do. -/
theorem Fine.of_rely {y : Shared} (h : Fine w) (hr : ∀ i, w.toShared.Rely i y) (hy : y.Good) :
    Fine { w with toShared := y } :=
  ⟨hy, fun i => (h.safe i).rely (hr i)⟩

/-- A task begins a move. -/
theorem Fine.begin_move {m : Session.Move} {i : Nat} (h : Fine w) (hm : m.task? = some i)
    (hidle : w.todo i = .done) (a : Answers) :
    Fine { w with todo := Function.update w.todo i (.ofMove a m) } := by
  have hrest : w.toShared.AtRest i := by
    have hsafe := h.safe i
    rwa [hidle] at hsafe
  refine ⟨h.good, fun j => ?_⟩
  by_cases hj : j = i
  · subst hj
    dsimp only
    rw [Function.update_self]
    exact Session.Thread.safe_ofMove hm hrest a
  · dsimp only
    rw [Function.update_of_ne hj]
    exact h.safe j

/-- A task makes a write. -/
theorem Fine.write {i : Nat} {f : Session → Session} {next : Session → Session.Thread}
    (h : Fine w) (hi : w.todo i = .act f next) :
    Fine { w with
      session := f w.session
      todo := Function.update w.todo i (next w.session) } := by
  have hsafe := h.safe i
  rw [hi] at hsafe
  obtain ⟨hothers, hgood, hnext⟩ := hsafe w.toShared (.refl i _) h.good
  refine ⟨hgood, fun j => ?_⟩
  by_cases hj : j = i
  · subst hj
    dsimp only
    rw [Function.update_self]
    exact hnext
  · dsimp only
    rw [Function.update_of_ne hj]
    exact (h.safe j).rely (hothers j hj)

/-- **Whoever writes next, all is still well.** -/
theorem Fine.step (h : Fine w) (ev : Event) : Fine (w.step ev) := by
  cases ev with
  | begins m a =>
    rw [Weave.step]
    split
    · next hm =>
      have hharmless := Shared.harmless_step hm a
      exact h.of_rely (hharmless.rely _) (hharmless.good _ h.good)
    · next i hm =>
      split
      · next hidle => exact h.begin_move hm hidle a
      · exact h
  | writes i =>
    rw [Weave.step]
    split
    · exact h
    · next hi => exact h.write hi
  | lease port =>
    rw [Weave.step]
    split
    · exact h
    · next hlease =>
      have helsewhere := Shared.elsewhere_lease hlease
      exact h.of_rely helsewhere.rely (helsewhere.good h.good)
  | free port =>
    rw [Weave.step]
    split
    · next hheld =>
      have helsewhere := Shared.elsewhere_free hheld
      exact h.of_rely helsewhere.rely (helsewhere.good h.good)
    · exact h
  | tell entries =>
    have hharmless : Shared.Harmless fun s => { s with
        sink := { s.sink with entries := s.sink.entries ++ entries } } :=
      Shared.harmless_of_untouched fun _ => ⟨rfl, rfl, rfl, rfl, rfl, rfl, rfl⟩
    exact h.of_rely (hharmless.rely _) (hharmless.good _ h.good)

theorem Fine.run (h : Fine w) (events : List Event) : Fine (w.run events) := by
  induction events generalizing w with
  | nil => exact h
  | cons ev events ih => exact ih (h.step ev)

end Weave

namespace Session

variable {s₀ : Session}

/-- **A live session is of use**, after every move and after every single write, of which the moves
are made, however its calls, its watcher and other sessions have come between each other. -/
theorem active_usable (h : Fresh s₀) :
    (∀ hs, Fair s₀ hs → (s₀.after hs).stage = .active → ∃ hd e, Serves (s₀.after hs) hd e) ∧
      (∀ s a m, (Thread.ofMove a m).run s = s.step a m) ∧
      ∀ events, ((Weave.start s₀).run events).session.stage = .active →
        ∃ hd e, Serves ((Weave.start s₀).run events).session hd e := by
  refine ⟨fun hs hfair ha => ?_, Thread.run_ofMove, fun events ha => ?_⟩
  · have hc : Course s₀ hs := ⟨h, hfair⟩
    exact hc.sound.serves ha
  · exact ((Weave.fine_start h).run events).good.serves ha

/-- A session on a socket gets live while others take and give back leases, a second start is
refused, the server exits without anybody having seen it, and somebody waits to dispose of the
session. -/
def embattled : List Happening :=
  [.move .start agreeing, .others [5007] ⟨[5007]⟩ [], .move (.grant 0) agreeing,
    .move .start agreeing, .move (.checked 0 true) agreeing, .move (.listed 0 true) agreeing,
    .others [5008] ⟨[5008, 4000]⟩ [], .move (.bound 0 true) agreeing,
    .move (.connected 0 (.ok ())) agreeing, .move (.grant 1) agreeing,
    .move (.exits ⟨some 1, none⟩) agreeing, .others [] ⟨[4000]⟩ [], .move .dispose agreeing]

/-- A session that has just got live. The start has still to make the watcher known, the watcher has
seen the exit and is about to record the failure, and somebody disposes of the session. -/
def entangled : List Weave.Event :=
  [[.begins .start agreeing, .begins (.grant 0) agreeing], .replicate 5 (.writes 0),
    [.lease 5007, .begins (.checked 0 true) agreeing], .replicate 4 (.writes 0),
    [.begins (.listed 0 true) agreeing], .replicate 11 (.writes 0),
    [.free 5007, .begins (.bound 0 true) agreeing], .replicate 7 (.writes 0),
    [.begins (.connected 0 (.ok ())) agreeing], .replicate 9 (.writes 0),
    [.begins (.exits ⟨some 1, none⟩) agreeing, .begins (.seeExit 1) agreeing, .writes 1, .writes 1,
      .begins .dispose agreeing]].flatten

theorem active_usable_embattled : Fresh {} ∧ Fair {} embattled ∧
    (after {} embattled).stage = .active ∧ (∃ hd e, Serves (after {} embattled) hd e) ∧
    ((Weave.start {}).run entangled).session.stage = .active ∧
    ((Weave.start {}).run entangled).session.resources.watcher = none ∧
    ((Weave.start {}).run entangled).session.tasks = [.connecting, .watching, .disposeWaiting] ∧
    ((Weave.start {}).run (entangled ++ [.writes 1])).session.stage = .failed ∧
    ∃ hd e, Serves ((Weave.start {}).run entangled).session hd e := by
  have hfresh : Fresh {} := rfl
  have hfair : Fair {} embattled := ⟨.refl _, .swap .., .refl _, trivial⟩
  obtain ⟨hmoves, -, hwrites⟩ := active_usable hfresh
  exact ⟨hfresh, hfair, rfl, hmoves embattled hfair rfl, rfl, rfl, rfl, rfl, hwrites entangled rfl⟩

end Session

end Sidecar
