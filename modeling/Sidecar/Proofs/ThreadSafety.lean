/-
# Threads that keep out of each other's way

Each part of a move is safe, whatever other tasks write between its writes. A
start fills the slots while it has the resources and the session is not live
(`Works`), and only then does the stage say that it is live (`safe_activate`).
Whoever takes something away has the resources too and has seen the session
past being live (`Clears`): a start that fails and the watcher have recorded
the failure, a dispose has left the live stage first (`safe_beginDispose`).
The watcher records a failure without having anything, but takes nothing away
before it has.

The lemmas follow the parts of a move. Each is about a thread that goes on
with what is left, and asks of that only what holds once the part is done.

Key theorem: `Session.Thread.safe_ofMove`.
-/
import Sidecar.Proofs.Interference

namespace Sidecar

namespace Session.Thread

open Shared (Rely Good Works Clears AtRest Fits Modest)

variable {x : Shared} {i : Nat} {e : Endpoint} {next : Session → Thread} {go : Thread}
  {on : Option Releasing → Thread} {p : Point}

/-- The port of the endpoint is not that of the session's own. -/
def Apart (x : Shared) (e : Endpoint) : Prop :=
  ∀ e', x.session.resources.endpoint = some e' → ∀ port ∈ e.port?, port ∉ e'.port?

/-- The lease of an endpoint that the session does not have, or no longer, is given back. -/
theorem safe_free (hx : Works i x) (he : x.Leased e) (hapart : Apart x e)
    (hnext : ∀ y, Rely i x y → go.Safe i (y.set (·.free e))) : (write (·.free e) go).Safe i x := by
  refine safe_act hx.holder (Shared.modest_of_eq (fun _ => rfl) fun _ => rfl) fun y hr hy =>
    ⟨⟨fun ha => absurd ha (hx.rely hr).stage, fun e' he' port hport => ?_, ?_⟩, hnext y hr⟩
  · have hkept := hr.kept hx.holder
    have hmine : x.session.resources.endpoint = some e' :=
      (congrArg (·.endpoint) hkept.resources).symm.trans he'
    obtain ⟨hmem, hothers⟩ := hy.leased e' he' port hport
    refine ⟨?_, hothers⟩
    show port ∈ (y.session.registry.release e).ports
    unfold Registry.release
    split
    · next port' hport' =>
      have hne : port ≠ port' := by
        rintro rfl
        exact hapart e' hmine port hport' hport
      exact (List.mem_erase_of_ne hne).2 hmem
    · exact hmem
  · show y.held.Subperm (y.session.registry.release e).ports
    have hkept := hr.kept hx.holder
    unfold Registry.release
    split
    · next port hport =>
      have hothers := (hkept.leases e he port hport).2
      rw [← List.erase_of_not_mem hothers]
      exact hy.held.erase port
    · exact hy.held

theorem safe_releaseEndpoint (hx : Clears i x) (hgo : ∀ y, Clears i y → go.Safe i y) :
    (releaseEndpoint go).Safe i x := by
  refine safe_act hx.holder (Shared.modest_of_eq (fun _ => rfl) fun _ => rfl) fun y hr hy => ?_
  have hclears : Clears i (y.set fun s => { s with
      resources := { s.resources with endpoint := none } }) :=
    ⟨(hx.rely hr).holder, (hx.rely hr).past⟩
  refine ⟨⟨fun ha => absurd ha (hx.rely hr).works.stage, nofun, hy.held⟩, ?_⟩
  split
  · next e he =>
    refine safe_free hclears.works (hy.leased e he) nofun fun z hz => hgo _ ?_
    exact ⟨(hclears.rely hz).holder, (hclears.rely hz).past⟩
  · exact hgo _ hclears

theorem safe_releaseProcess (hx : Clears i x) (hon : ∀ r y, Clears i y → (on r).Safe i y) :
    (releaseProcess on).Safe i x := by
  refine safe_empty hx (fun _ => ⟨rfl, rfl, rfl, rfl, rfl⟩) fun y hy => ?_
  split
  · exact hon _ _ hy
  · exact safe_releaseEndpoint hy (hon none)

theorem safe_releaseOn (hx : Clears i x) (hon : ∀ r y, Clears i y → (on r).Safe i y)
    (r : Releasing) : (releaseOn on r).Safe i x := by
  cases r with
  | closing => exact safe_releaseProcess hx hon
  | terminating => exact safe_releaseEndpoint hx (hon none)

theorem safe_hide (hx : Clears i x) (hon : ∀ r y, Clears i y → (on r).Safe i y) :
    (hide on).Safe i x := by
  refine safe_empty hx (fun _ => ⟨rfl, rfl, rfl, rfl, rfl⟩) fun y hy => ?_
  refine safe_empty hy (fun _ => ⟨rfl, rfl, rfl, rfl, rfl⟩) fun z hz => ?_
  refine safe_empty hz (fun _ => ⟨rfl, rfl, rfl, rfl, rfl⟩) fun u hu => ?_
  split
  · exact hon _ _ hu
  · exact safe_releaseProcess hu hon

/-- The watcher is sent off by the task that has the resources. -/
theorem modest_abort (k : Nat) : Modest i (·.goTo k (.watched false)) where
  past _ h := h
  points s j q _ hq := by
    rcases goTo_cases hq with ⟨-, rfl⟩ | ⟨-, hq⟩
    · exact .inr rfl
    · exact .inl hq

theorem safe_release (hx : Clears i x) (hon : ∀ r y, Clears i y → (on r).Safe i y) (abort : Bool) :
    (release abort on).Safe i x := by
  refine safe_empty hx (fun _ => ⟨rfl, rfl, rfl, rfl, rfl⟩) fun y hy => ?_
  split
  · refine safe_act hy.holder (modest_abort _) fun z hz hgood => ?_
    refine ⟨⟨hgood.live, hgood.leased, hgood.held⟩, safe_hide ?_ hon⟩
    exact ⟨(hy.rely hz).holder, (hy.rely hz).past⟩
  · exact safe_hide hy hon

/-- Whoever records a failure finds the session past being live afterwards. -/
theorem safe_fail {failure : Failure} {on : Bool → Thread}
    (hon : ∀ b y, Rely i x y → y.session.stage.isPast = true → (on b).Safe i y) :
    (fail failure on).Safe i x := by
  refine safe_harmless (Shared.harmless_moveTo nofun) fun y _ _ hx => ?_
  have hpast : (y.session.moveTo .failed).stage.isPast = true := by
    rw [stage_moveTo]
    exact Stage.isPast_move_failed _
  split
  · refine safe_harmless (Shared.harmless_of_untouched fun _ =>
      ⟨rfl, rfl, rfl, rfl, rfl, rfl, rfl⟩) fun z _ _ hy => ?_
    refine safe_harmless (Shared.harmless_of_untouched fun _ =>
      ⟨rfl, rfl, rfl, rfl, rfl, rfl, rfl⟩) fun z _ _ hz => ?_
    exact hon _ _ (hx.trans (hy.trans hz)) ((hy.trans hz).past hpast)
  · exact hon _ _ hx hpast

/-! ### Starting -/

theorem safe_advance {stage : Stage} (hx : Works i x) (hne : stage ≠ .active)
    (hgo : ∀ y, Rely i x y → go.Safe i y) : (advance i stage go).Safe i x := by
  refine safe_harmless (Shared.harmless_moveTo hne) fun y _ _ hy => ?_
  split
  · exact hgo _ hy
  · exact safe_startReturns (hy.holder hx.holder) _

theorem safe_unlessCancelled (hx : Works i x) (hgo : ∀ y, Rely i x y → go.Safe i y) :
    (unlessCancelled i go).Safe i x := by
  refine safe_look fun y hy _ => ?_
  split
  · exact safe_startReturns (hy.holder hx.holder) _
  · exact hgo y hy

theorem safe_await (hx : Works i x) (hp : ∀ y, Works i y → Fits i y p) : (await i p).Safe i x := by
  refine safe_unlessCancelled hx fun y hy => ?_
  have hworks := hx.rely hy
  exact safe_goTo hworks.holder fun z hz => hp z (hworks.rely hz)

theorem safe_failingOn (hx : Clears i x) (failure : Failure) (r : Option Releasing) :
    (failingOn i failure r).Safe i x := by
  cases r with
  | some r => exact safe_goTo hx.holder fun _ hr => hx.rely hr
  | none => exact safe_startReturns hx.holder _

theorem safe_startFails (hx : Works i x) (failure : Failure) :
    (startFails i failure).Safe i x := by
  refine safe_fail fun _ y hy hpast => ?_
  have hclears : Clears i y := ⟨hy.holder hx.holder, hpast⟩
  exact safe_release hclears (fun r z hz => safe_failingOn hz failure r) true

theorem safe_beginStart (hx : x.session.holder = some i) : (beginStart i).Safe i x := by
  refine safe_look fun y hy _ => ?_
  have hholder := hy.holder hx
  split
  · exact safe_startReturns hholder _
  · next hfirst =>
    have hworks : Works i y := ⟨hholder, fun ha => hfirst (by simp [ha])⟩
    refine safe_advance hworks nofun fun z hz => safe_await (hworks.rely hz) fun _ hr => ?_
    split <;> exact hr

theorem safe_spawn {a : Answers} (hx : Works i x) (he : x.Leased e) : (spawn i a e).Safe i x := by
  refine safe_act hx.holder (Shared.modest_of_eq (fun _ => rfl) fun _ => rfl) fun y hy hgood => ?_
  have hworks := hx.rely hy
  refine ⟨⟨fun ha => absurd ha hworks.stage, ?_, hgood.held⟩, ?_⟩
  · rintro e' ⟨⟩
    exact (hy.kept hx.holder).leases e he
  · have hworks : Works i (y.set fun s => { s with
        resources := { s.resources with endpoint := some e } }) := ⟨hworks.holder, hworks.stage⟩
    refine safe_look fun z hz _ => ?_
    have hworks := hworks.rely hz
    split
    · exact safe_startFails hworks _
    · refine safe_fill hworks (fun _ => ⟨rfl, rfl, rfl, rfl, rfl⟩) fun u _ hu => ?_
      exact safe_advance hu nofun fun v hv => safe_await (hu.rely hv) fun _ => id

/-- To take a lease changes the registry at most. -/
theorem exists_lease_eq (s : Session) (a : Answers) :
    ∃ registry, s.lease a = { s with registry } := by
  unfold Session.lease
  split
  · exact ⟨s.registry, rfl⟩
  · exact ⟨_, rfl⟩

theorem modest_lease (a : Answers) : Modest i (·.lease a) := by
  refine Shared.modest_of_eq (fun s => ?_) fun s => ?_
  all_goals
    obtain ⟨registry, hs⟩ := exists_lease_eq s a
    rw [hs]

theorem works_lease (hx : Works i x) (a : Answers) : Works i (x.set (·.lease a)) := by
  obtain ⟨registry, hs⟩ := exists_lease_eq x.session a
  rw [Shared.set, hs]
  exact ⟨hx.holder, hx.stage⟩

section Allocation

variable {a : Answers} {registry : Registry}

theorem set_lease (h : x.session.registry.allocate x.session.settings.transport a.freshPath
    a.freePort = .ok (e, registry)) :
    x.set (·.lease a) = { x with session := { x.session with registry } } := by
  rw [Shared.set, Session.lease, h]

/-- A lease that is taken is taken from nobody. -/
theorem good_lease (a : Answers) (hx : Good x) : Good (x.set (·.lease a)) := by
  cases hallocate : x.session.registry.allocate x.session.settings.transport a.freshPath
      a.freePort with
  | error => rwa [Shared.set, Session.lease, hallocate]
  | ok leased =>
    obtain ⟨e, registry⟩ := leased
    obtain ⟨-, hports⟩ := Registry.ports_allocate hallocate
    rw [set_lease hallocate]
    refine ⟨hx.live, fun e' he' port hport => ?_, ?_⟩
    · obtain ⟨hmem, hothers⟩ := hx.leased e' he' port hport
      refine ⟨?_, hothers⟩
      show port ∈ registry.ports
      rw [hports]
      exact List.mem_append_right _ hmem
    · show x.held.Subperm registry.ports
      rw [hports]
      exact hx.held.trans (List.sublist_append_right ..).subperm

theorem leased_lease (hx : Good x) (h : x.session.registry.allocate x.session.settings.transport
    a.freshPath a.freePort = .ok (e, registry)) : (x.set (·.lease a)).Leased e := by
  obtain ⟨hnew, hports⟩ := Registry.ports_allocate h
  rw [set_lease h]
  intro port hport
  refine ⟨?_, fun hothers => hnew port hport (hx.held.subset hothers)⟩
  show port ∈ registry.ports
  rw [hports]
  exact List.mem_append_left _ (by simpa using hport)

theorem apart_lease (hx : Good x) (h : x.session.registry.allocate x.session.settings.transport
    a.freshPath a.freePort = .ok (e, registry)) : Apart (x.set (·.lease a)) e := by
  obtain ⟨hnew, -⟩ := Registry.ports_allocate h
  rw [set_lease h]
  intro e' he' port hport hport'
  exact hnew port hport (hx.leased e' he' port hport').1

end Allocation

theorem safe_launch (hx : Works i x) (a : Answers) : (launch i a).Safe i x := by
  refine safe_advance hx nofun fun y hy => safe_advance (hx.rely hy) nofun fun z hz => ?_
  have hx := (hx.rely hy).rely hz
  refine safe_act hx.holder (modest_lease a) fun u hu hgood => ⟨good_lease a hgood, ?_⟩
  have hworks := works_lease (hx.rely hu) a
  split
  · exact safe_startFails hworks _
  · next e registry hallocate =>
    have hleased := leased_lease hgood hallocate
    split
    · refine safe_free hworks hleased (apart_lease hgood hallocate) fun v hv => ?_
      have hworks : Works i (v.set (·.free e)) :=
        ⟨(hworks.rely hv).holder, (hworks.rely hv).stage⟩
      exact safe_startFails hworks _
    · exact safe_spawn hworks hleased

/-- What a start has filled of the slots. -/
structure Filled (pid : Nat) (e : Endpoint) (client : Bool) (handle : Option Handle) (x : Shared) :
    Prop where
  process : x.session.resources.process = some pid
  endpoint : x.session.resources.endpoint = some e
  client : x.session.client = client
  handle : x.session.handle = handle

theorem Filled.rely {pid : Nat} {client : Bool} {handle : Option Handle} {y : Shared}
    (h : Filled pid e client handle x) (hx : Works i x) (hr : Rely i x y) :
    Filled pid e client handle y := by
  have hkept := hr.kept hx.holder
  refine ⟨?_, ?_, hkept.client.trans h.client, hkept.handle.trans h.handle⟩
  · exact (congrArg (·.process) hkept.resources).trans h.process
  · exact (congrArg (·.endpoint) hkept.resources).trans h.endpoint

/-- The stage says that the session is live when all is there. -/
theorem safe_publish {pid : Nat} (hx : Works i x)
    (hfilled : Filled pid e true (some ⟨pid, e.kind, e.host?, e.port?⟩) x)
    (hgo : ∀ y : Shared, y.session.holder = some i → go.Safe i y) :
    (advance i .active go).Safe i x := by
  have hmodest : Modest i (·.moveTo .active) := by
    refine ⟨fun s hs => ?_, fun s j p _ hp => .inl ?_⟩
    · rw [stage_moveTo]
      exact Stage.isPast_move _ hs
    · unfold moveTo at hp
      split at hp <;> exact hp
  refine safe_act hx.holder hmodest fun y hy hgood => ?_
  have hfilled := hfilled.rely hx hy
  have hholder := hy.holder hx.holder
  by_cases hallows : y.session.stage.allows .active = true
  · have hset : y.set (·.moveTo .active) = { y with session := { y.session with
        stage := .active, history := y.session.history ++ [.active] } } := by
      rw [Shared.set, moveTo, if_pos hallows]
    rw [if_pos hallows, hset]
    refine ⟨⟨fun _ => ?_, hgood.leased, hgood.held⟩, hgo _ hholder⟩
    exact ⟨pid, e, hfilled.process, hfilled.endpoint, hfilled.handle, hfilled.client⟩
  · have hset : y.set (·.moveTo .active) = y := by rw [Shared.set, moveTo, if_neg hallows]
    rw [if_neg hallows, hset]
    exact ⟨hgood, safe_startReturns hholder _⟩

/-- The watcher is sent out once the session is live. -/
theorem safe_watch (hx : x.session.holder = some i) (text : String) :
    (act (fun s => { s with tasks := s.tasks ++ [.watching] }) fun s =>
      let watcher := s.tasks.length
      write (fun s => { s with resources := { s.resources with watcher := some watcher } }) <|
      write (fun s => { s with sink := s.sink.add .info text }) <|
      startReturns i none).Safe i x := by
  have hmodest : Modest i fun s => { s with tasks := s.tasks ++ [.watching] } := by
    refine ⟨fun _ h => h, fun s j p _ hp => ?_⟩
    rcases of_getElem?_concat hp with ⟨-, rfl⟩ | hp
    · exact .inr rfl
    · exact .inl hp
  refine safe_act hx hmodest fun y hy hgood => ⟨⟨hgood.live, hgood.leased, hgood.held⟩, ?_⟩
  refine safe_act (hy.holder hx) (Shared.modest_of_eq (fun _ => rfl) fun _ => rfl)
    fun z hz hgood => ⟨⟨hgood.live, hgood.leased, hgood.held⟩, ?_⟩
  have hholder := hz.holder (hy.holder hx)
  refine safe_harmless (Shared.harmless_of_untouched fun _ =>
    ⟨rfl, rfl, rfl, rfl, rfl, rfl, rfl⟩) fun u hu _ hu' => ?_
  exact safe_startReturns (hu'.holder hholder) _

/-- **The slots are filled before the stage says so.** -/
theorem safe_activate (hx : Works i x) (hrest : AtRest i x) : (activate i).Safe i x := by
  refine safe_look fun y hy _ => ?_
  have hworks := hx.rely hy
  split
  · next pid e hprocess hendpoint =>
    have hfilled : Filled pid e y.session.client y.session.handle y :=
      ⟨hprocess, hendpoint, rfl, rfl⟩
    refine safe_fill hworks (fun _ => ⟨rfl, rfl, rfl, rfl, rfl⟩) fun y₁ hr hworks₁ => ?_
    have hfilled := hfilled.rely hworks hr
    have hfilled : Filled pid e true y.session.handle (y₁.set ({ · with client := true })) :=
      ⟨hfilled.process, hfilled.endpoint, rfl, hfilled.handle⟩
    refine safe_fill hworks₁ (fun _ => ⟨rfl, rfl, rfl, rfl, rfl⟩) fun y₂ hr hworks₂ => ?_
    have hfilled := hfilled.rely hworks₁ hr
    have hfilled : Filled pid e true y.session.handle (y₂.set ({ · with events := true })) :=
      ⟨hfilled.process, hfilled.endpoint, hfilled.client, hfilled.handle⟩
    refine safe_fill hworks₂ (fun _ => ⟨rfl, rfl, rfl, rfl, rfl⟩) fun y₃ hr hworks₃ => ?_
    have hfilled := hfilled.rely hworks₂ hr
    have hfilled : Filled pid e true (some ⟨pid, e.kind, e.host?, e.port?⟩)
        (y₃.set ({ · with handle := some ⟨pid, e.kind, e.host?, e.port?⟩ })) :=
      ⟨hfilled.process, hfilled.endpoint, hfilled.client, rfl⟩
    refine safe_fill hworks₃ (fun _ => ⟨rfl, rfl, rfl, rfl, rfl⟩) fun y₄ hr hworks₄ => ?_
    have hfilled := hfilled.rely hworks₃ hr
    have hfilled : Filled pid e true (some ⟨pid, e.kind, e.host?, e.port?⟩) (y₄.set fun s =>
        { s with resources := { s.resources with client := true } }) :=
      ⟨hfilled.process, hfilled.endpoint, hfilled.client, hfilled.handle⟩
    exact safe_publish hworks₄ hfilled fun z hz => safe_watch hz _
  · exact hrest.rely hy

theorem safe_bound (hx : Works i x) (hrest : AtRest i x) (ready : Bool) :
    (bound i ready).Safe i x := by
  refine safe_look fun y hy _ => ?_
  have hworks := hx.rely hy
  split
  · exact hrest.rely hy
  · split
    · exact safe_startFails hworks _
    · refine safe_advance hworks nofun fun z hz => safe_look fun u hu _ => ?_
      have hworks := hworks.rely (hz.trans hu)
      split
      · exact safe_startFails hworks _
      · exact safe_activate hworks (hrest.rely (hy.trans (hz.trans hu)))
      · exact safe_await hworks fun _ => id

theorem safe_connected (hx : Works i x) (hrest : AtRest i x) (result : Except ConnectError Unit) :
    (connected i result).Safe i x := by
  cases result with
  | ok _ => exact safe_activate hx hrest
  | error e => exact safe_startFails hx _

theorem safe_disposingOn (hx : Clears i x) (last : Bool) (r : Option Releasing) :
    (disposingOn i last r).Safe i x := by
  cases r with
  | some r => exact safe_goTo hx.holder fun _ hr => hx.rely hr
  | none =>
    cases last with
    | false => exact safe_finish hx.holder fun _ => trivial
    | true =>
      refine safe_harmless (Shared.harmless_moveTo nofun) fun y _ _ hy => ?_
      refine safe_harmless (Shared.harmless_of_untouched fun _ =>
        ⟨rfl, rfl, rfl, rfl, rfl, rfl, rfl⟩) fun z _ _ hz => ?_
      exact safe_finish ((hy.trans hz).holder hx.holder) fun _ => trivial

/-- **Who disposes of a session leaves the live stage before it takes anything away.** -/
theorem safe_beginDispose (hx : x.session.holder = some i) : (beginDispose i).Safe i x := by
  refine safe_look fun y hy _ => ?_
  have hholder := hy.holder hx
  split
  · next hterminal =>
    have hclears : Clears i y := ⟨hholder, Stage.isPast_of_isTerminal hterminal⟩
    exact safe_release hclears (fun r z hz => safe_disposingOn hz false r) true
  · refine safe_harmless (Shared.harmless_moveTo nofun) fun z hz _ hset => ?_
    have hclears : Clears i (z.set (·.moveTo .stopping)) := by
      refine ⟨hset.holder hholder, ?_⟩
      show (z.session.moveTo .stopping).stage.isPast = true
      rw [stage_moveTo]
      exact Stage.isPast_move_stopping _
    refine safe_look fun u hu _ => ?_
    have hclears := hclears.rely hu
    split
    · exact safe_goTo hclears.holder fun _ hr => hclears.rely hr
    · exact safe_release hclears (fun r v hv => safe_disposingOn hv true r) true

theorem safe_watchOn (hx : Clears i x) (r : Option Releasing) : (watchOn i r).Safe i x := by
  cases r with
  | some r => exact safe_goTo hx.holder fun _ hr => hx.rely hr
  | none => exact safe_finish hx.holder fun _ => trivial

theorem safe_lose (failure : Failure) : (lose i failure).Safe i x := by
  refine safe_look fun y _ _ => ?_
  split
  · exact safe_settle (fun _ _ => trivial) fun _ _ _ => id
  · refine safe_fail fun changed z _ hpast => ?_
    cases changed with
    | true =>
      refine safe_settle (fun u hu => hu.past hpast) fun u v hstage hu => ?_
      exact (congrArg Stage.isPast hstage).trans hu
    | false => exact safe_settle (fun _ _ => trivial) fun _ _ _ => id

/-! ### Moves -/

theorem hold_eq (s : Session) (i : Nat) :
    s.hold i = s ∨ s.holder = none ∧ s.hold i = { s with holder := some i } := by
  unfold hold
  split
  all_goals first | exact .inl rfl | exact .inr ⟨by assumption, rfl⟩

/-- Only a task that holds nothing takes the resources, and takes them from nobody. -/
theorem safe_grant (hrest : AtRest i x) : (grant i).Safe i x := by
  intro y hr hy
  have hrest := hrest.rely hr
  refine ⟨fun j _ => ?_, ?_, ?_⟩
  · rcases hold_eq y.session i with hsame | ⟨hnone, hheld⟩
    · rw [Shared.set, hsame]
      exact .refl j y
    · rw [Shared.set, hheld]
      refine ⟨id, fun _ => .inl, fun hj => ?_⟩
      rw [hnone] at hj
      cases hj
  · rcases hold_eq y.session i with hsame | ⟨-, hheld⟩
    · rw [Shared.set, hsame]
      exact hy
    · rw [Shared.set, hheld]
      exact ⟨hy.live, hy.leased, hy.held⟩
  · dsimp only
    split
    · next hnone hp => exact safe_beginStart (by simp [Shared.set, hold, hnone, hp])
    · next hnone hp => exact safe_beginDispose (by simp [Shared.set, hold, hnone, hp])
    · next hnone hp =>
      refine safe_release ⟨by simp [Shared.set, hold, hnone, hp], ?_⟩
        (fun r z hz => safe_watchOn hz r) false
      have hpast : y.session.stage.isPast = true := hrest _ hp
      simpa [Shared.set, hold, hnone, hp] using hpast
    · rcases hold_eq y.session i with hsame | ⟨-, hheld⟩
      · rw [Shared.set, hsame]
        exact hrest
      · rw [Shared.set, hheld]
        exact hrest.hold

/-- A task that waits looks where it is. -/
theorem safe_at (hrest : AtRest i x) (hnext : ∀ y, AtRest i y → (next y.session).Safe i y) :
    (look next).Safe i x :=
  safe_look fun y hy _ => hnext y (hrest.rely hy)

/-- **Every move of a task that waits is safe.** -/
theorem safe_ofMove {m : Move} (hm : m.task? = some i) (hrest : AtRest i x) (a : Answers) :
    (ofMove a m).Safe i x := by
  cases m with
  | start | dispose | exits | ends | takeEvents => cases hm
  | grant =>
    cases hm
    exact safe_grant hrest
  | checked =>
    cases hm
    refine safe_at hrest fun y hrest => ?_
    split
    · next hp =>
      have hworks : Works i y := hrest _ hp
      refine safe_unlessCancelled hworks fun z hz => ?_
      have hworks := hworks.rely hz
      split
      · exact safe_await hworks fun _ => id
      · exact safe_goTo hworks.holder fun _ hr => hworks.rely hr
    · exact hrest
  | ensured =>
    cases hm
    refine safe_at hrest fun y hrest => ?_
    split
    · next hp =>
      have hworks : Works i y := hrest _ hp
      refine safe_unlessCancelled hworks fun z hz => ?_
      split
      · exact safe_await (hworks.rely hz) fun _ => id
      · exact safe_startFails (hworks.rely hz) _
    · exact hrest
  | listed =>
    cases hm
    refine safe_at hrest fun y hrest => ?_
    split
    · next hp =>
      have hworks : Works i y := hrest _ hp
      refine safe_unlessCancelled hworks fun z hz => ?_
      split
      · exact safe_launch (hworks.rely hz) a
      · exact safe_startFails (hworks.rely hz) _
    · exact hrest
  | bound =>
    cases hm
    refine safe_at hrest fun y hrest => ?_
    split
    · next hp =>
      have hworks : Works i y := hrest _ hp
      exact safe_unlessCancelled hworks fun z hz =>
        safe_bound (hworks.rely hz) (hrest.rely hz) _
    · exact hrest
  | connected =>
    cases hm
    refine safe_at hrest fun y hrest => ?_
    split
    · next hp =>
      have hworks : Works i y := hrest _ hp
      exact safe_unlessCancelled hworks fun z hz =>
        safe_connected (hworks.rely hz) (hrest.rely hz) _
    · exact hrest
  | cancel =>
    cases hm
    refine safe_at hrest fun y hrest => ?_
    split
    · exact hrest
    · split
      on_goal 6 => exact hrest
      all_goals
        next hp =>
          have hworks : Works i y := hrest _ hp
          exact safe_startReturns hworks.holder _
  | shaken =>
    cases hm
    refine safe_at hrest fun y hrest => ?_
    split
    · next hp =>
      have hclears : Clears i y := hrest _ hp
      exact safe_release hclears (fun r z hz => safe_disposingOn hz true r) true
    · exact hrest
  | released =>
    cases hm
    refine safe_at hrest fun y hrest => ?_
    split
    · next f r hp =>
      have hclears : Clears i y := hrest _ hp
      exact safe_releaseOn hclears (fun r z hz => safe_failingOn hz f r) r
    · next last r hp =>
      have hclears : Clears i y := hrest _ hp
      exact safe_releaseOn hclears (fun r z hz => safe_disposingOn hz last r) r
    · next r hp =>
      have hclears : Clears i y := hrest _ hp
      exact safe_releaseOn hclears (fun r z hz => safe_watchOn hz r) r
    · exact hrest
  | seeExit | linger =>
    cases hm
    refine safe_at hrest fun y hrest => ?_
    split
    · exact safe_lose _
    · exact hrest
  | seeEnd =>
    cases hm
    refine safe_at hrest fun y hrest => ?_
    split
    · exact safe_settle (fun _ _ => trivial) fun _ _ _ => id
    · exact hrest

end Session.Thread

end Sidecar
