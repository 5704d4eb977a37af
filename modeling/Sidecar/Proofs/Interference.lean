/-
# Tasks that come between each other

Several tasks write to one session, and anything can happen between two writes
of a task. What a task may rely on meanwhile (`Shared.Rely`) is little: nobody
makes a session live again that is past that, nobody sends the task anywhere,
and as long as it has the resources nobody else touches them, what callers see
of them, or the lease that goes with them, nor makes the session live. Each
task keeps to its side of this: it writes to the resources only while it has
them.

What has to hold after every single write is `Shared.Good`: a session that is
live has everything, and the port of its endpoint is leased. A thread is
`Safe` in a state if each of its writes, whatever others have done before it,
keeps that and leaves to the others what they rely on. There is one rule for
each kind of write: one that takes nothing from anybody, one to a slot, by the
task that has the resources, while the session is not live, and one with which
a task comes to rest.

Key definitions: `Shared.Rely`, `Shared.Good`, `Session.Thread.Safe`.
Key theorems: `Session.Thread.Safe.rely`, `Session.Thread.safe_harmless`,
`Session.Thread.safe_fill`.
-/
import Mathlib.Data.List.Perm.Subperm
import Sidecar.Proofs.Custody
import Sidecar.Session.Thread

namespace Sidecar

namespace Stage

variable {a b : Stage}

/-- Never live again. -/
def isPast : Stage → Bool
  | stopping | stopped | failed => true
  | _ => false

theorem isPast_of_allows (h : a.allows b = true) (ha : a.isPast = true) : b.isPast = true := by
  cases a <;> cases ha <;> cases b <;> first | rfl | cases h

theorem isPast_move (b : Stage) (h : a.isPast = true) : (a.move b).isPast = true := by
  unfold move
  split
  · next hallows => exact isPast_of_allows hallows h
  · exact h

theorem isPast_move_failed (a : Stage) : (a.move .failed).isPast = true := by cases a <;> rfl

theorem isPast_move_stopping (a : Stage) : (a.move .stopping).isPast = true := by cases a <;> rfl

theorem isPast_of_isTerminal (h : a.isTerminal = true) : a.isPast = true := by
  cases a <;> first | rfl | cases h

theorem ne_active_of_isPast (h : a.isPast = true) : a ≠ .active := by
  rintro rfl
  cases h

end Stage

namespace Session

variable {s : Session} {p q : Point} {i j : Nat}

theorem stage_moveTo (s : Session) (next : Stage) :
    (s.moveTo next).stage = s.stage.move next := by
  unfold moveTo Stage.move
  split <;> rfl

/-- A point to which others send a task, or at which they create it. -/
def Point.isFree : Point → Bool
  | .startWaiting | .disposeWaiting | .watching | .watched false => true
  | _ => false

theorem getElem?_settle (h : (s.settle i p).tasks[i]? = some q) :
    q = .watched false ∨ q = p := by
  unfold settle at h
  split at h
  · next hstop =>
    rw [hstop] at h
    exact .inl (Option.some.inj h).symm
  · rcases goTo_cases h with ⟨-, hq⟩ | ⟨hne, -⟩
    · exact .inr hq
    · exact absurd rfl hne

theorem exists_settle_eq (s : Session) (i : Nat) (p : Point) :
    ∃ tasks, s.settle i p = { s with tasks } := by
  unfold settle
  split
  · exact ⟨s.tasks, rfl⟩
  · exact ⟨_, rfl⟩

theorem getElem?_settle_ne (hij : j ≠ i) : (s.settle i p).tasks[j]? = s.tasks[j]? := by
  unfold settle
  split
  · rfl
  · exact List.getElem?_set_ne (Ne.symm hij)

/-- All that matters to other tasks is as it was. -/
structure Untouched (s s' : Session) : Prop where
  stage : s'.stage = s.stage
  holder : s'.holder = s.holder
  tasks : s'.tasks = s.tasks
  handle : s'.handle = s.handle
  client : s'.client = s.client
  resources : s'.resources = s.resources
  registry : s'.registry = s.registry

end Session

namespace Shared

open Session (Point Untouched)

variable {x y z : Shared} {i j : Nat} {e : Endpoint} {f : Session → Session}

/-- What a write makes of it. -/
def set (x : Shared) (f : Session → Session) : Shared := { x with session := f x.session }

/-- The port of the endpoint is leased, and not by others. -/
def Leased (x : Shared) (e : Endpoint) : Prop :=
  ∀ port ∈ e.port?, port ∈ x.session.registry.ports ∧ port ∉ x.held

/-! ### What a task relies on -/

/-- What stays as it is for the task that has the resources. -/
structure Kept (x y : Shared) : Prop where
  holder : y.session.holder = x.session.holder
  resources : y.session.resources = x.session.resources
  handle : y.session.handle = x.session.handle
  client : y.session.client = x.session.client
  stage : y.session.stage = .active → x.session.stage = .active
  leases : ∀ e, x.Leased e → y.Leased e

/-- What others do between two writes of the task. -/
structure Rely (i : Nat) (x y : Shared) : Prop where
  past : x.session.stage.isPast = true → y.session.stage.isPast = true
  points : ∀ p, y.session.tasks[i]? = some p → x.session.tasks[i]? = some p ∨ p.isFree = true
  kept : x.session.holder = some i → Kept x y

theorem Kept.trans (h : Kept x y) (h' : Kept y z) : Kept x z where
  holder := h'.holder.trans h.holder
  resources := h'.resources.trans h.resources
  handle := h'.handle.trans h.handle
  client := h'.client.trans h.client
  stage ha := h.stage (h'.stage ha)
  leases e he := h'.leases e (h.leases e he)

theorem Rely.refl (i : Nat) (x : Shared) : Rely i x x :=
  ⟨id, fun _ => .inl, fun _ => ⟨rfl, rfl, rfl, rfl, id, fun _ => id⟩⟩

theorem Rely.trans (h : Rely i x y) (h' : Rely i y z) : Rely i x z where
  past hx := h'.past (h.past hx)
  points p hp := by
    rcases h'.points p hp with hp | hfree
    · exact h.points p hp
    · exact .inr hfree
  kept hx := (h.kept hx).trans (h'.kept ((h.kept hx).holder.trans hx))

/-- The task has the resources, and the session is not live. -/
structure Works (i : Nat) (x : Shared) : Prop where
  holder : x.session.holder = some i
  stage : x.session.stage ≠ .active

/-- The task has the resources, and the session is past being live. -/
structure Clears (i : Nat) (x : Shared) : Prop where
  holder : x.session.holder = some i
  past : x.session.stage.isPast = true

theorem Rely.holder (h : Rely i x y) (hx : x.session.holder = some i) :
    y.session.holder = some i :=
  (h.kept hx).holder.trans hx

theorem Works.rely (h : Works i x) (hr : Rely i x y) : Works i y :=
  ⟨hr.holder h.holder, fun ha => h.stage ((hr.kept h.holder).stage ha)⟩

theorem Clears.rely (h : Clears i x) (hr : Rely i x y) : Clears i y :=
  ⟨hr.holder h.holder, hr.past h.past⟩

theorem Clears.works (h : Clears i x) : Works i x :=
  ⟨h.holder, Stage.ne_active_of_isPast h.past⟩

/-- What holds while a task waits at a point. -/
def Fits (i : Nat) (x : Shared) : Point → Prop
  | .checking | .ensuring | .listing | .binding | .connecting => Works i x
  | .failing .. | .handshaking | .disposing .. | .watchReleasing _ => Clears i x
  | .watchWaiting => x.session.stage.isPast = true
  | _ => True

/-- What holds while a task waits. -/
def AtRest (i : Nat) (x : Shared) : Prop :=
  ∀ p, x.session.tasks[i]? = some p → Fits i x p

theorem fits_of_isFree {p : Point} (h : p.isFree = true) : Fits i x p := by
  cases p with
  | startWaiting | disposeWaiting | watching | watched => trivial
  | _ => cases h

theorem Fits.rely {p : Point} (h : Fits i x p) (hr : Rely i x y) : Fits i y p := by
  cases p with
  | checking | ensuring | listing | binding | connecting => exact Works.rely h hr
  | failing | handshaking | disposing | watchReleasing => exact Clears.rely h hr
  | watchWaiting => exact hr.past h
  | _ => trivial

theorem Fits.congr {p : Point} (h : Fits i x p) (holder : y.session.holder = x.session.holder)
    (stage : y.session.stage = x.session.stage) : Fits i y p := by
  cases p with
  | checking | ensuring | listing | binding | connecting =>
    exact ⟨holder.trans h.holder, fun ha => h.stage (stage.symm.trans ha)⟩
  | failing | handshaking | disposing | watchReleasing =>
    exact ⟨holder.trans h.holder, (congrArg Stage.isPast stage).trans h.past⟩
  | watchWaiting => exact (congrArg Stage.isPast stage).trans h
  | _ => trivial

theorem AtRest.rely (h : AtRest i x) (hr : Rely i x y) : AtRest i y := by
  intro p hp
  rcases hr.points p hp with hp | hfree
  · exact (h p hp).rely hr
  · exact fits_of_isFree hfree

theorem AtRest.hold (h : AtRest i x) :
    AtRest i { x with session := { x.session with holder := some i } } := by
  intro p hp
  have hfits := h p hp
  cases p with
  | checking | ensuring | listing | binding | connecting => exact ⟨rfl, hfits.stage⟩
  | failing | handshaking | disposing | watchReleasing => exact ⟨rfl, hfits.past⟩
  | watchWaiting => exact hfits
  | _ => trivial

/-- A live session has everything, and the lease of its endpoint is its own. -/
structure Good (x : Shared) : Prop where
  live : x.session.stage = .active → ∃ pid e, x.session.resources.process = some pid ∧
    x.session.resources.endpoint = some e ∧
    x.session.handle = some ⟨pid, e.kind, e.host?, e.port?⟩ ∧ x.session.client = true
  leased : ∀ e, x.session.resources.endpoint = some e → x.Leased e
  held : x.held.Subperm x.session.registry.ports

/-- Of a session that is not live, only the endpoint and the leases count. -/
theorem Good.of_dormant (h : x.Good) (hstage : (f x.session).stage ≠ .active)
    (hendpoint : (f x.session).resources.endpoint = x.session.resources.endpoint)
    (hregistry : (f x.session).registry = x.session.registry) : (x.set f).Good where
  live ha := absurd ha hstage
  leased e he port hport := by
    have hleased := h.leased e (hendpoint.symm.trans he) port hport
    rwa [← hregistry] at hleased
  held := by
    have hheld := h.held
    rwa [← hregistry] at hheld

theorem Good.of_untouched (h : x.Good) (hf : Untouched x.session (f x.session)) :
    (x.set f).Good where
  live ha := by
    obtain ⟨pid, e, hprocess, hendpoint, hhandle, hclient⟩ := h.live (hf.stage.symm.trans ha)
    refine ⟨pid, e, ?_, ?_, hf.handle.trans hhandle, hf.client.trans hclient⟩
    · exact (congrArg (·.process) hf.resources).trans hprocess
    · exact (congrArg (·.endpoint) hf.resources).trans hendpoint
  leased e he port hport := by
    rw [show (x.set f).session.resources = x.session.resources from hf.resources] at he
    have hleased := h.leased e he port hport
    rwa [← hf.registry] at hleased
  held := by
    have hheld := h.held
    rwa [← hf.registry] at hheld

/-- A write that takes nothing from anybody. -/
structure Harmless (f : Session → Session) : Prop where
  rely : ∀ x i, Rely i x (x.set f)
  good : ∀ x, Good x → Good (x.set f)

theorem harmless_of_untouched (h : ∀ s, Untouched s (f s)) : Harmless f where
  rely x i := by
    have hf := h x.session
    refine ⟨fun hp => ?_, fun p hp => .inl ?_, fun _ => ?_⟩
    · exact (congrArg Stage.isPast hf.stage).trans hp
    · exact (congrArg (·[i]?) hf.tasks).symm.trans hp
    · refine ⟨hf.holder, hf.resources, hf.handle, hf.client, fun ha => hf.stage.symm.trans ha, ?_⟩
      intro e he port hport
      have hleased := he port hport
      rwa [← hf.registry] at hleased
  good x hx := hx.of_untouched (h x.session)

theorem harmless_moveTo {next : Stage} (hne : next ≠ .active) : Harmless (·.moveTo next) where
  rely x i := by
    unfold set Session.moveTo
    dsimp only
    split
    · next hallows =>
      exact ⟨Stage.isPast_of_allows hallows, fun _ => .inl,
        fun _ => ⟨rfl, rfl, rfl, rfl, fun ha => absurd ha hne, fun _ => id⟩⟩
    · exact .refl i x
  good x hx := by
    unfold set Session.moveTo
    dsimp only
    split
    · exact ⟨fun ha => absurd ha hne, hx.leased, hx.held⟩
    · exact hx

/-- Besides the resources, a write touches nothing but where the task itself is. -/
structure Modest (i : Nat) (f : Session → Session) : Prop where
  past : ∀ s, s.stage.isPast = true → (f s).stage.isPast = true
  points : ∀ s j p, j ≠ i → (f s).tasks[j]? = some p → s.tasks[j]? = some p ∨ p.isFree = true

theorem modest_of_eq (hstage : ∀ s, (f s).stage = s.stage) (htasks : ∀ s, (f s).tasks = s.tasks) :
    Modest i f where
  past s h := by rwa [hstage]
  points s j p _ h := .inl (by rwa [← htasks])

/-- Nobody relies on what a task does to the resources while it has them. -/
theorem Modest.rely (h : Modest i f) (hx : x.session.holder = some i) (hj : j ≠ i) :
    Rely j x (x.set f) where
  past := h.past x.session
  points p := h.points x.session j p hj
  kept hholder := by
    rw [hx] at hholder
    exact absurd (Option.some.inj hholder).symm hj

end Shared

namespace Session.Thread

open Shared (Rely Good Works Clears AtRest Fits Harmless Modest)

variable {x : Shared} {i : Nat} {e : Endpoint} {f : Session → Session} {next : Session → Thread}
  {go : Thread} {on : Option Releasing → Thread} {p : Point}

/-! ### Safe threads -/

/-- Whatever others do meanwhile, each write keeps what has to hold and leaves to others what they
rely on, and the task comes to rest as it should. -/
def Safe (i : Nat) : Thread → Shared → Prop
  | done, x => AtRest i x
  | act f next, x => ∀ y, Rely i x y → Good y →
    (∀ j, j ≠ i → Rely j y (y.set f)) ∧ Good (y.set f) ∧ (next y.session).Safe i (y.set f)

/-- What others do leaves a thread safe. -/
theorem Safe.rely {t : Thread} {y : Shared} (h : t.Safe i x) (hr : Rely i x y) : t.Safe i y := by
  cases t with
  | done => exact AtRest.rely h hr
  | act f next => exact fun z hz => h z (hr.trans hz)

theorem safe_harmless (hf : Harmless f)
    (hnext : ∀ y, Rely i x y → Good y → Rely i x (y.set f) → (next y.session).Safe i (y.set f)) :
    (act f next).Safe i x := by
  intro y hr hy
  exact ⟨fun j _ => hf.rely y j, hf.good y hy, hnext y hr hy (hr.trans (hf.rely y i))⟩

theorem safe_look (hnext : ∀ y, Rely i x y → Good y → (next y.session).Safe i y) :
    (look next).Safe i x :=
  safe_harmless (Shared.harmless_of_untouched fun _ => ⟨rfl, rfl, rfl, rfl, rfl, rfl, rfl⟩)
    fun y hr hy _ => hnext y hr hy

/-- A write of the task that has the resources. -/
theorem safe_act (hx : x.session.holder = some i) (hf : Modest i f)
    (hnext : ∀ y, Rely i x y → Good y → Good (y.set f) ∧ (next y.session).Safe i (y.set f)) :
    (act f next).Safe i x := by
  intro y hr hy
  exact ⟨fun j => hf.rely (hr.holder hx), hnext y hr hy⟩

/-- All is as it was but some slots of the resources and what callers see of them. -/
structure Slots (s s' : Session) : Prop where
  stage : s'.stage = s.stage
  tasks : s'.tasks = s.tasks
  holder : s'.holder = s.holder
  endpoint : s'.resources.endpoint = s.resources.endpoint
  registry : s'.registry = s.registry

/-- A slot is written while the session is not live. -/
theorem safe_fill (hx : Works i x) (hf : ∀ s, Slots s (f s))
    (hnext : ∀ y, Rely i x y → Works i (y.set f) → (next y.session).Safe i (y.set f)) :
    (act f next).Safe i x := by
  have hmodest : Modest i f := Shared.modest_of_eq (fun s => (hf s).stage) fun s => (hf s).tasks
  refine safe_act hx.holder hmodest fun y hr hy => ?_
  have hslots := hf y.session
  have hworks : Works i (y.set f) :=
    ⟨hslots.holder.trans (hx.rely hr).holder, hslots.stage ▸ (hx.rely hr).stage⟩
  exact ⟨hy.of_dormant hworks.stage hslots.endpoint hslots.registry, hnext y hr hworks⟩

/-- A slot is emptied when the session is past being live. -/
theorem safe_empty (hx : Clears i x) (hf : ∀ s, Slots s (f s))
    (hnext : ∀ y : Shared, Clears i (y.set f) → (next y.session).Safe i (y.set f)) :
    (act f next).Safe i x := by
  refine safe_fill hx.works hf fun y hr hworks => hnext y ⟨hworks.holder, ?_⟩
  exact (congrArg Stage.isPast (hf y.session).stage).trans (hx.rely hr).past

/-- The task goes to a point, and lets the resources go with that or not. -/
theorem modest_goTo (holder : Session → Option Nat) :
    Modest i fun s => { s.goTo i p with holder := holder s } where
  past _ h := h
  points s j q hj hq := by
    rcases goTo_cases hq with ⟨rfl, -⟩ | ⟨-, hq⟩
    · exact absurd rfl hj
    · exact .inl hq

theorem safe_goTo (hx : x.session.holder = some i) (hp : ∀ y, Rely i x y → Fits i y p) :
    (write (·.goTo i p) done).Safe i x := by
  refine safe_act hx (modest_goTo holder) fun y hr hy => ⟨⟨hy.live, hy.leased, hy.held⟩, ?_⟩
  intro q hq
  rcases goTo_cases hq with ⟨-, rfl⟩ | ⟨hne, -⟩
  · exact (hp y hr).congr rfl rfl
  · exact absurd rfl hne

theorem safe_finish (hx : x.session.holder = some i) (hp : ∀ y, Fits i y p) :
    (finish i p).Safe i x := by
  refine safe_act hx (modest_goTo fun _ => none) fun y _ hy => ⟨⟨hy.live, hy.leased, hy.held⟩, ?_⟩
  intro q hq
  rcases goTo_cases hq with ⟨-, rfl⟩ | ⟨hne, -⟩
  · exact hp _
  · exact absurd rfl hne

theorem safe_startReturns (hx : x.session.holder = some i) (error : Option StartError) :
    (startReturns i error).Safe i x :=
  safe_finish hx fun _ => trivial

/-- A task that has nothing goes to a point at which nothing is asked of it, or the session is
past. -/
theorem safe_settle (hp : ∀ y, Rely i x y → Fits i y p)
    (hfree : ∀ y z : Shared, z.session.stage = y.session.stage → Fits i y p → Fits i z p) :
    (write (·.settle i p) done).Safe i x := by
  intro y hr hy
  obtain ⟨tasks, htasks⟩ := exists_settle_eq y.session i p
  refine ⟨fun j hj => ⟨?_, fun q hq => .inl ?_, fun _ => ?_⟩, ?_, fun q hq => ?_⟩
  · rw [Shared.set, htasks]
    exact id
  · exact (getElem?_settle_ne hj).symm.trans hq
  · rw [Shared.set, htasks]
    exact ⟨rfl, rfl, rfl, rfl, id, fun _ => id⟩
  · rw [Shared.set, htasks]
    exact ⟨hy.live, hy.leased, hy.held⟩
  · rcases getElem?_settle hq with rfl | rfl
    · trivial
    · refine hfree y _ ?_ (hp y hr)
      rw [Shared.set, htasks]

end Session.Thread

end Sidecar
