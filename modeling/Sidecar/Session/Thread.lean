/-
# The single writes of a session

What a task does between two points where it waits is not done at once. It is
a row of single writes: the stage, the handle, the client, each part of the
resources and each lease are guarded on their own, and others may look, and
write, between any two of them. Only the task that holds the resources touches
those; but callers read the handle and the client at any time, the watcher
records a failure without holding anything, and everybody sees the stage.

A `Thread` is what a task still has to do until it waits again: a write, and
what comes after it, by what the task has seen when it wrote. `Thread.ofMove`
takes each move apart in this way. A `Weave` is a session with tasks in the
middle of their moves, in whatever order they come to write, and with others
that lease and free ports.

Where a task is, is its own affair. The watcher is stopped only where it waits,
so one that was told to stop in the middle of a move stops at its end
(`Session.settle`).

Key definitions: `Thread`, `Thread.ofMove`, `Weave`, `Weave.step`.
-/
import Mathlib.Logic.Function.Basic
import Sidecar.Session.Basic

namespace Sidecar

namespace Session

/-- What a task still has to do in a move. -/
inductive Thread where
  | done
  /-- A write; what comes next depends on what the session was when it was made. -/
  | act (write : Session → Session) (next : Session → Thread)

/-- A task goes to a point, unless it was told to stop. -/
def settle (s : Session) (task : Nat) (p : Point) : Session :=
  if s.tasks[task]? = some (.watched false) then s else s.goTo task p

/-- A task that waits for the resources takes them if they are free. -/
def hold (s : Session) (task : Nat) : Session :=
  match s.holder, s.tasks[task]? with
  | none, some .startWaiting | none, some .disposeWaiting | none, some .watchWaiting =>
    { s with holder := some task }
  | _, _ => s

/-- Takes the lease of an endpoint, if there is one to be had. -/
def lease (s : Session) (a : Answers) : Session :=
  match s.registry.allocate s.settings.transport a.freshPath a.freePort with
  | .error _ => s
  | .ok (_, registry) => { s with registry }

def free (s : Session) (e : Endpoint) : Session := { s with registry := s.registry.release e }

namespace Thread

/-- All that is left, in a row. -/
def run : Thread → Session → Session
  | done, s => s
  | act write next, s => (next s).run (write s)

/-- Looks, and writes nothing. -/
def look (next : Session → Thread) : Thread := act id next

def write (f : Session → Session) (next : Thread) : Thread := act f fun _ => next

/-- Lets the resources go, and with that the task is at its last point. -/
def finish (task : Nat) (p : Point) : Thread := write (fun s => (s.goTo task p).unlock) done

/-! ### Giving resources back -/

def fail (f : Failure) (next : Bool → Thread) : Thread :=
  act (·.moveTo .failed) fun s =>
    if s.stage.allows .failed then
      write (fun s => { s with sink := f.report s.sink }) <|
      write ({ · with failure := some f }) <| next true
    else next false

def releaseEndpoint (next : Thread) : Thread :=
  act (fun s => { s with resources := { s.resources with endpoint := none } }) fun s =>
    match s.resources.endpoint with
    | some e => write (·.free e) next
    | none => next

def releaseProcess (next : Option Releasing → Thread) : Thread :=
  act (fun s => { s with resources := { s.resources with process := none } }) fun s =>
    match s.resources.process with
    | some _ => next (some .terminating)
    | none => releaseEndpoint (next none)

/-- What callers see goes first, then the client. -/
def hide (next : Option Releasing → Thread) : Thread :=
  write ({ · with client := false }) <|
  write ({ · with handle := none }) <|
  act (fun s => { s with resources := { s.resources with client := false } }) fun s =>
    if s.resources.client then next (some .closing) else releaseProcess next

def release (abort : Bool) (next : Option Releasing → Thread) : Thread :=
  act (fun s => { s with resources := { s.resources with watcher := none } }) fun s =>
    match abort, s.resources.watcher with
    | true, some i => write (·.goTo i (.watched false)) (hide next)
    | _, _ => hide next

def releaseOn (next : Option Releasing → Thread) : Releasing → Thread
  | .closing => releaseProcess next
  | .terminating => releaseEndpoint (next none)

/-! ### Starting -/

def startReturns (task : Nat) (error : Option StartError) : Thread := finish task (.started error)

def advance (task : Nat) (next : Stage) (go : Thread) : Thread :=
  act (·.moveTo next) fun s =>
    if s.stage.allows next then go else startReturns task (some .cancelled)

/-- Goes on, unless the session was disposed of. -/
def unlessCancelled (task : Nat) (go : Thread) : Thread :=
  look fun s => if s.cancelled then startReturns task (some .cancelled) else go

def await (task : Nat) (p : Point) : Thread :=
  unlessCancelled task (write (·.goTo task p) done)

def failingOn (task : Nat) (f : Failure) : Option Releasing → Thread
  | some r => write (·.goTo task (.failing f r)) done
  | none => startReturns task (some (.failed f))

def startFails (task : Nat) (f : Failure) : Thread :=
  fail f fun _ => release true (failingOn task f)

def beginStart (task : Nat) : Thread :=
  look fun s =>
    if s.stage != .uninstalled then startReturns task (some (.notStartable s.stage))
    else
      advance task .installing <|
        await task (if s.settings.provision.autoInstall then .checking else .listing)

def spawn (task : Nat) (a : Answers) (e : Endpoint) : Thread :=
  write (fun s => { s with resources := { s.resources with endpoint := some e } }) <|
  look fun s =>
    match a.spawn (s.launchFor e) with
    | .error e => startFails task (Failure.ofSpawn e)
    | .ok pid =>
      write (fun s => { s with resources := { s.resources with process := some pid } }) <|
      advance task .awaitingBind <| await task .binding

def launch (task : Nat) (a : Answers) : Thread :=
  advance task .installed <| advance task .launching <|
  act (·.lease a) fun s =>
    match s.registry.allocate s.settings.transport a.freshPath a.freePort with
    | .error e => startFails task (Failure.ofAllocate e)
    | .ok (e, _) =>
      if a.isOccupied e then write (·.free e) (startFails task (Failure.ofOccupied e))
      else spawn task a e

/-- The slots are filled before the stage says so, and the watcher comes last. -/
def activate (task : Nat) : Thread :=
  look fun s =>
    match s.resources.process, s.resources.endpoint with
    | some pid, some e =>
      write ({ · with client := true }) <|
      write ({ · with events := true }) <|
      write ({ · with handle := some ⟨pid, e.kind, e.host?, e.port?⟩ }) <|
      write (fun s => { s with resources := { s.resources with client := true } }) <|
      advance task .active <|
      act (fun s => { s with tasks := s.tasks ++ [.watching] }) fun s =>
      let watcher := s.tasks.length
      write (fun s => { s with resources := { s.resources with watcher := some watcher } }) <|
      write (fun s => { s with sink := s.sink.add .info (runningText pid e) }) <|
      startReturns task none
    | _, _ => done

def bound (task : Nat) (ready : Bool) : Thread :=
  look fun s =>
    match s.resources.endpoint with
    | none => done
    | some e =>
      if !ready then
        startFails task (Failure.ofBindTimeout e s.settings.transport.bindTimeout)
      else
        advance task .connecting <|
        look fun s =>
          match e, s.exit with
          | .stdio, some exit => startFails task (earlyExit exit)
          | .stdio, none => activate task
          | _, _ => await task .connecting

def connected (task : Nat) : Except ConnectError Unit → Thread
  | .ok _ => activate task
  | .error e => startFails task (Failure.ofConnect e)

/-! ### Disposing and watching -/

def disposingOn (task : Nat) (last : Bool) : Option Releasing → Thread
  | some r => write (·.goTo task (.disposing last r)) done
  | none =>
    if last then
      write (·.moveTo .stopped) <|
      write (fun s => { s with sink := s.sink.add .info stoppedText }) <|
      finish task .disposed
    else finish task .disposed

def beginDispose (task : Nat) : Thread :=
  look fun s =>
    if s.stage.isTerminal then release true (disposingOn task false)
    else
      let active := s.stage == .active
      write (·.moveTo .stopping) <|
      look fun s =>
        if active && s.resources.client then write (·.goTo task .handshaking) done
        else release true (disposingOn task true)

def watchOn (task : Nat) : Option Releasing → Thread
  | some r => write (·.goTo task (.watchReleasing r)) done
  | none => finish task (.watched true)

def lose (task : Nat) (f : Failure) : Thread :=
  look fun s =>
    if s.cancelled then write (·.settle task (.watched false)) done
    else
      fail f fun changed =>
        write (·.settle task (if changed then .watchWaiting else .watched false)) done

/-! ### Moves -/

def grant (task : Nat) : Thread :=
  act (·.hold task) fun s =>
    match s.holder, s.tasks[task]? with
    | none, some .startWaiting => beginStart task
    | none, some .disposeWaiting => beginDispose task
    | none, some .watchWaiting => release false (watchOn task)
    | _, _ => done

/-- The writes of a move. What is not the move of a task is one write. -/
def ofMove (a : Answers) : Move → Thread
  | .grant task => grant task
  | .checked task found => look fun s =>
    match s.tasks[task]? with
    | some .checking => unlessCancelled task <|
        if found then await task .listing else write (·.goTo task .ensuring) done
    | _ => done
  | .ensured task ok => look fun s =>
    match s.tasks[task]? with
    | some .ensuring => unlessCancelled task <|
        if ok then await task .listing else startFails task s.provisioningFailure
    | _ => done
  | .listed task ok => look fun s =>
    match s.tasks[task]? with
    | some .listing => unlessCancelled task <|
        if ok then launch task a else startFails task s.provisioningFailure
    | _ => done
  | .bound task ready => look fun s =>
    match s.tasks[task]? with
    | some .binding => unlessCancelled task (bound task ready)
    | _ => done
  | .connected task result => look fun s =>
    match s.tasks[task]? with
    | some .connecting => unlessCancelled task (connected task result)
    | _ => done
  | .cancel task => look fun s =>
    if !s.cancelled then done
    else
      match s.tasks[task]? with
      | some .checking | some .ensuring | some .listing | some .binding | some .connecting =>
        startReturns task (some .cancelled)
      | _ => done
  | .shaken task => look fun s =>
    match s.tasks[task]? with
    | some .handshaking => release true (disposingOn task true)
    | _ => done
  | .released task => look fun s =>
    match s.tasks[task]? with
    | some (.failing f r) => releaseOn (failingOn task f) r
    | some (.disposing last r) => releaseOn (disposingOn task last) r
    | some (.watchReleasing r) => releaseOn (watchOn task) r
    | _ => done
  | .seeExit task => look fun s =>
    match s.tasks[task]?, s.exit with
    | some .watching, some e => lose task (Failure.ofExit e)
    | _, _ => done
  | .seeEnd task => look fun s =>
    match s.tasks[task]?, s.ended with
    | some .watching, some reason => write (·.settle task (.lingering reason)) done
    | _, _ => done
  | .linger task => look fun s =>
    match s.tasks[task]? with
    | some (.lingering reason) => lose task (Failure.ofChannelLoss reason s.exit)
    | _ => done
  | m => write (·.step a m) done

end Thread

end Session

/-! ### Tasks in the middle of their moves -/

/-- A session, and what others have leased. -/
structure Shared where
  session : Session := {}
  held : List Nat := []

/-- A session with tasks that may be in the middle of a move. -/
structure Weave extends Shared where
  /-- What each task still has to do. -/
  todo : Nat → Session.Thread := fun _ => .done

namespace Weave

/-- What can happen. -/
inductive Event where
  /-- A task begins a move, or something happens that is not the move of a task. -/
  | begins (m : Session.Move) (a : Answers)
  /-- A task makes its next write. -/
  | writes (task : Nat)
  /-- Others lease a port. -/
  | lease (port : Nat)
  /-- Others give a port back. -/
  | free (port : Nat)
  /-- Others write to the output channel. -/
  | tell (entries : List Entry)

/-- What an event does. A task makes one move at a time. -/
def step (w : Weave) : Event → Weave
  | .begins m a =>
    match m.task? with
    | none => { w with session := w.session.step a m }
    | some i =>
      match w.todo i with
      | .done => { w with todo := Function.update w.todo i (.ofMove a m) }
      | .act .. => w
  | .writes i =>
    match w.todo i with
    | .done => w
    | .act write next => { w with
        session := write w.session
        todo := Function.update w.todo i (next w.session) }
  | .lease port =>
    match w.session.registry.lease? port with
    | none => w
    | some registry => { w with session := { w.session with registry }, held := port :: w.held }
  | .free port =>
    if port ∈ w.held then { w with
      session := { w.session with registry := ⟨w.session.registry.ports.erase port⟩ }
      held := w.held.erase port }
    else w
  | .tell entries => { w with session := { w.session with
      sink := { w.session.sink with entries := w.session.sink.entries ++ entries } } }

/-- What some events do. -/
def run (w : Weave) (events : List Event) : Weave := events.foldl step w

end Weave

end Sidecar
