/-
# Sessions

A session takes one server from provisioning through launch and connection to
the live channel, watches it there, and gives everything back when it is
disposed of or fails. Any number of calls may start or dispose of it at the
same time; whoever works on the process, the endpoint and the channel holds
the session's resources for so long.

Calls and the watcher are tasks. A task runs until it has to wait for
something; what happens between two such points is one `Move`, with what the
task has waited for. What the system answers at that moment (free ports,
whether a port is taken, whether a program starts) is in `Answers`. A move
that does not fit the task's point does nothing, so that every sequence of
moves is a run.

Key definitions:
* `Session`, with its tasks and its resources;
* `Session.Move` and `Session.step`, what can happen and what it does;
* `Session.run`, what a sequence of moves does.
-/
import Sidecar.Failure.Causes

namespace Sidecar

/-- What a live session shows of its server. -/
structure Handle where
  pid : Nat
  transport : TransportKind
  /-- Of sockets only. -/
  host : Option Net.Address
  /-- Of sockets only. -/
  port : Option Nat
  deriving DecidableEq, Repr

/-- How a server is started. -/
structure Launch where
  program : String
  args : List String
  directory : String
  /-- Whether its input and output are the channel. -/
  piped : Bool
  deriving DecidableEq, Repr

/-- What the system answers at one moment. -/
structure Answers where
  /-- A path for a local socket that nobody has used. -/
  freshPath : String
  /-- The answer to each question for a free port. -/
  freePort : Nat → Except SystemError Nat
  isOccupied : Endpoint → Bool
  /-- Starts a server; the process id if it starts. -/
  spawn : Launch → Except SpawnError Nat

/-- Why a start did not succeed. -/
inductive StartError where
  | failed (f : Failure)
  | cancelled
  | notStartable (stage : Stage)
  deriving DecidableEq, Repr

def StartError.message : StartError → String
  | .failed f => f.display
  | .cancelled => "session start was cancelled"
  | .notStartable stage => s!"session cannot be started from state {stage.label}"

namespace Session

/-- What a session holds on to. -/
structure Resources where
  /-- The process id of the server. -/
  process : Option Nat := none
  endpoint : Option Endpoint := none
  /-- Whether there is a client on a channel. -/
  client : Bool := false
  /-- The watcher, as a task. -/
  watcher : Option Nat := none
  deriving DecidableEq, Repr

/-- What a task that gives the resources back waits for. -/
inductive Releasing where
  /-- The client's close. -/
  | closing
  /-- The end of the process. -/
  | terminating
  deriving DecidableEq, Repr

/-- Where a task waits, or how it has ended. -/
inductive Point where
  /-- A start waits for the resources. -/
  | startWaiting
  /-- A start that is to make sure of the environment waits for a package listing first. -/
  | checking
  /-- A start waits for the installer. -/
  | ensuring
  /-- A start waits for the package listing. -/
  | listing
  /-- A start waits until the server listens. -/
  | binding
  /-- A start waits for the connection. -/
  | connecting
  /-- A start that has failed gives the resources back. -/
  | failing (f : Failure) (r : Releasing)
  /-- A start has returned, with nothing if it has succeeded. -/
  | started (error : Option StartError)
  /-- A dispose waits for the resources. -/
  | disposeWaiting
  /-- A dispose waits for the server to agree. -/
  | handshaking
  /-- A dispose gives the resources back; `last` if the session ends with it. -/
  | disposing (last : Bool) (r : Releasing)
  /-- A dispose has returned. -/
  | disposed
  /-- The watcher waits for an exit or for the end of the channel. -/
  | watching
  /-- The watcher has seen the channel end and waits whether the server exits too. -/
  | lingering (reason : ChannelEnd)
  /-- The watcher has recorded a failure and waits for the resources. -/
  | watchWaiting
  /-- The watcher gives the resources back. -/
  | watchReleasing (r : Releasing)
  /-- The watcher has ended; `handled` if it had recorded a failure and has given all back. -/
  | watched (handled : Bool)
  deriving DecidableEq

end Session

/-- A session with its tasks. -/
structure Session where
  settings : Settings := {}
  stage : Stage := .uninstalled
  /-- The stages it has been in, the present one last. -/
  history : List Stage := [.uninstalled]
  failure : Option Failure := none
  /-- Whether it was disposed of, which every start notices. -/
  cancelled : Bool := false
  handle : Option Handle := none
  /-- Whether there is a client for callers. -/
  client : Bool := false
  /-- Whether there are events that nobody has taken. -/
  events : Bool := false
  resources : Session.Resources := {}
  /-- The task that holds the resources. -/
  holder : Option Nat := none
  tasks : List Session.Point := []
  /-- The exit of the server, once it is known. -/
  exit : Option Exit := none
  /-- Why the channel ended, once it has. -/
  ended : Option ChannelEnd := none
  /-- The leases it shares with other sessions. -/
  registry : Registry := {}
  /-- The output channel it shares with other sessions. -/
  sink : Sink := {}

namespace Session

/-! ### Small steps -/

def goTo (s : Session) (task : Nat) (p : Point) : Session :=
  { s with tasks := s.tasks.set task p }

def unlock (s : Session) : Session := { s with holder := none }

/-- Moves to a stage if the move is allowed. -/
def moveTo (s : Session) (next : Stage) : Session :=
  if s.stage.allows next then { s with stage := next, history := s.history ++ [next] } else s

/-- Records a failure unless the session has ended already. -/
def fail (s : Session) (f : Failure) : Session :=
  if s.stage.allows .failed then
    { s.moveTo .failed with failure := some f, sink := f.report s.sink }
  else s

/-- Gives the endpoint and its lease back. -/
def releaseEndpoint (s : Session) : Session :=
  match s.resources.endpoint with
  | some e =>
    { s with
      registry := s.registry.release e
      resources := { s.resources with endpoint := none } }
  | none => s

/-- The watcher stops where it waits. -/
def abortWatcher (s : Session) : Session :=
  match s.resources.watcher with
  | some i => s.goTo i (.watched false)
  | none => s

/-- What is left to do once the channel is closed: the process, then the endpoint. Nothing is
waited for if there is no process. -/
def releaseProcess (s : Session) : Session × Option Releasing :=
  match s.resources.process with
  | some _ => ({ s with resources := { s.resources with process := none } }, some .terminating)
  | none => (s.releaseEndpoint, none)

/-- Begins to give the resources back; what has to be waited for first, if anything. -/
def release (s : Session) (abort : Bool) : Session × Option Releasing :=
  let s := if abort then s.abortWatcher else s
  let s := { s with
    resources := { s.resources with watcher := none }, client := false, handle := none }
  if s.resources.client then
    ({ s with resources := { s.resources with client := false } }, some .closing)
  else s.releaseProcess

/-- Goes on giving the resources back after a wait is over. -/
def releaseOn (s : Session) : Releasing → Session × Option Releasing
  | .closing => s.releaseProcess
  | .terminating => (s.releaseEndpoint, none)

/-! ### Starting -/

/-- A start returns and lets the resources go. -/
def startReturns (s : Session) (task : Nat) (error : Option StartError) : Session :=
  (s.goTo task (.started error)).unlock

/-- A start moves on to a stage. It is refused only if the session was disposed of. -/
def advance (s : Session) (task : Nat) (next : Stage) (go : Session → Session) : Session :=
  if s.stage.allows next then go (s.moveTo next) else s.startReturns task (some .cancelled)

/-- A start sets something going and waits for it, unless the session was disposed of: then it does
not even begin. -/
def await (s : Session) (task : Nat) (p : Point) : Session :=
  if s.cancelled then s.startReturns task (some .cancelled) else s.goTo task p

/-- A failed start goes on giving the resources back, or returns. -/
def failingOn (task : Nat) (f : Failure) : Session × Option Releasing → Session
  | (s, some r) => s.goTo task (.failing f r)
  | (s, none) => s.startReturns task (some (.failed f))

/-- A start fails. -/
def startFails (s : Session) (task : Nat) (f : Failure) : Session :=
  failingOn task f ((s.fail f).release true)

/-- A start has the resources. -/
def beginStart (s : Session) (task : Nat) : Session :=
  if s.stage != .uninstalled then s.startReturns task (some (.notStartable s.stage))
  else
    s.advance task .installing fun s =>
      s.await task (if s.settings.provision.autoInstall then .checking else .listing)

def provisioningFailure (s : Session) : Failure :=
  Failure.ofProvisioning s.settings.server.envPath s.settings.provision.autoInstall

/-- How the server is started for an endpoint. -/
def launchFor (s : Session) (e : Endpoint) : Launch :=
  let sv := s.settings.server
  { program := sv.runtimeOverride.getD (envRuntime sv.envPath)
    args := sv.entrypointPath :: e.launchArgs
    directory := sv.workingPath
    piped := e.kind == .stdio }

/-- The server is started for an endpoint that is free. -/
def spawn (s : Session) (task : Nat) (a : Answers) (e : Endpoint) : Session :=
  let s := { s with resources := { s.resources with endpoint := some e } }
  match a.spawn (s.launchFor e) with
  | .error e => s.startFails task (Failure.ofSpawn e)
  | .ok pid =>
    { s with resources := { s.resources with process := some pid } }.advance task .awaitingBind
      fun s => s.await task .binding

/-- The environment is there: an endpoint is allocated and the server started. -/
def launch (s : Session) (task : Nat) (a : Answers) : Session :=
  s.advance task .installed fun s => s.advance task .launching fun s =>
    match s.registry.allocate s.settings.transport a.freshPath a.freePort with
    | .error e => s.startFails task (Failure.ofAllocate e)
    | .ok (e, registry) =>
      if a.isOccupied e then
        { s with registry := registry.release e }.startFails task (Failure.ofOccupied e)
      else { s with registry }.spawn task a e

/-- What is said when the server is up. -/
def runningText (pid : Nat) (e : Endpoint) : String :=
  s!"YARA language server is running (pid {pid}, {e.render})"

/-- There is a channel: the session is live and watched. -/
def activate (s : Session) (task : Nat) : Session :=
  match s.resources.process, s.resources.endpoint with
  | some pid, some e =>
    let handle : Handle := ⟨pid, e.kind, e.host?, e.port?⟩
    let s := { s with
      client := true
      events := true
      handle := some handle
      resources := { s.resources with client := true } }
    s.advance task .active fun s =>
      { s with
        resources := { s.resources with watcher := some s.tasks.length }
        tasks := s.tasks ++ [Point.watching]
        sink := s.sink.add .info (runningText pid e) }.startReturns task none
  | _, _ => s

/-- The server exited before there was a channel. -/
def earlyExit (e : Exit) : Failure :=
  ⟨.connectionRefused, .connecting,
    s!"server exited with {e.render} before the channel was established"⟩

/-- The wait for the server is over. -/
def bound (s : Session) (task : Nat) (ready : Bool) : Session :=
  match s.resources.endpoint with
  | none => s
  | some e =>
    if !ready then
      s.startFails task (Failure.ofBindTimeout e s.settings.transport.bindTimeout)
    else
      s.advance task .connecting fun s =>
        match e, s.exit with
        | .stdio, some exit => s.startFails task (earlyExit exit)
        | .stdio, none => s.activate task
        | _, _ => s.await task .connecting

/-! ### Disposing -/

/-- What is said when a session has stopped. -/
def stoppedText : String := "YARA language server stopped"

/-- A dispose goes on giving the resources back, or returns. -/
def disposingOn (task : Nat) (last : Bool) : Session × Option Releasing → Session
  | (s, some r) => s.goTo task (.disposing last r)
  | (s, none) =>
    let s := if last then
        let s := s.moveTo .stopped
        { s with sink := s.sink.add .info stoppedText }
      else s
    (s.goTo task .disposed).unlock

/-- A dispose has the resources. -/
def beginDispose (s : Session) (task : Nat) : Session :=
  if s.stage.isTerminal then disposingOn task false (s.release true)
  else
    let live := s.stage == .active && s.resources.client
    let s := s.moveTo .stopping
    if live then s.goTo task .handshaking else disposingOn task true (s.release true)

/-! ### Watching -/

/-- The watcher goes on giving the resources back, or ends. -/
def watchOn (task : Nat) : Session × Option Releasing → Session
  | (s, some r) => s.goTo task (.watchReleasing r)
  | (s, none) => (s.goTo task (.watched true)).unlock

/-- A live session is lost. One that is being disposed of is left alone. -/
def lose (s : Session) (task : Nat) (f : Failure) : Session :=
  if s.cancelled then s.goTo task (.watched false)
  else if s.stage.allows .failed then (s.fail f).goTo task .watchWaiting
  else s.goTo task (.watched false)

/-! ### Letting go -/

/-- What becomes of a session that nobody has any more. Its server is killed, its lease is free and
its watcher ends; but nothing is said, the stage stays, and so does a local socket. -/
def discard (s : Session) : Session :=
  { s.abortWatcher.releaseEndpoint with
    cancelled := true
    handle := none
    client := false
    events := false
    resources := {}
    holder := none }

/-! ### Moves -/

/-- What can happen. -/
inductive Move where
  /-- Someone starts the session. -/
  | start
  /-- Someone disposes of the session. -/
  | dispose
  /-- A task that waits for the resources gets them. -/
  | grant (task : Nat)
  /-- The listing that comes before the installer is done. -/
  | checked (task : Nat) (found : Bool)
  /-- The installer is done. -/
  | ensured (task : Nat) (ok : Bool)
  /-- The package listing is done. -/
  | listed (task : Nat) (ok : Bool)
  /-- The wait for the server is over; it also is when the server exits. -/
  | bound (task : Nat) (ready : Bool)
  /-- The attempt to connect is over. -/
  | connected (task : Nat) (result : Except ConnectError Unit)
  /-- A start notices that the session was disposed of. -/
  | cancel (task : Nat)
  /-- The server has agreed to end, or has not in time. -/
  | shaken (task : Nat)
  /-- A task that gives resources back goes on. -/
  | released (task : Nat)
  /-- The server exits. -/
  | exits (e : Exit)
  /-- The channel ends. -/
  | ends (reason : ChannelEnd)
  /-- The watcher sees the exit. -/
  | seeExit (task : Nat)
  /-- The watcher sees the end of the channel. -/
  | seeEnd (task : Nat)
  /-- The watcher has waited long enough, or has seen the exit. -/
  | linger (task : Nat)
  /-- Someone takes the events. -/
  | takeEvents

/-- The task that a move is about. -/
def Move.task? : Move → Option Nat
  | grant i => some i
  | checked i _ => some i
  | ensured i _ => some i
  | listed i _ => some i
  | bound i _ => some i
  | connected i _ => some i
  | cancel i => some i
  | shaken i => some i
  | released i => some i
  | seeExit i => some i
  | seeEnd i => some i
  | linger i => some i
  | _ => none

/-- A task gets the resources. -/
def grant (s : Session) (task : Nat) : Session :=
  if s.holder.isSome then s
  else
    let held := { s with holder := some task }
    match s.tasks[task]? with
    | some .startWaiting => held.beginStart task
    | some .disposeWaiting => held.beginDispose task
    | some .watchWaiting => watchOn task (held.release false)
    | _ => s

/-- A start goes on with what it has waited for, unless the session was disposed of. -/
def resume (s : Session) (task : Nat) (go : Session → Session) : Session :=
  if s.cancelled then s.startReturns task (some .cancelled) else go s

/-- What a move does. -/
def step (s : Session) (a : Answers) : Move → Session
  | .start => { s with tasks := s.tasks ++ [.startWaiting] }
  | .dispose => { s with cancelled := true, tasks := s.tasks ++ [.disposeWaiting] }
  | .grant task => s.grant task
  | .checked task found =>
    match s.tasks[task]? with
    | some .checking => s.resume task fun s =>
        if found then s.await task .listing else s.goTo task .ensuring
    | _ => s
  | .ensured task ok =>
    match s.tasks[task]? with
    | some .ensuring => s.resume task fun s =>
        if ok then s.await task .listing else s.startFails task s.provisioningFailure
    | _ => s
  | .listed task ok =>
    match s.tasks[task]? with
    | some .listing => s.resume task fun s =>
        if ok then s.launch task a else s.startFails task s.provisioningFailure
    | _ => s
  | .bound task ready =>
    match s.tasks[task]? with
    | some .binding => s.resume task fun s => s.bound task ready
    | _ => s
  | .connected task result =>
    match s.tasks[task]? with
    | some .connecting => s.resume task fun s =>
        match result with
        | .ok _ => s.activate task
        | .error e => s.startFails task (Failure.ofConnect e)
    | _ => s
  | .cancel task =>
    if !s.cancelled then s
    else
      match s.tasks[task]? with
      | some .checking => s.startReturns task (some .cancelled)
      | some .ensuring => s.startReturns task (some .cancelled)
      | some .listing => s.startReturns task (some .cancelled)
      | some .binding => s.startReturns task (some .cancelled)
      | some .connecting => s.startReturns task (some .cancelled)
      | _ => s
  | .shaken task =>
    match s.tasks[task]? with
    | some .handshaking => disposingOn task true (s.release true)
    | _ => s
  | .released task =>
    match s.tasks[task]? with
    | some (.failing f r) => failingOn task f (s.releaseOn r)
    | some (.disposing last r) => disposingOn task last (s.releaseOn r)
    | some (.watchReleasing r) => watchOn task (s.releaseOn r)
    | _ => s
  | .exits e =>
    if s.exit.isNone && s.resources.process.isSome then { s with exit := some e } else s
  | .ends reason =>
    if s.ended.isNone && s.resources.client then { s with ended := some reason } else s
  | .seeExit task =>
    match s.tasks[task]?, s.exit with
    | some .watching, some e => s.lose task (Failure.ofExit e)
    | _, _ => s
  | .seeEnd task =>
    match s.tasks[task]?, s.ended with
    | some .watching, some reason => s.goTo task (.lingering reason)
    | _, _ => s
  | .linger task =>
    match s.tasks[task]? with
    | some (.lingering reason) => s.lose task (Failure.ofChannelLoss reason s.exit)
    | _ => s
  | .takeEvents => { s with events := false }

/-- What a sequence of moves does. -/
def run (s : Session) (moves : List (Move × Answers)) : Session :=
  moves.foldl (fun s m => s.step m.2 m.1) s

/-- How the session shows itself. -/
def render (s : Session) : String :=
  let handle := s.handle.elim "None" fun h =>
    "Some(SessionHandle \x7b pid: Some(" ++ toString h.pid ++ "), transport: " ++
      h.transport.typeName ++ ", host: " ++ (h.host.elim "None" fun a => "Some(" ++ a.render ++ ")") ++
      ", port: " ++ (h.port.elim "None" fun p => "Some(" ++ toString p ++ ")") ++ " \x7d)"
  "Session \x7b state: " ++ s.stage.typeName ++ ", handle: " ++ handle ++ ", .. \x7d"

end Session

end Sidecar
