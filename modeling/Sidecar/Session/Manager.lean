/-
# The session manager

Sessions that share their leases and their output channel. A manager keeps at
most one of them as the current one: to start, it first disposes of the
current session and waits for that to end, so that its port is free again
before the next endpoint is allocated.

As with sessions, what happens between two points where control can change is
one move, and a move that does not fit does nothing.

Key definitions: `Manager`, `Manager.Move`, `Manager.step`.
-/
import Sidecar.Session.Basic

namespace Sidecar

namespace Manager

/-- What a manager is busy with. -/
inductive Phase where
  | idle
  /-- It waits for a session to be disposed of; `again` if a new one follows. -/
  | disposing (session task : Nat) (again : Bool)
  /-- It waits for a session to start. -/
  | starting (session task : Nat)
  deriving DecidableEq, Repr

end Manager

/-- Sessions that share a registry and an output channel. -/
structure Manager where
  settings : Settings := {}
  registry : Registry := {}
  sink : Sink := {}
  /-- All sessions there have been, oldest first. -/
  sessions : List Session := []
  /-- The session that callers see. -/
  current : Option Nat := none
  phase : Manager.Phase := .idle

namespace Manager

/-- Adds a fresh session. -/
def create (m : Manager) : Manager :=
  { m with sessions := m.sessions ++ [{ settings := m.settings }] }

/-- A move of one session, which sees the shared leases and the shared output channel. -/
def stepSession (m : Manager) (a : Answers) (k : Nat) (mv : Session.Move) : Manager :=
  match m.sessions[k]? with
  | none => m
  | some s =>
    let s := { s with registry := m.registry, sink := m.sink }.step a mv
    { m with
      registry := s.registry
      sink := s.sink
      sessions := m.sessions.set k s }

/-- The point at which a task of a session is. -/
def point? (m : Manager) (session task : Nat) : Option Session.Point :=
  (m.sessions[session]?).bind fun s => s.tasks[task]?

/-- Creates the next session, makes it the current one and starts it. -/
def beginStart (m : Manager) (a : Answers) : Manager :=
  let k := m.sessions.length
  { m.create.stepSession a k .start with current := some k, phase := .starting k 0 }

/-- Disposes of the current session, if there is one; `again` if a new one follows. -/
def beginShutdown (m : Manager) (a : Answers) (again : Bool) : Manager :=
  match m.current with
  | some k =>
    let task := ((m.sessions[k]?).map fun s => s.tasks.length).getD 0
    { m.stepSession a k .dispose with current := none, phase := .disposing k task again }
  | none => if again then m.beginStart a else m

/-- Goes on once what the manager waits for has happened. -/
def advance (m : Manager) (a : Answers) : Manager :=
  match m.phase with
  | .idle => m
  | .disposing k task again =>
    match m.point? k task with
    | some .disposed =>
      let m := { m with phase := .idle }
      if again then m.beginStart a else m
    | _ => m
  | .starting k task =>
    match m.point? k task with
    | some (.started _) => { m with phase := .idle }
    | _ => m

/-- What can happen. -/
inductive Move where
  /-- A call to start or to restart: the current session goes first. -/
  | start
  | shutdown
  | session (k : Nat) (m : Session.Move)

/-- What a move does. A manager takes one call at a time. -/
def step (m : Manager) (a : Answers) : Move → Manager
  | .start => if m.phase == .idle then m.beginShutdown a true else m
  | .shutdown => if m.phase == .idle then m.beginShutdown a false else m
  | .session k mv => (m.stepSession a k mv).advance a

/-- What a sequence of moves does. -/
def run (m : Manager) (moves : List (Move × Answers)) : Manager :=
  moves.foldl (fun m x => m.step x.2 x.1) m

/-- What becomes of a manager that nobody has any more: the current session goes with it. -/
def discard (m : Manager) : Manager :=
  match m.current with
  | none => m
  | some k =>
    match m.sessions[k]? with
    | none => m
    | some s =>
      let s := { s with registry := m.registry, sink := m.sink }.discard
      { m with
        registry := s.registry
        sessions := m.sessions.set k s
        current := none
        phase := .idle }

/-- The session that callers see. -/
def currentSession? (m : Manager) : Option Session := m.current.bind fun k => m.sessions[k]?

/-- The paths of the local sockets that the sessions have. -/
def socketPaths (m : Manager) : List String :=
  m.sessions.filterMap fun s => s.resources.endpoint.bind Endpoint.path?

/-- The local sockets that are left when one manager has become another: a session that gives its
endpoint back removes its socket. -/
def remaining (m m' : Manager) (sockets : List String) : List String :=
  sockets.filter fun path => !m.socketPaths.contains path || m'.socketPaths.contains path

/-- Whether a document belongs to the sessions of the manager. -/
def handles (m : Manager) (uri language : String) : Bool := m.settings.documents.serves uri language

end Manager

end Sidecar
