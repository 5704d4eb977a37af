/-
# Rehearsals

Sessions on a modelled host, with servers that are running programs and
channels that are conversations, on a clock that counts nanoseconds and only
moves when nothing else can happen. Whatever a session does here is a move of
its manager; a rehearsal only decides which move comes next and when.

Key definitions: `Rehearsal`, `Rehearsal.perform`, `Rehearsal.runUntil`.
-/
import Sidecar.Client.Conversation
import Sidecar.Host.Child
import Sidecar.Provision.OnHost
import Sidecar.Session.Manager
import Sidecar.Transport.Readiness

namespace Sidecar

namespace Rehearsal

/-- What a session works with. -/
structure Actor where
  server : Option Child := none
  talk : Option Conversation := none

/-- What is to happen at a time. -/
inductive Alarm where
  /-- A task goes on. -/
  | move (session : Nat) (m : Session.Move) (htask : m.task?.isSome := by rfl)
  /-- An attempt to connect while a start waits for its server. -/
  | attempt (session task : Nat) (p : Poll)
  /-- The time of a call that ends the server is over. -/
  | expire (session call : Nat)

end Rehearsal

/-- Sessions on a host. -/
structure Rehearsal where
  host : Host := {}
  manager : Manager := {}
  actors : List Rehearsal.Actor := []
  now : Nat := 0
  alarms : List (Nat × Rehearsal.Alarm) := []
  /-- Numbers that were given out: process ids, ports and paths. -/
  given : Nat := 0

namespace Rehearsal

/-- The path of a local socket, by number. -/
def socketPath (n : Nat) : String := s!"/tmp/.ipc-{n}"

/-- The first port that the system gives. -/
def firstPort : Nat := 40000

/-- The first process id that the system gives. -/
def firstPid : Nat := 1000

/-- What the system answers now. -/
def answers (r : Rehearsal) : Answers where
  freshPath := socketPath r.given
  freePort n := .ok (firstPort + r.given + n)
  isOccupied := r.host.isOccupied
  spawn l :=
    match r.host.launch l.program l.args l.directory with
    | .ok _ => .ok (firstPid + r.given)
    | .error e => .error (.ofSystem l.program e)

def session? (r : Rehearsal) (k : Nat) : Option Session := r.manager.sessions[k]?

def actor (r : Rehearsal) (k : Nat) : Actor := (r.actors[k]?).getD {}

def setActor (r : Rehearsal) (k : Nat) (a : Actor) : Rehearsal :=
  { r with actors := r.actors.set k a }

def millis (r : Rehearsal) : Nat := r.now / Child.nanosPerMilli

def addEntries (r : Rehearsal) (es : List Entry) : Rehearsal :=
  { r with manager := { r.manager with
      sink := { r.manager.sink with entries := r.manager.sink.entries ++ es } } }

/-- Sets an alarm for a time from now on. -/
def alarm (r : Rehearsal) (delay : Nat) (a : Alarm) : Rehearsal :=
  { r with alarms := r.alarms ++ [(r.now + delay, a)] }

/-! ### Servers and channels -/

/-- The server of a session is started. -/
def startServer (r : Rehearsal) (k : Nat) (s : Session) (pid : Nat) : Rehearsal :=
  match s.resources.endpoint with
  | none => r
  | some e =>
    let l := s.launchFor e
    match r.host.launch l.program l.args l.directory with
    | .ok (conduct, place) =>
      r.setActor k { r.actor k with
        server := some (Child.ofConduct conduct pid place l.piped r.now) }
    | .error _ => r

/-- The channel of a session is opened. -/
def openChannel (r : Rehearsal) (k : Nat) (s : Session) : Rehearsal :=
  let client : Client :=
    { language := s.settings.documents.language
      requestTimeout := s.settings.lifecycle.requestTimeout }
  r.setActor k { r.actor k with talk := some { client, now := r.millis } }

/-- The stand-in does something about a frame, unless it has ended. -/
def attend (acc : Child × Conversation) (frame : Json) : Child × Conversation :=
  let (c, v) := acc
  if !c.isRunning then (c, v)
  else
    match c.standIn.react frame with
    | (standIn, .silence) => ({ c with standIn }, v)
    | (standIn, .answer a) => ({ c with standIn }, (v.hear (Frame.encode a)).2)
    | (_, .leave) => ((c.finish (Exit.ofCode 0)).1, v)

/-- The stand-in reads what has reached it and answers. -/
def serve (c : Child) (v : Conversation) : Child × Conversation :=
  if c.serving && c.isActive && v.peer == .connected then
    v.received.foldl attend (c, { v with received := [] })
  else (c, v)

/-- What the server has done reaches the channel, and what the client has done the server. -/
def relay (c : Child) (v : Conversation) : Child × Conversation :=
  let v := if c.written.isEmpty then v else (v.hear c.written).2
  let c := { c with written := [] }
  let v := if c.outputClosed && c.isRunning && v.peer == .connected then v.finish else v
  let (c, v) := serve c v
  let v := if !c.isRunning && v.peer != .gone then v.hangUp else v
  (if v.sawEnd && c.piped then c.closeInput else c, v.settle)

/-- The server of one session goes on, and so does its channel. -/
def exchange (r : Rehearsal) (k : Nat) : Rehearsal :=
  let a := r.actor k
  match a.server with
  | none => r
  | some c =>
    let (host, c, es) := c.settle r.host r.now
    let r := { r with host }.addEntries es
    match a.talk with
    | none => r.setActor k { a with server := some c }
    | some v =>
      let (c, v) := relay c v
      let es := v.client.sink.entries
      let v := { v with client := { v.client with sink := {} } }
      (r.addEntries es).setActor k { server := some c, talk := some v }

/-- Often enough for a question, its answer, and what follows from it. -/
def exchangeRounds : Nat := 4

/-- All servers and channels go on. -/
def exchangeAll (r : Rehearsal) : Rehearsal :=
  (List.range exchangeRounds).foldl (fun r _ =>
    (List.range r.actors.length).foldl exchange r) r

/-! ### What a task waits for -/

/-- How long an installer takes. -/
def installTime : Nat := 10 * Child.nanosPerMilli

/-- How long a package listing takes. -/
def listTime : Nat := 5 * Child.nanosPerMilli

/-- The name under which a session asks its server to shut down. -/
def shutdownTag : String := "shutdown"

/-- The client of a session is closed. -/
def closeClient (r : Rehearsal) (k : Nat) : Rehearsal :=
  let a := r.actor k
  r.setActor k { a with talk := a.talk.map Conversation.leave }

/-- The server of a session is told to end. -/
def beginTerminate (r : Rehearsal) (k : Nat) (s : Session) : Rehearsal :=
  let a := r.actor k
  match a.server with
  | none => r
  | some c =>
    let call := c.process.calls.length
    let grace := s.settings.lifecycle.terminateGrace
    let r := r.setActor k { a with
      server := some { c with process := c.process.run (Supervised.opening call grace) } }
    (r.alarm grace.nanos (.expire k call)).alarm (grace.nanos + Supervised.killWait.nanos)
      (.expire k call)

/-- A task gives the resources back. -/
def enterRelease (r : Rehearsal) (k task : Nat) (s : Session) : Session.Releasing → Rehearsal
  | .closing => (r.closeClient k).alarm Child.nanosPerMilli (.move k (.released task))
  | .terminating => r.beginTerminate k s

/-- A task begins to wait. What it waits for is set going. -/
def enter (r : Rehearsal) (k task : Nat) (s : Session) (p : Session.Point) : Rehearsal :=
  match p with
  | .checking =>
    let (found, host) := Provision.isInstalled Host.shell s.settings.provision
      s.settings.server.envPath r.host
    { r with host }.alarm listTime (.move k (.checked task found))
  | .ensuring =>
    let (ok, host, sink) := Provision.install Host.shell s.settings.provision
      s.settings.server.root s.settings.server.envPath r.host r.manager.sink
    { r with host, manager := { r.manager with sink } }.alarm installTime
      (.move k (.ensured task ok))
  | .listing =>
    let (ok, host) := Provision.isInstalled Host.shell s.settings.provision
      s.settings.server.envPath r.host
    { r with host }.alarm listTime (.move k (.listed task ok))
  | .binding =>
    match s.resources.endpoint with
    | some .stdio => r.alarm 0 (.move k (.bound task true))
    | _ =>
      let t := s.settings.transport
      r.alarm 0 (.attempt k task (Poll.ofSettings t t.bindTimeout r.now))
  | .connecting =>
    match s.resources.endpoint with
    | some e => r.alarm 0 (.move k (.connected task (r.host.connect e)))
    | none => r
  | .failing _ x => r.enterRelease k task s x
  | .disposing _ x => r.enterRelease k task s x
  | .watchReleasing x => r.enterRelease k task s x
  | .handshaking =>
    let a := r.actor k
    let r := r.setActor k { a with
      talk := a.talk.map fun v => v.pose shutdownTag "shutdown" none .exit }
    r.alarm s.settings.lifecycle.terminateGrace.nanos (.move k (.shaken task))
  | .lingering _ => r.alarm s.settings.transport.pollInterval.nanos (.move k (.linger task))
  | _ => r

/-- A session that has got a process or a client gets a server or a channel. -/
def equip (r : Rehearsal) (k : Nat) (old new : Session) : Rehearsal :=
  let r := match old.resources.process, new.resources.process with
    | none, some pid => r.startServer k new pid
    | _, _ => r
  if new.resources.client && !old.resources.client then r.openChannel k new else r

/-- What a move of a session sets going. -/
def follow (r : Rehearsal) (k : Nat) (old new : Session) (task : Option Nat) : Rehearsal :=
  let r := r.equip k old new
  match task with
  | none => r
  | some i =>
    match new.tasks[i]? with
    | some p => if old.tasks[i]? == some p then r else r.enter k i new p
    | none => r

/-- A move of the manager. -/
def move (r : Rehearsal) (mv : Manager.Move) : Rehearsal :=
  let manager := r.manager.step r.answers mv
  let fresh : List Actor := List.replicate (manager.sessions.length - r.actors.length) {}
  { r with
    host := { r.host with sockets := r.manager.remaining manager r.host.sockets }
    manager
    actors := r.actors ++ fresh
    given := r.given + 1 }

/-- A move, and all that it sets going. -/
def perform (r : Rehearsal) (mv : Manager.Move) : Rehearsal :=
  let after := r.move mv
  match mv with
  | .session k m =>
    match r.session? k, after.session? k with
    | some old, some new => after.follow k old new m.task?
    | _, _ => after
  | _ => after

/-! ### What comes next -/

/-- Whether the call with a name has an outcome. -/
def errandDone (a : Actor) (tag : String) : Bool :=
  (a.talk.bind fun v => (v.errand? tag).bind (·.result)).isSome

/-- Whether the last call that ends the server has returned. -/
def terminated (a : Actor) : Bool :=
  match a.server with
  | none => true
  | some c =>
    match c.process.calls.getLast? with
    | some (Supervised.Ending.returned _) => true
    | some _ => c.process.known.isSome
    | none => true

def releasable (a : Actor) (task : Nat) : Session.Releasing → Option Session.Move
  | .closing => none
  | .terminating => if terminated a then some (.released task) else none

/-- The move of a task that needs no time, if there is one. -/
def ready? (s : Session) (a : Actor) (task : Nat) (p : Session.Point) : Option Session.Move :=
  let granted : Option Session.Move := if s.holder.isNone then some (.grant task) else none
  let cancelled : Option Session.Move := if s.cancelled then some (.cancel task) else none
  match p with
  | .startWaiting => granted
  | .disposeWaiting => granted
  | .watchWaiting => granted
  | .checking => cancelled
  | .ensuring => cancelled
  | .listing => cancelled
  | .binding => cancelled <|> (s.exit.map fun _ => .bound task true)
  | .connecting => cancelled
  | .failing _ x => releasable a task x
  | .disposing _ x => releasable a task x
  | .watchReleasing x => releasable a task x
  | .handshaking => if errandDone a shutdownTag then some (.shaken task) else none
  | .watching => (s.exit.map fun _ => .seeExit task) <|> (s.ended.map fun _ => .seeEnd task)
  | .lingering _ => s.exit.map fun _ => .linger task
  | _ => none

/-- What a session has not noticed of its server and its channel. -/
def unnoticed? (s : Session) (a : Actor) : Option Session.Move :=
  let exit := a.server.bind (·.exit?)
  let ended := a.talk.bind fun v => v.client.closed
  match exit, ended with
  | some e, _ =>
    if s.exit.isNone && s.resources.process.isSome then some (.exits e)
    else none
  | none, some reason =>
    if s.ended.isNone && s.resources.client then some (.ends reason) else none
  | none, none => none

/-- A move that needs no time, if there is one. -/
def next? (r : Rehearsal) : Option Manager.Move :=
  (List.range r.manager.sessions.length).findSome? fun k =>
    match r.session? k with
    | none => none
    | some s =>
      let a := r.actor k
      ((unnoticed? s a) <|>
        (List.range s.tasks.length).findSome? fun i =>
          (s.tasks[i]?).bind (ready? s a i)).map (.session k)

/-- What an alarm does. -/
def ring (r : Rehearsal) : Alarm → Rehearsal
  | .move k m _ => r.perform (.session k m)
  | .attempt k task p =>
    match (r.session? k).bind fun s => s.resources.endpoint with
    | none => r
    | some e =>
      match p.attempt (fun _ _ => ((r.host.connect e).toOption.isSome, 0)) r.now with
      | .ready _ => r.perform (.session k (.bound task true))
      | .late _ => r.perform (.session k (.bound task false))
      | .again time => { r with alarms := r.alarms ++ [(time, .attempt k task p)] }
  | .expire k call =>
    let a := r.actor k
    match a.server with
    | none => r
    | some c =>
      r.setActor k { a with
        server := some { c with process := c.process.run (Supervised.lapse call) } }

/-- The first alarm that is due, and what is left without it. -/
def due? (r : Rehearsal) : Option (Alarm × Rehearsal) :=
  match r.alarms.partition fun a => a.1 ≤ r.now with
  | (first :: more, later) => some (first.2, { r with alarms := more ++ later })
  | ([], _) => none

/-- The times at which something can happen by itself. -/
def times (r : Rehearsal) : List Nat :=
  r.alarms.map (·.1) ++ r.actors.flatMap fun a =>
    (a.server.bind Child.nextDue?).toList ++
      ((a.talk.map fun v => (v.errands.filter fun e => e.result.isNone).map fun e =>
        e.deadline * Child.nanosPerMilli).getD [])

/-- The next of these times. -/
def nextTime? (r : Rehearsal) : Option Nat := (r.times.filter fun t => r.now < t).min?

/-- Time passes. -/
def moveClock (r : Rehearsal) (time : Nat) : Rehearsal :=
  let r := { r with now := max r.now time }
  { r with actors := r.actors.map fun a =>
      { a with talk := a.talk.map fun v => (v.pass (r.millis - v.now)).settle } }

/-- Lets everything happen until a condition holds or a time is reached. -/
def runUntil (done : Rehearsal → Bool) (deadline : Nat) : Nat → Rehearsal → Rehearsal
  | 0, r => r
  | fuel + 1, r =>
    let r := r.exchangeAll
    if done r then r
    else
      match r.next? with
      | some mv => runUntil done deadline fuel (r.perform mv)
      | none =>
        match r.due? with
        | some (a, r) => runUntil done deadline fuel (r.ring a)
        | none =>
          match r.nextTime?.filter fun t => t ≤ deadline with
          | some t => runUntil done deadline fuel (r.moveClock t)
          | none => r.moveClock deadline

end Rehearsal

end Sidecar
