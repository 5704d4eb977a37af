/-
# Scripts for rehearsals

What someone who uses sessions can do with them: start them and wait, or go
on while they start, dispose of them, talk to their servers, and look at what
became of it. Everything that can happen by itself happens only while someone
waits.

Key definitions: `Rehearsal.start`, `Rehearsal.dispose`, `Rehearsal.request`.
-/
import Sidecar.Rehearsal.Basic

namespace Sidecar.Rehearsal

/-- Some sessions on a host, none of them current. -/
def ofHost (h : Host) (settings : Settings) (sessions : Nat) : Rehearsal :=
  let manager := (List.range sessions).foldl (fun m _ => m.create) { settings : Manager }
  { host := h, manager, actors := List.replicate sessions {} }

/-- More turns than any wait takes. -/
def turns : Nat := 10000000

/-- Waits for a condition, for so long. -/
def waitFor (r : Rehearsal) (done : Rehearsal → Bool) (d : Duration) : Rehearsal :=
  runUntil done (r.now + d.nanos) turns r

/-- Longer than anyone waits for a call. -/
def patience : Duration := Duration.ofSeconds 3600

/-! ### Starting and disposing -/

/-- The number of the next task of a session. -/
def nextTask (r : Rehearsal) (k : Nat) : Nat := ((r.session? k).map fun s => s.tasks.length).getD 0

/-- Starts a session without waiting. -/
def startLater (r : Rehearsal) (k : Nat) : Nat × Rehearsal :=
  (r.nextTask k, r.perform (.session k .start))

/-- How a start ended. -/
def started? (r : Rehearsal) (k task : Nat) : Option (Option StartError) :=
  match r.manager.point? k task with
  | some (.started e) => some e
  | _ => none

/-- Waits for a start. -/
def join (r : Rehearsal) (k task : Nat) : Option StartError × Rehearsal :=
  let r := r.waitFor (fun r => (r.started? k task).isSome) patience
  ((r.started? k task).getD (some .cancelled), r)

/-- Starts a session and waits. -/
def start (r : Rehearsal) (k : Nat) : Option StartError × Rehearsal :=
  let (task, r) := r.startLater k
  r.join k task

/-- Disposes of a session and waits. -/
def dispose (r : Rehearsal) (k : Nat) : Rehearsal :=
  let task := r.nextTask k
  (r.perform (.session k .dispose)).waitFor
    (fun r => r.manager.point? k task == some .disposed) patience

/-! ### The manager -/

def isIdle (r : Rehearsal) : Bool := r.manager.phase == .idle

/-- Starts or restarts the current session and waits. -/
def restart (r : Rehearsal) : Option StartError × Rehearsal :=
  let r := (r.perform .start).waitFor isIdle patience
  ((r.manager.current.bind fun k => r.started? k 0).getD (some .cancelled), r)

/-- Disposes of the current session and waits. -/
def shutdown (r : Rehearsal) : Rehearsal := (r.perform .shutdown).waitFor isIdle patience

/-- Lets the manager go: the server of the current session is killed, and its channel ends. -/
def discard (r : Rehearsal) : Rehearsal :=
  let after := { r with manager := r.manager.discard }
  match r.manager.current with
  | none => after
  | some k =>
    let a := r.actor k
    after.setActor k {
      server := a.server.map fun c => { c with process := c.process.run [.drop] }
      talk := a.talk.map Conversation.leave }

/-! ### The server and the channel -/

/-- A signal for the server of a session, if the session has one to show; true if there is such
a signal. -/
def signal? (r : Rehearsal) (k : Nat) (n : Int) : Option (Bool × Rehearsal) := do
  let s ← r.session? k
  let _ ← s.handle
  let a := r.actor k
  let c ← a.server
  if 0 ≤ n && n ≤ Program.maxSignal then
    let (c, es) := c.signal n.toNat
    return (true, (r.addEntries es).setActor k { a with server := some c })
  else return (false, r)

/-- The channel of a session, as long as callers have a client. -/
def channel? (r : Rehearsal) (k : Nat) : Option Conversation := do
  let s ← r.session? k
  if s.client then (r.actor k).talk else none

def setChannel (r : Rehearsal) (k : Nat) (v : Conversation) : Rehearsal :=
  r.setActor k { r.actor k with talk := some v }

/-- The name under which callers ask. -/
def callTag : String := "call"

/-- Asks the server and waits for the outcome. -/
def request (r : Rehearsal) (k : Nat) (v : Conversation) (method : String) (params : Option Json)
    (sequel : Sequel) : Except ClientError Json × Rehearsal :=
  let r := (r.setChannel k ((v.cancel callTag).pose callTag method params sequel)).waitFor
    (fun r => errandDone (r.actor k) callTag) patience
  let outcome := (r.actor k).talk.bind fun v => (v.errand? callTag).bind (·.result)
  (outcome.getD (.error .closed), r)

/-- Tells the server something. -/
def tell (r : Rehearsal) (k : Nat) (v : Conversation)
    (f : Client → Except ClientError Unit × Client) : Except ClientError Unit × Rehearsal :=
  let (e, client) := f v.client
  (e, r.setChannel k { v with client }.settle)

/-- What someone who waits for an event gets. -/
inductive Awaited where
  | event (e : ServerEvent)
  /-- There will be no more. -/
  | ended
  /-- There was none in time. -/
  | nothing

/-- Waits for the next event of a session. -/
def nextEvent (r : Rehearsal) (k : Nat) (d : Duration) : Awaited × Rehearsal :=
  let isOver (v : Conversation) := !v.client.reading
  let r := r.waitFor (fun r =>
    (r.actor k).talk.all fun v => !v.client.events.isEmpty || isOver v) d
  match (r.actor k).talk with
  | none => (.ended, r)
  | some v =>
    match v.client.events with
    | e :: _ => (.event e, r.setChannel k { v with client := v.client.step .takeEvent })
    | [] => (if isOver v then .ended else .nothing, r)

/-- Takes the events of a session, which can be done once. -/
def takeEvents (r : Rehearsal) (k : Nat) : Bool × Rehearsal :=
  (((r.session? k).map (·.events)).getD false, r.perform (.session k .takeEvents))

/-! ### Waiting and looking -/

/-- Waits until a session is in a stage. -/
def waitStage (r : Rehearsal) (k : Nat) (stage : Stage) (d : Duration) : Bool × Rehearsal :=
  let there (r : Rehearsal) := (r.session? k).any fun s => s.stage == stage
  let r := r.waitFor there d
  (there r, r)

/-- Waits for an entry of the output channel that contains a text. -/
def waitEntry (r : Rehearsal) (text : String) (d : Duration) : Bool × Rehearsal :=
  let there (r : Rehearsal) :=
    r.manager.sink.entries.any fun e => Text.contains text.toList e.text.toList
  let r := r.waitFor there d
  (there r, r)

end Sidecar.Rehearsal
