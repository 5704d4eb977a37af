/-
# The language client

A client has two halves that work on their own. The writer takes frames from
a queue, in order, and ends when it is told to or when a write fails. The
reader takes frames from the server: it gives responses to the calls that
wait for them, answers requests of the server, and turns notifications into
events or output. When reading ends, the calls that wait are let go, and the
reason is published once.

A call takes the next id and is registered under it before its frame is
handed to the writer, so no response can come too early. It ends with the
response, with the end of its time, or because it was let go; where it is
not the reader that struck off its id, the call does so itself, and only then
is it over.

What happens between two points where control can change is one `Move`;
`Client.step` says what a move does, whatever the order of moves is.

Key definitions: `Client`, `Client.Move`, `Client.step`.
-/
import Sidecar.Client.ChannelEnd
import Sidecar.Client.Incoming
import Sidecar.Client.Message
import Sidecar.Duration

namespace Sidecar

/-- Why a call to the server failed. -/
inductive ClientError where
  | closed
  | timeout (method : String) (after : Duration)
  | rpc (method : String) (code : Int) (message : String)
  deriving DecidableEq, Repr

def ClientError.message : ClientError → String
  | .closed => "channel to the server is closed"
  | .timeout method after => s!"{method} timed out after {after.render}"
  | .rpc method code message => s!"{method} failed: {message} (code {code})"

/-- What the server told without being asked. -/
inductive ServerEvent where
  | diagnostics (uri : String) (items : List Diagnostic)
  | closed (reason : ChannelEnd)
  deriving DecidableEq, Repr

namespace Client

/-- What the reader has left where a call looks for its response. -/
inductive Slot where
  | empty
  /-- The response. -/
  | filled (frame : Json)
  /-- Nothing will come: the reader has let the call go. -/
  | dropped

/-- How far a call has come. -/
inductive Progress where
  /-- It has its id, which the reader does not know yet. -/
  | numbered
  /-- Its id is known to the reader, and its frame is still to be handed over. -/
  | registered
  /-- Its frame is handed over, and it waits. -/
  | waiting
  /-- It no longer waits, and its id is still to be struck off. -/
  | leaving (outcome : Except ClientError Json)
  /-- It is over. -/
  | done (outcome : Except ClientError Json)

/-- A call to the server. -/
structure Call where
  id : Nat
  method : String
  frame : Json
  progress : Progress := .numbered
  slot : Slot := .empty

/-- Whether a call still takes a response. -/
def Call.isOpen (x : Call) : Bool :=
  match x.progress with
  | .registered | .waiting => true
  | _ => false

/-- The outcome that a response frame gives a call. -/
def outcomeOf (method : String) (frame : Json) : Except ClientError Json :=
  match frame.get? "error" with
  | some e =>
    .error (.rpc method (((e.get? "code").bind Json.signed?).getD 0)
      (((e.get? "message").bind Json.str?).getD "unknown error"))
  | none => .ok ((frame.get? "result").getD .null)

/-- How many events wait for their reader at most. -/
def eventCapacity : Nat := 256

end Client

/-- A client and all that its two halves share. -/
structure Client where
  language : String := ruleLanguage
  requestTimeout : Duration := Duration.ofSeconds 30
  nextId : Nat := 1
  /-- The ids that the reader knows. -/
  pending : List Nat := []
  calls : List Client.Call := []
  /-- The open documents and the version last given to each. -/
  versions : List (String × Int32) := []
  /-- Frames handed to the writer and not yet written. -/
  queue : List Json := []
  /-- Whether the writer takes frames. -/
  writing : Bool := true
  /-- Whether the reader takes frames. -/
  reading : Bool := true
  /-- Why reading ended. -/
  closed : Option ChannelEnd := none
  /-- Events not yet taken. -/
  events : List ServerEvent := []
  sink : Sink := {}

namespace Client

/-! ### Calls -/

/-- Changes the call with the given id. -/
def updateCall (c : Client) (id : Nat) (f : Call → Call) : Client :=
  { c with calls := c.calls.map fun x => if x.id == id then f x else x }

def call? (c : Client) (id : Nat) : Option Call := c.calls.find? fun x => x.id == id

def forget (c : Client) (id : Nat) : Client := { c with pending := c.pending.filter (· != id) }

/-- Notes how far the call with the given id has come. -/
def setProgress (c : Client) (id : Nat) (p : Progress) : Client :=
  c.updateCall id fun x => { x with progress := p }

/-- A call takes the next id; ids are 64 bits wide. -/
def call (c : Client) (method : String) (params : Option Json) : Client :=
  { c with
    nextId := (c.nextId + 1) % UInt64.size
    calls := c.calls ++
      [{ id := c.nextId, method, frame := Message.request c.nextId method params }] }

/-- Makes the id of a call known to the reader. -/
def register (c : Client) (id : Nat) : Client :=
  match c.call? id with
  | some x =>
    match x.progress with
    | .numbered => { c with pending := id :: c.pending }.setProgress id .registered
    | _ => c
  | none => c

/-- Hands a frame to the writer, if it still takes any. -/
def enqueue? (c : Client) (frame : Json) : Option Client :=
  if c.writing then some { c with queue := c.queue ++ [frame] } else none

/-- Hands the frame of a registered call over; without a writer the call cannot go on. -/
def submit (c : Client) (id : Nat) : Client :=
  match c.call? id with
  | some x =>
    match x.progress with
    | .registered =>
      match c.enqueue? x.frame with
      | some c => c.setProgress id .waiting
      | none => c.setProgress id (.leaving (.error .closed))
    | _ => c
  | none => c

/-- Lets a call take notice of what the reader left for it. -/
def collect (c : Client) (id : Nat) : Client :=
  match c.call? id with
  | some x =>
    match x.progress with
    | .waiting =>
      match x.slot with
      | .filled frame => c.setProgress id (.done (outcomeOf x.method frame))
      | .dropped => c.setProgress id (.leaving (.error .closed))
      | .empty => c
    | _ => c
  | none => c

/-- A call notices that its time is over. It may do so in the very moment in which a response comes,
which is then lost. -/
def expire (c : Client) (id : Nat) : Client :=
  match c.call? id with
  | some x =>
    match x.progress with
    | .waiting => c.setProgress id (.leaving (.error (.timeout x.method c.requestTimeout)))
    | _ => c
  | none => c

/-- A call that no longer waits strikes off its id and is over. -/
def withdraw (c : Client) (id : Nat) : Client :=
  match c.call? id with
  | some x =>
    match x.progress with
    | .leaving outcome => (c.forget id).setProgress id (.done outcome)
    | _ => c
  | none => c

/-- The caller no longer waits; the reader does not learn of it. -/
def abandon (c : Client) (id : Nat) : Client :=
  { c with calls := c.calls.filter fun x => x.id != id }

/-! ### Notifications and documents -/

/-- Hands a notification to the writer. -/
def notify (c : Client) (method : String) (params : Option Json) :
    Except ClientError Unit × Client :=
  match c.enqueue? (Message.notification method params) with
  | some c => (.ok (), c)
  | none => (.error .closed, c)

def version? (c : Client) (uri : String) : Option Int32 :=
  (c.versions.find? fun v => v.1 == uri).map (·.2)

def setVersion (c : Client) (uri : String) (version : Int32) : Client :=
  { c with versions := (uri, version) :: c.versions.filter fun v => v.1 != uri }

def dropVersion (c : Client) (uri : String) : Client :=
  { c with versions := c.versions.filter fun v => v.1 != uri }

/-- Opens a document as version 1. -/
def didOpen (c : Client) (uri text : String) : Except ClientError Unit × Client :=
  (c.setVersion uri 1).notify "textDocument/didOpen"
    (some (Message.openParams uri c.language 1 text))

/-- Changes a document; one that is not open is opened. -/
def didChange (c : Client) (uri text : String) : Except ClientError Unit × Client :=
  match c.version? uri with
  | none => c.didOpen uri text
  | some v =>
    (c.setVersion uri (v + 1)).notify "textDocument/didChange"
      (some (Message.changeParams uri (v + 1) text))

def didSave (c : Client) (uri : String) : Except ClientError Unit × Client :=
  c.notify "textDocument/didSave" (some (Message.uriParams uri))

def didClose (c : Client) (uri : String) : Except ClientError Unit × Client :=
  (c.dropVersion uri).notify "textDocument/didClose" (some (Message.uriParams uri))

def didChangeConfiguration (c : Client) (settings : Json) : Except ClientError Unit × Client :=
  c.notify "workspace/didChangeConfiguration" (some (Message.configurationParams settings))

/-! ### The reader -/

/-- Adds an event if there is room. -/
def offer (c : Client) (e : ServerEvent) : Client :=
  if c.events.length < eventCapacity then { c with events := c.events ++ [e] } else c

def say (c : Client) (level : Level) (text : String) : Client :=
  { c with sink := c.sink.add level text }

/-- What a notification does. -/
def handle (c : Client) (method : String) (params : Option Json) : Client :=
  match method with
  | "textDocument/publishDiagnostics" =>
    match params.bind Incoming.diagnostics? with
    | some (uri, items) => c.offer (.diagnostics uri items)
    | none => c
  | "window/logMessage" | "window/showMessage" | "window/showMessageRequest" =>
    match params.bind Incoming.message? with
    | some (level, text) => c.say level text
    | none => c
  | _ => c

/-- Leaves something for a call that still looks for it. -/
def Call.leave (slot : Slot) (x : Call) : Call := if x.isOpen then { x with slot } else x

/-- Gives a response to the call with its id, if the reader knows one. -/
def deliver (c : Client) (id : Nat) (frame : Json) : Client :=
  if c.pending.contains id then (c.forget id).updateCall id (Call.leave (.filled frame)) else c

/-- What a frame from the server does. -/
def dispatch (c : Client) (frame : Json) : Client :=
  match Incoming.ofFrame? frame with
  | none => c
  | some (.response id frame) => c.deliver id frame
  | some (.request id method) => (c.enqueue? (Message.methodNotFound id method)).getD c
  | some (.notification method params) => c.handle method params

/-- Lets go of every call the reader knows. -/
def release (c : Client) : Client :=
  { c with
    pending := []
    calls := c.calls.map fun x => if c.pending.contains x.id then x.leave .dropped else x }

/-- Reading ends: the calls are let go, and the reason is published. -/
def endReading (c : Client) (reason : ChannelEnd) : Client :=
  let c := c.release
  { c with reading := false, closed := some reason }.offer (.closed reason)

/-! ### The writer -/

/-- The writer takes the oldest frame. -/
def takeFrame? (c : Client) : Option (Json × Client) :=
  match c.queue with
  | frame :: rest => if c.writing then some (frame, { c with queue := rest }) else none
  | [] => none

/-- The writer ends; what it has not taken is lost. -/
def stopWriting (c : Client) : Client := { c with writing := false, queue := [] }

/-- The client is given up: both halves end at once, and no one is told. -/
def shut (c : Client) : Client := { c.stopWriting with reading := false }

/-! ### Moves -/

/-- What can happen between two points where control can change. -/
inductive Move where
  | call (method : String) (params : Option Json)
  | register (id : Nat)
  | submit (id : Nat)
  | collect (id : Nat)
  | expire (id : Nat)
  | withdraw (id : Nat)
  | abandon (id : Nat)
  | notify (method : String) (params : Option Json)
  | open (uri text : String)
  | change (uri text : String)
  | save (uri : String)
  | close (uri : String)
  | configure (settings : Json)
  /-- A frame from the server. -/
  | arrive (frame : Json)
  | endReading (reason : ChannelEnd)
  /-- The writer takes a frame. -/
  | write
  | stopWriting
  | shut
  /-- The reader of events takes the oldest. -/
  | takeEvent

/-- What a move does. The reader does nothing once it has ended. -/
def step (c : Client) : Move → Client
  | .call method params => c.call method params
  | .register id => c.register id
  | .submit id => c.submit id
  | .collect id => c.collect id
  | .expire id => c.expire id
  | .withdraw id => c.withdraw id
  | .abandon id => c.abandon id
  | .notify method params => (c.notify method params).2
  | .open uri text => (c.didOpen uri text).2
  | .change uri text => (c.didChange uri text).2
  | .save uri => (c.didSave uri).2
  | .close uri => (c.didClose uri).2
  | .configure settings => (c.didChangeConfiguration settings).2
  | .arrive frame => if c.reading then c.dispatch frame else c
  | .endReading reason => if c.reading then c.endReading reason else c
  | .write => (c.takeFrame?.map (·.2)).getD c
  | .stopWriting => c.stopWriting
  | .shut => c.shut
  | .takeEvent => { c with events := c.events.drop 1 }

/-- What a sequence of moves does. -/
def run (c : Client) (moves : List Move) : Client := moves.foldl step c

end Client

end Sidecar
