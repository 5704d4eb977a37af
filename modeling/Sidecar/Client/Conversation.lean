/-
# Conversations

A client and a server whose words are given, on a clock that counts
milliseconds and only moves when nothing else can happen. Whatever one side
does is followed by all that follows from it: calls whose time is over end, the
reader reads what has arrived, calls take notice, and the writer writes what it
was handed.

Everything the client does here is a `Client.Move`.

Key definitions: `Conversation`, `Conversation.settle`, `Conversation.pass`.
-/
import Sidecar.Client.Basic
import Sidecar.Frame.Reader
import Sidecar.Frame.Writer

namespace Sidecar

/-- What a caller does once its call has succeeded. -/
inductive Sequel where
  | nothing
  /-- Tells the server that it may go on. -/
  | initialized
  /-- Tells the server to exit; the result does not matter. -/
  | exit
  deriving DecidableEq, Repr

/-- A call that someone waits for, under a name as long as no other call has taken it over. -/
structure Errand where
  tag : Option String
  call : Nat
  deadline : Nat
  sequel : Sequel
  result : Option (Except ClientError Json) := none

/-- The state of the server's end. -/
inductive Peer where
  | connected
  /-- It has closed its side and still reads. -/
  | finished
  /-- It is gone. -/
  | gone
  deriving DecidableEq, Repr

/-- A client, a server and a clock. -/
structure Conversation where
  client : Client := {}
  now : Nat := 0
  errands : List Errand := []
  /-- Bytes from the server that the reader has not taken. -/
  arrived : List UInt8 := []
  peer : Peer := .connected
  /-- Whether the client is still there. -/
  live : Bool := true
  /-- Frames that reached the server and were not yet looked at. -/
  received : List Json := []
  /-- Whether the server has seen the end of the client's frames. -/
  sawEnd : Bool := false

namespace Conversation

/-- The reader takes what has arrived. -/
def read : Nat → Conversation → Conversation
  | 0, v => v
  | fuel + 1, v =>
    if !v.client.reading then v
    else
      match Frame.read (v.peer != .connected) v.arrived with
      | .done frame rest =>
        read fuel { v with client := v.client.step (.arrive frame), arrived := rest }
      | .failed e rest =>
        { v with client := v.client.step (.endReading (.failed e)), arrived := rest }
      | .ended => { v with client := v.client.step (.endReading .closed) }
      | .awaiting => v

/-- The result a finished call gives its caller, after the sequel. -/
def conclude (c : Client) (sequel : Sequel) (outcome : Except ClientError Json) :
    Except ClientError Json × Client :=
  match outcome with
  | .error e => (.error e, c)
  | .ok v =>
    match sequel with
    | .nothing => (.ok v, c)
    | .initialized =>
      match c.notify "initialized" (some (Json.obj [])) with
      | (.ok _, c) => (.ok v, c)
      | (.error e, c) => (.error e, c)
    | .exit =>
      match c.notify "exit" none with
      | (.ok _, c) => (.ok .null, c)
      | (.error e, c) => (.error e, c)

/-- A caller takes notice of what became of its call. -/
def attend (v : Conversation) (e : Errand) : Conversation × Errand :=
  let c := (v.client.step (.collect e.call)).step (.withdraw e.call)
  match e.result, (c.call? e.call).map Client.Call.progress with
  | none, some (Client.Progress.done outcome) =>
    let (result, c) := conclude c e.sequel outcome
    ({ v with client := c.step (.abandon e.call) }, { e with result := some result })
  | _, _ => ({ v with client := c }, e)

/-- All callers take notice. -/
def attendAll (v : Conversation) : Conversation :=
  let (v, es) := v.errands.foldl (fun (acc : Conversation × List Errand) e =>
    let (v, e) := acc.1.attend e
    (v, acc.2 ++ [e])) (v, [])
  { v with errands := es }

/-- The writer writes what it was handed; a write to nobody ends it. -/
def write : Nat → Conversation → Conversation
  | 0, v => v
  | fuel + 1, v =>
    match v.client.takeFrame? with
    | none => v
    | some (frame, _) =>
      if v.peer == .gone then { v with client := v.client.step .stopWriting }
      else
        write fuel { v with client := v.client.step .write, received := v.received ++ [frame] }

/-- Ends the calls whose time was over before a time. -/
def expireBefore (v : Conversation) (time : Nat) : Conversation :=
  { v with client := v.errands.foldl (fun c e =>
      if e.deadline < time then c.step (.expire e.call) else c) v.client }

/-- All that follows until nothing more can happen by itself. -/
def settle (v : Conversation) : Conversation :=
  let v := v.expireBefore (v.now + 1)
  let v := (read (v.arrived.length + 1) v).attendAll
  write (v.client.queue.length + 1) v

/-- Lets time pass up to an instant at which something else is done first. -/
def pass (v : Conversation) (ms : Nat) : Conversation :=
  { v.expireBefore (v.now + ms) with now := v.now + ms }.attendAll

/-- The name is free again; a call that had it goes on without. -/
def release (v : Conversation) (tag : String) : Conversation :=
  { v with errands := v.errands.map fun e =>
      if e.tag == some tag then { e with tag := none } else e }

/-- Starts a call. -/
def pose (v : Conversation) (tag method : String) (params : Option Json) (sequel : Sequel) :
    Conversation :=
  let id := v.client.nextId
  let client := ((v.client.step (.call method params)).step (.register id)).step (.submit id)
  let e : Errand := ⟨some tag, id, v.now + v.client.requestTimeout.millis, sequel, none⟩
  { v with client, errands := (v.release tag).errands ++ [e] }.settle

/-- Starts a call and lets a millisecond pass. -/
def ask (v : Conversation) (tag method : String) (params : Option Json) (sequel : Sequel) :
    Conversation :=
  ((v.pose tag method params sequel).pass 1).settle

/-- The errand under a name. -/
def errand? (v : Conversation) (tag : String) : Option Errand :=
  v.errands.find? fun e => e.tag == some tag

/-- Waits for an errand, at most until its time is over. -/
def await (v : Conversation) (tag : String) : Conversation :=
  match v.errand? tag with
  | some e => if e.result.isSome then v else (v.pass (e.deadline - v.now)).settle
  | none => v

/-- The caller gives up waiting. -/
def cancel (v : Conversation) (tag : String) : Conversation :=
  let (given, kept) := v.errands.partition fun e => e.tag == some tag
  { v with
    client := given.foldl (fun c e => c.step (.abandon e.call)) v.client
    errands := kept }

/-- What became of words of the server. -/
inductive Heard where
  | written
  /-- Nobody reads any more. -/
  | broken
  /-- The server itself is gone. -/
  | gone

/-- The server writes bytes. To write none is no attempt. -/
def hear (v : Conversation) (bytes : List UInt8) : Heard × Conversation :=
  match v.peer with
  | .gone => (.gone, v.settle)
  | .finished => (if bytes.isEmpty then .written else .broken, v.settle)
  | .connected =>
    if v.live then (.written, { v with arrived := v.arrived ++ bytes }.settle)
    else (if bytes.isEmpty then .written else .broken, v.settle)

/-- The server closes its side. -/
def finish (v : Conversation) : Conversation :=
  (if v.peer == .connected then { v with peer := .finished } else v).settle

/-- The server goes. -/
def hangUp (v : Conversation) : Conversation := { v with peer := .gone }.settle

/-- The client is closed or given up. -/
def leave (v : Conversation) : Conversation :=
  let v := v.settle
  { v with
    client := v.client.step .shut
    live := false
    sawEnd := v.sawEnd || (v.live && v.peer != .gone) }

end Conversation

end Sidecar
