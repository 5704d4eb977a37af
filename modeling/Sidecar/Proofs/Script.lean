/-
# Scripts for a client

What the owner of a client can ask of it, as a list of chores: requests, which
are answered, and things that the server is told. A script says beforehand what
is to come of it: what each request comes to (`Chore.answer?`), which saves are
complained about (`Chore.complaints`), and which introductions are greeted. It
also fixes the frames that the client sends for it (`Chore.frames`), whatever
else goes on, since the documents and the ids of a client depend on what was
asked of it alone (`Chore.tell_eq`).

Key definitions: `Chore`, `Chore.answer?`, `Chore.complaints`, `Chore.frames`.
Key theorems: `Chore.complaints_append`, `Chore.events_words`, `Chore.tell_eq`.
-/
import Sidecar.Client.Conversation
import Sidecar.Proofs.Delivery
import Sidecar.Proofs.Exchange

namespace Sidecar

/-- What someone asks of a client. -/
inductive Chore where
  | introduce (processId : Nat) (root : Option String)
  | request (method : String) (params : Option Json)
  | execute (command : String) (arguments : List Json)
  | open (uri text : String)
  | change (uri text : String)
  | save (uri : String)
  | close (uri : String)
  | configure (settings : Json)
  | shutdown

namespace Chore

/-- How a client goes about a chore. -/
inductive Act where
  /-- It makes a request and waits for the answer. -/
  | ask (method : String) (params : Option Json) (sequel : Sequel)
  /-- It tells the server something. -/
  | tell (m : Client.Move)

def act : Chore → Act
  | introduce processId root =>
    .ask "initialize" (some (Message.initializeParams processId root)) .initialized
  | request method params => .ask method params .nothing
  | execute command arguments =>
    .ask "workspace/executeCommand" (some (Message.commandParams command arguments)) .nothing
  | .open uri text => .tell (.open uri text)
  | change uri text => .tell (.change uri text)
  | save uri => .tell (.save uri)
  | close uri => .tell (.close uri)
  | configure settings => .tell (.configure settings)
  | shutdown => .ask "shutdown" none .exit

/-! ### What a script comes to -/

/-- What a chore that is a request comes to. -/
def answer? : Chore → Option (Except ClientError Json)
  | introduce .. => some (.ok StandIn.abilities)
  | execute .. | shutdown => some (.ok .null)
  | request method _ => some (Client.verdict method)
  | _ => none

/-- Whether saves are complained about after a chore. -/
def switch (on : Bool) : Chore → Bool
  | configure settings => StandIn.enabledBy settings
  | _ => on

/-- The documents that are saved while the latest change of the configuration has turned compiling
on, `on` telling whether it is on at first. -/
def complaints (on : Bool) : List Chore → List String
  | [] => []
  | save uri :: ds => (if on then [uri] else []) ++ complaints on ds
  | d :: ds => complaints (d.switch on) ds

def isIntroduction : Chore → Bool
  | introduce .. => true
  | _ => false

theorem complaints_cons (on : Bool) (d : Chore) (ds : List Chore) :
    complaints on (d :: ds) = complaints on [d] ++ complaints (d.switch on) ds := by
  cases d <;> simp [complaints, switch]

theorem complaints_append (on : Bool) (ds ds' : List Chore) :
    complaints on (ds ++ ds') = complaints on ds ++ complaints (ds.foldl switch on) ds' := by
  induction ds generalizing on with
  | nil => rfl
  | cons d ds ih =>
    rw [List.cons_append, complaints_cons, ih, complaints_cons on d ds, List.append_assoc,
      List.foldl_cons]

/-- The frames that follow a request that was answered. -/
def sequelFrames : Sequel → List Json
  | .nothing => []
  | .initialized => [Message.notification "initialized" (some (Json.obj []))]
  | .exit => [Message.notification "exit" none]

/-- The client after a chore, as far as frames depend on it, if nothing is taken from its queue. -/
def perform (c : Client) (d : Chore) : Client :=
  match d.act with
  | .tell m => c.step m
  | .ask method params sequel =>
    { c with
      nextId := (c.nextId + 1) % UInt64.size
      queue := c.queue ++ Message.request c.nextId method params :: sequelFrames sequel }

/-- The frames that a script has a client send. -/
def frames (c : Client) (script : List Chore) : List Json := (script.foldl perform c).queue

theorem queue_perform (c : Client) (d : Chore) : c.queue <+: (perform c d).queue := by
  cases d with
  | «open» uri text => exact Line.prefix_step c (m := .open uri text) rfl
  | change uri text => exact Line.prefix_step c (m := .change uri text) rfl
  | save uri => exact Line.prefix_step c (m := .save uri) rfl
  | close uri => exact Line.prefix_step c (m := .close uri) rfl
  | configure settings => exact Line.prefix_step c (m := .configure settings) rfl
  | _ => exact List.prefix_append _ _

theorem queue_foldl_perform (c : Client) (ds : List Chore) :
    c.queue <+: (ds.foldl perform c).queue := by
  induction ds generalizing c with
  | nil => exact List.prefix_rfl
  | cons d ds ih => exact (queue_perform c d).trans (ih _)

/-- What the stand-in is told when a chore is done. -/
def words : Chore → List Word
  | introduce .. => [.ready]
  | request .. | execute .. => []
  | .open .. | change .. | close .. => [.other]
  | save uri => [.save uri]
  | configure settings => [.configure (StandIn.enabledBy settings)]
  | shutdown => [.leave]

section Words

variable (on : Bool) (d : Chore)

theorem switch_words : d.words.foldl Word.switch on = d.switch on := by cases d <;> rfl

theorem due_words : (Word.notes on d.words).filterMap Note.due? = [] := by
  cases d with
  | save uri => cases on <;> rfl
  | _ => rfl

theorem events_words : (Word.notes on d.words).filterMap Note.event? =
    (complaints on [d]).map fun uri => .diagnostics uri [Client.syntaxError] := by
  cases d with
  | save uri => cases on <;> rfl
  | _ => rfl

theorem greetings_words :
    (Word.notes on d.words).count .greeting = [d].countP isIntroduction := by
  cases d with
  | save uri => cases on <;> rfl
  | _ => rfl

theorem leave_mem_words : Word.leave ∈ d.words ↔ d = .shutdown := by cases d <;> simp [words]

end Words

end Chore

/-- A frame that calls something by its method, which a reply does not. -/
def CallsMethod (frame : Json) : Prop := (frame.get? "method").isSome = true

theorem callsMethod_notification (method : String) (params : Option Json) :
    CallsMethod (Message.notification method params) := by
  cases params <;>
    simp [CallsMethod, Message.notification, Message.paramsMember, Json.get?_object]

theorem callsMethod_request (id : Nat) (method : String) (params : Option Json) :
    CallsMethod (Message.request id method params) := by
  cases params <;> simp [CallsMethod, Message.request, Message.paramsMember, Json.get?_object]

theorem CallsMethod.ne_methodNotFound {frame : Json} (h : CallsMethod frame) (id : Json)
    (method : String) : frame ≠ Message.methodNotFound id method := by
  rintro rfl
  simp [CallsMethod, Message.methodNotFound, Json.get?_object] at h

theorem Client.notify_of_writing {c : Client} (hc : c.writing = true) (method : String)
    (params : Option Json) : c.notify method params =
      (.ok (), { c with queue := c.queue ++ [Message.notification method params] }) := by
  rw [notify, enqueue?_of_writing hc]

/-- A client that tells the server something hands over one frame and may change what it remembers
of documents. What it hands over depends on its language and on that memory alone. -/
theorem Chore.tell_eq {d : Chore} {m : Client.Move} (hact : d.act = .tell m) {c p : Client}
    (hc : c.writing = true) (hp : p.writing = true) (hlanguage : c.language = p.language)
    (hversions : c.versions = p.versions) : ∃ versions frame,
      c.step m = { c with versions, queue := c.queue ++ [frame] } ∧
      p.step m = { p with versions, queue := p.queue ++ [frame] } ∧
      List.Forall₂ Says [frame] d.words ∧ CallsMethod frame := by
  have hversion : ∀ uri, c.version? uri = p.version? uri := fun uri => by
    rw [Client.version?, Client.version?, hversions]
  cases d <;> cases hact
  case «open» uri text =>
    refine ⟨_, _, congrArg Prod.snd (Client.notify_of_writing (c := c.setVersion uri 1) hc _ _), ?_,
      .cons (says_other _ (by decide)) .nil, callsMethod_notification _ _⟩
    simp only [Client.setVersion, hlanguage, hversions]
    exact congrArg Prod.snd (Client.notify_of_writing (c := p.setVersion uri 1) hp _ _)
  case change uri text =>
    cases hv : p.version? uri with
    | none =>
      have hcv := (hversion uri).trans hv
      refine ⟨(c.setVersion uri 1).versions, _, ?_, ?_, .cons (says_other
        (some (Message.openParams uri p.language 1 text))
        (show "textDocument/didOpen" ∉ _ by decide)) .nil, callsMethod_notification _ _⟩
      · rw [Client.step, Client.didChange, hcv, ← hlanguage]
        exact congrArg Prod.snd (Client.notify_of_writing (c := c.setVersion uri 1) hc _ _)
      · rw [Client.step, Client.didChange, hv]
        simp only [Client.setVersion, hversions]
        exact congrArg Prod.snd (Client.notify_of_writing (c := p.setVersion uri 1) hp _ _)
    | some v =>
      have hcv := (hversion uri).trans hv
      refine ⟨(c.setVersion uri (v + 1)).versions, _, ?_, ?_,
        .cons (says_other (some (Message.changeParams uri (v + 1) text))
          (show "textDocument/didChange" ∉ _ by decide)) .nil, callsMethod_notification _ _⟩
      · rw [Client.step, Client.didChange, hcv]
        exact congrArg Prod.snd (Client.notify_of_writing (c := c.setVersion uri (v + 1)) hc _ _)
      · rw [Client.step, Client.didChange, hv]
        simp only [Client.setVersion, hversions]
        exact congrArg Prod.snd (Client.notify_of_writing (c := p.setVersion uri (v + 1)) hp _ _)
  case save uri =>
    refine ⟨_, _, congrArg Prod.snd (Client.notify_of_writing hc _ _), ?_,
      .cons (says_save uri) .nil, callsMethod_notification _ _⟩
    rw [hversions]
    exact congrArg Prod.snd (Client.notify_of_writing hp _ _)
  case close uri =>
    refine ⟨_, _, congrArg Prod.snd (Client.notify_of_writing (c := c.dropVersion uri) hc _ _), ?_,
      .cons (says_other _ (by decide)) .nil, callsMethod_notification _ _⟩
    simp only [Client.dropVersion, hversions]
    exact congrArg Prod.snd (Client.notify_of_writing (c := p.dropVersion uri) hp _ _)
  case configure settings =>
    refine ⟨_, _, congrArg Prod.snd (Client.notify_of_writing hc _ _), ?_,
      .cons (says_configuration settings) .nil, callsMethod_notification _ _⟩
    rw [hversions]
    exact congrArg Prod.snd (Client.notify_of_writing hp _ _)

end Sidecar
