/-
# The stand-in server

A small server that speaks enough of the protocol to try a session on: it
announces what it can do, greets the client, acknowledges commands, and
complains about every document that is saved once it was told to compile on
save. Every request gets exactly one answer.

Key definitions: `StandIn.react`, `StandIn.serve`.
-/
import Sidecar.Client.Message

namespace Sidecar

/-- The state of the stand-in on one connection. -/
structure StandIn where
  compileOnSave : Bool := false
  deriving DecidableEq, Repr

namespace StandIn

/-- What the stand-in does about a frame. -/
inductive Reaction where
  | silence
  | answer (frame : Json)
  /-- It was told to exit. -/
  | leave

/-- A member of a member, null if there is none. -/
def at_ (v : Json) (key : String) : Json := (v.get? key).getD .null

/-- What the stand-in says it can do. -/
def abilities : Json :=
  Json.object [
    ("capabilities", Json.object [
      ("textDocumentSync", .nat 1),
      ("executeCommandProvider", Json.object [
        ("commands", .arr [.str Message.compileRule, .str Message.compileAllRules])])]),
    ("serverInfo", Json.object [("name", .str "yarals-stub")])]

/-- The greeting after the client has said that it is ready. -/
def greeting : Json :=
  Message.notification "window/showMessageRequest"
    (some (Json.object [("type", .nat 3), ("message", .str "Successfully connected")]))

def positionAt (line character : Nat) : Json :=
  Json.object [("line", .nat line), ("character", .nat character)]

/-- The complaint about a saved document. -/
def complaint (uri : Json) : Json :=
  Message.notification "textDocument/publishDiagnostics"
    (some (Json.object [
      ("uri", uri),
      ("diagnostics", .arr [Json.object [
        ("range", Json.object [("start", positionAt 0 0), ("end", positionAt 0 4)]),
        ("severity", .nat 1),
        ("source", .str "yara"),
        ("message", .str "syntax error, unexpected end of file")]])]))

/-- The flag in a change of the configuration; anything but a boolean counts as false. -/
def compileFlag (frame : Json) : Bool :=
  ((at_ (at_ (at_ (at_ frame "params") "settings") "yara") "compile_on_save").bool?).getD false

/-- The document that a notification is about. -/
def documentOf (frame : Json) : Json := at_ (at_ (at_ frame "params") "textDocument") "uri"

/-- The method of a frame; empty if it has none. -/
def methodOf (frame : Json) : String := ((frame.get? "method").bind Json.str?).getD ""

/-- The answer to a request. -/
def reply (id : Json) (method : String) : Json :=
  match method with
  | "initialize" => Message.result id abilities
  | "shutdown" => Message.result id .null
  | "workspace/executeCommand" => Message.result id .null
  | _ => Message.methodNotFound id method

/-- What the stand-in does about a frame. -/
def react (s : StandIn) (frame : Json) : StandIn × Reaction :=
  match frame.get? "id" with
  | some id => (s, .answer (reply id (methodOf frame)))
  | none =>
    match methodOf frame with
    | "initialized" => (s, .answer greeting)
    | "exit" => (s, .leave)
    | "workspace/didChangeConfiguration" => ({ compileOnSave := compileFlag frame }, .silence)
    | "textDocument/didSave" =>
      (s, if s.compileOnSave then .answer (complaint (documentOf frame)) else .silence)
    | _ => (s, .silence)

/-- What the stand-in writes for the frames it reads, and whether it was told to exit. -/
def serve (s : StandIn) : List Json → List Json × Bool
  | [] => ([], false)
  | frame :: rest =>
    match s.react frame with
    | (s, .silence) => serve s rest
    | (s, .answer a) =>
      let (out, left) := serve s rest
      (a :: out, left)
    | (_, .leave) => ([], true)

end StandIn

end Sidecar
