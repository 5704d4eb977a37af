/-
# Messages from the server

What a frame from the server is: a response to a request of the client, a
request of its own, or a notification. Anything else is passed over. The
parameters of the notifications that matter have a fixed shape: records given
as objects or as arrays of exactly their fields, whole numbers within range,
and optional members that may be null.

Key definitions: `Incoming.ofFrame?`, `Incoming.diagnostics?`, `Incoming.message?`.
-/
import Sidecar.Diagnostic
import Sidecar.Json.Basic
import Sidecar.Selector
import Sidecar.Sink

namespace Sidecar

/-- What a frame from the server is. -/
inductive Incoming where
  | response (id : Nat) (frame : Json)
  | request (id : Json) (method : String)
  | notification (method : String) (params : Option Json)

namespace Incoming

/-- Sorts a frame by its id, its method, and whether it has a result or an error. -/
def ofFrame? (frame : Json) : Option Incoming :=
  let outcome := (frame.get? "result").isSome || (frame.get? "error").isSome
  match frame.get? "id", (frame.get? "method").bind Json.str? with
  | some id, none => if outcome then id.unsigned?.map (.response · frame) else none
  | some id, some method => some (.request id method)
  | none, some method => some (.notification method (frame.get? "params"))
  | none, none => none

/-! ### Shapes -/

/-- The values of the fields of a record, in order; an absent member of an object is `none`. -/
def fields? (names : List String) : Json → Option (List (Option Json))
  | .obj ms => some (names.map fun n => (Json.obj ms).get? n)
  | .arr xs => if xs.length == names.length then some (xs.map some) else none
  | _ => none

/-- A whole number without a sign below `2 ^ bits`. -/
def number? (bits : Nat) (v : Json) : Option Nat :=
  match v with
  | .num (.int i) => if 0 ≤ i && i.toNat < Nat.pow 2 bits then some i.toNat else none
  | _ => none

/-- A member that may be absent or null. -/
def optional? {α : Type} (r : Json → Option α) : Option Json → Option (Option α)
  | none => some none
  | some .null => some none
  | some v => (r v).map some

/-- The line and the column of a position. -/
def position? (v : Json) : Option (UInt32 × UInt32) :=
  match fields? ["line", "character"] v with
  | some [some line, some character] => do
    return ((← number? 32 line).toUInt32, (← number? 32 character).toUInt32)
  | _ => none

/-- The start of a range. -/
def rangeStart? (v : Json) : Option (UInt32 × UInt32) :=
  match fields? ["start"] v with
  | some [some start] => position? start
  | _ => none

/-- A diagnostic; an unknown severity counts as a warning, and the source has a default. -/
def diagnostic? (v : Json) : Option Diagnostic :=
  match fields? ["range", "severity", "source", "message"] v with
  | some [some range, severity, source, some message] => do
    let (line, col) ← rangeStart? range
    let severity ← optional? (number? 64) severity
    let source ← optional? Json.str? source
    let message ← message.str?
    return {
      severity := (severity.bind Severity.ofNumber?).getD .warning
      message, line, col
      source := source.getD ruleLanguage }
  | _ => none

/-- The document and the diagnostics that a server publishes. -/
def diagnostics? (v : Json) : Option (String × List Diagnostic) :=
  match fields? ["uri", "diagnostics"] v with
  | some [some uri, some (.arr items)] => do return (← uri.str?, ← items.mapM diagnostic?)
  | _ => none

/-- A message to the user with its level: 1 is an error, 2 a warning, all others inform. -/
def message? (v : Json) : Option (Level × String) :=
  match fields? ["type", "message"] v with
  | some [some kind, some message] => do
    let kind ← number? 8 kind
    let message ← message.str?
    return (if kind == 1 then .error else if kind == 2 then .warn else .info, message)
  | _ => none

end Incoming

end Sidecar
