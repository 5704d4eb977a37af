/-
# Frames

A frame is a block of header lines, a blank line, and a body of as many bytes
as the headers say. This module has what both directions share: the largest
body and the ways in which a frame can fail.
-/
import Sidecar.Json.Parser

namespace Sidecar.Frame

/-- The largest body a reader accepts, in bytes. -/
def maxBody : Nat := 4194304

/-- Why no frame was read or written. -/
inductive Error where
  /-- The stream failed. -/
  | stream (detail : String)
  /-- The stream ended inside the headers. -/
  | truncatedHeaders
  | missingLength
  | invalidLength (text : String)
  | tooLarge (length : Nat)
  /-- The body is not JSON. -/
  | notJson (fault : Json.Fault)
  deriving DecidableEq, Repr

def Error.message : Error → String
  | .stream detail => detail
  | .truncatedHeaders => "unexpected EOF while reading headers"
  | .missingLength => "missing Content-Length header"
  | .invalidLength text => "invalid Content-Length value '" ++ text ++ "'"
  | .tooLarge n => s!"Content-Length {n} exceeds maximum {maxBody}"
  | .notJson fault => s!"invalid JSON-RPC frame: {fault.message}"

/-- The message without what is wrong with a body. -/
def Error.brief : Error → String
  | .notJson _ => "invalid JSON-RPC frame"
  | e => e.message

end Sidecar.Frame
