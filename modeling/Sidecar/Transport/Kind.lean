/-
# Transport kinds

How the client and the server exchange bytes. Names are read without regard
to blanks around them or to the case of ASCII letters, and two kinds have a
second name.
-/
import Sidecar.Text.Ascii
import Sidecar.Text.Blank

namespace Sidecar

/-- How bytes are exchanged. -/
inductive TransportKind where
  /-- The server's standard input and output. -/
  | stdio
  /-- A local socket in the file system. -/
  | ipc
  /-- TCP on a loopback address. -/
  | socket
  deriving DecidableEq, Repr, Inhabited

namespace TransportKind

def label : TransportKind → String
  | stdio => "stdio"
  | ipc => "ipc"
  | socket => "socket"

/-- The name of the kind in structural displays. -/
def typeName : TransportKind → String
  | stdio => "Stdio"
  | ipc => "Ipc"
  | socket => "Socket"

/-- The kind with exactly this label. -/
def ofLabel? : String → Option TransportKind
  | "stdio" => some stdio
  | "ipc" => some ipc
  | "socket" => some socket
  | _ => none

/-- A text that names no kind. -/
structure Unknown where
  text : String
  deriving DecidableEq, Repr

def Unknown.message (e : Unknown) : String :=
  "unknown transport kind '" ++ e.text ++ "' (expected stdio, ipc or socket)"

/-- The kind a user names. -/
def parse (s : String) : Except Unknown TransportKind :=
  match Text.lower (Text.trim s) with
  | "stdio" => .ok stdio
  | "pipe" => .ok stdio
  | "ipc" => .ok ipc
  | "socket" => .ok socket
  | "tcp" => .ok socket
  | _ => .error ⟨s⟩

end TransportKind

end Sidecar
