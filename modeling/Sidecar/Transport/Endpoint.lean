/-
# Endpoints

Where the server is to be reached. Each kind of endpoint knows how it is told
to the server, as arguments behind the entry point, and how it is shown.
-/
import Sidecar.Net.Address
import Sidecar.Transport.Kind

namespace Sidecar

/-- Where the server is to be reached. -/
inductive Endpoint where
  | stdio
  | ipc (path : String)
  | socket (host : Net.Address) (port : Nat)
  deriving DecidableEq, Repr, Inhabited

namespace Endpoint

def kind : Endpoint → TransportKind
  | stdio => .stdio
  | ipc _ => .ipc
  | socket _ _ => .socket

def host? : Endpoint → Option Net.Address
  | socket host _ => some host
  | _ => none

def port? : Endpoint → Option Nat
  | socket _ port => some port
  | _ => none

/-- The path of a local socket. -/
def path? : Endpoint → Option String
  | ipc path => some path
  | _ => none

/-- The arguments that tell the server where to listen. -/
def launchArgs : Endpoint → List String
  | stdio => ["--stdio"]
  | ipc path => ["--pipe", path]
  | socket host port => [host.render, toString port]

def render : Endpoint → String
  | stdio => "stdio"
  | ipc path => "ipc:" ++ path
  | socket host port => host.renderWithPort port

/-- How the endpoint is named when connecting to it fails. -/
def target : Endpoint → String
  | stdio => "stdio"
  | ipc path => path
  | socket host port => host.renderWithPort port

end Endpoint

end Sidecar
