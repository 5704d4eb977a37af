/-
# Port leases

Sessions that share a registry never share a port. A socket endpoint with a
fixed port takes the lease for it or fails; one without asks the system for a
free port, up to 16 times, until it gets one that is not leased. An endpoint
that goes gives its lease back.

Key definitions: `Registry`, `Registry.allocate`, `Registry.release`.
-/
import Sidecar.Settings
import Sidecar.SystemError
import Sidecar.Transport.Endpoint

namespace Sidecar

/-- The ports that live endpoints hold. -/
structure Registry where
  ports : List Nat := []
  deriving DecidableEq, Repr

/-- Why no endpoint was allocated. -/
inductive AllocateError where
  | exhausted (probes : Nat)
  | leased (port : Nat)
  | probe (host : Net.Address) (cause : SystemError)
  deriving DecidableEq, Repr

def AllocateError.message : AllocateError → String
  | .exhausted n => s!"no unleased port found after {n} probes"
  | .leased port => s!"port {port} is leased by another session"
  | .probe host cause => s!"probing for a free port on {host.render}: {cause.message}"

namespace Registry

/-- How often the system is asked for a free port. -/
def maxProbes : Nat := 16

def isLeased (r : Registry) (port : Nat) : Bool := r.ports.contains port

def count (r : Registry) : Nat := r.ports.length

/-- Takes the lease for a port that is not leased. -/
def lease? (r : Registry) (port : Nat) : Option Registry :=
  if r.isLeased port then none else some ⟨port :: r.ports⟩

/-- Gives the lease of an endpoint back. -/
def release (r : Registry) (e : Endpoint) : Registry :=
  match e.port? with
  | some p => ⟨r.ports.erase p⟩
  | none => r

/-- Asks for a free port until one is not leased; `left` questions are left. -/
def probe (r : Registry) (host : Net.Address) (ask : Nat → Except SystemError Nat) :
    (left : Nat) → Except AllocateError (Endpoint × Registry)
  | 0 => .error (.exhausted maxProbes)
  | left + 1 =>
    match ask (maxProbes - (left + 1)) with
    | .error e => .error (.probe host e)
    | .ok port =>
      match r.lease? port with
      | some r' => .ok (.socket host port, r')
      | none => probe r host ask left

/-- An endpoint for the settings. `path` is a fresh path for a local socket and `ask` is what
the system answers to each question for a free port. -/
def allocate (r : Registry) (s : TransportSettings) (path : String)
    (ask : Nat → Except SystemError Nat) : Except AllocateError (Endpoint × Registry) :=
  match s.kind with
  | .stdio => .ok (.stdio, r)
  | .ipc => .ok (.ipc path, r)
  | .socket =>
    match s.port with
    | some port =>
      match r.lease? port with
      | some r' => .ok (.socket s.host port, r')
      | none => .error (.leased port)
    | none => r.probe s.host ask maxProbes

end Registry

end Sidecar
