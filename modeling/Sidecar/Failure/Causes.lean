/-
# From causes to failures

What each thing that can go wrong means for a session: the kind of failure,
the stage it belongs to, and the text.
-/
import Sidecar.Client.ChannelEnd
import Sidecar.Failure
import Sidecar.Process.Exit
import Sidecar.Transport.Connect
import Sidecar.Transport.Lease

namespace Sidecar.Failure

/-- There is no usable environment. -/
def ofProvisioning (target : String) (autoInstall : Bool) : Failure :=
  ⟨.provisioningFailed, .installing,
    if autoInstall then s!"installer did not produce a usable environment at {target}"
    else s!"no server environment at {target} and automatic install is disabled"⟩

def ofSpawn (e : SpawnError) : Failure := ⟨.launchFailed, .launching, e.message⟩

/-- A leased port counts as one that cannot be bound. -/
def ofAllocate (e : AllocateError) : Failure :=
  ⟨match e with
    | .leased _ => .bindTimeout
    | _ => .transportError, .launching, e.message⟩

def ofOccupied (e : Endpoint) : Failure :=
  ⟨.bindTimeout, .launching, s!"{e.render} is already in use by another process"⟩

def ofBindTimeout (e : Endpoint) (after : Duration) : Failure :=
  ⟨.bindTimeout, .awaitingBind, s!"nothing listening on {e.render} after {after.render}"⟩

/-- Refusal and absence mean that the server is not running. -/
def ofConnect (e : ConnectError) : Failure :=
  ⟨match e with
    | .refused _ => .connectionRefused
    | .notFound _ => .connectionRefused
    | _ => .transportError, .connecting, e.message⟩

def ofExit (e : Exit) : Failure := ⟨.processExited, .active, s!"server exited with {e.render}"⟩

/-- The channel ended; `exit` if the server exited at about the same time. -/
def ofChannelLoss (c : ChannelEnd) (exit : Option Exit) : Failure :=
  match exit with
  | some e => ⟨.processExited, .active, s!"channel {c.message}; server exited with {e.render}"⟩
  | none =>
    ⟨.transportError, .active, s!"channel {c.message} while the server is still running"⟩

end Sidecar.Failure
