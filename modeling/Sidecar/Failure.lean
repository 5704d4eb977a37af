/-
# Failures

Why a session could not start or did not last: a kind from a short list, the
stage it happened in, and the detail. Each kind has fixed advice for the
user.
-/
import Sidecar.Sink
import Sidecar.Stage

namespace Sidecar

/-- The kinds of failure. -/
inductive FailureKind where
  | provisioningFailed
  | launchFailed
  | bindTimeout
  | connectionRefused
  | transportError
  | processExited
  deriving DecidableEq, Repr

namespace FailureKind

def all : List FailureKind :=
  [provisioningFailed, launchFailed, bindTimeout, connectionRefused, transportError, processExited]

def label : FailureKind → String
  | provisioningFailed => "provisioning-failed"
  | launchFailed => "launch-failed"
  | bindTimeout => "bind-timeout"
  | connectionRefused => "connection-refused"
  | transportError => "transport-error"
  | processExited => "process-exited"

def ofLabel? (s : String) : Option FailureKind := all.find? fun k => k.label == s

/-- What the user is told to do. -/
def advice : FailureKind → String
  | provisioningFailed =>
    "The YARA language server is not installed. Run `yls install` and check the installer output."
  | launchFailed =>
    "The YARA language server could not be started. Check that the server runtime exists and " ++
      "is executable."
  | bindTimeout =>
    "The YARA language server did not start listening in time. It may have crashed on start; " ++
      "see the server output above."
  | connectionRefused =>
    "Connection to the YARA language server was refused. The server is probably not running; " ++
      "restart the session to try again."
  | transportError =>
    "The connection to the YARA language server failed. Restart the session to reconnect."
  | processExited =>
    "The YARA language server exited unexpectedly. Restart the session to start a new server."

end FailureKind

/-- A failure with the stage the session was in when it happened. -/
structure Failure where
  kind : FailureKind
  stage : Stage
  message : String
  deriving DecidableEq, Repr

namespace Failure

def display (f : Failure) : String :=
  s!"{f.kind.label} while {f.stage.label}: {f.message}"

/-- The advice followed by the detail. -/
def userText (f : Failure) : String := s!"{f.kind.advice} ({f.message})"

/-- Tells the user. -/
def report (f : Failure) (s : Sink) : Sink := s.add .error f.userText

end Failure

end Sidecar
