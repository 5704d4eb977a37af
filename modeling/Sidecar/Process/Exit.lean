/-
# How processes start and end

A process ends with an exit code or by a signal. It may fail to start because
there is no such program, because it may not be run, or for another reason.
-/
import Sidecar.SystemError

namespace Sidecar

/-- How a process ended. -/
structure Exit where
  code : Option Int := none
  signal : Option Nat := none
  deriving DecidableEq, Repr

namespace Exit

def ofCode (c : Int) : Exit := { code := some c }

def ofSignal (n : Nat) : Exit := { signal := some n }

def success (e : Exit) : Bool := e.code == some 0

def render (e : Exit) : String :=
  match e.code, e.signal with
  | some c, _ => s!"exit code {c}"
  | none, some n => s!"signal {n}"
  | none, none => "unknown status"

end Exit

/-- Why a program did not start. -/
inductive SpawnError where
  | notFound (program : String)
  | permissionDenied (program : String)
  | system (program : String) (cause : SystemError)
  deriving DecidableEq, Repr

namespace SpawnError

def message : SpawnError → String
  | notFound p => s!"{p} not found"
  | permissionDenied p => s!"permission denied executing {p}"
  | system p cause => s!"failed to spawn {p}: {cause.message}"

/-- The error that a system error comes to. -/
def ofSystem (program : String) : SystemError → SpawnError
  | .notFound => notFound program
  | .number 2 => notFound program
  | .permissionDenied => permissionDenied program
  | .number 13 => permissionDenied program
  | e => system program e

end SpawnError

end Sidecar
