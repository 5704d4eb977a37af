/-
# Diagnostics

What the server has to say about a place in a rule file. Positions count from
zero and are shown counting from one; the shown position has 32 bits as well,
so the last line and the last column cannot be shown.
-/
namespace Sidecar

inductive Severity where
  | error
  | warning
  | information
  | hint
  deriving DecidableEq, Repr

namespace Severity

/-- The severity with the given number. -/
def ofNumber? : Nat → Option Severity
  | 1 => some error
  | 2 => some warning
  | 3 => some information
  | 4 => some hint
  | _ => none

def label : Severity → String
  | error => "error"
  | warning => "warning"
  | information => "info"
  | hint => "hint"

end Severity

/-- A message about the start of a range. -/
structure Diagnostic where
  severity : Severity
  message : String
  line : UInt32
  col : UInt32
  source : String
  deriving DecidableEq, Repr

namespace Diagnostic

/-- The number after `n`, if 32 bits can hold it. -/
def oneBased? (n : UInt32) : Option Nat :=
  if n.toNat + 1 < UInt32.size then some (n.toNat + 1) else none

/-- The text for the user, if its position can be shown. -/
def display? (d : Diagnostic) : Option String := do
  let line ← oneBased? d.line
  let col ← oneBased? d.col
  return s!"{line}:{col}: {d.severity.label}: [{d.source}] {d.message}"

end Diagnostic

end Sidecar
