/-
# The stages of a session

A session goes through its stages in one line, from `uninstalled` to
`stopped`. Two moves leave the line: stopping may interrupt any stage before
it, and failure may end any stage that is not an end already. `stopped` and
`failed` are ends.

Key definitions: `Stage`, `Stage.allows`.
-/
namespace Sidecar

/-- A stage in the life of a session. -/
inductive Stage where
  | uninstalled
  | installing
  | installed
  | launching
  | awaitingBind
  | connecting
  | active
  | stopping
  | stopped
  | failed
  deriving DecidableEq, Repr, Inhabited

namespace Stage

/-- All stages, in the order of a life. -/
def all : List Stage :=
  [uninstalled, installing, installed, launching, awaitingBind, connecting, active, stopping,
    stopped, failed]

def label : Stage → String
  | uninstalled => "uninstalled"
  | installing => "installing"
  | installed => "installed"
  | launching => "launching"
  | awaitingBind => "awaiting-bind"
  | connecting => "connecting"
  | active => "active"
  | stopping => "stopping"
  | stopped => "stopped"
  | failed => "failed"

/-- The name of the stage in structural displays. -/
def typeName : Stage → String
  | uninstalled => "Uninstalled"
  | installing => "Installing"
  | installed => "Installed"
  | launching => "Launching"
  | awaitingBind => "AwaitingBind"
  | connecting => "Connecting"
  | active => "Active"
  | stopping => "Stopping"
  | stopped => "Stopped"
  | failed => "Failed"

def ofLabel? (s : String) : Option Stage := all.find? fun x => x.label == s

/-- An end, never left once entered. -/
def isTerminal : Stage → Bool
  | stopped => true
  | failed => true
  | _ => false

/-- Strictly between `uninstalled` and `active`. -/
def isStarting : Stage → Bool
  | installing => true
  | installed => true
  | launching => true
  | awaitingBind => true
  | connecting => true
  | _ => false

/-- Whether a session may move from the first stage to the second. -/
def allows (s next : Stage) : Bool :=
  !s.isTerminal &&
    match next with
    | failed => true
    | stopping => s != stopping
    | stopped => s == stopping
    | installing => s == uninstalled
    | installed => s == installing
    | launching => s == installed
    | awaitingBind => s == launching
    | connecting => s == awaitingBind
    | active => s == connecting
    | uninstalled => false

/-- The stages a session may move to. -/
def successors (s : Stage) : List Stage := all.filter s.allows

/-- Moves if the move is allowed, and stays otherwise. -/
def move (s next : Stage) : Stage := if s.allows next then next else s

theorem allows_of_isTerminal {s : Stage} (h : s.isTerminal = true) (t : Stage) :
    s.allows t = false := by
  simp [allows, h]

end Stage

end Sidecar
