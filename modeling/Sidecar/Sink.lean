/-
# The output channel

Server output, installer output and failures are reported to a named channel
that keeps its entries in order.
-/
import Sidecar.Text.Ascii

namespace Sidecar

/-- How serious an entry is. -/
inductive Level where
  | info
  | warn
  | error
  deriving DecidableEq, Repr

def Level.label : Level → String
  | .info => "info"
  | .warn => "warn"
  | .error => "error"

def Level.ofLabel? : String → Option Level
  | "info" => some .info
  | "warn" => some .warn
  | "error" => some .error
  | _ => none

/-- One line of the channel. -/
structure Entry where
  level : Level
  text : String
  deriving DecidableEq, Repr

/-- The name of the channel when none is given. -/
def defaultChannel : String := "YARA"

/-- A named channel with its entries, oldest first. -/
structure Sink where
  name : String := defaultChannel
  entries : List Entry := []
  deriving DecidableEq, Repr

namespace Sink

def add (s : Sink) (level : Level) (text : String) : Sink :=
  { s with entries := s.entries ++ [⟨level, text⟩] }

/-- Whether some entry of the level contains the text. -/
def contains (s : Sink) (level : Level) (text : String) : Bool :=
  s.entries.any fun e => e.level == level && Text.contains text.toList e.text.toList

@[simp] theorem entries_add (s : Sink) (l : Level) (t : String) :
    (s.add l t).entries = s.entries ++ [⟨l, t⟩] := rfl

end Sink

end Sidecar
