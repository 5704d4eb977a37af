/-
# Properties of characters

A property that runs of characters share is written as rows of words. Each
word starts a run at the code point in front of its colon, in hexadecimal, and
says behind the colon what the characters of the run have in common.

Key definitions: `Text.Spans`, `Text.Spans.ofRows`, `Text.Spans.valueAt`.
-/
import Sidecar.Text.Ascii

namespace Sidecar.Text

/-- The value of hexadecimal digits. -/
def hexNumber (cs : List Char) : Nat :=
  cs.foldl (fun n c => n * 16 + (hexValue? c).getD 0) 0

/-- The words of rows. -/
def wordsOf (rows : List String) : List (List Char) := rows.flatMap fun r => splitAll ' ' r.toList

/-- Where runs start, in order, and what the characters of each have in common. -/
structure Spans (α : Type) where
  runs : Array (Nat × α)

namespace Spans

variable {α : Type}

/-- The runs that rows write; a name stands for a value. -/
def ofRows (value : List Char → α) (rows : List String) : Spans α :=
  ⟨((wordsOf rows).filterMap fun w =>
    (splitFirst ':' w).map fun (start, name) => (hexNumber start, value name)).toArray⟩

/-- The value of the last run that starts at a code point or before it. -/
def valueAt (s : Spans α) (default : α) (n : Nat) : α :=
  s.runs.foldl (fun v r => if r.1 ≤ n then r.2 else v) default

end Spans

end Sidecar.Text
