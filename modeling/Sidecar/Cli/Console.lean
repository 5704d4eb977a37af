/-
# The console

What a command shows: results go to the standard output, and entries of the
output channel to the standard error, with the name of the channel before
them. Entries that only inform are shown on request. A command that fails
shows what it was about, and below it the causes, each indented; several
causes are numbered.

Key definitions: `Console.entryLine?`, `Complaint.render`.
-/
import Sidecar.Sink
import Sidecar.Text.Ascii

namespace Sidecar

/-- Why a command failed: what it was about, and the causes, the nearest first. -/
structure Complaint where
  about : String
  causes : List String := []
  deriving DecidableEq, Repr

namespace Complaint

/-- A text with its lines after the first behind an indentation. -/
def indented (indentation text : String) : String :=
  String.intercalate ("\n" ++ indentation)
    ((Text.splitAll '\n' text.toList).map String.ofList)

/-- A cause on its own. -/
def alone (text : String) : String := "    " ++ indented "    " text

/-- A cause among several. -/
def numbered (n : Nat) (text : String) : String :=
  s!"    {n}: " ++ indented "       " text

/-- The text of a complaint, without the end of its last line. -/
def render (c : Complaint) : String :=
  "Error: " ++ c.about ++
    match c.causes with
    | [] => ""
    | [text] => "\n\nCaused by:\n" ++ alone text
    | texts => "\n\nCaused by:\n" ++
        String.intercalate "\n" ((texts.zipIdx).map fun (t, n) => numbered n t)

end Complaint

namespace Console

/-- How an entry of the output channel is shown, if it is. -/
def entryLine? (name : String) (verbose : Bool) (e : Entry) : Option String :=
  match e.level with
  | .info => if verbose then some ("[" ++ name ++ "] " ++ e.text) else none
  | .warn => some ("[" ++ name ++ "] warning: " ++ e.text)
  | .error => some ("[" ++ name ++ "] error: " ++ e.text)

/-- The lines of the standard error for an output channel. -/
def entryLines (s : Sink) (verbose : Bool) : List String :=
  s.entries.filterMap (entryLine? s.name verbose)

end Console

end Sidecar
