/-
# Lines of output

What a process prints is cut into lines and told to the output channel, line
by line. The server's output is read to its end whatever bytes it holds; what
is not UTF-8 is replaced. The installer's output is read as text: reading
ends at the first line that is not UTF-8. Blank lines are left out, and white
space at the end of a line is cut.

Key definitions: `Output.lines`, `Output.drain`, `Output.forward`.
-/
import Sidecar.Text.Blank
import Sidecar.Text.Utf8

namespace Sidecar.Output

/-- The byte that ends a line. -/
def newline : UInt8 := 10

/-- The lines of a stream, each with its end; `line` holds the begun line in reverse. -/
def linesFrom (line : List UInt8) : List UInt8 → List (List UInt8)
  | [] => if line.isEmpty then [] else [line.reverse]
  | b :: rest =>
    if b == newline then (b :: line).reverse :: linesFrom [] rest else linesFrom (b :: line) rest

/-- The lines of a stream, each with its end; the last one may have none. -/
def lines (bs : List UInt8) : List (List UInt8) := linesFrom [] bs

/-- The text of a line of the server, unless it is blank. -/
def serverText? (line : List UInt8) : Option String :=
  let text := Text.trimEnd (String.ofList (Utf8.lossy line))
  if text.isEmpty then none else some text

/-- What the output channel is told of the server's output. -/
def drain (bs : List UInt8) : List String := (lines bs).filterMap serverText?

/-- A line without its end. -/
def chomp (line : List UInt8) : List UInt8 :=
  match line.reverse with
  | 10 :: 13 :: r => r.reverse
  | 10 :: r => r.reverse
  | _ => line

/-- The lines of the installer up to the first that is not UTF-8. -/
def forwardLines : List (List UInt8) → List String
  | [] => []
  | line :: rest =>
    match Utf8.toString? (chomp line) with
    | none => []
    | some text =>
      if (Text.trim text).isEmpty then forwardLines rest
      else Text.trimEnd text :: forwardLines rest

/-- What the output channel is told of the installer's output. -/
def forward (bs : List UInt8) : List String := forwardLines (lines bs)

end Sidecar.Output
