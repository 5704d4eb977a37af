/-
# Writing frames

A frame is written as one header line with the length of the body, a blank
line, and the compact text of the value. A buffer of bounded size keeps what
fits and refuses the rest.

Key definitions:
* `Frame.encode`, the bytes of a frame;
* `Frame.Buffer.write`, a frame into a buffer;
* `Frame.Buffer.writeAll`, frames in turn.
-/
import Sidecar.Frame.Basic
import Sidecar.Json.Printer

namespace Sidecar.Frame

/-- The headers of a frame whose body has `n` bytes. -/
def header (n : Nat) : List UInt8 :=
  Utf8.encode ("Content-Length: ".toList ++ Nat.toDigits 10 n ++ ['\r', '\n', '\r', '\n'])

/-- The bytes of a frame. -/
def encode (v : Json) : List UInt8 :=
  let body := v.encode
  header body.length ++ body

/-- Bytes written so far into a buffer of `capacity` bytes. -/
structure Buffer where
  capacity : Nat
  bytes : List UInt8 := []

namespace Buffer

def room (b : Buffer) : Nat := b.capacity - b.bytes.length

/-- Adds what fits. -/
def add (b : Buffer) (bs : List UInt8) : Buffer :=
  { b with bytes := b.bytes ++ bs.take b.room }

/-- Writes a frame: the headers, then the body. -/
def write (b : Buffer) (v : Json) : Except Error Unit × Buffer :=
  let body := v.encode
  let head := header body.length
  let b₁ := b.add head
  if b.room < head.length then (.error (.stream "writing frame header: write zero"), b₁)
  else if b₁.room < body.length then
    (.error (.stream "writing frame body: write zero"), b₁.add body)
  else (.ok (), b₁.add body)

/-- Writes frames in turn, whatever became of the ones before. -/
def writeAll (b : Buffer) : List Json → List (Except Error Unit) × Buffer
  | [] => ([], b)
  | v :: vs =>
    let (result, b) := b.write v
    let (results, b) := b.writeAll vs
    (result :: results, b)

end Buffer

end Sidecar.Frame
