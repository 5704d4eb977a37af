/-
# Reading frames

A reader takes header lines up to a blank one, and then as many bytes as the
last `Content-Length` says. It works on the bytes that have arrived: if they
are not enough to decide and the stream has not ended, it waits for more.
Each outcome says what is left of the bytes, so that the next read goes on
where this one stopped.

Key definitions:
* `Frame.read`, one read on the bytes that have arrived;
* `Frame.readAll`, reads until the end or until so many errors.
-/
import Sidecar.Frame.Basic
import Sidecar.Text.Blank

namespace Sidecar.Frame

/-- Splits off the line in front, its line feed included; nothing if there is no line feed. -/
def line? (bs : List UInt8) : Option (List UInt8 × List UInt8) :=
  match bs.dropWhile (· != 0x0A) with
  | [] => none
  | b :: rest => some (bs.takeWhile (· != 0x0A) ++ [b], rest)

/-- The line in front: complete, cut off by the end of the stream, or still to come. -/
inductive NextLine where
  | line (bytes rest : List UInt8)
  | none
  | awaiting

def nextLine (ended : Bool) (bs : List UInt8) : NextLine :=
  match line? bs with
  | some (l, rest) => .line l rest
  | none => if !ended then .awaiting else if bs.isEmpty then .none else .line bs []

/-- A number of at most 64 bits, with or without a plus sign. -/
def length? (cs : List Char) : Option Nat :=
  let ds := match cs with
    | '+' :: r => r
    | _ => cs
  if ds.isEmpty || !ds.all Text.isDigit then none
  else
    let n := Text.digitsValue ds
    if n < UInt64.size then some n else none

/-- What one header line says. -/
inductive HeaderLine where
  /-- The headers end here. -/
  | blank
  | length (n : Nat)
  | other
  | bad (e : Error)

/-- The meaning of a header line. -/
def headerLine (bs : List UInt8) : HeaderLine :=
  match Utf8.decode bs with
  | .error e => .bad (.stream s!"reading header line: {e.message}")
  | .ok cs =>
    let text := Text.trimChars cs
    if text.isEmpty then .blank
    else
      match Text.splitFirst ':' text with
      | none => .other
      | some (name, value) =>
        if Text.sameLetters (Text.trimChars name) "Content-Length".toList then
          let value := Text.trimChars value
          match length? value with
          | some n => .length n
          | none => .bad (.invalidLength (String.ofList value))
        else .other

/-- What a read came to, with the bytes that are left. -/
inductive Outcome (α : Type) where
  | done (a : α) (rest : List UInt8)
  | failed (e : Error) (rest : List UInt8)
  /-- The stream ended where a frame would have begun. -/
  | ended
  /-- The bytes that have arrived do not decide. -/
  | awaiting

/-- The headers of a frame: the length of the body. `first` as long as no line was read, and
`found` is the length seen last. -/
def headers (ended : Bool) : Nat → (first : Bool) → (found : Option Nat) → List UInt8 → Outcome Nat
  | 0, _, _, bs => .failed .truncatedHeaders bs
  | fuel + 1, first, found, bs =>
    match nextLine ended bs with
    | .awaiting => .awaiting
    | .none => if first then .ended else .failed .truncatedHeaders []
    | .line l rest =>
      match headerLine l with
      | .bad e => .failed e rest
      | .length n => headers ended fuel false (some n) rest
      | .other => headers ended fuel false found rest
      | .blank =>
        match found with
        | none => .failed .missingLength rest
        | some n => if maxBody < n then .failed (.tooLarge n) rest else .done n rest

/-- The body of a frame. -/
def body (ended : Bool) (n : Nat) (bs : List UInt8) : Outcome Json :=
  let taken := bs.take n
  if taken.length < n then
    if ended then .failed (.stream "reading frame body: early eof") [] else .awaiting
  else
    match Json.parse taken with
    | .ok v => .done v (bs.drop n)
    | .error e => .failed (.notJson e) (bs.drop n)

/-- One read on the bytes that have arrived. -/
def read (ended : Bool) (bs : List UInt8) : Outcome Json :=
  match headers ended (bs.length + 1) true none bs with
  | .done n rest => body ended n rest
  | .failed e rest => .failed e rest
  | .ended => .ended
  | .awaiting => .awaiting

/-- What reading a whole stream gives, item by item. -/
inductive Item where
  | frame (v : Json)
  | error (e : Error)
  | ended

/-- Reads a whole stream until its end or until `errors` errors were seen. -/
def readAll : Nat → (errors : Nat) → List UInt8 → List Item
  | 0, _, _ => []
  | fuel + 1, errors, bs =>
    match read true bs with
    | .done v rest => .frame v :: readAll fuel errors rest
    | .failed e rest =>
      if errors ≤ 1 then [.error e] else .error e :: readAll fuel (errors - 1) rest
    | .ended => [.ended]
    | .awaiting => []

/-- The items of a whole stream. -/
def items (errors : Nat) (bs : List UInt8) : List Item := readAll (bs.length + 1) errors bs

end Sidecar.Frame
