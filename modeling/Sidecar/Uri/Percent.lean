/-
# Percent encoding

A byte is written as a percent sign and two hexadecimal digits. In a segment
of a path the bytes are encoded that have a meaning of their own there or
that are no printable ASCII.
-/
import Sidecar.Text.Ascii
import Sidecar.Text.Utf8

namespace Sidecar.Uri

/-- The printable characters that do not stand for themselves in a segment. -/
def reserved : List Char :=
  [' ', '"', '#', '%', '/', '<', '>', '?', '\\', '^', '`', '\x7b', '|', '\x7d']

/-- Whether a byte stands for itself in a segment. -/
def isPlainByte (b : UInt8) : Bool :=
  0x20 ≤ b && b < 0x7F && !reserved.contains (Char.ofNat b.toNat)

def encodeByte (b : UInt8) : List Char :=
  if isPlainByte b then [Char.ofNat b.toNat]
  else ['%', Text.hexDigitUpper (b.toNat / 16), Text.hexDigitUpper (b.toNat % 16)]

/-- The text of a segment. -/
def encodeSegment (bs : List UInt8) : List Char := bs.flatMap encodeByte

/-- The bytes that a text with percent signs stands for; a percent sign without two
hexadecimal digits stands for itself. -/
def decodePercent : List UInt8 → List UInt8
  | [] => []
  | b :: r =>
    if b == 0x25 then
      match r with
      | [] => [b]
      | [x] => [b, x]
      | x :: y :: r' =>
        match Text.hexValue? (Char.ofNat x.toNat), Text.hexValue? (Char.ofNat y.toNat) with
        | some h, some l => UInt8.ofNat (h * 16 + l) :: decodePercent r'
        | _, _ => b :: decodePercent (x :: y :: r')
    else b :: decodePercent r

end Sidecar.Uri
