/-
# Compact JSON text

No blanks between tokens, members in key order, short escapes where there
are some, and nothing escaped that need not be.

Key definitions:
* `Json.render`, the text of a value;
* `Json.encode`, its bytes.
-/
import Sidecar.Json.Basic
import Sidecar.Decimal.Layout
import Sidecar.Text.Ascii
import Sidecar.Text.Utf8

namespace Sidecar.Json

/-- One character inside a JSON string. -/
def escapeChar (c : Char) : List Char :=
  if c == '"' then ['\\', '"']
  else if c == '\\' then ['\\', '\\']
  else if 0x20 ≤ c.toNat then [c]
  else if c == '\n' then ['\\', 'n']
  else if c == '\r' then ['\\', 'r']
  else if c == '\t' then ['\\', 't']
  else if c.toNat == 8 then ['\\', 'b']
  else if c.toNat == 12 then ['\\', 'f']
  else ['\\', 'u', '0', '0', Text.hexDigit (c.toNat / 16), Text.hexDigit (c.toNat % 16)]

/-- A string between its quotes. -/
def renderString (s : String) : List Char :=
  '"' :: s.toList.flatMap escapeChar ++ ['"']

/-- A whole number in decimal digits. -/
def renderInt (i : Int) : List Char :=
  if i < 0 then '-' :: Nat.toDigits 10 i.natAbs else Nat.toDigits 10 i.natAbs

/-- A number; one that is not finite has no JSON text and is written as null. -/
def Number.render : Number → List Char
  | .int i => renderInt i
  | .float x =>
    if x.isNaN || x.isInfinite then ['n', 'u', 'l', 'l'] else Decimal.jsonLayout.render x

/-- `text`, last character first, in front of `acc`. -/
def push (text acc : List Char) : List Char := text.reverseAux acc

mutual

/-- The text of a value, last character first, in front of `acc`. -/
def renderOnto : Json → List Char → List Char
  | .null, acc => push ['n', 'u', 'l', 'l'] acc
  | .bool true, acc => push ['t', 'r', 'u', 'e'] acc
  | .bool false, acc => push ['f', 'a', 'l', 's', 'e'] acc
  | .num n, acc => push n.render acc
  | .str s, acc => push (renderString s) acc
  | .arr [], acc => push ['[', ']'] acc
  | .arr (x :: xs), acc => ']' :: itemsOnto xs (renderOnto x ('[' :: acc))
  | .obj [], acc => push ['\x7b', '\x7d'] acc
  | .obj ((k, x) :: ms), acc =>
    '\x7d' :: membersOnto ms (renderOnto x (':' :: push (renderString k) ('\x7b' :: acc)))

/-- The items after the first one, each behind a comma. -/
def itemsOnto : List Json → List Char → List Char
  | [], acc => acc
  | x :: xs, acc => itemsOnto xs (renderOnto x (',' :: acc))

/-- The members after the first one, each behind a comma. -/
def membersOnto : List (String × Json) → List Char → List Char
  | [], acc => acc
  | (k, x) :: ms, acc =>
    membersOnto ms (renderOnto x (':' :: push (renderString k) (',' :: acc)))

end

/-- The compact text of a value. -/
def renderChars (v : Json) : List Char := (renderOnto v []).reverse

/-- The compact text of a value, as a string. -/
def render (v : Json) : String := String.ofList v.renderChars

/-- The bytes of the compact text of a value. -/
def encode (v : Json) : List UInt8 := Utf8.encode v.renderChars

end Sidecar.Json
