/-
# Quoted text

A text between double quotes, as error messages show it: the quote, the
backslash and the common controls have short escapes, and a character that
is not shown as itself is written with its code point in hexadecimal.
-/
import Sidecar.Text.Ascii
import Sidecar.Text.Plain

namespace Sidecar.Text

/-- One character inside double quotes. -/
def quoteChar (c : Char) : List Char :=
  if c == '"' then ['\\', '"']
  else if c == '\\' then ['\\', '\\']
  else if c == '\n' then ['\\', 'n']
  else if c == '\r' then ['\\', 'r']
  else if c == '\t' then ['\\', 't']
  else if c == Char.ofNat 0 then ['\\', '0']
  else if 0x20 ≤ c.toNat && c.toNat < 0x7F then [c]
  else if isPlain c then [c]
  else ['\\', 'u', '\x7b'] ++ digitsIn 16 c.toNat ++ ['\x7d']

/-- A text between double quotes. -/
def quote (s : String) : String :=
  String.ofList ('"' :: s.toList.flatMap quoteChar ++ ['"'])

end Sidecar.Text
