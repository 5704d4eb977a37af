/-
# Faults in JSON text

What can be wrong with a text that should be JSON, and where: the line,
counted from one, and how many bytes of it were read.

Key definitions: `Json.Flaw`, `Json.Fault`, `Json.Fault.message`.
-/
namespace Sidecar.Json

/-- What is wrong with a text. -/
inductive Flaw where
  | endInList
  | endInObject
  | endInString
  | endInValue
  | wantedColon
  | wantedListEnd
  | wantedObjectEnd
  | wantedWord
  | wantedValue
  | wantedKey
  | badEscape
  | badNumber
  | hugeNumber
  | badText
  | controlCharacter
  | loneSurrogate
  | brokenPair
  | trailingComma
  | trailingText
  | tooDeep
  deriving DecidableEq, Repr

namespace Flaw

/-- Whether the text is the front of something longer. -/
def isEnd : Flaw → Bool
  | endInList | endInObject | endInString | endInValue => true
  | _ => false

def message : Flaw → String
  | endInList => "EOF while parsing a list"
  | endInObject => "EOF while parsing an object"
  | endInString => "EOF while parsing a string"
  | endInValue => "EOF while parsing a value"
  | wantedColon => "expected `:`"
  | wantedListEnd => "expected `,` or `]`"
  | wantedObjectEnd => "expected `,` or `\x7d`"
  | wantedWord => "expected ident"
  | wantedValue => "expected value"
  | wantedKey => "key must be a string"
  | badEscape => "invalid escape"
  | badNumber => "invalid number"
  | hugeNumber => "number out of range"
  | badText => "invalid unicode code point"
  | controlCharacter => "control character (\\u0000-\\u001F) found while parsing a string"
  | loneSurrogate => "lone leading surrogate in hex escape"
  | brokenPair => "unexpected end of hex escape"
  | trailingComma => "trailing comma"
  | trailingText => "trailing characters"
  | tooDeep => "recursion limit exceeded"

end Flaw

/-- A flaw and how many bytes behind it were not read. -/
structure Stop where
  flaw : Flaw
  left : Nat
  deriving DecidableEq, Repr

/-- A flaw in front of which reading stopped. -/
def stop {α : Type} (flaw : Flaw) (rest : List UInt8) : Except Stop α := .error ⟨flaw, rest.length⟩

/-- A flaw that the next byte shows, if there is one. -/
def stopAt {α : Type} (flaw : Flaw) (rest : List UInt8) : Except Stop α :=
  .error ⟨flaw, rest.length - 1⟩

/-- A flaw and its place in a text. -/
structure Fault where
  flaw : Flaw
  line : Nat
  column : Nat
  deriving DecidableEq, Repr

namespace Fault

/-- Where reading stopped in a text. -/
def ofStop (text : List UInt8) (s : Stop) : Fault :=
  let read := text.take (text.length - s.left)
  { flaw := s.flaw
    line := 1 + read.count 0x0A
    column := (read.reverse.takeWhile (· != 0x0A)).length }

/-- The flaw and its place in words. -/
def message (f : Fault) : String := s!"{f.flaw.message} at line {f.line} column {f.column}"

end Fault

end Sidecar.Json
