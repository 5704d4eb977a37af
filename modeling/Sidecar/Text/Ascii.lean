/-
# ASCII letters

Case folding that touches the letters `A` to `Z` only. Names in headers,
schemes, file extensions and transport kinds are compared this way, so that
`K` and the Kelvin sign stay different.
-/
namespace Sidecar.Text

def isUpper (c : Char) : Bool := 'A' ≤ c && c ≤ 'Z'

def isLower (c : Char) : Bool := 'a' ≤ c && c ≤ 'z'

def isLetter (c : Char) : Bool := isUpper c || isLower c

def isDigit (c : Char) : Bool := '0' ≤ c && c ≤ '9'

/-- The lower case of an ASCII letter; any other character is left alone. -/
def lowerChar (c : Char) : Char := if isUpper c then Char.ofNat (c.toNat + 32) else c

def lower (s : String) : String := String.ofList (s.toList.map lowerChar)

/-- Equality up to the case of ASCII letters. -/
def sameLetters (a b : List Char) : Bool := a.map lowerChar == b.map lowerChar

/-- The value of a hexadecimal digit. -/
def hexValue? (c : Char) : Option Nat :=
  if isDigit c then some (c.toNat - '0'.toNat)
  else if 'a' ≤ c && c ≤ 'f' then some (c.toNat - 'a'.toNat + 10)
  else if 'A' ≤ c && c ≤ 'F' then some (c.toNat - 'A'.toNat + 10)
  else none

/-- The digit with value `n < 16`, in lower case. -/
def hexDigit (n : Nat) : Char :=
  if n < 10 then Char.ofNat ('0'.toNat + n) else Char.ofNat ('a'.toNat + n - 10)

/-- The digit with value `n < 16`, in upper case. -/
def hexDigitUpper (n : Nat) : Char :=
  if n < 10 then Char.ofNat ('0'.toNat + n) else Char.ofNat ('A'.toNat + n - 10)

/-- The digits of `n` in a base of at most 16, most significant first. -/
def digitsIn (base : Nat) (n : Nat) : List Char := Nat.toDigits base n

/-- The value of a run of decimal digits, read from the left. -/
def digitsValue (cs : List Char) : Nat :=
  cs.foldl (fun n c => n * 10 + (c.toNat - '0'.toNat)) 0

/-- Splits at the first `sep`, which belongs to neither side. -/
def splitFirst (sep : Char) (cs : List Char) : Option (List Char × List Char) :=
  match cs.dropWhile (· != sep) with
  | [] => none
  | _ :: rest => some (cs.takeWhile (· != sep), rest)

/-- The pieces between the occurrences of `sep`; one more piece than occurrences. -/
def splitAll (sep : Char) (cs : List Char) : List (List Char) :=
  let (done, last) := cs.foldl (fun (acc : List (List Char) × List Char) c =>
    if c == sep then (acc.2.reverse :: acc.1, []) else (acc.1, c :: acc.2)) ([], [])
  (last.reverse :: done).reverse

/-- Whether `needle` occurs in the text. -/
def contains (needle : List Char) : List Char → Bool
  | [] => needle.isEmpty
  | c :: cs => needle.isPrefixOf (c :: cs) || contains needle cs

end Sidecar.Text
