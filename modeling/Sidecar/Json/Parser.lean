/-
# Reading JSON

A reader takes bytes and returns a value with the bytes behind it, or says
why there is none and where it stopped.
Containers nest at most 127 deep. A whole number that fits 64 bits, signed or
not, stays whole; any other number becomes a floating point number, computed
from at most the first 64 bits of its digits by one multiplication or by
divisions by powers of ten.

Key definitions:
* `Json.parse`, the value a byte sequence is the text of;
* `Json.value`, one value at the front of the input.
-/
import Sidecar.Json.Basic
import Sidecar.Json.Fault
import Sidecar.Text.Ascii
import Sidecar.Text.Utf8

namespace Sidecar.Json

/-- Takes something off the front of the input. -/
abbrev Reader (α : Type) := List UInt8 → Except Stop (α × List UInt8)

/-- The code of an ASCII character. -/
def code (c : Char) : UInt8 := UInt8.ofNat c.toNat

def isSpace (b : UInt8) : Bool := b == 0x20 || b == 0x0A || b == 0x09 || b == 0x0D

def isDigitByte (b : UInt8) : Bool := 0x30 ≤ b && b ≤ 0x39

def digitValue (b : UInt8) : Nat := b.toNat - 0x30

def skipSpace (bs : List UInt8) : List UInt8 := bs.dropWhile isSpace

/-- The rest of a word. -/
def expect : List UInt8 → List UInt8 → Except Stop (List UInt8)
  | [], bs => .ok bs
  | _ :: _, [] => stop .endInValue []
  | w :: ws, b :: bs => if w == b then expect ws bs else stop .wantedWord bs

/-! ### Strings -/

/-- The value of four hexadecimal digits. -/
def hex4? (a b c d : UInt8) : Option Nat := do
  let digit (x : UInt8) : Option Nat := Text.hexValue? (Char.ofNat x.toNat)
  return (((← digit a) * 16 + (← digit b)) * 16 + (← digit c)) * 16 + (← digit d)

/-- The byte a one-letter escape stands for. -/
def shortEscape? (b : UInt8) : Option UInt8 :=
  if b == code '"' then some (code '"')
  else if b == code '\\' then some (code '\\')
  else if b == code '/' then some (code '/')
  else if b == code 'b' then some 8
  else if b == code 'f' then some 12
  else if b == code 'n' then some 10
  else if b == code 'r' then some 13
  else if b == code 't' then some 9
  else none

/-- The bytes of a character, last byte first, in front of `acc`. -/
def pushChar (n : Nat) (acc : List UInt8) : List UInt8 :=
  (Utf8.encodeChar (Char.ofNat n)).reverseAux acc

/-- The rest of a string behind its opening quote; `acc` holds its bytes so far, last first.
The bytes must be UTF-8 as a whole, which is looked at when the closing quote is found. -/
def stringRest (acc : List UInt8) : Reader String
  | [] => stop .endInString []
  | b :: r =>
    if b == code '"' then
      match Utf8.decode acc.reverse with
      | .ok cs => .ok (String.ofList cs, r)
      | .error _ => stop .badText r
    else if b == code '\\' then
      match r with
      | [] => stop .endInString []
      | e :: r =>
        if e == code 'u' then
          match r with
          | h₁ :: h₂ :: h₃ :: h₄ :: r =>
            match hex4? h₁ h₂ h₃ h₄ with
            | none => stop .badEscape r
            | some n =>
              if 0xDC00 ≤ n && n ≤ 0xDFFF then stop .loneSurrogate r
              else if 0xD800 ≤ n && n ≤ 0xDBFF then
                match r with
                | [] => stop .endInString []
                | x :: r =>
                  if x != code '\\' then stop .brokenPair r
                  else
                    match r with
                    | [] => stop .endInString []
                    | y :: r =>
                      if y != code 'u' then stop .brokenPair r
                      else
                        match r with
                        | k₁ :: k₂ :: k₃ :: k₄ :: r =>
                          match hex4? k₁ k₂ k₃ k₄ with
                          | none => stop .badEscape r
                          | some m =>
                            if 0xDC00 ≤ m && m ≤ 0xDFFF then
                              stringRest
                                (pushChar (0x10000 + (n - 0xD800) * 1024 + (m - 0xDC00)) acc) r
                            else stop .loneSurrogate r
                        | _ => stop .endInString []
              else stringRest (pushChar n acc) r
          | _ => stop .endInString []
        else
          match shortEscape? e with
          | some c => stringRest (c :: acc) r
          | none => stop .badEscape r
    else if b < 0x20 then stop .controlCharacter r
    else stringRest (b :: acc) r

/-! ### Numbers -/

/-- Digits taken into a number as long as it stays at most `most`: the number, how many digits
were taken, and the rest. -/
def absorb (most : Nat) : Nat → Nat → List UInt8 → Nat × Nat × List UInt8
  | n, k, [] => (n, k, [])
  | n, k, b :: r =>
    if isDigitByte b && n * 10 + digitValue b ≤ most then
      absorb most (n * 10 + digitValue b) (k + 1) r
    else (n, k, b :: r)

/-- Digits passed over: how many, and the rest. -/
def skipDigits : Nat → List UInt8 → Nat × List UInt8
  | k, [] => (k, [])
  | k, b :: r => if isDigitByte b then skipDigits (k + 1) r else (k, b :: r)

def startsWithDigit : List UInt8 → Bool
  | b :: _ => isDigitByte b
  | [] => false

/-- `10 ^ n`, rounded. -/
def powerOfTen (n : Nat) : Binary64 := Binary64.ofNat (Nat.pow 10 n)

/-- `f * 10 ^ e`: one multiplication upwards, divisions by at most `10 ^ 308` downwards, of which
the first few already leave zero. A number beyond all finite ones is none. -/
def scaleByTen? : Nat → Binary64 → Int → Option Binary64
  | 0, _, _ => some (Binary64.zero false)
  | fuel + 1, f, e =>
    if e.natAbs ≤ 308 then
      if 0 ≤ e then
        let g := f.mul (powerOfTen e.natAbs)
        if g.isInfinite then none else some g
      else some (f.div (powerOfTen e.natAbs))
    else if f.significand == 0 then some f
    else if 0 ≤ e then none
    else scaleByTen? fuel (f.div (powerOfTen 308)) (e + 308)

/-- The number `± n * 10 ^ e`, whose text ends in front of `rest`. -/
def floatBefore (rest : List UInt8) (negative : Bool) (n : Nat) (e : Int) :
    Except Stop (Number × List UInt8) :=
  match scaleByTen? 5 (Binary64.ofNat n) e with
  | some f => .ok (.float (if negative then f.neg else f), rest)
  | none => stop .hugeNumber rest

/-- The exponent behind its letter, for a number with the digits `n` and the exponent `e` so far. -/
def exponentRest (negative : Bool) (n : Nat) (e : Int) (bs : List UInt8) :
    Except Stop (Number × List UInt8) :=
  let (down, bs) := match bs with
    | b :: r => if b == code '+' then (false, r) else if b == code '-' then (true, r) else (false, bs)
    | [] => (false, [])
  match bs with
  | [] => stop .endInValue []
  | _ =>
    if !startsWithDigit bs then stopAt .badNumber bs
    else
      let (x, _, rest) := absorb 0x7FFFFFFF 0 0 bs
      if startsWithDigit rest then
        if n != 0 && !down then stopAt .hugeNumber rest
        else .ok (.float (Binary64.zero negative), (skipDigits 0 rest).2)
      else floatBefore rest negative n (if down then e - x else e + x)

/-- What follows the digits of a fraction. -/
def fractionEnd (negative : Bool) (n : Nat) (e : Int) (bs : List UInt8) :
    Except Stop (Number × List UInt8) :=
  match bs with
  | b :: r =>
    if b == code 'e' || b == code 'E' then exponentRest negative n e r
    else floatBefore bs negative n e
  | [] => floatBefore bs negative n e

/-- The fraction behind its point. -/
def fractionRest (negative : Bool) (n : Nat) (e : Int) (bs : List UInt8) :
    Except Stop (Number × List UInt8) :=
  let (n', taken, rest) := absorb 0xFFFFFFFFFFFFFFFF n 0 bs
  if startsWithDigit rest then
    fractionEnd negative n' (e - taken) (skipDigits 0 rest).2
  else if taken == 0 then stopAt (if rest.isEmpty then .endInValue else .badNumber) rest
  else fractionEnd negative n' (e - taken) rest

/-- A whole number as the text gives it: one below the signed range, and minus zero, turn into
floating point numbers. -/
def wholeOf (negative : Bool) (n : Nat) : Number :=
  if !negative then .int n
  else if n == 0 || 0x8000000000000000 < n then .float (Binary64.ofNat n).neg
  else .int (-(n : Int))

/-- The rest of a number whose digits in front, `n`, are known, the last `e` of them as zeros. -/
def numberRest (negative : Bool) (n : Nat) (e : Nat) (bs : List UInt8) :
    Except Stop (Number × List UInt8) :=
  match bs with
  | b :: r =>
    if b == code '.' then fractionRest negative n e r
    else if b == code 'e' || b == code 'E' then exponentRest negative n e r
    else if e == 0 then .ok (wholeOf negative n, bs)
    else floatBefore bs negative n e
  | [] =>
    if e == 0 then .ok (wholeOf negative n, [])
    else floatBefore [] negative n e

/-- A number behind its sign. -/
def unsignedNumber (negative : Bool) : Reader Number
  | [] => stop .endInValue []
  | b :: r =>
    if b == code '0' then
      if startsWithDigit r then stopAt .badNumber r else numberRest negative 0 0 r
    else if isDigitByte b then
      let (n, _, rest) := absorb 0xFFFFFFFFFFFFFFFF (digitValue b) 0 r
      let (skipped, rest) := skipDigits 0 rest
      numberRest negative n skipped rest
    else stop .badNumber r

/-! ### Values -/

/-- The items of an array behind its opening bracket and before the first item; `acc` holds
those read so far, last first. -/
def items (item : Reader Json) : Nat → List Json → Reader (List Json)
  | 0, _, bs => stop .tooDeep bs
  | fuel + 1, acc, bs =>
    match item bs with
    | .error e => .error e
    | .ok (v, r) =>
      match skipSpace r with
      | [] => stop .endInList []
      | b :: r =>
        if b == code ']' then .ok ((v :: acc).reverse, r)
        else if b == code ',' then
          match skipSpace r with
          | [] => stop .endInValue []
          | c :: r' =>
            if c == code ']' then stop .trailingComma r' else items item fuel (v :: acc) (c :: r')
        else stop .wantedListEnd r

/-- One member of an object, behind the quote that opens its key. -/
def member (item : Reader Json) (bs : List UInt8) : Except Stop ((String × Json) × List UInt8) :=
  match stringRest [] bs with
  | .error e => .error e
  | .ok (k, r) =>
    match skipSpace r with
    | [] => stop .endInObject []
    | c :: r =>
      if c != code ':' then stop .wantedColon r
      else
        match item r with
        | .error e => .error e
        | .ok (v, r) => .ok ((k, v), r)

/-- The members of an object behind the quote that opens the first key. -/
def members (item : Reader Json) : Nat → List (String × Json) → Reader (List (String × Json))
  | 0, _, bs => stop .tooDeep bs
  | fuel + 1, acc, bs =>
    match member item bs with
    | .error e => .error e
    | .ok (m, r) =>
      match skipSpace r with
      | [] => stop .endInObject []
      | b :: r =>
        if b == code '\x7d' then .ok ((m :: acc).reverse, r)
        else if b == code ',' then
          match skipSpace r with
          | [] => stop .endInValue []
          | c :: r =>
            if c == code '"' then members item fuel (m :: acc) r
            else if c == code '\x7d' then stop .trailingComma r
            else stop .wantedKey r
        else stop .wantedObjectEnd r

/-- The array behind its opening bracket. -/
def arrayRest (item : Reader Json) (fuel : Nat) : Reader Json := fun bs =>
  match skipSpace bs with
  | [] => stop .endInList []
  | b :: r =>
    if b == code ']' then .ok (.arr [], r)
    else
      match items item fuel [] (b :: r) with
      | .error e => .error e
      | .ok (xs, r) => .ok (.arr xs, r)

/-- The object behind its opening brace. -/
def objectRest (item : Reader Json) (fuel : Nat) : Reader Json := fun bs =>
  match skipSpace bs with
  | [] => stop .endInObject []
  | b :: r =>
    if b == code '\x7d' then .ok (.obj [], r)
    else if b == code '"' then
      match members item fuel [] r with
      | .error e => .error e
      | .ok (ms, r) => .ok (object ms, r)
    else stop .wantedKey r

/-- A value whose containers, if any are allowed here, hold what `inner` reads. -/
def valueWith (fuel : Nat) (inner : Option (Reader Json)) : Reader Json := fun bs =>
  match skipSpace bs with
  | [] => stop .endInValue []
  | b :: r =>
    if b == code '"' then
      match stringRest [] r with
      | .error e => .error e
      | .ok (s, r) => .ok (.str s, r)
    else if b == code '[' then
      match inner with
      | none => stop .tooDeep r
      | some item => arrayRest item fuel r
    else if b == code '\x7b' then
      match inner with
      | none => stop .tooDeep r
      | some item => objectRest item fuel r
    else if b == code '-' then
      match unsignedNumber true r with
      | .error e => .error e
      | .ok (n, r) => .ok (.num n, r)
    else if isDigitByte b then
      match unsignedNumber false (b :: r) with
      | .error e => .error e
      | .ok (n, r) => .ok (.num n, r)
    else if b == code 'n' then
      (expect [code 'u', code 'l', code 'l'] r).map (Json.null, ·)
    else if b == code 't' then
      (expect [code 'r', code 'u', code 'e'] r).map (Json.bool true, ·)
    else if b == code 'f' then
      (expect [code 'a', code 'l', code 's', code 'e'] r).map (Json.bool false, ·)
    else stop .wantedValue r

/-- A value that nests at most `depth` deep; `fuel` bounds the items of one container. -/
def value (fuel : Nat) : (depth : Nat) → Reader Json
  | 0 => valueWith fuel none
  | depth + 1 => valueWith fuel (some (value fuel depth))

/-- How deep containers may nest. -/
def maxDepth : Nat := 127

/-- The value that is all of a text, but for blanks around it. -/
def whole (depth : Nat) (bs : List UInt8) : Except Stop Json :=
  match value (bs.length + 1) depth bs with
  | .error e => .error e
  | .ok (v, r) =>
    match skipSpace r with
    | [] => .ok v
    | _ :: r => stop .trailingText r

/-- The value of a text that nests at most `depth` deep. -/
def parseWithin (depth : Nat) (bs : List UInt8) : Except Fault Json :=
  match whole depth bs with
  | .error e => .error (.ofStop bs e)
  | .ok v => .ok v

/-- The value that the bytes are the text of. -/
def parse (bs : List UInt8) : Except Fault Json := parseWithin maxDepth bs

end Sidecar.Json
