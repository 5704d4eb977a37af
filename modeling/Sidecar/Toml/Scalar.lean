/-
# Unquoted TOML scalars

Booleans, whole numbers of 64 bits with a sign, floating point numbers, dates
and times. Single underscores may stand between digits. Seconds may be left
out of a time. A date or time is written back in canonical form: `T` between
date and time, `Z` for the zero offset's letter, a plus sign on an offset of no
minutes, and the fraction of a second to at most nine digits.
-/
import Sidecar.Decimal.Binary64
import Sidecar.Text.Ascii
import Sidecar.Toml.Basic

namespace Sidecar.Toml

/-- The digits of a run in which single underscores may separate them. -/
def ungroup (isDigit : Char → Bool) (cs : List Char) : Option (List Char) :=
  let pieces := Text.splitAll '_' cs
  if pieces.all (fun p => !p.isEmpty && p.all isDigit) then some pieces.flatten else none

/-- The value of digits in a base. -/
def valueIn (base : Nat) (cs : List Char) : Option Nat :=
  cs.foldl (fun n c => do
    let d ← Text.hexValue? c
    if d < base then return (← n) * base + d else none) (some 0)

/-- A sign and what follows it. -/
def sign (cs : List Char) : Option Bool × List Char :=
  match cs with
  | '+' :: r => (some false, r)
  | '-' :: r => (some true, r)
  | _ => (none, cs)

def inRange (i : Int) : Option Toml :=
  if Int64.minValue.toInt ≤ i && i ≤ Int64.maxValue.toInt then some (.int i) else none

/-- A whole number with a base given in front. -/
def basedInt? (cs : List Char) : Option Toml := do
  let (base, ds) ← match cs with
    | '0' :: 'x' :: r => some (16, r)
    | '0' :: 'o' :: r => some (8, r)
    | '0' :: 'b' :: r => some (2, r)
    | _ => none
  let ds ← ungroup (fun c => (Text.hexValue? c).any (· < base)) ds
  inRange (← valueIn base ds)

/-- Decimal digits without a leading zero. -/
def wholeDigits? (cs : List Char) : Option (List Char) := do
  let ds ← ungroup Text.isDigit cs
  match ds with
  | '0' :: _ :: _ => none
  | _ => some ds

def int? (cs : List Char) : Option Toml := do
  let (s, r) := sign cs
  let ds ← wholeDigits? r
  let n : Int := Text.digitsValue ds
  inRange (if s == some true then -n else n)

/-- The exponent behind its letter. -/
def exponent? (cs : List Char) : Option Int := do
  let (s, r) := sign cs
  let ds ← ungroup Text.isDigit r
  let n : Int := Text.digitsValue ds
  return if s == some true then -n else n

def isExponentMark (c : Char) : Bool := c == 'e' || c == 'E'

/-- A finite number with a fraction or an exponent; one too large to be finite is refused. -/
def finite? (cs : List Char) : Option Toml := do
  let (s, r) := sign cs
  let negative := s == some true
  let mantissa := r.takeWhile fun c => !isExponentMark c
  let e ← match r.drop mantissa.length with
    | [] => some 0
    | _ :: x => exponent? x
  let x ← match Text.splitFirst '.' mantissa with
    | none =>
      if mantissa.length == r.length then none
      else do
        let ds ← wholeDigits? mantissa
        some (Binary64.ofDecimal negative (Text.digitsValue ds) e)
    | some (whole, fraction) => do
      let ds ← wholeDigits? whole
      let fs ← ungroup Text.isDigit fraction
      some (Binary64.ofDecimal negative (Text.digitsValue (ds ++ fs)) (e - fs.length))
  if x.isInfinite then none else some (.float x)

def special? (cs : List Char) : Option Toml :=
  let (s, r) := sign cs
  let negative := s == some true
  if r == "inf".toList then some (.float (Binary64.infinity negative))
  else if r == "nan".toList then some (.float (if negative then Binary64.nan.neg else Binary64.nan))
  else none

/-! ### Dates and times -/

/-- Exactly `n` digits in front. -/
def fixedDigits? (n : Nat) (cs : List Char) : Option (Nat × List Char) :=
  let ds := cs.take n
  if ds.length == n && ds.all Text.isDigit then some (Text.digitsValue ds, cs.drop n) else none

/-- A given character in front. -/
def literal? (c : Char) : List Char → Option (List Char)
  | x :: r => if x == c then some r else none
  | [] => none

def isLeap (y : Nat) : Bool := y % 4 == 0 && (y % 100 != 0 || y % 400 == 0)

def daysIn (y m : Nat) : Nat :=
  if m == 2 then (if isLeap y then 29 else 28)
  else if m == 4 || m == 6 || m == 9 || m == 11 then 30
  else 31

/-- `n` with at least two digits. -/
def two (n : Nat) : String := (if n < 10 then "0" else "") ++ toString n

/-- `n` with at least four digits. -/
def four (n : Nat) : String :=
  (if n < 10 then "000" else if n < 100 then "00" else if n < 1000 then "0" else "") ++ toString n

/-- A date and the text behind it. -/
def date? (cs : List Char) : Option (String × List Char) := do
  let (y, r) ← fixedDigits? 4 cs
  let (m, r) ← fixedDigits? 2 (← literal? '-' r)
  let (d, r) ← fixedDigits? 2 (← literal? '-' r)
  if 1 ≤ m && m ≤ 12 && 1 ≤ d && d ≤ daysIn y m then
    some (four y ++ "-" ++ two m ++ "-" ++ two d, r)
  else none

/-- A fraction of a second, cut after nine digits and without zeros at its end. -/
def fractionText (ds : List Char) : String :=
  let cut := ((ds.take 9).reverse.dropWhile (· == '0')).reverse
  "." ++ (if cut.isEmpty then "0" else String.ofList cut)

/-- A time and the text behind it. -/
def time? (cs : List Char) : Option (String × List Char) := do
  let (h, r) ← fixedDigits? 2 cs
  let (m, r) ← fixedDigits? 2 (← literal? ':' r)
  if 23 < h || 59 < m then none
  else
    match literal? ':' r with
    | none => some (two h ++ ":" ++ two m, r)
    | some r => do
      let (s, r) ← fixedDigits? 2 r
      if 60 < s then none
      else
        let text := two h ++ ":" ++ two m ++ ":" ++ two s
        match r with
        | '.' :: r =>
          let ds := r.takeWhile Text.isDigit
          if ds.isEmpty then none else some (text ++ fractionText ds, r.drop ds.length)
        | _ => some (text, r)

/-- The whole of an offset. -/
def offset? (cs : List Char) : Option String :=
  match cs with
  | [] => some ""
  | [c] => if c == 'Z' || c == 'z' then some "Z" else none
  | c :: r => do
    let (h, r) ← fixedDigits? 2 r
    let (m, r) ← fixedDigits? 2 (← literal? ':' r)
    if (c == '+' || c == '-') && h ≤ 23 && m ≤ 59 && r.isEmpty then
      let sign := if c == '-' && 0 < h + m then "-" else "+"
      some (sign ++ two h ++ ":" ++ two m)
    else none

/-- A date, a time, or both with or without an offset. -/
def moment? (cs : List Char) : Option Toml :=
  match date? cs with
  | some (d, []) => some (.moment d)
  | some (d, c :: r) =>
    if c == 'T' || c == 't' || c == ' ' then do
      let (t, r) ← time? r
      let o ← offset? r
      some (.moment (d ++ "T" ++ t ++ o))
    else none
  | none =>
    match time? cs with
    | some (t, []) => some (.moment t)
    | _ => none

/-- The value of an unquoted scalar. -/
def scalar? (cs : List Char) : Option Toml :=
  if cs == "true".toList then some (.bool true)
  else if cs == "false".toList then some (.bool false)
  else
    (int? cs).orElse fun _ => (basedInt? cs).orElse fun _ => (special? cs).orElse fun _ =>
      (finite? cs).orElse fun _ => moment? cs

/-- A character of a bare word: it neither is a mark nor divides words. -/
def isWordChar (c : Char) : Bool :=
  !("=,.[]\x7b\x7d# \t\r\n".toList.contains c)

/-- The characters that a reader takes for one unquoted scalar. -/
def isScalarChar (c : Char) : Bool := isWordChar c || c == '.'

/-- An unquoted scalar in front; a date may be divided from its time by one space. -/
def takeScalar (cs : List Char) : List Char × List Char :=
  let word := cs.takeWhile isScalarChar
  let rest := cs.drop word.length
  match date? word, rest with
  | some (_, []), ' ' :: r =>
    match fixedDigits? 2 r with
    | some (_, ':' :: _) =>
      let time := r.takeWhile isScalarChar
      (word ++ ' ' :: time, r.drop time.length)
    | _ => (word, rest)
  | _, _ => (word, rest)

end Sidecar.Toml
