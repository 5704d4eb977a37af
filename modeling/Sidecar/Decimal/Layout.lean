/-
# How decimals are laid out

A `Layout` says for which exponents a number is written positionally; the
others are written with one digit in front of the point and an exponent with
its sign.
-/
import Sidecar.Decimal.Shortest

namespace Sidecar.Decimal

/-- Which numbers are written positionally: those whose first digit stands at an exponent
between `least` and `most`. -/
structure Layout where
  least : Int
  most : Int

/-- JSON text is positional from `1e-5` to below `1e16`. -/
def jsonLayout : Layout := ⟨-5, 15⟩

/-- Messages are positional throughout. -/
def messageLayout : Layout := ⟨-400, 400⟩

/-- Digits without an exponent, with a point and at least one digit after it. -/
def positional (s : Scientific) : List Char :=
  let ds := Nat.toDigits 10 s.digits
  if 0 ≤ s.exponent then
    ds ++ List.replicate s.exponent.toNat '0' ++ ['.', '0']
  else
    let places := (-s.exponent).toNat
    if places < ds.length then
      ds.take (ds.length - places) ++ '.' :: ds.drop (ds.length - places)
    else '0' :: '.' :: List.replicate (places - ds.length) '0' ++ ds

/-- One digit, the others after a point, and the exponent with its sign. -/
def withExponent (s : Scientific) : List Char :=
  let ds := Nat.toDigits 10 s.digits
  let e : Int := s.exponent + ds.length - 1
  let mantissa := match ds with
    | d :: [] => [d]
    | d :: rest => d :: '.' :: rest
    | [] => []
  let sign := if 0 ≤ e then '+' else '-'
  mantissa ++ 'e' :: sign :: Nat.toDigits 10 e.natAbs

/-- The text of a finite number, sign included. -/
def Layout.render (l : Layout) (x : Binary64) : List Char :=
  let s := shortest x
  let e : Int := s.exponent + (Nat.toDigits 10 s.digits).length - 1
  let body := if l.least ≤ e && e ≤ l.most then positional s else withExponent s
  if x.isNegative then '-' :: body else body

/-- The text of any number in a message. -/
def message (x : Binary64) : String :=
  if x.isNaN then "NaN"
  else if x.isInfinite then (if x.isNegative then "-inf" else "inf")
  else String.ofList (messageLayout.render x)

end Sidecar.Decimal
