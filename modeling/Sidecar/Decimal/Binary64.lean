/-
# Binary floating point numbers of 64 bits

A number is its bit pattern: a sign, an exponent field of 11 bits and a
fraction of 52 bits. A finite number has the value `significand * 2 ^ scale`.
Every operation here is exact on ratios of natural numbers and rounds once,
to the nearest number and to the even one of two, so nothing depends on the
floating point unit.
-/
namespace Sidecar

/-- A binary floating point number of 64 bits. -/
structure Binary64 where
  bits : UInt64
  deriving DecidableEq, Repr, Inhabited

namespace Binary64

def isNegative (x : Binary64) : Bool := x.bits.toNat / Nat.pow 2 63 == 1

def exponentField (x : Binary64) : Nat := x.bits.toNat / Nat.pow 2 52 % Nat.pow 2 11

def fraction (x : Binary64) : Nat := x.bits.toNat % Nat.pow 2 52

def isNaN (x : Binary64) : Bool := x.exponentField == 2047 && x.fraction != 0

def isInfinite (x : Binary64) : Bool := x.exponentField == 2047 && x.fraction == 0

/-- The whole number in front of the power of two. -/
def significand (x : Binary64) : Nat :=
  if x.exponentField == 0 then x.fraction else x.fraction + Nat.pow 2 52

/-- The power of two of a finite number. -/
def scale (x : Binary64) : Int :=
  if x.exponentField == 0 then -1074 else (x.exponentField : Int) - 1075

def ofBits (n : Nat) : Binary64 := ⟨n.toUInt64⟩

/-- The number with the given sign and the other bits `n`. -/
def withSign (negative : Bool) (n : Nat) : Binary64 :=
  ofBits (if negative then Nat.pow 2 63 + n else n)

/-- The bits of infinity, sign apart. -/
def infinityBits : Nat := 2047 * Nat.pow 2 52

def infinity (negative : Bool) : Binary64 := withSign negative infinityBits

def nan : Binary64 := ofBits (infinityBits + Nat.pow 2 51)

def zero (negative : Bool) : Binary64 := withSign negative 0

/-- `num / (den * 2 ^ q)` as a ratio of natural numbers. -/
def scaled (num den : Nat) (q : Int) : Nat × Nat :=
  if 0 ≤ q then (num, den * Nat.pow 2 q.toNat) else (num * Nat.pow 2 (-q).toNat, den)

/-- The natural number nearest to `num / den`, the even one of two. -/
def roundRatio (num den : Nat) : Nat :=
  let k := num / den
  let r := num % den
  if den < 2 * r || (2 * r == den && k % 2 == 1) then k + 1 else k

/-- The exponent of the power of two whose multiples are the numbers next to `num / den`. -/
def unitExponent (num den : Nat) : Int :=
  let q : Int := (num.log2 : Int) - den.log2 - 52
  let r := scaled num den q
  max (if r.1 < r.2 * Nat.pow 2 52 then q - 1 else q) (-1074)

/-- The number nearest to `num / den`, the even one of two; infinity if none is that large. -/
def ofRatio (negative : Bool) (num den : Nat) : Binary64 :=
  if num == 0 || den == 0 then zero negative
  else
    let q := unitExponent num den
    let r := scaled num den q
    let n := (q + 1074).toNat * Nat.pow 2 52 + roundRatio r.1 r.2
    withSign negative (min n infinityBits)

/-- The absolute value of a finite number as a ratio of natural numbers. -/
def toRatio (x : Binary64) : Nat × Nat :=
  if 0 ≤ x.scale then (x.significand * Nat.pow 2 x.scale.toNat, 1)
  else (x.significand, Nat.pow 2 (-x.scale).toNat)

/-- The number nearest to a natural number. -/
def ofNat (n : Nat) : Binary64 := ofRatio false n 1

/-- The number nearest to a whole number. -/
def ofInt (i : Int) : Binary64 := ofRatio (i < 0) i.natAbs 1

def neg (x : Binary64) : Binary64 :=
  withSign (!x.isNegative) (x.bits.toNat % Nat.pow 2 63)

/-- The product of two finite numbers, rounded. -/
def mul (x y : Binary64) : Binary64 :=
  ofRatio (x.isNegative != y.isNegative) (x.toRatio.1 * y.toRatio.1) (x.toRatio.2 * y.toRatio.2)

/-- The quotient of two finite numbers, rounded, for a divisor other than zero. -/
def div (x y : Binary64) : Binary64 :=
  ofRatio (x.isNegative != y.isNegative) (x.toRatio.1 * y.toRatio.2) (x.toRatio.2 * y.toRatio.1)

/-- The number nearest to `digits * 10 ^ exponent`. -/
def ofDecimal (negative : Bool) (digits : Nat) (exponent : Int) : Binary64 :=
  let size : Int := (Nat.toDigits 10 digits).length + exponent
  if digits == 0 || size < -400 then zero negative
  else if 400 < size then infinity negative
  else if 0 ≤ exponent then ofRatio negative (digits * Nat.pow 10 exponent.toNat) 1
  else ofRatio negative digits (Nat.pow 10 (-exponent).toNat)

end Binary64

end Sidecar
