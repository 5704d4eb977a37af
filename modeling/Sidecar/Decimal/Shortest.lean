/-
# The shortest decimal that reads back

Among the decimals that round to a given finite number, those with the
fewest digits are taken, and among these the one nearest to the number. The
numbers that round to `m * 2 ^ q` form an interval around it, whose ends
belong to it exactly when `m` is even; for each count of digits only the two
decimals next to the number can lie in the interval.
-/
import Sidecar.Decimal.Binary64

namespace Sidecar.Decimal

/-- `digits * 10 ^ exponent`. -/
structure Scientific where
  digits : Nat
  exponent : Int
  deriving DecidableEq, Repr

/-- `num / den * 10 ^ (-g)` as a ratio of natural numbers. -/
def onGrid (num den : Nat) (g : Int) : Nat × Nat :=
  if 0 ≤ g then (num, den * Nat.pow 10 g.toNat) else (num * Nat.pow 10 (-g).toNat, den)

/-- The numbers that round to a given one, all over the denominator `den`. -/
structure Interval where
  low : Nat
  mid : Nat
  high : Nat
  den : Nat
  closed : Bool

/-- The interval of a finite number other than zero, its sign apart. -/
def Interval.of (x : Binary64) : Interval :=
  let m := x.significand
  let q := x.scale - 2
  let below := if m == Nat.pow 2 52 && x.scale != -1074 then 1 else 2
  let (up, den) := if 0 ≤ q then (Nat.pow 2 q.toNat, 1) else (1, Nat.pow 2 (-q).toNat)
  ⟨(4 * m - below) * up, 4 * m * up, (4 * m + 2) * up, den, m % 2 == 0⟩

/-- Whether `d * 10 ^ g` lies in the interval. -/
def Interval.holds (i : Interval) (d : Nat) (g : Int) : Bool :=
  let (lo, den) := onGrid i.low i.den g
  let (hi, _) := onGrid i.high i.den g
  if i.closed then lo ≤ d * den && d * den ≤ hi else lo < d * den && d * den < hi

/-- The exponent of the first decimal digit of `num / den`. -/
def firstExponent (num den : Nat) : Int :=
  let e : Int := (num.log2 : Int) - den.log2 - 1
  let k := (e * 30103).fdiv 100000
  let reaches (j : Int) : Bool := let (a, b) := onGrid num den j; b ≤ a
  if reaches (k + 2) then k + 2 else if reaches (k + 1) then k + 1
  else if reaches k then k else k - 1

/-- The decimal on the grid `10 ^ g` next to the number and inside the interval, if any. -/
def Interval.nearest (i : Interval) (g : Int) : Option Scientific :=
  let (num, den) := onGrid i.mid i.den g
  let d := num / den
  let r := num % den
  match i.holds d g, i.holds (d + 1) g with
  | true, true =>
    if den < 2 * r || (2 * r == den && d % 2 == 1) then some ⟨d + 1, g⟩ else some ⟨d, g⟩
  | true, false => some ⟨d, g⟩
  | false, true => some ⟨d + 1, g⟩
  | false, false => none

/-- Drops the zeros at the end of the digits, at most `fuel` of them. -/
def Scientific.strip : Nat → Scientific → Scientific
  | 0, s => s
  | fuel + 1, s =>
    if s.digits != 0 && s.digits % 10 == 0 then strip fuel ⟨s.digits / 10, s.exponent + 1⟩ else s

/-- The shortest decimal that rounds to a finite number, its sign apart. -/
def shortest (x : Binary64) : Scientific :=
  if x.significand == 0 then ⟨0, 0⟩
  else
    let i := Interval.of x
    let k := firstExponent i.mid i.den
    let grids := (List.range 17).map fun (n : Nat) => k - (n : Int)
    match grids.findSome? i.nearest with
    | some s => s.strip 20
    | none => ⟨i.mid / i.den, 0⟩

end Sidecar.Decimal
