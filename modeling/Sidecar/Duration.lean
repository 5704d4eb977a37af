/-
# Durations

A duration is a whole number of nanoseconds. Its text has the largest unit
with a whole part other than zero, and then the fraction without zeros at its
end: `5s`, `1.5s`, `250ms`, `1.5µs`, `0ns`.
-/
namespace Sidecar

/-- A span of time in nanoseconds. -/
structure Duration where
  nanos : Nat
  deriving DecidableEq, Repr, Inhabited

namespace Duration

def ofMillis (n : Nat) : Duration := ⟨n * 1000000⟩

def ofSeconds (n : Nat) : Duration := ⟨n * 1000000000⟩

def isZero (d : Duration) : Bool := d.nanos == 0

/-- Whole milliseconds. -/
def millis (d : Duration) : Nat := d.nanos / 1000000

/-- `n` with at least `width` digits. -/
def padded (width n : Nat) : List Char :=
  let ds := Nat.toDigits 10 n
  List.replicate (width - ds.length) '0' ++ ds

/-- The digits of a fraction of `10 ^ width`, without zeros at the end. -/
def fractionDigits (width n : Nat) : List Char :=
  ((padded width n).reverse.dropWhile (· == '0')).reverse

/-- A number of units of `10 ^ width` nanoseconds each. -/
def inUnit (nanos width : Nat) (unit : String) : String :=
  let fraction := fractionDigits width (nanos % Nat.pow 10 width)
  let whole := Nat.toDigits 10 (nanos / Nat.pow 10 width)
  String.ofList (if fraction.isEmpty then whole else whole ++ '.' :: fraction) ++ unit

def render (d : Duration) : String :=
  if 1000000000 ≤ d.nanos then inUnit d.nanos 9 "s"
  else if 1000000 ≤ d.nanos then inUnit d.nanos 6 "ms"
  else if 1000 ≤ d.nanos then inUnit d.nanos 3 "µs"
  else inUnit d.nanos 0 "ns"

end Duration

end Sidecar
