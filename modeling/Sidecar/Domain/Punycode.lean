/-
# Punycode

Text written with ASCII letters, digits and hyphens alone. In front of the
last hyphen are its ASCII characters, in order. Behind it are numbers that say
which other characters to put in and where, in ascending order of the
characters. A number has digits of base 36, least first, and ends with the
first digit below a threshold that depends on the numbers before.

Key definition: `Domain.Punycode.decode?`.
-/
import Sidecar.Text.Ascii

namespace Sidecar.Domain.Punycode

/-- The value of a digit: letters, then digits. -/
def digit? (c : Char) : Option Nat :=
  if Text.isLetter c then some ((Text.lowerChar c).toNat - 'a'.toNat)
  else if Text.isDigit c then some (c.toNat - '0'.toNat + 26)
  else none

/-- The largest number that is reckoned with. -/
def most : Nat := UInt32.size - 1

/-- The threshold at a place `k`, counted in steps of 36. -/
def threshold (k bias : Nat) : Nat :=
  if k ≤ bias then 1 else if bias + 26 ≤ k then 26 else k - bias

/-- One number added to `i`, and the rest of the input. -/
def number? (bias : Nat) : (k weight i : Nat) → List Char → Option (Nat × List Char)
  | _, _, _, [] => none
  | k, weight, i, c :: rest =>
    match digit? c with
    | none => none
    | some d =>
      let i := i + d * weight
      let t := threshold k bias
      if most < i then none
      else if d < t then some (i, rest)
      else if most < weight * (36 - t) then none
      else number? bias (k + 36) (weight * (36 - t)) i rest

theorem number?_length_lt {bias : Nat} {input : List Char} {k weight i : Nat}
    {r : Nat × List Char} (h : number? bias k weight i input = some r) :
    r.2.length < input.length := by
  induction input generalizing k weight i with
  | nil => simp [number?] at h
  | cons c rest ih =>
    simp only [number?] at h
    split at h
    · simp at h
    · split at h
      · simp at h
      · split at h
        · simp only [Option.some.injEq] at h
          subst h
          simp
        · split at h
          · simp at h
          · have := ih h
            simp only [List.length_cons]
            omega

/-- A number brought down to at most 455 by divisions, and the steps that took. -/
def reduce (delta k : Nat) : Nat × Nat :=
  if 455 < delta then reduce (delta / 35) (k + 36) else (delta, k)
termination_by delta
decreasing_by exact Nat.div_lt_self (by omega) (by omega)

/-- The bias after a number `delta`, with `count` characters in place. -/
def adapt (delta count : Nat) (isFirst : Bool) : Nat :=
  let d := if isFirst then delta / 700 else delta / 2
  let (d, k) := reduce (d + d / count) 0
  k + 36 * d / (d + 38)

/-- Puts characters into a text, one for each number of the input. The next is at least `n`, and
`i` counts the places passed. -/
def insertAll (bias n i : Nat) (text : List Char) (input : List Char) : Option (List Char) :=
  if input.isEmpty then some text
  else
    match _h : number? bias 36 1 i input with
    | none => none
    | some (i', rest) =>
      let count := text.length + 1
      let n' := n + i' / count
      let place := i' % count
      if n' < 0xD800 || (0xDFFF < n' && n' < 0x110000) then
        insertAll (adapt (i' - i) count (i == 0)) n' (place + 1)
          (text.take place ++ Char.ofNat n' :: text.drop place) rest
      else none
termination_by input.length
decreasing_by exact number?_length_lt _h

/-- The text that an input writes. A hyphen in front of all else is no divider. -/
def decode? (input : List Char) : Option (List Char) :=
  let tail := (input.reverse.takeWhile (· != '-')).reverse
  let front := input.take (input.length - tail.length)
  if front.length ≤ 1 then insertAll 72 128 0 [] input
  else insertAll 72 128 0 front.dropLast tail

end Sidecar.Domain.Punycode
