/-
# Direction in domain names

If any label of a domain name has right-to-left text, each label has to read
in one direction: it starts with a letter that sets the direction, has no
letters of the other one, and ends with a letter or a digit but for marks.

Key definition: `Domain.isDirected`.
-/
import Sidecar.Text.Direction

namespace Sidecar.Domain

open Text

/-- Whether a character is part of right-to-left text. -/
def isRightward (c : Char) : Bool :=
  0x80 ≤ c.toNat &&
    match direction c with
    | .rightToLeft | .arabicLetter | .arabicNumber => true
    | _ => false

/-- What may stand between the first and the last character in either direction. -/
def isInner (d : Direction) : Bool :=
  match d with
  | .europeanNumber | .europeanSeparator | .commonSeparator | .europeanTerminator => true
  | .neutral | .boundary | .mark => true
  | _ => false

/-- Whether the classes behind a left-to-right letter fit, the last one apart from marks first. -/
def fitsLeft : List Direction → Bool
  | [] => true
  | last :: inner =>
    (last == .leftToRight || last == .europeanNumber) &&
      inner.all fun d => d == .leftToRight || isInner d

/-- Whether the classes behind a right-to-left letter fit, the last one apart from marks first.
Numbers are of one kind. -/
def fitsRight : List Direction → Bool
  | [] => true
  | last :: inner =>
    let isRight (d : Direction) := d == .rightToLeft || d == .arabicLetter || d == .arabicNumber
    (isRight last || last == .europeanNumber) &&
      (inner.all fun d => isRight d || isInner d) &&
      !((last :: inner).contains .europeanNumber && (last :: inner).contains .arabicNumber)

/-- Whether a label reads in one direction. -/
def isDirected (label : List Char) : Bool :=
  match label.map direction with
  | [] => true
  | first :: tail =>
    let tail := tail.reverse.dropWhile (· == .mark)
    match first with
    | .leftToRight => fitsLeft tail
    | .rightToLeft | .arabicLetter => fitsRight tail
    | _ => false

end Sidecar.Domain
