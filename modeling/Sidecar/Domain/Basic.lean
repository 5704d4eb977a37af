/-
# Domain names

A domain name is written in any script. Its characters are replaced by those
they stand for, the text is composed, and dots divide it into labels. A label
that starts with `xn--` is written in Punycode and stands for the text it
gives. What remains has to be well formed: no label starts with a mark, joiners
join, each label reads in one direction, and some ASCII characters never occur.

Key definitions: `Domain.ofText?`, `Domain.isNumeric`, `Domain.isAddress`.
-/
import Sidecar.Domain.Direction
import Sidecar.Domain.Mapping
import Sidecar.Domain.Punycode
import Sidecar.Text.Composition
import Sidecar.Text.Joining
import Sidecar.Text.Marks

namespace Sidecar.Domain

open Text

/-- A label of a domain name. -/
abbrev Label := List Char

def isAscii (cs : List Char) : Bool := cs.all fun c => c.toNat < 0x80

/-- Characters of ASCII that no domain name has. -/
def isDenied (c : Char) : Bool :=
  c.toNat ≤ 0x20 || c.toNat == 0x7F || "%#/:<>?@[\\]^|".toList.contains c

/-- The text that a text stands for. -/
def fold? (cs : List Char) : Option (List Char) :=
  if isAscii cs then some (cs.map lowerChar)
  else (cs.mapM image?).map fun texts => compose texts.flatten

/-! ### Joiners -/

def nonJoiner : Char := Char.ofNat 0x200C

def joiner : Char := Char.ofNat 0x200D

/-- Whether the next letter, past those that are transparent, joins in one of the given ways. -/
def meets (ways : List Joining) : List Char → Bool
  | [] => false
  | c :: rest =>
    ways.contains (joining c) || (joining c == .transparent && meets ways rest)

/-- Whether a joiner has its place between the text before it, last character first, and the text
behind it: after a mark that suppresses a vowel, or, to keep them apart, between two letters that
would join. -/
def isPlaced (c : Char) (before after : List Char) : Bool :=
  match before with
  | [] => false
  | b :: _ =>
    combiningClass b.toNat == viramaClass ||
      (c == nonJoiner && meets [.left, .both] before && meets [.right, .both] after)

/-- Whether all joiners have their places; `before` is the text already seen, last character
first. -/
def joins (before : List Char) : List Char → Bool
  | [] => true
  | c :: rest =>
    (if c == nonJoiner || c == joiner then isPlaced c before rest else true) &&
      joins (c :: before) rest

/-! ### Labels -/

/-- Whether a label in any script is well formed. -/
def isWellFormed (label : Label) : Bool :=
  (label.head?.all fun c => !isMark c) && joins [] label

/-- How a label in Punycode starts. -/
def codeMark : List Char := ['x', 'n', '-', '-']

/-- The longest text behind that mark, and the longest label in any script. -/
def maxCoded : Nat := 2000
def maxLabel : Nat := 1000

/-- The label that Punycode gives. It has to be written as it would be read. -/
def decoded? (code : List Char) : Option Label :=
  if code.isEmpty || code.getLast? == some '-' || maxCoded < code.length then none
  else
    match Punycode.decode? code with
    | none => none
    | some label =>
      if label.all (fun c => isAllowed c && !isDenied c && c != '.') && compose label == label &&
          isWellFormed label then some label
      else none

/-- The label that a piece of folded text stands for. -/
def label? (cs : List Char) : Option Label :=
  if cs.any isDenied then none
  else if codeMark.isPrefixOf cs then
    if isAscii cs then decoded? (cs.drop codeMark.length) else none
  else if isAscii cs then some cs
  else if cs.length ≤ maxLabel && isWellFormed cs then some cs
  else none

/-- The labels of the domain name that a text writes. -/
def ofText? (cs : List Char) : Option (List Label) :=
  match (fold? cs).bind fun text => (splitAll '.' text).mapM label? with
  | none => none
  | some labels =>
    if labels == [[]] then none
    else if labels.any (·.any isRightward) && !labels.all isDirected then none
    else some labels

/-! ### Addresses -/

/-- The value of digits in a base. -/
def valueIn? (base : Nat) (cs : List Char) : Option Nat :=
  cs.foldl (fun n c => do
    let d ← hexValue? c
    if d < base then return (← n) * base + d else none) (some 0)

/-- A number in decimal, behind a zero in octal, or behind `0x` in hexadecimal. -/
def number? (cs : List Char) : Option Nat :=
  match cs with
  | [] => none
  | '0' :: 'x' :: ds => valueIn? 16 ds
  | '0' :: d :: ds => valueIn? 8 (d :: ds)
  | ds => valueIn? 10 ds

/-- The labels without an empty one at the end. -/
def withoutEnd (labels : List Label) : List Label :=
  if 1 < labels.length && labels.getLast? == some [] then labels.dropLast else labels

/-- Whether the last label is a number, so that the whole can only be an address. -/
def isNumeric (labels : List Label) : Bool :=
  match (withoutEnd labels).getLast? with
  | none => false
  | some last => (!last.isEmpty && last.all isDigit) || (number? last).isSome

/-- Whether the labels are an address: up to four numbers below 256, of which the last may stand
for all that are missing. -/
def isAddress (labels : List Label) : Bool :=
  match (withoutEnd labels).mapM number? with
  | none => false
  | some ns =>
    ns.length ≤ 4 && ns.dropLast.all (· < 256) && ns.getLastD 0 < Nat.pow 256 (5 - ns.length)

end Sidecar.Domain
