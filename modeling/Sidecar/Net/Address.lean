/-
# Internet addresses

Reading and writing of IPv4 and IPv6 addresses. An IPv4 address has four
decimal numbers without leading zeros. An IPv6 address has eight groups of
hexadecimal digits, of which the longest run of two or more zero groups, the
first of equals, is written as `::`; its last two groups may be given as an
IPv4 address.
-/
import Sidecar.Text.Ascii

namespace Sidecar.Net

/-- An internet address. -/
inductive Address where
  | v4 (a b c d : Nat)
  | v6 (groups : List Nat)
  deriving DecidableEq, Repr, Inhabited

namespace Address

/-- `127.0.0.1`. -/
def localhost : Address := .v4 127 0 0 1

/-- An address that never leaves the machine: `127.0.0.0/8` or `::1`. -/
def isLoopback : Address → Bool
  | .v4 a _ _ _ => a == 127
  | .v6 groups => groups == [0, 0, 0, 0, 0, 0, 0, 1]

/-! ### Reading -/

/-- A decimal number below 256 without leading zeros. -/
def byte? (cs : List Char) : Option Nat :=
  if cs.isEmpty || 3 < cs.length || !cs.all Text.isDigit then none
  else if cs.head? == some '0' && 1 < cs.length then none
  else
    let n := Text.digitsValue cs
    if n < 256 then some n else none

def v4? (cs : List Char) : Option Address :=
  match Text.splitAll '.' cs with
  | [a, b, c, d] => do return .v4 (← byte? a) (← byte? b) (← byte? c) (← byte? d)
  | _ => none

/-- One to four hexadecimal digits. -/
def group? (cs : List Char) : Option Nat :=
  if cs.isEmpty || 4 < cs.length then none
  else cs.foldl (fun n c => do return (← n) * 16 + (← Text.hexValue? c)) (some 0)

/-- Groups between colons, the last two of them possibly an IPv4 address. -/
def groups? : List (List Char) → Option (List Nat)
  | [] => some []
  | [last] =>
    if last.contains '.' then
      match v4? last with
      | some (.v4 a b c d) => some [a * 256 + b, c * 256 + d]
      | _ => none
    else (group? last).map ([·])
  | g :: rest => do return (← group? g) :: (← groups? rest)

/-- The groups of a text between colons; the empty text has none. -/
def groupsOf? (cs : List Char) : Option (List Nat) :=
  if cs.isEmpty then some [] else groups? (Text.splitAll ':' cs)

/-- The text before and behind the first `::`. -/
def splitDouble : List Char → List Char → Option (List Char × List Char)
  | acc, ':' :: ':' :: rest => some (acc.reverse, rest)
  | acc, c :: rest => splitDouble (c :: acc) rest
  | _, [] => none

def v6? (cs : List Char) : Option Address :=
  match splitDouble [] cs with
  | none => do
    let gs ← groupsOf? cs
    if gs.length == 8 then some (.v6 gs) else none
  | some (front, back) => do
    if front.contains '.' then none
    else
      let f ← groupsOf? front
      let b ← groupsOf? back
      if f.length + b.length ≤ 7 then
        some (.v6 (f ++ List.replicate (8 - f.length - b.length) 0 ++ b))
      else none

/-- The address a text writes. -/
def parse? (s : String) : Option Address :=
  let cs := s.toList
  (v4? cs).orElse fun _ => v6? cs

/-! ### Writing -/

/-- The length of the run of zeros at the front. -/
def zeroRun : List Nat → Nat
  | 0 :: rest => zeroRun rest + 1
  | _ => 0

/-- Start and length of the longest run of zero groups, the first of equals. -/
def longestZeroRun (groups : List Nat) : Nat × Nat :=
  (List.range groups.length).foldl (fun best i =>
    let n := zeroRun (groups.drop i)
    if best.2 < n then (i, n) else best) (0, 0)

def renderGroups (gs : List Nat) : String :=
  String.intercalate ":" (gs.map fun g => String.ofList (Text.digitsIn 16 g))

def render : Address → String
  | .v4 a b c d => s!"{a}.{b}.{c}.{d}"
  | .v6 groups =>
    match groups with
    | [0, 0, 0, 0, 0, 0xFFFF, x, y] =>
      s!"::ffff:{x / 256}.{x % 256}.{y / 256}.{y % 256}"
    | _ =>
      let (start, n) := longestZeroRun groups
      if n < 2 then renderGroups groups
      else renderGroups (groups.take start) ++ "::" ++ renderGroups (groups.drop (start + n))

/-- An address and a port. -/
def renderWithPort (a : Address) (port : Nat) : String :=
  match a with
  | .v4 .. => s!"{a.render}:{port}"
  | .v6 .. => s!"[{a.render}]:{port}"

end Address

end Sidecar.Net
