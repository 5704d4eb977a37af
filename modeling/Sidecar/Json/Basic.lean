/-
# JSON values

A number is a whole number or a binary floating point number; the members of
an object stand in the order of their keys, one member a key. `Json.object`
brings any list of members into that form, the last member with a key
winning.

Key definitions:
* `Json`, the values;
* `Json.object`, an object from members in any order;
* `Json.get?`, a member of an object.
-/
import Sidecar.Decimal.Binary64

namespace Sidecar

/-- A number: whole, or binary floating point. -/
inductive Json.Number where
  | int (i : Int)
  | float (x : Binary64)
  deriving DecidableEq, Repr

/-- A JSON value. -/
inductive Json where
  | null
  | bool (b : Bool)
  | num (n : Json.Number)
  | str (s : String)
  | arr (items : List Json)
  | obj (members : List (String × Json))
  deriving Repr, Inhabited

namespace Json

/-- A member whose key is repeated right after it gives way to the later one. -/
def keepLast : List (String × Json) → List (String × Json) → List (String × Json)
  | acc, [] => acc.reverse
  | acc, m :: rest =>
    match rest with
    | [] => keepLast (m :: acc) rest
    | m' :: _ => if m.1 == m'.1 then keepLast acc rest else keepLast (m :: acc) rest

/-- Members in the order of their keys, the last one of those with the same key. -/
def sortMembers (ms : List (String × Json)) : List (String × Json) :=
  keepLast [] (ms.mergeSort fun a b => !(b.1 < a.1))

/-- An object from members in any order. -/
def object (ms : List (String × Json)) : Json := .obj (sortMembers ms)

/-- The integer `n`. -/
def nat (n : Nat) : Json := .num (.int n)

/-- The integer `i`. -/
def int (i : Int) : Json := .num (.int i)

/-- A text, or null in its absence. -/
def optStr (s : Option String) : Json := s.elim .null .str

/-- A natural number, or null in its absence. -/
def optNat (n : Option Nat) : Json := n.elim .null nat

/-- The member of an object with the given key. -/
def get? (key : String) : Json → Option Json
  | .obj ms => (ms.find? fun m => m.1 == key).map (·.2)
  | _ => none

def str? : Json → Option String
  | .str s => some s
  | _ => none

def bool? : Json → Option Bool
  | .bool b => some b
  | _ => none

def arr? : Json → Option (List Json)
  | .arr xs => some xs
  | _ => none

def obj? : Json → Option (List (String × Json))
  | .obj ms => some ms
  | _ => none

/-- The whole number a value is. -/
def int? : Json → Option Int
  | .num (.int i) => some i
  | _ => none

/-- The whole number a value is, if it fits 64 bits without a sign. -/
def unsigned? : Json → Option Nat
  | .num (.int i) => if 0 ≤ i && i.toNat < UInt64.size then some i.toNat else none
  | _ => none

/-- The whole number a value is, if it fits 64 bits with a sign. -/
def signed? : Json → Option Int
  | .num (.int i) => if Int64.minValue.toInt ≤ i && i ≤ Int64.maxValue.toInt then some i else none
  | _ => none

def isNull : Json → Bool
  | .null => true
  | _ => false

end Json

end Sidecar
