/-
# TOML values

The values a TOML document can hold. The entries of a table stand in the
order of their keys. A date or time is kept as its canonical text.
-/
import Sidecar.Decimal.Binary64

namespace Sidecar

/-- A TOML value. -/
inductive Toml where
  | str (s : String)
  | int (i : Int)
  | float (x : Binary64)
  | bool (b : Bool)
  | moment (text : String)
  | arr (items : List Toml)
  | table (entries : List (String × Toml))
  deriving Repr, Inhabited

namespace Toml

mutual

/-- Replaces every string value; keys and all other values stay. -/
def mapStrings (f : String → String) : Toml → Toml
  | .str s => .str (f s)
  | .int i => .int i
  | .float x => .float x
  | .bool b => .bool b
  | .moment t => .moment t
  | .arr xs => .arr (listMapStrings f xs)
  | .table es => .table (entriesMapStrings f es)

def listMapStrings (f : String → String) : List Toml → List Toml
  | [] => []
  | x :: xs => x.mapStrings f :: listMapStrings f xs

def entriesMapStrings (f : String → String) : List (String × Toml) → List (String × Toml)
  | [] => []
  | (k, x) :: es => (k, x.mapStrings f) :: entriesMapStrings f es

end

mutual

/-- The string values of a document, at any depth. -/
def strings : Toml → List String
  | .str s => [s]
  | .int _ => []
  | .float _ => []
  | .bool _ => []
  | .moment _ => []
  | .arr xs => listStrings xs
  | .table es => entriesStrings es

def listStrings : List Toml → List String
  | [] => []
  | x :: xs => x.strings ++ listStrings xs

def entriesStrings : List (String × Toml) → List String
  | [] => []
  | (_, x) :: es => x.strings ++ entriesStrings es

end

end Toml

end Sidecar
