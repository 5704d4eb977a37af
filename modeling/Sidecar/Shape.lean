/-
# The shape of documents

Readers that take a document apart and say what does not fit: the value
found, the value wanted, and the keys that lead there. A document is written
in JSON or in TOML; the notation shows only in how some misfits are worded. A
record is given as an object, whose members are looked at in the order of
their keys and whose unknown members are passed over, or as an array of its
fields in order. What is missing keeps its default.

Key definitions:
* `Shape.Node`, a value in a document, and `Shape.Node.look`, what it is;
* `Shape.Reader`, a reader of one kind of value;
* `Shape.record`, the reader of a record with the given fields.
-/
import Sidecar.Json.Printer
import Sidecar.Net.Address
import Sidecar.Text.Quoted
import Sidecar.Toml.Basic

namespace Sidecar.Shape

/-- A value in a document. -/
inductive Node where
  | json (v : Json)
  | toml (v : Toml)

/-- What a value is, whatever the notation. A date or time counts as its text. -/
inductive Look where
  | null
  | bool (b : Bool)
  | int (i : Int)
  | float (text : String)
  | str (s : String)
  | list (items : List Node)
  | map (members : List (String × Node))

/-- Floating point numbers are shown as the notation writes them. -/
def Node.look : Node → Look
  | .json .null => .null
  | .json (.bool b) => .bool b
  | .json (.num (.int i)) => .int i
  | .json (.num (.float x)) => .float (String.ofList (Json.Number.float x).render)
  | .json (.str s) => .str s
  | .json (.arr xs) => .list (xs.map .json)
  | .json (.obj ms) => .map (ms.map fun m => (m.1, .json m.2))
  | .toml (.str s) => .str s
  | .toml (.int i) => .int i
  | .toml (.float x) => .float (Decimal.message x)
  | .toml (.bool b) => .bool b
  | .toml (.moment t) => .str t
  | .toml (.arr xs) => .list (xs.map .toml)
  | .toml (.table es) => .map (es.map fun e => (e.1, .toml e.2))

/-- Why a value does not fit. -/
inductive Problem where
  | wrongType (found wanted : String)
  | wrongValue (found wanted : String)
  | wrongLength (count : Nat) (wanted : String)
  | unknownVariant (name : String) (variants : List String)
  | badAddress
  /-- The value has the right shape, and its owner refuses it. -/
  | refused (reason : String)
  deriving DecidableEq, Repr

def Problem.message : Problem → String
  | .wrongType found wanted => s!"invalid type: {found}, expected {wanted}"
  | .wrongValue found wanted => s!"invalid value: {found}, expected {wanted}"
  | .wrongLength count wanted => s!"invalid length {count}, expected {wanted}"
  | .unknownVariant name variants =>
    "unknown variant `" ++ name ++ "`, expected one of " ++
      String.intercalate ", " (variants.map fun v => "`" ++ v ++ "`")
  | .badAddress => "invalid IP address syntax"
  | .refused reason => reason

/-- A problem and the keys that lead to it. -/
structure Error where
  problem : Problem
  path : List String := []
  deriving DecidableEq, Repr

def Error.message (e : Error) : String := e.problem.message

/-- Reads one kind of value. -/
abbrev Reader (α : Type) := Node → Except Error α

/-- How a value is named when it does not fit. -/
def Look.name : Look → String
  | .null => "null"
  | .bool b => "boolean `" ++ (if b then "true" else "false") ++ "`"
  | .int i => "integer `" ++ toString i ++ "`"
  | .float t => "floating point `" ++ t ++ "`"
  | .str s => "string " ++ Text.quote s
  | .list _ => "sequence"
  | .map _ => "map"

def wrongType {α : Type} (v : Look) (wanted : String) : Except Error α :=
  .error ⟨.wrongType v.name wanted, []⟩

def wrongValue {α : Type} (v : Look) (wanted : String) : Except Error α :=
  .error ⟨.wrongValue v.name wanted, []⟩

def refused {α : Type} (reason : String) : Except Error α := .error ⟨.refused reason, []⟩

/-- Notes the key that was followed to a problem. -/
def under {α : Type} (key : String) (r : Except Error α) : Except Error α :=
  match r with
  | .ok a => .ok a
  | .error e => .error { e with path := key :: e.path }

/-- A number without a sign of the given width. -/
def unsigned (bits : Nat) : Reader Nat := fun v =>
  match v.look with
  | .int i => if 0 ≤ i && i.toNat < Nat.pow 2 bits then .ok i.toNat else wrongValue v.look s!"u{bits}"
  | other => wrongType other s!"u{bits}"

def flag : Reader Bool := fun v =>
  match v.look with
  | .bool b => .ok b
  | other => wrongType other "a boolean"

def text : Reader String := fun v =>
  match v.look with
  | .str s => .ok s
  | other => wrongType other "a string"

def path : Reader String := fun v =>
  match v.look with
  | .str s => .ok s
  | other => wrongType other "path string"

def address : Reader Net.Address := fun v =>
  match v.look with
  | .str s =>
    match Net.Address.parse? s with
    | some a => .ok a
    | none => .error ⟨.badAddress, []⟩
  | other => wrongType other "IP address"

/-- A value that may be absent. -/
def optional {α : Type} (r : Reader α) : Reader (Option α) := fun v =>
  match v.look with
  | .null => .ok none
  | _ => (r v).map some

/-- All items of an array. -/
def list {α : Type} (r : Reader α) : Reader (List α) := fun v =>
  match v.look with
  | .list xs => xs.mapM r
  | other => wrongType other "a sequence"

/-- Nothing, as the only member of an object in JSON. -/
def jsonNothing : Json → Except Error Unit
  | .null => .ok ()
  | v => wrongType (Node.json v).look "unit"

/-- How a misfit of TOML is called. -/
def tomlKind : Toml → String
  | .str _ => "string"
  | .int _ => "integer"
  | .float _ => "float"
  | .bool _ => "boolean"
  | .moment _ => "datetime"
  | .arr _ => "array"
  | .table _ => "table"

/-- Nothing, as the only entry of a table in TOML: a container that is empty. -/
def tomlNothing : Toml → Except Error Unit
  | .table [] => .ok ()
  | .table _ => refused "expected empty table"
  | .arr [] => .ok ()
  | .arr _ => refused "expected empty array"
  | v => refused ("expected table, found " ++ tomlKind v)

/-- One of several names, alone or as the only key of an object that holds nothing. -/
def variant {α : Type} (names : List String) (ofName : String → Option α) : Reader α := fun v =>
  let named (s : String) : Except Error α :=
    match ofName s with
    | some a => .ok a
    | none => .error ⟨.unknownVariant s names, []⟩
  match v with
  | .json (.str s) => named s
  | .json (.obj [(k, inner)]) => do
    let a ← named k
    jsonNothing inner
    return a
  | .json (.obj _) => .error ⟨.wrongValue "map" "map with a single key", []⟩
  | .json other => wrongType (Node.json other).look "string or map"
  | .toml (.str s) => named s
  | .toml (.table [(k, inner)]) => do
    let a ← named k
    tomlNothing inner
    return a
  | .toml (.table []) => refused "wanted exactly 1 element, found 0 elements"
  | .toml (.table _) => refused "wanted exactly 1 element, more than 1 element"
  | .toml _ => .error ⟨.wrongType "unit variant" "string only", []⟩

/-- A field of a record: its key and what its value does to the record. -/
structure Field (σ : Type) where
  key : String
  set : Node → σ → Except Error σ

/-- A field that is read on its own. -/
def field {σ α : Type} (key : String) (r : Reader α) (set : α → σ → σ) : Field σ :=
  ⟨key, fun v s => (r v).map fun a => set a s⟩

/-- What a member does to a record. -/
def setMember {σ : Type} (fields : List (Field σ)) (s : σ) (m : String × Node) : Except Error σ :=
  match fields.find? fun f => f.key == m.1 with
  | some f => under m.1 (f.set m.2 s)
  | none => .ok s

/-- A record with defaults. -/
def record {σ : Type} (name : String) (fields : List (Field σ)) (default : σ) : Reader σ := fun v =>
  match v.look with
  | .map ms => ms.foldlM (setMember fields) default
  | .list xs => do
    let s ← (fields.zip xs).foldlM (fun s (f, x) => f.set x s) default
    if xs.length ≤ fields.length then return s
    else .error ⟨.wrongLength xs.length "fewer elements in array", []⟩
  | other => wrongType other s!"struct {name}"

end Sidecar.Shape
