/-
# Reading TOML

`Toml.parse` gives the table of a document, or the fault of a text that is
not TOML 1.1. Arrays and inline tables nest at most 80 deep, and both may be
spread over lines with comments and end with a comma. A dotted key has at most
80 parts.

A text is judged by its layout first (`Outcome` is `none` where a mark is
missing or out of place, anywhere in the document) and then by the content of
its words, keys and tables in their order.
-/
import Sidecar.Toml.Draft
import Sidecar.Toml.Quoted
import Sidecar.Toml.Scalar

namespace Sidecar.Toml

/-- Why a text gives no document. -/
inductive Fault where
  | malformed
  /-- A dotted key has too many parts. -/
  | longKey
  deriving DecidableEq, Repr

/-- Something read in front of the input, with what is left of it. There is none if the layout is
broken; else the content may have a fault. -/
abbrev Outcome (α : Type) := Option (Except Fault α × List Char)

/-- What is there, or else the text is malformed. -/
def orMalformed {α : Type} : Option α → Except Fault α
  | some a => .ok a
  | none => .error .malformed

def isSpace (c : Char) : Bool := c == ' ' || c == '\t'

def skipSpace (cs : List Char) : List Char := cs.dropWhile isSpace

/-- Skips blanks, line breaks and comments; `inComment` if a comment has begun. -/
def skipFill : (inComment : Bool) → List Char → Option (List Char)
  | _, [] => some []
  | inComment, c :: r =>
    if c == '\n' then skipFill false r
    else if c == '\r' then (if r.head? == some '\n' then skipFill false r else none)
    else if inComment then (if isTextChar c then skipFill true r else none)
    else if isSpace c then skipFill false r
    else if c == '#' then skipFill true r
    else some (c :: r)

/-- The end of a line behind a header or an entry: blanks, a comment, a line break. -/
def endLine : (inComment : Bool) → List Char → Option (List Char)
  | _, [] => some []
  | inComment, c :: r =>
    if c == '\n' then some r
    else if c == '\r' then (if r.head? == some '\n' then some (r.drop 1) else none)
    else if inComment then (if isTextChar c then endLine true r else none)
    else if isSpace c then endLine false r
    else if c == '#' then endLine true r
    else none

def isBareChar (c : Char) : Bool :=
  Text.isLetter c || Text.isDigit c || c == '_' || c == '-'

/-- What a reading of the quoted string in front gives, or a fault and what is left behind it. -/
def orSkip (found : Reading String) (cs : List Char) : Except Fault String × List Char :=
  match found with
  | some (s, r) => (.ok s, r)
  | none => (.error .malformed, skipQuoted cs)

def isQuote (c : Char) : Bool := c == '"' || c == '\''

/-- One part of a key. -/
def simpleKey (cs : List Char) : Outcome String :=
  if cs.head?.any isQuote then some (orSkip (shortQuoted? cs) cs)
  else
    let word := cs.takeWhile isWordChar
    if word.isEmpty then none
    else
      let name := if word.all isBareChar then .ok (String.ofList word) else .error .malformed
      some (name, cs.drop word.length)

/-- The parts of a dotted key: those in front of the last one, and the last one. -/
structure Key where
  path : List String
  last : String

/-- The number of parts that a dotted key may have. -/
def maxParts : Nat := 80

/-- The key with the given parts, last first. -/
def Key.ofParts : List String → Except Fault Key
  | [] => .error .malformed
  | last :: path => if path.length < maxParts then .ok ⟨path.reverse, last⟩ else .error .longKey

/-- A dotted key; `acc` holds the parts read, last first. -/
def key : Nat → Except Fault (List String) → List Char →
    Option (Except Fault Key × List Char)
  | 0, _, _ => none
  | fuel + 1, acc, cs => do
    let (k, r) ← simpleKey (skipSpace cs)
    let parts := acc.bind fun ps => k.map (· :: ps)
    match skipSpace r with
    | '.' :: r => key fuel parts r
    | r => some (parts.bind Key.ofParts, r)

/-- The items of an array; `acc` holds those read, last first. -/
def items (item : List Char → Outcome Toml) :
    Nat → Except Fault (List Toml) → List Char → Option (Except Fault Toml × List Char)
  | 0, _, _ => none
  | fuel + 1, acc, cs => do
    match ← skipFill false cs with
    | ']' :: r => some (acc.map fun vs => .arr vs.reverse, r)
    | cs =>
      let (v, r) ← item cs
      let acc := acc.bind fun vs => v.map (· :: vs)
      match ← skipFill false r with
      | ',' :: r => items item fuel acc r
      | ']' :: r => some (acc.map fun vs => .arr vs.reverse, r)
      | _ => none

/-- The tables with one more entry, whose key and value are read in this order. -/
def addEntry (k : Except Fault Key) (v : Except Fault Toml)
    (assign : Key → Toml → Option (List (String × Draft))) :
    Except Fault (List (String × Draft)) := do
  let k ← k
  let v ← v
  orMalformed (assign k v)

/-- The entries of an inline table. -/
def entries (item : List Char → Outcome Toml) :
    Nat → Except Fault (List (String × Draft)) → List Char →
    Option (Except Fault Toml × List Char)
  | 0, _, _ => none
  | fuel + 1, es, cs => do
    match ← skipFill false cs with
    | '\x7d' :: r => some (es.map fun es => (Draft.table .declared es).finish, r)
    | cs =>
      let (k, r) ← key (fuel + 1) (.ok []) cs
      match r with
      | '=' :: r =>
        let (v, r) ← item (skipSpace r)
        let es := es.bind fun es => addEntry k v fun k v => Draft.assign k.path k.last v es
        match ← skipFill false r with
        | ',' :: r => entries item fuel es r
        | '\x7d' :: r => some (es.map fun es => (Draft.table .declared es).finish, r)
        | _ => none
      | _ => none

/-- A value whose containers, if any are allowed here, hold what `inner` reads. -/
def valueWith (fuel : Nat) (inner : Option (List Char → Outcome Toml)) (cs : List Char) :
    Option (Except Fault Toml × List Char) :=
  match cs with
  | [] => none
  | c :: r =>
    if isQuote c then
      let (s, r) := orSkip (quoted? cs) cs
      some (s.map .str, r)
    else if c == '[' then do items (← inner) fuel (.ok []) r
    else if c == '\x7b' then do entries (← inner) fuel (.ok []) r
    else
      let (word, r) := takeScalar cs
      if word.isEmpty then none else some (orMalformed (scalar? word), r)

/-- A value that nests at most `depth` deep. -/
def value (fuel : Nat) : (depth : Nat) → List Char → Outcome Toml
  | 0 => valueWith fuel none
  | depth + 1 => valueWith fuel (some (value fuel depth))

/-- How deep arrays and inline tables may nest. -/
def maxDepth : Nat := 80

/-- A document in the making: the path of the last header and all tables so far. -/
structure Document where
  header : List String := []
  entries : List (String × Draft) := []

/-- The document with a header that `extend` puts into its tables. -/
def Document.enter (doc : Document) (k : Key) (extend : List String → String →
    List (String × Draft) → Option (List (String × Draft))) : Except Fault Document := do
  return ⟨k.path ++ [k.last], ← orMalformed (extend k.path k.last doc.entries)⟩

/-- The document with an entry in the table of its last header. -/
def Document.assign (doc : Document) (k : Except Fault Key) (v : Except Fault Toml) :
    Except Fault Document := do
  let es ← addEntry k v fun k v =>
    Draft.inCurrent doc.header (Draft.assign k.path k.last v) doc.entries
  return { doc with entries := es }

/-- One header or entry at the start of a line, and what it makes of the document. -/
def statement (fuel : Nat) (doc : Except Fault Document) (cs : List Char) :
    Option (Except Fault Document × List Char) :=
  match cs with
  | '[' :: '[' :: r => do
    let (k, r) ← key fuel (.ok []) r
    match r with
    | ']' :: ']' :: r =>
      some (do (← doc).enter (← k) Draft.append, ← endLine false r)
    | _ => none
  | '[' :: r => do
    let (k, r) ← key fuel (.ok []) r
    match r with
    | ']' :: r => some (do (← doc).enter (← k) Draft.declare, ← endLine false r)
    | _ => none
  | cs => do
    let (k, r) ← key fuel (.ok []) cs
    match r with
    | '=' :: r =>
      let (v, r) ← value fuel maxDepth (skipSpace r)
      some (doc.bind (·.assign k v), ← endLine false r)
    | _ => none

/-- The statements of a document, one after another. -/
def statements (fuel : Nat) : Nat → Except Fault Document → List Char →
    Option (Except Fault Document)
  | 0, _, _ => none
  | n + 1, doc, cs => do
    match ← skipFill false cs with
    | [] => return doc
    | cs =>
      let (doc, r) ← statement fuel doc cs
      statements fuel n doc r

/-- The first key of a table that stands for a date or time. -/
def momentKey : String := "$__toml_private_datetime"

/-- The date or time that a value behind that key gives. -/
def marked? : Toml → Option Toml
  | .str s => moment? s.toList
  | _ => none

mutual

/-- Puts dates and times in the place of the tables that stand for them. -/
def settle? : Toml → Option Toml
  | .table es =>
    match es.head? with
    | none => some (.table [])
    | some (k, v) => if k == momentKey then marked? v else (entriesSettle? es).map .table
  | .arr xs => (listSettle? xs).map .arr
  | .str s => some (.str s)
  | .int i => some (.int i)
  | .float x => some (.float x)
  | .bool b => some (.bool b)
  | .moment t => some (.moment t)

def listSettle? : List Toml → Option (List Toml)
  | [] => some []
  | x :: xs => do return (← x.settle?) :: (← listSettle? xs)

def entriesSettle? : List (String × Toml) → Option (List (String × Toml))
  | [] => some []
  | (k, x) :: es => do return (k, ← x.settle?) :: (← entriesSettle? es)

end

/-- A mark for the byte order may stand in front of a document. -/
def dropMark : List Char → List Char
  | c :: r => if c.toNat == 0xFEFF then r else c :: r
  | [] => []

/-- The finished entries of a document. -/
def Document.finish (doc : Document) : List (String × Toml) :=
  Draft.sortEntries (Draft.finishEntries doc.entries)

/-- The table of a document. -/
def parse (text : String) : Except Fault Toml := do
  let cs := dropMark text.toList
  let fuel := cs.length + 1
  let doc ← (statements fuel fuel (.ok {}) cs).getD (.error .malformed)
  return .table (← orMalformed (entriesSettle? doc.finish))

end Sidecar.Toml
