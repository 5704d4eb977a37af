/-
# Tables in the making

A document builds its tables piece by piece, and what may still be added to a
table depends on how it came about: a table that a longer header only implied
may be given its own header once; one made by a dotted key may grow by dotted
keys; one that has its own header is closed to both; a value, an inline table
included, is closed to everything. An array of tables grows by headers, and
headers reach into its last table.
-/
import Sidecar.Toml.Basic

namespace Sidecar.Toml

/-- How a table came about. -/
inductive Origin where
  /-- A longer header named it on its way. -/
  | implied
  /-- A dotted key named it on its way. -/
  | dotted
  /-- It has its own header, or it is the document. -/
  | declared
  deriving DecidableEq, Repr

/-- A part of a document in the making. -/
inductive Draft where
  | value (v : Toml)
  | table (origin : Origin) (entries : List (String × Draft))
  | tables (front : List Draft) (last : Draft)
  deriving Inhabited

namespace Draft

def find? (key : String) (es : List (String × Draft)) : Option Draft :=
  (es.find? fun e => e.1 == key).map (·.2)

/-- Gives a key a new meaning. -/
def put (key : String) (d : Draft) : List (String × Draft) → List (String × Draft)
  | [] => [(key, d)]
  | e :: es => if e.1 == key then (key, d) :: es else e :: put key d es

/-- Changes what a key stands for, or adds it with what the change makes of nothing. -/
def alter (key : String) (f : Option Draft → Option Draft) (es : List (String × Draft)) :
    Option (List (String × Draft)) :=
  (f (find? key es)).map fun d => put key d es

/-- Changes the entries of the table at the end of a path. A header creates what it passes; a
dotted key too, but passes through no table with a header and no array. -/
def within (byHeader : Bool) (f : List (String × Draft) → Option (List (String × Draft))) :
    List String → List (String × Draft) → Option (List (String × Draft))
  | [], es => f es
  | k :: path, es =>
    alter k (fun d =>
      match d with
      | none =>
        (within byHeader f path []).map (.table (if byHeader then .implied else .dotted) ·)
      | some (.value _) => none
      | some (.table o sub) =>
        if !byHeader && o == .declared then none
        else (within byHeader f path sub).map (.table o ·)
      | some (.tables front (.table o sub)) =>
        if byHeader then (within byHeader f path sub).map fun s => .tables front (.table o s)
        else none
      | some (.tables _ _) => none) es

/-- Sets a dotted key to a value. -/
def assign (path : List String) (key : String) (v : Toml) (es : List (String × Draft)) :
    Option (List (String × Draft)) :=
  within false (alter key fun d => match d with | none => some (.value v) | some _ => none) path es

/-- Gives a table its header. -/
def declare (path : List String) (key : String) (es : List (String × Draft)) :
    Option (List (String × Draft)) :=
  within true (alter key fun d =>
    match d with
    | none => some (.table .declared [])
    | some (.table .implied sub) => some (.table .declared sub)
    | some _ => none) path es

/-- Adds a table to an array of tables. -/
def append (path : List String) (key : String) (es : List (String × Draft)) :
    Option (List (String × Draft)) :=
  within true (alter key fun d =>
    match d with
    | none => some (.tables [] (.table .declared []))
    | some (.tables front last) => some (.tables (front ++ [last]) (.table .declared []))
    | some _ => none) path es

/-- Changes the table that the last header with this path opened. -/
def inCurrent (header : List String) (f : List (String × Draft) → Option (List (String × Draft)))
    (es : List (String × Draft)) : Option (List (String × Draft)) :=
  within true f header es

/-- Entries in the order of their keys. -/
def sortEntries (es : List (String × Toml)) : List (String × Toml) :=
  es.mergeSort fun a b => !(b.1 < a.1)

mutual

/-- The finished value. -/
def finish : Draft → Toml
  | .value v => v
  | .table _ es => .table (sortEntries (finishEntries es))
  | .tables front last => .arr (finishList front ++ [last.finish])

def finishEntries : List (String × Draft) → List (String × Toml)
  | [] => []
  | (k, d) :: es => (k, d.finish) :: finishEntries es

def finishList : List Draft → List Toml
  | [] => []
  | d :: ds => d.finish :: finishList ds

end

end Draft

end Sidecar.Toml
