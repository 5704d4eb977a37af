/-
# Files and their URIs

An absolute path has a `file` URI with the same components. A URI whose path
has segments and whose host is nobody or this machine names a path.

Key definitions: `Uri.ofPath`, `Uri.toPath?`.
-/
import Sidecar.Uri.Parser

namespace Sidecar.Uri

/-- A path with no URI: it is not absolute. -/
structure NotAbsolute where
  path : List UInt8
  deriving DecidableEq, Repr

def NotAbsolute.message (e : NotAbsolute) : String :=
  "cannot convert path to file URI: " ++ String.ofList (Utf8.lossy e.path)

/-- The parts of a path between slashes, one more than slashes. -/
def parts (bs : List UInt8) : List (List UInt8) :=
  let (done, last) := bs.foldl (fun (acc : List (List UInt8) × List UInt8) b =>
    if b == 0x2F then (acc.2.reverse :: acc.1, []) else (acc.1, b :: acc.2)) ([], [])
  (last.reverse :: done).reverse

/-- The named parts of an absolute path. -/
def componentsOf (path : List UInt8) : List (List UInt8) :=
  (parts path).filter fun p => !p.isEmpty && p != [0x2E]

/-- The URI of an absolute path. -/
def ofPath (path : List UInt8) : Except NotAbsolute String :=
  if path.head? != some 0x2F then .error ⟨path⟩
  else
    let segments := (componentsOf path).flatMap fun c => '/' :: encodeSegment c
    .ok (String.ofList ("file://".toList ++ (if segments.isEmpty then ['/'] else segments)))

/-- A path that ends like a drive gets a slash behind it. -/
def closeDrive (bs : List UInt8) : List UInt8 :=
  match bs.reverse with
  | d :: c :: _ :: _ =>
    if (d == 0x3A || d == 0x7C) && Text.isLetter (Char.ofNat c.toNat) then bs ++ [0x2F] else bs
  | _ => bs

/-- The path of a URI that has one. -/
def filePath? (u : Uri) : Option (List UInt8) :=
  match u.path, u.host with
  | none, _ => none
  | _, .other => none
  | some p, _ => some (closeDrive (decodePercent (Utf8.encode p)))

/-- The path that a text names as a URI. -/
def toPath? (uri : String) : Option (List UInt8) := (parse? uri).bind filePath?

end Sidecar.Uri
