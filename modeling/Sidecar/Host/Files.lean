/-
# The files of a host

A tree of directories and files. A path is walked from the root or from a
working directory, name by name; every name but the last has to be a
directory.

Key definitions: `Files`, `Files.locate`, `Files.node?`, `Files.put`.
-/
import Sidecar.Host.Program
import Sidecar.Path
import Sidecar.SystemError

namespace Sidecar

/-- What comes of an attempt to run a file. -/
inductive Running where
  | program (p : Program)
  | refused (cause : SystemError)

/-- What has a name in the tree. -/
inductive Node where
  | directory
  | file (content : List UInt8) (running : Running)

/-- A place in the tree: the names that lead to it. -/
abbrev Place := List String

/-- A tree of files. The root needs no entry. -/
structure Files where
  nodes : List (Place × Node) := []

namespace Files

/-- A file that nobody may run. -/
def plain (content : List UInt8) : Node := .file content (.refused .permissionDenied)

def at? (f : Files) (p : Place) : Option Node :=
  if p.isEmpty then some .directory else (f.nodes.find? fun n => n.1 == p).map (·.2)

/-- The longest name, in bytes. -/
def maxName : Nat := 255

/-- The longest path, in bytes. -/
def maxPath : Nat := 4095

/-- The place one name further on from a directory; two dots lead up. -/
def enter (directory : Place) (name : String) : Except SystemError Place :=
  if name == ".." then .ok directory.dropLast
  else if maxName < name.utf8ByteSize then .error .nameTooLong
  else .ok (directory ++ [name])

/-- Goes down by names; the place reached need not exist, but all before it has to. -/
def walk (f : Files) (from_ : Place) : List String → Except SystemError Place
  | [] => .ok from_
  | name :: rest =>
    match f.at? from_ with
    | none => .error .noEntry
    | some (.file _ _) => .error .notDirectory
    | some .directory =>
      match enter from_ name with
      | .error e => .error e
      | .ok place => f.walk place rest

/-- What no path can be. -/
def checkPath (path : String) : Except SystemError Unit :=
  if path.toList.contains (Char.ofNat 0) then .error .endInPath
  else if maxPath < path.utf8ByteSize then .error .nameTooLong
  else .ok ()

/-- Whether a path can only mean a directory. -/
def meansDirectory (path : String) : Bool :=
  match path.toList.reverse with
  | '/' :: _ => true
  | '.' :: '/' :: _ => true
  | _ => false

/-- The place that a path means, seen from a directory. -/
def locate (f : Files) (directory : Place) (path : String) : Except SystemError Place :=
  if path.isEmpty then .error .noEntry
  else
    match checkPath path with
    | .error e => .error e
    | .ok _ => f.walk (if Path.isAbsolute path then [] else directory) (Path.components path)

/-- What a path means. -/
def look (f : Files) (directory : Place) (path : String) : Except SystemError (Place × Node) :=
  match f.locate directory path with
  | .error e => .error e
  | .ok place =>
    match f.at? place with
    | none => .error .noEntry
    | some (.file c r) =>
      if meansDirectory path then .error .notDirectory else .ok (place, .file c r)
    | some .directory => .ok (place, .directory)

def node? (f : Files) (directory : Place) (path : String) : Option Node :=
  match f.look directory path with
  | .ok (_, n) => some n
  | .error _ => none

def has (f : Files) (directory : Place) (path : String) : Bool :=
  (f.node? directory path).isSome

def isFile (f : Files) (directory : Place) (path : String) : Bool :=
  match f.node? directory path with
  | some (.file _ _) => true
  | _ => false

def isDirectory (f : Files) (directory : Place) (path : String) : Bool :=
  match f.node? directory path with
  | some .directory => true
  | _ => false

/-- Puts a node at a place, in place of what was there. -/
def set (f : Files) (p : Place) (n : Node) : Files :=
  ⟨(f.nodes.filter fun x => x.1 != p) ++ [(p, n)]⟩

/-- Makes the directories that names lead to from a directory, as far as that goes; and the
place reached. -/
def makeDirectories (f : Files) (from_ : Place) : List String → Except SystemError Place × Files
  | [] => (.ok from_, f)
  | name :: rest =>
    match enter from_ name with
    | .error e => (.error e, f)
    | .ok place =>
      match f.at? place with
      | some .directory => f.makeDirectories place rest
      | some (.file _ _) => (.error .notDirectory, f)
      | none => (f.set place .directory).makeDirectories place rest

/-- Puts a node where names lead to from a directory, and makes the directories on the way. A
directory does not give way to a file, nor a file to a directory. -/
def put (f : Files) (from_ : Place) (names : List String) (n : Node) :
    Except SystemError Place × Files :=
  match f.makeDirectories from_ names.dropLast with
  | (.error e, f) => (.error e, f)
  | (.ok directory, f) =>
    match names.getLast? with
    | none => (.ok directory, f)
    | some name =>
      match enter directory name with
      | .error e => (.error e, f)
      | .ok place =>
        match f.at? place, n with
        | some .directory, .file _ _ => (.error .isDirectory, f)
        | some (.file _ _), .directory => (.error .notDirectory, f)
        | _, n => (.ok place, f.set place n)

/-- Removes a place and all below it. -/
def remove (f : Files) (p : Place) : Files :=
  ⟨f.nodes.filter fun n => !p.isPrefixOf n.1⟩

end Files

end Sidecar
