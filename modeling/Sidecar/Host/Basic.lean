/-
# Hosts

The machine a session runs on, as far as a session can notice it: its files
and programs, who listens where, and whether connections to its own addresses
can be made at all.

Key definitions: `Host`, `Host.launch`, `Host.runToEnd`, `Host.connect`.
-/
import Sidecar.Config.Basic
import Sidecar.Host.Files
import Sidecar.Transport.Connect

namespace Sidecar

/-- A machine as a session sees it. -/
structure Host where
  files : Files := {}
  /-- The working directory of the supervisor. -/
  directory : Place := []
  /-- Where someone listens. -/
  listeners : List Endpoint := []
  /-- The paths of local sockets, whether or not someone still listens there. -/
  sockets : List String := []
  /-- Whether TCP connections to a loopback address can be made. -/
  loopback : Bool := true

namespace Host

/-! ### The network -/

/-- Whether a port is taken by someone else. -/
def isOccupied (h : Host) : Endpoint → Bool
  | .socket host port => h.listeners.contains (.socket host port)
  | _ => false

/-- One attempt to connect. -/
def connect (h : Host) (e : Endpoint) : Except ConnectError Unit :=
  match e with
  | .stdio => .error .stdioNotConnectable
  | .ipc path =>
    if h.listeners.contains e then .ok ()
    else if h.sockets.contains path then .error (.ofSystem e.target (.number 111))
    else .error (.ofSystem e.target .noEntry)
  | .socket _ _ =>
    if !h.loopback then .error (.ofSystem e.target (.number 101))
    else if h.listeners.contains e then .ok ()
    else .error (.ofSystem e.target (.number 111))

def listen (h : Host) (e : Endpoint) : Host :=
  match e with
  | .stdio => h
  | _ => { h with listeners := e :: h.listeners, sockets := e.path?.toList ++ h.sockets }

/-- Someone is gone who listened. The local socket stays. -/
def desert (h : Host) (e : Endpoint) : Host := { h with listeners := h.listeners.erase e }

/-- Someone no longer listens and removes the local socket. -/
def unlisten (h : Host) (e : Endpoint) : Host :=
  { h.desert e with sockets := h.sockets.filter fun path => e.path? != some path }

/-! ### Files -/

def render (p : Place) : String := "/" ++ String.intercalate "/" p

def isFile (h : Host) (path : String) : Bool := h.files.isFile h.directory path

/-- What is found at a path by someone who wants to read it. -/
def find (h : Host) (path : String) : Config.Found :=
  match h.files.look h.directory path with
  | .ok (_, .file content _) => .file content
  | .ok (_, .directory) => .directory
  | .error e => .missing e

/-- The file or directory for something that should be a program. -/
def nodeOf : Artifact → Node
  | .standIn => .file [] (.program .standIn)
  | .runtime r => .file [] (.program (.runtime r))
  | .directory => .directory
  | .unrunnable => Files.plain []

/-- Puts a runtime into an environment, seen from a directory. -/
def install (h : Host) (what : Artifact) (directory : Place) (target : String) : Host :=
  let top := if Path.isAbsolute target then [] else directory
  { h with files := (h.files.put top (Path.components target ++ ["bin", "python"]) (nodeOf what)).2 }

/-! ### Programs -/

/-- The program at a path, started in a directory: a path with a slash is seen from there. -/
def program (h : Host) (path : String) (directory : Place) : Except SystemError Program :=
  if !path.toList.contains '/' then .error .noEntry
  else
    match h.files.look directory path with
    | .error e => .error e
    | .ok (_, .directory) => .error .permissionDenied
    | .ok (_, .file _ (.refused e)) => .error e
    | .ok (_, .file _ (.program p)) => .ok p

/-- The longest argument of a program, in bytes. -/
def maxArgument : Nat := 131071

/-- Starts a program in a directory. -/
def launch (h : Host) (path : String) (args : List String) (directory : String) :
    Except SystemError (Conduct × Place) :=
  if (path :: directory :: args).any fun t => t.toList.contains (Char.ofNat 0) then
    .error .endInCommand
  else
    match h.files.look h.directory directory with
    | .error e => .error e
    | .ok (_, .file _ _) => .error .notDirectory
    | .ok (place, .directory) =>
      match h.program path place with
      | .error e => .error e
      | .ok p =>
        if args.any fun a => maxArgument < a.utf8ByteSize then .error .argumentTooLong
        else .ok (p.conduct { args, directory := render place }, place)

/-- What a program that ran to its end leaves. -/
structure Finished where
  exit : Exit
  out : List UInt8 := []
  err : List UInt8 := []

/-- Does what a program does, all at once. -/
def perform (h : Host) (directory : Place) (deeds : List Deed) :
    Host × List UInt8 × List UInt8 :=
  deeds.foldl (fun (acc : Host × List UInt8 × List UInt8) d =>
    let (h, out, err) := acc
    match d with
    | .print .out bs => (h, out ++ bs, err)
    | .print .err bs => (h, out, err ++ bs)
    | .install what target => (h.install what directory target, out, err)
    | _ => (h, out, err)) (h, [], [])

/-- Runs a program that gets no input to its end, if it comes to one. -/
def runToEnd (h : Host) (conduct : Conduct) (directory : Place) : Option (Finished × Host) :=
  let (h, out, err) := h.perform directory conduct.deeds
  match conduct.ending with
  | .exit e => some (⟨e, out, err⟩, h)
  | .echo => some (⟨Exit.ofCode 0, out, err⟩, h)
  | .serveStdio => some (⟨Exit.ofCode 0, out, err⟩, h)
  | .hang => none
  | .serve => none
  | .stop => none

end Host

end Sidecar
