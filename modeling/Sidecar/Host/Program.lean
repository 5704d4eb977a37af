/-
# Programs of a host

What the programs that a supervisor starts do: they print, wait, listen, put
files in place, and then exit, fall to a signal, hang, copy their input or
serve. A program is described by a few settings; what it does also depends on
its arguments and on the directory it is started in.

Key definitions: `Program`, `Conduct`, `Program.conduct`.
-/
import Sidecar.Net.Address
import Sidecar.Path
import Sidecar.Process.Exit
import Sidecar.Text.Ascii
import Sidecar.Text.Utf8
import Sidecar.Transport.Endpoint

namespace Sidecar

/-- The two output streams of a program. -/
inductive Stream where
  | out
  | err
  deriving DecidableEq, Repr

/-- A program without a job of its own, in the order in which it does things. -/
structure Tool where
  ignoresTerm : Bool := false
  out : List UInt8 := []
  err : List UInt8 := []
  printArgs : Bool := false
  printDirectory : Bool := false
  signal : Option Nat := none
  echo : Bool := false
  hang : Bool := false
  exit : Nat := 0

/-- What a runtime does as the server. -/
structure Serving where
  ignoresTerm : Bool := false
  out : List UInt8 := []
  closeOutput : Bool := false
  exit : Option Nat := none

/-- A runtime: it lists packages, or it is the server if its first argument names a script. -/
structure Runtime where
  listing : List UInt8 := []
  listExit : Nat := 0
  printArgs : Bool := false
  server : Serving := {}

/-- What can lie where a program should be. -/
inductive Artifact where
  /-- The stand-in for the server. -/
  | standIn
  | runtime (r : Runtime)
  | directory
  /-- A file that may not be run. -/
  | unrunnable

/-- An installer, which gets the directory to install into. -/
structure Installer where
  printTarget : Bool := false
  out : List UInt8 := []
  err : List UInt8 := []
  installs : Option Artifact := none
  signal : Option Nat := none
  exit : Nat := 0

/-- The programs there are. -/
inductive Program where
  | tool (t : Tool)
  | runtime (r : Runtime)
  | standIn
  | installer (i : Installer)

/-- How a program is started. -/
structure Start where
  args : List String
  directory : String

/-- One thing a program does. -/
inductive Deed where
  | print (stream : Stream) (bytes : List UInt8)
  | closeOutput
  /-- Waits for some milliseconds. -/
  | pause (ms : Nat)
  | listen (endpoint : Endpoint)
  /-- Puts a runtime in place, below a directory. -/
  | install (what : Artifact) (target : String)

/-- What a program does at last. -/
inductive Ending where
  | exit (e : Exit)
  | hang
  /-- Copies its input to its output until the input ends. -/
  | echo
  /-- Speaks the protocol on its input and output. -/
  | serveStdio
  /-- Speaks the protocol on connections. -/
  | serve
  /-- Stops itself until it is told to go on. -/
  | stop

/-- All that a program does. -/
structure Conduct where
  deeds : List Deed := []
  ending : Ending
  ignoresTerm : Bool := false
  /-- Signals that it never minds. -/
  ignores : List Nat := []
  /-- Signals that it does not mind the first time. -/
  forgives : List Nat := []

namespace Program

/-- An exit code as the system keeps it. -/
def exitOf (code : Nat) : Exit := Exit.ofCode (Int.ofNat (code % 256))

/-- The signals that stop a program, let it go on, end it at once, and ask it to end. -/
def stopSignal : Nat := 19
def resumeSignal : Nat := 18
def killSignal : Nat := 9
def termSignal : Nat := 15

/-- The greatest number of a signal. -/
def maxSignal : Nat := 64

/-- Signals that do nothing to a program: none at all, those that are ignored, and those that
would stop it at a terminal. -/
def harmless : List Nat := [0, 17, 18, 20, 21, 22, 23, 28]

/-- Whether a program that sends itself a number as a signal comes to a halt by it. -/
def halts (n : Nat) : Bool := n ≤ maxSignal && !harmless.contains n

/-- What the stand-in does not mind: a broken pipe, and an access fault with no access, once. -/
def standInIgnores : List Nat := [13]
def standInForgives : List Nat := [7, 11]

def say (stream : Stream) (bytes : List UInt8) : List Deed :=
  if bytes.isEmpty then [] else [.print stream bytes]

def sayLine (stream : Stream) (text : String) : Deed :=
  .print stream (Utf8.ofString (text ++ "\n"))

def toolConduct (t : Tool) (s : Start) : Conduct :=
  let deeds := say .out t.out ++ say .err t.err ++
    (if t.printArgs then s.args.map fun a => sayLine .out ("arg:" ++ a) else []) ++
    (if t.printDirectory then [sayLine .out s.directory] else [])
  let falls := t.signal.filter fun n => halts n && !(t.ignoresTerm && n == termSignal)
  match falls with
  | some n =>
    { deeds, ending := if n == stopSignal then .stop else .exit (Exit.ofSignal n)
      ignoresTerm := t.ignoresTerm }
  | none =>
    if t.echo then { deeds, ending := .echo, ignoresTerm := t.ignoresTerm }
    else if t.hang then
      { deeds := deeds ++ (if t.ignoresTerm then [sayLine .out "ready"] else [])
        ending := .hang
        ignoresTerm := t.ignoresTerm }
    else { deeds, ending := .exit (exitOf t.exit), ignoresTerm := t.ignoresTerm }

/-- Whether a text names a script. -/
def namesScript (a : String) : Bool := a.toList.reverse.take 3 == ['y', 'p', '.']

def runtimeConduct (r : Runtime) (s : Start) : Conduct :=
  if s.args.head?.any namesScript then
    { deeds := say .out r.server.out ++ (if r.server.closeOutput then [.closeOutput] else [])
      ending := match r.server.exit with
        | some code => .exit (exitOf code)
        | none => .hang
      ignoresTerm := r.server.ignoresTerm }
  else
    { deeds := say .out r.listing ++
        (if r.printArgs then [sayLine .out ("args:" ++ String.intercalate " " s.args)] else [])
      ending := .exit (exitOf r.listExit) }

def installerConduct (i : Installer) (s : Start) : Conduct :=
  let target := s.args.head?.getD ""
  { deeds :=
      (if i.printTarget then
        [sayLine .out ("installing into " ++ target ++ s!" ({s.args.length})"),
          sayLine .out s.directory]
      else []) ++ say .out i.out ++ say .err i.err ++
      (match i.installs with
        | some what => [.install what target]
        | none => [])
    ending := match i.signal.filter halts with
      | some n => if n == stopSignal then .stop else .exit (Exit.ofSignal n)
      | none => .exit (exitOf i.exit) }

/-- What the stand-in prints when it is asked for packages. -/
def standInListing : String :=
  "Package    Version\n---------- -------\npip        24.0\nyarals     1.2.0\n"

/-- How long the stand-in waits if its entry point asks for it, in milliseconds. -/
def slowBind : Nat := 3000

def standInFails (text : String) : Conduct :=
  { deeds := [sayLine .err ("stub server: " ++ text)], ending := .exit (Exit.ofCode 1) }

/-- A port number as the stand-in reads it. -/
def portOf? (text : String) : Option Nat :=
  let cs := match text.toList with
    | '+' :: r => r
    | cs => cs
  if cs.isEmpty || !cs.all Text.isDigit then none
  else
    let n := Text.digitsValue cs
    if n < 65536 then some n else none

/-- What the stand-in does once it knows its transport. -/
def standInServes (transport : List String) : Conduct :=
  match transport with
  | [] => standInFails "missing transport arguments"
  | "--stdio" :: _ =>
    { deeds := [sayLine .err "serving on stdio"], ending := .serveStdio }
  | ["--pipe"] => standInFails "missing pipe path"
  | "--pipe" :: path :: _ =>
    { deeds := [.listen (.ipc path), sayLine .err ("serving on " ++ path)], ending := .serve }
  | host :: rest =>
    match rest.head?.bind portOf?, Net.Address.parse? host with
    | none, _ => standInFails "missing or invalid port"
    | some _, none => standInFails "failed to lookup address information: Name or service not known"
    | some port, some address =>
      { deeds := [.listen (.socket address port), sayLine .err s!"serving on {host}:{port}"]
        ending := .serve }

def standInConduct (s : Start) : Conduct :=
  match s.args with
  | [] =>
    { deeds := [sayLine .err ("usage: yls-stub-server <entrypoint> (<host> <port> | --stdio " ++
        "| --pipe <path>)")]
      ending := .exit (Exit.ofCode 2) }
  | "-m" :: _ =>
    { deeds := [.print .out (Utf8.ofString standInListing)], ending := .exit (Exit.ofCode 0) }
  | entrypoint :: transport =>
    if Text.contains "exit_early".toList entrypoint.toList then
      { deeds := [sayLine .err "server crashed on start"], ending := .exit (Exit.ofCode 3) }
    else
      let serves := standInServes transport
      if Text.contains "slow_bind".toList entrypoint.toList then
        { serves with deeds := .pause slowBind :: serves.deeds }
      else serves

/-- What a program does when it is started. -/
def conduct : Program → Start → Conduct
  | tool t, s => toolConduct t s
  | runtime r, s => runtimeConduct r s
  | standIn, s =>
    { standInConduct s with ignores := standInIgnores, forgives := standInForgives }
  | installer i, s => installerConduct i s

end Program

end Sidecar
