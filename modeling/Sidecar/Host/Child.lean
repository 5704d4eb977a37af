/-
# Running programs

A program in the middle of what it does, on a clock that counts nanoseconds:
what is still to come, what it has printed, and how it reacts to signals. The
process around it is a `Supervised` one, and everything that happens to it is
one of its moves.

Key definitions: `Child`, `Child.settle`.
-/
import Sidecar.Host.Basic
import Sidecar.Process.Output
import Sidecar.Process.Supervisor
import Sidecar.Sink
import Sidecar.StandIn

namespace Sidecar

/-- A running program. -/
structure Child where
  pid : Nat
  directory : Place
  /-- What is still to come. -/
  deeds : List Deed
  /-- When the next deed is due. -/
  due : Nat
  ending : Ending
  /-- Signals that it never minds, and those that it does not mind the first time. -/
  ignores : List Nat
  forgives : List Nat
  /-- Whether it is stopped, and the signals that wait until it goes on. -/
  stopped : Bool := false
  held : List Nat := []
  /-- Whether its input and output are a channel. -/
  piped : Bool
  process : Supervised := {}
  /-- Begun lines of its two streams. -/
  begunOut : List UInt8 := []
  begunErr : List UInt8 := []
  /-- Lines that were read, with their ends. -/
  chunks : List (Stream × List UInt8) := []
  /-- What it has written into the channel and nobody has taken. -/
  written : List UInt8 := []
  outputClosed : Bool := false
  inputClosed : Bool := false
  /-- Where it listens. -/
  listens : List Endpoint := []
  /-- Whether it speaks the protocol now. -/
  serving : Bool := false
  standIn : StandIn := {}

namespace Child

/-- The time a program takes until it does its first deed. -/
def startup : Nat := 5000000

def nanosPerMilli : Nat := 1000000

/-- A program that was just started. -/
def ofConduct (c : Conduct) (pid : Nat) (directory : Place) (piped : Bool) (now : Nat) : Child :=
  { pid, directory, deeds := c.deeds, due := now + startup, ending := c.ending, piped
    ignores := (if c.ignoresTerm then [Program.termSignal] else []) ++ c.ignores
    forgives := c.forgives }

def isRunning (c : Child) : Bool := c.process.ended.isNone

/-- Whether it does anything. -/
def isActive (c : Child) : Bool := c.isRunning && !c.stopped

/-- The exit that is known. -/
def exit? (c : Child) : Option Exit := c.process.known

/-- The text told to the output channel for lines that were read. -/
def told (lines : List (List UInt8)) : List Entry :=
  lines.filterMap fun l => (Output.serverText? l).map fun t => ⟨.info, t⟩

/-- Splits what was printed so far into whole lines and a begun one. -/
def wholeLines (bs : List UInt8) : List (List UInt8) × List UInt8 :=
  match (Output.lines bs).reverse with
  | [] => ([], [])
  | last :: front =>
    if last.getLast? == some Output.newline then ((last :: front).reverse, [])
    else (front.reverse, last)

/-- The program prints. -/
def print (c : Child) (stream : Stream) (bytes : List UInt8) : Child × List Entry :=
  match stream with
  | .out =>
    if c.piped then
      (if c.outputClosed then c else { c with written := c.written ++ bytes }, [])
    else
      let (lines, begunOut) := wholeLines (c.begunOut ++ bytes)
      ({ c with begunOut, chunks := c.chunks ++ lines.map (Stream.out, ·) }, told lines)
  | .err =>
    let (lines, begunErr) := wholeLines (c.begunErr ++ bytes)
    ({ c with begunErr, chunks := c.chunks ++ lines.map (Stream.err, ·) }, told lines)

/-- The process ends: begun lines are lines now. -/
def finish (c : Child) (e : Exit) : Child × List Entry :=
  if !c.isRunning then (c, [])
  else
    let last := (if c.begunOut.isEmpty then [] else [(Stream.out, c.begunOut)]) ++
      (if c.begunErr.isEmpty then [] else [(Stream.err, c.begunErr)])
    ({ c with
      process := c.process.step (.exits e)
      begunOut := []
      begunErr := []
      chunks := c.chunks ++ last
      outputClosed := true
      deeds := [] }, told (last.map (·.2)))

/-- A signal reaches a program that is not stopped. -/
def take (c : Child) (n : Nat) : Child × List Entry :=
  if Program.harmless.contains n || c.ignores.contains n then (c, [])
  else if c.forgives.contains n then ({ c with forgives := c.forgives.erase n }, [])
  else if n == Program.stopSignal then ({ c with stopped := true }, [])
  else c.finish (Exit.ofSignal n)

/-- A signal is sent. All but two wait for a stopped program to go on. -/
def signal (c : Child) (n : Nat) : Child × List Entry :=
  if n == Program.killSignal then c.finish (Exit.ofSignal n)
  else if n == Program.resumeSignal then
    c.held.foldl (fun (acc : Child × List Entry) n =>
      let (c, es) := acc.1.take n
      (c, acc.2 ++ es)) ({ c with stopped := false, held := [] }, [])
  else if c.stopped then ({ c with held := c.held ++ [n] }, [])
  else c.take n

/-- The program has done all its deeds. -/
def conclude (c : Child) : Child × List Entry :=
  match c.ending with
  | .exit e => c.finish e
  | .hang => (c, [])
  | .echo => if c.piped && !c.inputClosed then (c, []) else c.finish (Exit.ofCode 0)
  | .serveStdio =>
    if c.piped && !c.inputClosed then ({ c with serving := true }, [])
    else c.finish (Exit.ofCode 0)
  | .serve => ({ c with serving := true }, [])
  | .stop => ({ c with stopped := true }, [])

/-- The program does what is due. -/
def act (h : Host) (c : Child) (now : Nat) : Nat → Host × Child × List Entry
  | 0 => (h, c, [])
  | fuel + 1 =>
    if now < c.due || !c.isActive then (h, c, [])
    else
      match c.deeds with
      | [] =>
        let (c, es) := c.conclude
        (h, c, es)
      | d :: rest =>
        let c := { c with deeds := rest }
        match d with
        | .print stream bytes =>
          let (c, es) := c.print stream bytes
          let (h, c, more) := act h c now fuel
          (h, c, es ++ more)
        | .closeOutput => act h { c with outputClosed := true } now fuel
        | .pause ms => act h { c with due := c.due + ms * nanosPerMilli } now fuel
        | .listen e => act (h.listen e) { c with listens := e :: c.listens } now fuel
        | .install what target => act (h.install what c.directory target) c now fuel

/-- The waiting task takes all requests and delivers their signals. -/
def obey (c : Child) : Nat → Child × List Entry
  | 0 => (c, [])
  | fuel + 1 =>
    let before := c.process.sent.length
    let c := { c with process := c.process.step .take }
    match c.process.sent.drop before with
    | [] => (c, [])
    | s :: _ =>
      let (c, es) := c.signal (match s.signal with
        | .terminate => Program.termSignal
        | .kill => Program.killSignal)
      let (c, more) := obey c fuel
      (c, es ++ more)

/-- An ended program no longer listens. -/
def withdraw (h : Host) (c : Child) : Host × Child :=
  if c.isRunning then (h, c) else (c.listens.foldl Host.desert h, { c with listens := [] })

/-- All that follows at a time: what is due, signals, and the end. -/
def settle (h : Host) (c : Child) (now : Nat) : Host × Child × List Entry :=
  let (h, c, es) := act h c now (c.deeds.length + 1)
  let (c, more) := c.obey (c.process.requests.length + 2)
  let (h, c) := c.withdraw h
  (h, { c with process := c.process.run Supervised.closing }, es ++ more)

/-- When the program will do something by itself, if it will. -/
def nextDue? (c : Child) : Option Nat :=
  if !c.isActive then none
  else if !c.deeds.isEmpty then some c.due
  else
    match c.ending with
    | .exit _ => some c.due
    | .hang => none
    | .stop => none
    | _ => if c.serving then none else some c.due

/-- Nobody writes to the program any more. -/
def closeInput (c : Child) : Child := { c with inputClosed := true }

end Child

end Sidecar
