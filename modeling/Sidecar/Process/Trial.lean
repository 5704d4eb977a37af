/-
# Trying a process

One supervised program on a clock that counts nanoseconds, and what its
holder can do with it: look at it, wait for it, end it, and talk to it.
Waiting lets the program go on; nothing else takes time.

Key definitions: `Trial`, `Trial.start`, `Trial.terminate`.
-/
import Sidecar.Host.Child

namespace Sidecar

/-- A program and its holder. -/
structure Trial where
  host : Host
  child : Child
  now : Nat := 0
  sink : Sink := {}
  /-- How many lines of output were handed out. -/
  handed : Nat := 0
  /-- Whether the channel is still with the process, and whether it is open. -/
  untaken : Bool
  open_ : Bool := false

namespace Trial

/-- Starts a program. -/
def start (h : Host) (program : String) (args : List String) (directory : String) (piped : Bool) :
    Except SpawnError Trial :=
  match h.launch program args directory with
  | .error e => .error (.ofSystem program e)
  | .ok (conduct, place) =>
    .ok { host := h, child := Child.ofConduct conduct 1 place piped 0, untaken := piped }

/-- All that follows at the present time. -/
def settle (t : Trial) : Trial :=
  let (host, child, es) := t.child.settle t.host t.now
  { t with host, child, sink := { t.sink with entries := t.sink.entries ++ es } }

/-- Lets time pass until a condition holds or a time is reached. -/
def waitUntil (done : Trial → Bool) (deadline : Nat) : Nat → Trial → Trial
  | 0, t => t
  | fuel + 1, t =>
    let t := t.settle
    if done t then t
    else
      match t.child.nextDue?.filter fun d => t.now < d && d ≤ deadline with
      | some d => waitUntil done deadline fuel { t with now := d }
      | none => { t with now := max t.now deadline }.settle

/-- Enough turns for everything a program still does. -/
def turns (t : Trial) : Nat := t.child.deeds.length + 3

def waitFor (t : Trial) (done : Trial → Bool) (d : Duration) : Trial :=
  waitUntil done (t.now + d.nanos) t.turns t

/-- The exit, once it is known. -/
def status (t : Trial) : Option Exit := t.child.exit?

/-- Waits for the exit. -/
def wait (t : Trial) (d : Duration) : Trial := t.waitFor (fun t => t.status.isSome) d

def moves (t : Trial) (ms : List Supervised.Move) : Trial :=
  { t with child := { t.child with process := t.child.process.run ms } }

/-- Ends the process: first it is asked to, and after the grace it is killed. -/
def terminate (t : Trial) (grace : Duration) : Option Exit × Trial :=
  let i := t.child.process.calls.length
  let t := t.moves (Supervised.opening i grace)
  let t := match t.child.process.calls[i]? with
    | some (Supervised.Ending.returned _) => t
    | _ => ((t.wait grace).moves (Supervised.lapse i)).wait Supervised.killWait
  let t := t.moves (Supervised.lapse i)
  match t.child.process.calls[i]? with
  | some (Supervised.Ending.returned e) => (e, t)
  | _ => (none, t)

def kill (t : Trial) : Trial := t.moves [.kill]

/-- Gives the process up and waits for its end. -/
def drop (t : Trial) : Trial := (t.moves [.drop]).wait Supervised.killWait

/-- The next lines of output, waited for. -/
def output (t : Trial) (n : Nat) (d : Duration) : List (Stream × List UInt8) × Trial :=
  let t := t.waitFor (fun t => t.handed + n ≤ t.child.chunks.length) d
  let lines := (t.child.chunks.drop t.handed).take n
  (lines, { t with handed := t.handed + lines.length })

/-- Takes the channel, which can be done once. -/
def takeChannel (t : Trial) : Bool × Trial :=
  (t.untaken, { t with untaken := false, open_ := t.open_ || t.untaken })

/-- Writes into the channel and reads as many bytes back. -/
def roundTrip (t : Trial) (data : List UInt8) (d : Duration) : List UInt8 × Trial :=
  let t := t.waitFor (fun t => t.child.deeds.isEmpty) d
  let echoed := match t.child.ending with
    | .echo => if t.child.isRunning && t.open_ then data else []
    | _ => []
  let bytes := t.child.written ++ echoed
  (bytes.take data.length,
    { t with child := { t.child with written := bytes.drop data.length } })

/-- Closes the channel. -/
def closeChannel (t : Trial) : Trial :=
  if t.open_ then { t with open_ := false, child := t.child.closeInput } else t

end Trial

end Sidecar
