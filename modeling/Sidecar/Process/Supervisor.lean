/-
# Supervised processes

A task of its own waits for the process and is the only one that signals and
reaps it. It is told what to do through a queue of requests, makes the exit
known once, and kills the process when nobody holds it any more.

To end a process, it is asked to terminate; if it has not exited when the
grace is over, it is killed and waited for a little longer.

The waiting task and the calls that end the process run side by side. A `Move`
is the least that one of them does before another may come in between: a call
looks for a known exit and then asks for the termination, and the process may
be reaped in the meantime.

Key definitions: `Supervised`, `Supervised.Move`, `Supervised.step`.
-/
import Sidecar.Duration
import Sidecar.Process.Exit

namespace Sidecar

namespace Supervised

/-- What the waiting task can be asked to do to the process. -/
inductive Signal where
  | terminate
  | kill
  deriving DecidableEq, Repr

/-- A request to the waiting task, with the call that ends the process if it comes from one. -/
structure Request where
  signal : Signal
  call : Option Nat := none
  deriving DecidableEq, Repr

/-- How far the waiting task has come. -/
inductive Waiter where
  /-- It waits for the process and for requests. -/
  | waiting
  /-- It has killed the process and waits for its end only. -/
  | killing
  /-- It has reaped the process and takes no more requests. -/
  | reaped (exit : Exit)
  /-- It has made the exit known. -/
  | leaving
  /-- It is gone, and so is its queue. -/
  | finished
  deriving DecidableEq, Repr

/-- How far a call that ends the process has come. -/
inductive Ending where
  /-- It has found no exit and is about to ask for the termination. -/
  | asking
  /-- It waits for the grace. -/
  | gracious
  /-- It is about to ask for the kill. -/
  | escalating
  /-- It has asked for the kill and waits a little longer. -/
  | forced
  | returned (exit : Option Exit)
  deriving DecidableEq, Repr

end Supervised

/-- A process with all that supervises it. -/
structure Supervised where
  /-- How the process ended, reaped or not. -/
  ended : Option Exit := none
  /-- Requests that the waiting task has not taken. -/
  requests : List Supervised.Request := []
  /-- Requests whose signals the process was sent, oldest first. -/
  sent : List Supervised.Request := []
  waiter : Supervised.Waiter := .waiting
  /-- The exit that was made known. -/
  known : Option Exit := none
  /-- Whether anyone holds the process. -/
  held : Bool := true
  /-- The calls that end the process, oldest first. -/
  calls : List Supervised.Ending := []
  deriving DecidableEq, Repr

namespace Supervised

/-- How long a killed process is waited for. -/
def killWait : Duration := Duration.ofSeconds 2

/-- Puts a request into the queue; a waiting task that is gone has none. -/
def request (p : Supervised) (r : Request) : Supervised :=
  if p.waiter = .finished then p else { p with requests := p.requests ++ [r] }

def setCall (p : Supervised) (i : Nat) (e : Ending) : Supervised :=
  { p with calls := p.calls.set i e }

/-! ### Calls that end the process -/

/-- A call begins. A known exit is returned at once. -/
def begin (p : Supervised) : Supervised :=
  match p.known with
  | some e => { p with calls := p.calls ++ [.returned (some e)] }
  | none => { p with calls := p.calls ++ [.asking] }

/-- A call asks for the termination. Without a queue it goes on to the kill. -/
def ask (p : Supervised) (i : Nat) : Supervised :=
  match p.calls[i]? with
  | some .asking =>
    if p.waiter = .finished then p.setCall i .escalating
    else (p.request ⟨.terminate, some i⟩).setCall i .gracious
  | _ => p

/-- A call that waits notices a known exit. -/
def notice (p : Supervised) (i : Nat) : Supervised :=
  match p.calls[i]?, p.known with
  | some .gracious, some e => p.setCall i (.returned (some e))
  | some .forced, some e => p.setCall i (.returned (some e))
  | _, _ => p

/-- The grace of a call is over, or its wait after the kill. -/
def expire (p : Supervised) (i : Nat) : Supervised :=
  match p.calls[i]? with
  | some .gracious =>
    match p.known with
    | some e => p.setCall i (.returned (some e))
    | none => p.setCall i .escalating
  | some .forced => p.setCall i (.returned p.known)
  | _ => p

/-- A call asks for the kill. -/
def force (p : Supervised) (i : Nat) : Supervised :=
  match p.calls[i]? with
  | some .escalating => (p.request ⟨.kill, some i⟩).setCall i .forced
  | _ => p

/-! ### The waiting task -/

/-- The waiting task kills the process. -/
def killNow (p : Supervised) (r : Request) : Supervised :=
  { p with sent := p.sent ++ [r], waiter := .killing }

/-- The waiting task takes a request; without one, it notices that nobody holds the process. -/
def take (p : Supervised) : Supervised :=
  match p.waiter with
  | .waiting =>
    match p.requests with
    | r :: rest =>
      match r.signal with
      | .terminate => { p with requests := rest, sent := p.sent ++ [r] }
      | .kill => { p with requests := rest }.killNow r
    | [] => if p.held then p else p.killNow ⟨.kill, none⟩
  | _ => p

/-- The waiting task has the exit of the process and leaves its loop. -/
def collect (p : Supervised) (e : Exit) : Supervised :=
  match p.waiter with
  | .waiting => { p with waiter := .reaped e }
  | .killing => { p with waiter := .reaped e }
  | _ => p

/-- The waiting task reaps a process that has ended. -/
def reap (p : Supervised) : Supervised := p.ended.elim p p.collect

/-- The waiting task makes the exit known. -/
def publish (p : Supervised) : Supervised :=
  match p.waiter with
  | .reaped e => { p with known := some e, waiter := .leaving }
  | _ => p

/-- The waiting task goes. -/
def leave (p : Supervised) : Supervised :=
  match p.waiter with
  | .leaving => { p with waiter := .finished }
  | _ => p

/-! ### Moves -/

/-- The least that can happen before something else may. -/
inductive Move where
  /-- The process ends: by itself, by a signal, or for any other reason. -/
  | exits (e : Exit)
  /-- The waiting task takes a request. -/
  | take
  /-- The waiting task reaps. -/
  | reap
  /-- The process cannot be waited for, so that nobody knows how it ended. -/
  | lose
  /-- The waiting task makes the exit known. -/
  | publish
  /-- The waiting task goes. -/
  | leave
  /-- A call that ends the process begins, with its grace. -/
  | begin (grace : Duration)
  | ask (call : Nat)
  | notice (call : Nat)
  | expire (call : Nat)
  | force (call : Nat)
  /-- The kill is asked for, and nothing is waited for. -/
  | kill
  /-- Nobody holds the process any more. -/
  | drop
  deriving DecidableEq, Repr

/-- What a move does. -/
def step (p : Supervised) : Move → Supervised
  | .exits e => if p.ended.isNone then { p with ended := some e } else p
  | .take => p.take
  | .reap => p.reap
  | .lose => p.collect {}
  | .publish => p.publish
  | .leave => p.leave
  | .begin _ => p.begin
  | .ask i => p.ask i
  | .notice i => p.notice i
  | .expire i => p.expire i
  | .force i => p.force i
  | .kill => p.request ⟨.kill, none⟩
  | .drop => { p.request ⟨.kill, none⟩ with held := false }

/-- What a sequence of moves does. -/
def run (p : Supervised) (moves : List Move) : Supervised := moves.foldl step p

/-- What a call does first, with nothing in between. -/
def opening (call : Nat) (grace : Duration) : List Move := [.begin grace, .ask call]

/-- What a call does when the time of its wait is over, with nothing in between. -/
def lapse (call : Nat) : List Move := [.expire call, .force call]

/-- What the waiting task does when the process has ended, with nothing in between. -/
def closing : List Move := [.reap, .publish, .leave]

end Supervised

end Sidecar
