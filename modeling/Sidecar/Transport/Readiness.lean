/-
# Waiting until an endpoint is ready

A server needs time until it listens. Connections are attempted again and
again, each within the time a connection may take and never beyond the
deadline, with a pause between two attempts. The first attempt that succeeds
ends the wait, and so does the deadline.

Key definitions: `Poll`, `Poll.attempt`, `Poll.run`, `awaitReady`.
-/
import Sidecar.Settings
import Sidecar.Transport.Endpoint

namespace Sidecar

/-- How an attempt at a time and within a budget goes: whether it succeeds and how long it
takes. Times are in nanoseconds. -/
abbrev Probe := Nat → Nat → Bool × Nat

/-- A wait for an endpoint, in nanoseconds. -/
structure Poll where
  /-- The pause between two attempts. -/
  interval : Nat
  /-- The time one attempt may take. -/
  connect : Nat
  deadline : Nat
  deriving DecidableEq, Repr

namespace Poll

/-- The wait that settings ask for, begun at a time. -/
def ofSettings (s : TransportSettings) (timeout : Duration) (now : Nat) : Poll :=
  { interval := s.pollInterval.nanos
    connect := s.connectTimeout.nanos
    deadline := now + timeout.nanos }

/-- What comes after an attempt. -/
inductive Next where
  | ready (time : Nat)
  | late (time : Nat)
  /-- Another attempt at a later time. -/
  | again (time : Nat)
  deriving DecidableEq, Repr

/-- The time an attempt may take; without any there is no attempt. -/
def budget (p : Poll) (now : Nat) : Nat := min p.connect (p.deadline - now)

/-- One attempt and what comes after it. -/
def attempt (p : Poll) (probe : Probe) (now : Nat) : Next :=
  let budget := p.budget now
  let (ok, took) := if budget = 0 then (false, 0) else probe now budget
  let time := now + min took budget
  if ok then .ready time
  else if p.deadline ≤ time then .late time
  else .again (time + min p.interval (p.deadline - time))

/-- How a wait ended, when, and at which times connections were attempted. -/
structure Outcome where
  ready : Bool
  time : Nat
  attempts : List Nat
  deriving DecidableEq, Repr

/-- The times at which an attempt at `now` makes a connection attempt. -/
def attempted (p : Poll) (now : Nat) : List Nat := if p.budget now = 0 then [] else [now]

/-- Attempts until one succeeds or the deadline is reached. -/
def run (p : Poll) (probe : Probe) (now : Nat) : Outcome :=
  match p.attempt probe now with
  | .ready time => ⟨true, time, p.attempted now⟩
  | .late time => ⟨false, time, p.attempted now⟩
  | .again time =>
    if _h : now < time ∧ time ≤ p.deadline then
      let rest := run p probe time
      { rest with attempts := p.attempted now ++ rest.attempts }
    else ⟨false, time, p.attempted now⟩
termination_by p.deadline - now

end Poll

/-- Waits until an endpoint is ready. Standard input and output are, as soon as there is a
process. -/
def awaitReady (s : TransportSettings) (e : Endpoint) (timeout : Duration) (probe : Probe)
    (now : Nat) : Poll.Outcome :=
  match e with
  | .stdio => ⟨true, now, []⟩
  | _ => (Poll.ofSettings s timeout now).run probe now

end Sidecar
