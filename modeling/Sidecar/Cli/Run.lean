/-
# Running rule files through a server

A run starts a session, opens and saves each rule file, and shows what the
server says about them. With `once` it stops as soon as every file has got
its diagnostics. It succeeds if no diagnostic was an error and the channel
was not lost. A diagnostic whose place cannot be counted from one breaks the
run off: nothing is shown behind it. The user may interrupt a run that waits
for events, which then ends as if the events had ended.

Some ways out shut the session down and wait for that. On the others the
session is just let go.

What happens outside is given by a `RunWorld`, so that nothing is assumed
about servers and files.

Key definitions:
* `Tally.take`, what a run makes of an event;
* `RunWorld`, what a run needs, and `RunWorld.run`, the run.
-/
import Sidecar.Cli.Console
import Sidecar.Client.Basic
import Sidecar.Path
import Sidecar.Selector
import Sidecar.Session.Basic
import Sidecar.Uri.File

namespace Sidecar

/-- What a run keeps of the events. -/
structure Tally where
  /-- Files without diagnostics so far. -/
  pending : List String := []
  errors : Nat := 0
  /-- Lines for the user. -/
  shown : List String := []
  /-- Whether the channel was lost. -/
  lost : Bool := false
  /-- Whether a diagnostic could not be shown. -/
  broken : Bool := false
  deriving DecidableEq, Repr

namespace Tally

/-- How a document is named to the user. -/
def nameOf (uri : String) : String :=
  (Uri.toPath? uri).elim uri fun path => String.ofList (Utf8.lossy path)

/-- What diagnostics show, up to the first that cannot be shown. -/
def linesOf (uri : String) : List Diagnostic → List String
  | [] => []
  | d :: rest =>
    match d.display? with
    | none => [nameOf uri ++ ":"]
    | some text => (nameOf uri ++ ":" ++ text) :: linesOf uri rest

/-- Takes an event; true if the run stops with it. -/
def take (t : Tally) : ServerEvent → Tally × Bool
  | .diagnostics uri items =>
    let broken := items.any fun d => d.display?.isNone
    ({ t with
      pending := t.pending.filter (· != uri)
      errors := t.errors + (items.filter fun d => d.severity == .error).length
      shown := t.shown ++ linesOf uri items
      broken }, broken)
  | .closed _ => ({ t with lost := true }, true)

/-- Whether nothing is left to wait for. -/
def isDone (once : Bool) (t : Tally) : Bool := once && t.pending.isEmpty

def success (t : Tally) : Bool := t.errors == 0 && !t.lost

end Tally

/-- The next thing that comes from the server. -/
inductive Occurrence where
  | event (e : ServerEvent)
  /-- The stream of events has ended. -/
  | ended
  /-- The user interrupts the run. -/
  | interrupted
  /-- Nothing ever comes. -/
  | never

/-- What a run needs of the world, on states `σ`. -/
structure RunWorld (σ : Type) where
  start : σ → Option StartError × σ
  shutdown : σ → σ
  /-- Lets the session go without a shutdown. -/
  discard : σ → σ
  introduce : σ → Except ClientError Unit × σ
  configure : σ → Except ClientError Unit × σ
  canonical : σ → String → Except SystemError String
  read : σ → String → Except SystemError String
  opens : σ → (uri text : String) → Except ClientError Unit × σ
  save : σ → (uri : String) → Except ClientError Unit × σ
  next : σ → Occurrence × σ

/-- How a run ends. -/
inductive RunEnd where
  | finished (t : Tally)
  /-- The user ended it. -/
  | interrupted (t : Tally)
  /-- It failed; what it has shown before stands. -/
  | failed (c : Complaint)
  /-- It broke off in the middle of what it showed. -/
  | broken (shown : List String)
  /-- It goes on for ever. -/
  | endless

namespace RunWorld

variable {σ : Type}

/-- The language of a file, by its name. -/
def languageOf (path : String) : String :=
  ((Path.extension? path).bind Selector.languageOf?).getD "plaintext"

/-- Hands one file to the server; its URI if the server gets it. -/
def handIn (w : RunWorld σ) (selector : Selector) (s : σ) (file : String) :
    Except Complaint (Option String) × σ :=
  match w.canonical s file with
  | .error e => (.error ⟨file, [e.message]⟩, s)
  | .ok path =>
    match Uri.ofPath (Utf8.ofString path) with
    | .error e => (.error ⟨e.message, []⟩, s)
    | .ok uri =>
      if !selector.serves uri (languageOf path) then (.ok none, s)
      else
        match w.read s path with
        | .error e => (.error ⟨"reading " ++ path, [e.message]⟩, s)
        | .ok text =>
          match w.opens s uri text with
          | (.error e, s) => (.error ⟨e.message, []⟩, s)
          | (.ok _, s) =>
            match w.save s uri with
            | (.error e, s) => (.error ⟨e.message, []⟩, s)
            | (.ok _, s) => (.ok (some uri), s)

/-- Hands all files to the server, until one fails. -/
def handInAll (w : RunWorld σ) (selector : Selector) (s : σ) (pending : List String) :
    List String → Except Complaint (List String) × σ
  | [] => (.ok pending, s)
  | file :: rest =>
    match w.handIn selector s file with
    | (.error c, s) => (.error c, s)
    | (.ok none, s) => handInAll w selector s pending rest
    | (.ok (some uri), s) => handInAll w selector s (pending ++ [uri]) rest

/-- Takes events until the run is done. -/
def follow (w : RunWorld σ) (once : Bool) (t : Tally) : Nat → σ → RunEnd × σ
  | 0, s => (.endless, s)
  | fuel + 1, s =>
    if t.isDone once then (.finished t, s)
    else
      match w.next s with
      | (.never, s) => (.endless, s)
      | (.ended, s) => (.finished t, s)
      | (.interrupted, s) => (.interrupted t, s)
      | (.event e, s) =>
        match t.take e with
        | (t, true) => (if t.broken then .broken t.shown else .finished t, s)
        | (t, false) => follow w once t fuel s

/-- How a run leaves its session once it is done with the events. -/
def leave (w : RunWorld σ) : RunEnd × σ → RunEnd × σ
  | (.finished t, s) => (.finished t, w.shutdown s)
  | (.interrupted t, s) => (.interrupted t, w.shutdown s)
  | (.failed c, s) => (.failed c, w.discard s)
  | (.broken shown, s) => (.broken shown, w.discard s)
  | (.endless, s) => (.endless, s)

theorem fst_leave (w : RunWorld σ) (x : RunEnd × σ) : (w.leave x).1 = x.1 := by
  obtain ⟨e, s⟩ := x
  cases e <;> rfl

/-- A run. Only a start that fails and an end of the events shut the session down; on any other
way out it is let go. -/
def run (w : RunWorld σ) (selector : Selector) (files : List String) (once : Bool) (fuel : Nat)
    (s : σ) : RunEnd × σ :=
  match w.start s with
  | (some e, s) => (.failed ⟨"starting the language server", [e.message]⟩, w.shutdown s)
  | (none, s) =>
    match w.introduce s with
    | (.error e, s) => w.leave (.failed ⟨"initialize", [e.message]⟩, s)
    | (.ok _, s) =>
      match w.configure s with
      | (.error e, s) => w.leave (.failed ⟨"didChangeConfiguration", [e.message]⟩, s)
      | (.ok _, s) =>
        match w.handInAll selector s [] files with
        | (.error c, s) => w.leave (.failed c, s)
        | (.ok pending, s) => w.leave (w.follow once { pending } fuel s)

end RunWorld

end Sidecar
