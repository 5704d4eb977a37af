/-
# Provisioning

An environment is a directory with a runtime of its own. It is installed if
that runtime lists the package of the server; that the directory exists says
nothing. An installer script is run with the environment's directory as its
only argument, and its output is told to the output channel.

What the system does is given by a `Shell`, so that nothing is assumed about
files, listings or installers.

Key definitions: `Shell`, `Provision.isInstalled`, `Provision.install`,
`Provision.ensure`.
-/
import Sidecar.Process.Exit
import Sidecar.Process.Output
import Sidecar.Settings
import Sidecar.Sink

namespace Sidecar

/-- What an installer that was run leaves. -/
structure InstallerRun where
  /-- How it ended, or why nobody knows. -/
  exit : Except SystemError Exit
  out : List UInt8 := []
  err : List UInt8 := []

/-- What the system does, on states `σ`. -/
structure Shell (σ : Type) where
  isFile : σ → String → Bool × σ
  /-- Runs a runtime with arguments and collects its output; nothing if it does not run. -/
  list : σ → (runtime : String) → (args : List String) → Option (Exit × List UInt8) × σ
  /-- Finds the program that runs scripts, or says why there is none. -/
  findRunner : σ → Except String String × σ
  /-- Runs an installer script in a directory, for a target. -/
  install : σ → (runner script root target : String) → Except SystemError InstallerRun × σ

namespace Provision

/-- The name of a signal. -/
def signalName : Nat → Option String
  | 1 => some "SIGHUP"
  | 2 => some "SIGINT"
  | 3 => some "SIGQUIT"
  | 4 => some "SIGILL"
  | 5 => some "SIGTRAP"
  | 6 => some "SIGABRT"
  | 7 => some "SIGBUS"
  | 8 => some "SIGFPE"
  | 9 => some "SIGKILL"
  | 10 => some "SIGUSR1"
  | 11 => some "SIGSEGV"
  | 12 => some "SIGUSR2"
  | 13 => some "SIGPIPE"
  | 14 => some "SIGALRM"
  | 15 => some "SIGTERM"
  | 16 => some "SIGSTKFLT"
  | 17 => some "SIGCHLD"
  | 18 => some "SIGCONT"
  | 19 => some "SIGSTOP"
  | 20 => some "SIGTSTP"
  | 21 => some "SIGTTIN"
  | 22 => some "SIGTTOU"
  | 23 => some "SIGURG"
  | 24 => some "SIGXCPU"
  | 25 => some "SIGXFSZ"
  | 26 => some "SIGVTALRM"
  | 27 => some "SIGPROF"
  | 28 => some "SIGWINCH"
  | 29 => some "SIGIO"
  | 30 => some "SIGPWR"
  | 31 => some "SIGSYS"
  | _ => none

/-- How the exit of an installer is shown. -/
def exitText (e : Exit) : String :=
  match e.code, e.signal with
  | some c, _ => s!"exit status: {c}"
  | none, some n => s!"signal: {n}" ++ ((signalName n).elim "" fun s => " (" ++ s ++ ")")
  | none, none => "unknown status"

/-- Whether a listing that was run shows the package. -/
def lists (package : String) : Option (Exit × List UInt8) → Bool
  | some (exit, out) => exit.success && Text.contains package.toList (Utf8.lossy out)
  | none => false

/-- Whether the environment's runtime lists the package. Without a runtime nothing is run. -/
def isInstalled {σ : Type} (sh : Shell σ) (p : ProvisionSettings) (target : String) (s : σ) :
    Bool × σ :=
  let runtime := envRuntime target
  let (there, s) := sh.isFile s runtime
  if there then
    let (listing, s) := sh.list s runtime p.listArgs
    (lists p.requiredPackage listing, s)
  else (false, s)

/-- What the output channel is told of an installer that has run. -/
def tell (sink : Sink) (texts : List String) : Sink :=
  texts.foldl (fun sink t => sink.add .info t) sink

theorem entries_tell (sink : Sink) (texts : List String) :
    (tell sink texts).entries = sink.entries ++ texts.map (Entry.mk .info) := by
  induction texts generalizing sink with
  | nil => simp [tell]
  | cons t texts ih =>
    show (tell (sink.add .info t) texts).entries = _
    rw [ih, Sink.entries_add, List.append_assoc, List.map_cons, List.singleton_append]

/-- What comes of the installer. -/
def report (script : String) (sink : Sink) : Except SystemError InstallerRun → Bool × Sink
  | .error e => (false, sink.add .error s!"Failed to run installer {script}: {e.message}")
  | .ok run =>
    let sink := tell (tell sink (Output.forward run.out)) (Output.forward run.err)
    match run.exit with
    | .error e => (false, sink.add .error s!"Waiting on installer failed: {e.message}")
    | .ok exit =>
      if exit.success then (true, sink.add .info "Installer finished")
      else (false, sink.add .error ("Installer exited with " ++ exitText exit))

/-- Runs the installer, if there is a script and something to run it. -/
def install {σ : Type} (sh : Shell σ) (p : ProvisionSettings) (root target : String) (s : σ)
    (sink : Sink) : Bool × σ × Sink :=
  let script := p.scriptPath root
  let (there, s) := sh.isFile s script
  if !there then (false, s, sink.add .error s!"Installer script {script} does not exist")
  else
    match sh.findRunner s with
    | (.error e, s) =>
      (false, s, sink.add .error s!"No shell available to run the installer: {e}")
    | (.ok runner, s) =>
      let sink := sink.add .info s!"Installing the YARA language server into {target}"
      let (run, s) := sh.install s runner script root target
      let (ok, sink) := report script sink run
      (ok, s, sink)

/-- Makes sure that the environment is installed: if it is not, the installer decides. -/
def ensure {σ : Type} (sh : Shell σ) (p : ProvisionSettings) (root target : String) (s : σ)
    (sink : Sink) : Bool × σ × Sink :=
  let (installed, s) := isInstalled sh p target s
  if installed then (true, s, sink) else install sh p root target s sink

end Provision

end Sidecar
