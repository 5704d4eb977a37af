/-
# The command line on a host

The whole program: it reads its configuration, opens its log, and installs,
reports or runs. It is told the files of a host, the environment and the
arguments, and it gives what it has shown, its exit code, and the host as it
leaves it.

Key definitions: `Cli.execute`, `Cli.Report`.
-/
import Sidecar.Cli.Arguments
import Sidecar.Cli.Run
import Sidecar.Rehearsal.Script

namespace Sidecar.Cli

/-- What a program that has ended leaves. -/
structure Report where
  code : Nat
  out : List String := []
  err : List String := []
  host : Host
  /-- How long it ran, in nanoseconds. -/
  elapsed : Nat := 0

/-- How the program ends. -/
inductive Outcome where
  | ended (r : Report)
  /-- The arguments make no sense. -/
  | misused
  /-- It runs until it is interrupted. -/
  | endless

/-- The name and the version. -/
def versionText : String := "yls " ++ Message.clientVersion

/-! ### Configuration and log -/

/-- The causes of a failure to load the configuration. -/
def loadCauses : Config.LoadError → List String
  | .unreadable path cause => [s!"failed to read config at {path}: {cause.message}", cause.message]
  | .unparsable path cause =>
    match cause.account? with
    | none => [s!"failed to parse config at {path}", "not TOML"]
    | some (message, keys) =>
      [s!"failed to parse config at {path}: {Config.located message keys}",
        Config.located message keys]

/-- The configuration: from the file that was asked for, or from its usual place. -/
def configure (h : Host) (env : Environment) : Option String → Except Config.LoadError Config
  | some path => Config.loadFrom env path (h.find path)
  | none => (Config.load env h.find).map fun c => c.getD {}

/-- The log files to try, in order: beside the configuration, then below the working
directory. -/
def logCandidates (env : Environment) : List String :=
  let beside := ((Config.location? env).bind Path.parent?).map fun d =>
    Path.join (Path.join d "logs") "yls.log"
  beside.toList ++ [".yls/logs/yls.log"]

/-- Opens a log file, for which its directory is made if need be; true if that worked. -/
def openLogAt (h : Host) (path : String) : Bool × Host :=
  match Files.checkPath path with
  | .error _ => (false, h)
  | .ok _ =>
    let top := if Path.isAbsolute path then [] else h.directory
    let names := Path.components path
    match h.files.makeDirectories top names.dropLast with
    | (.error _, files) => (false, { h with files })
    | (.ok directory, files) =>
      let place := directory ++ [names.getLastD ""]
      match files.at? place with
      | some .directory => (false, { h with files })
      | some (.file _ _) => (true, { h with files })
      | none => (true, { h with files := files.set place (Files.plain []) })

/-- Opens the first log file that can be opened. -/
def openFirstLog (h : Host) : List String → Host
  | [] => h
  | path :: rest =>
    match openLogAt h path with
    | (true, h) => h
    | (false, h) => openFirstLog h rest

def openLog (h : Host) (env : Environment) : Host := openFirstLog h (logCandidates env)

/-! ### Commands -/

/-- The settings with what the command line says about the server. -/
def applyServer (o : ServerOptions) (s : Settings) : Settings :=
  { s with server := { s.server with
      root := o.root.getD s.server.root
      envDir := o.target.orElse fun _ => s.server.envDir } }

/-- The settings with what the command line says about the transport. -/
def applyRun (o : RunOptions) (s : Settings) : Except SettingsError Settings :=
  let t := o.transport.elim s.transport s.transport.withKind
  match o.port with
  | none => .ok { s with transport := t }
  | some p => (t.withPort (some p)).map fun t => { s with transport := t }

def install (h : Host) (s : Settings) (verbose : Bool) : Report :=
  let target := s.server.envPath
  let (ensured, h, sink) := Provision.ensure Host.shell s.provision s.server.root target h {}
  let (installed, h) :=
    if ensured then Provision.isInstalled Host.shell s.provision target h else (false, h)
  { code := if installed then 0 else 1
    out := [(if installed then "installed: " else "not installed: ") ++ target]
    err := Console.entryLines sink verbose
    host := h }

def status (h : Host) (env : Environment) (s : Settings) : Report :=
  let target := s.server.envPath
  let (installed, h) := Provision.isInstalled Host.shell s.provision target h
  let t := s.transport
  { code := if installed then 0 else 1
    out :=
      ["environment: " ++ target,
        "installed:   " ++ (if installed then "yes" else "no"),
        "runtime:     " ++ s.server.runtimeOverride.getD (envRuntime target),
        "entrypoint:  " ++ s.server.entrypointPath,
        "transport:   " ++ t.kind.label] ++
      (if t.kind == .socket then
        ["host:        " ++ t.host.render,
          "port:        " ++ (t.port.elim "probed per session" toString)]
      else []) ++
      ((Config.location? env).map fun path => "config:      " ++ path).toList
    host := h }

/-! ### Runs -/

/-- Tells the current session's server something. -/
def tellCurrent (r : Rehearsal) (f : Client → Except ClientError Unit × Client) :
    Except ClientError Unit × Rehearsal :=
  match r.manager.current with
  | none => (.error .closed, r)
  | some k => (r.channel? k).elim (.error .closed, r) fun v => r.tell k v f

/-- The text of a file. -/
def textOf (h : Host) (path : String) : Except SystemError String :=
  match h.find path with
  | .missing cause => .error cause
  | .directory => .error .isDirectory
  | .file content =>
    match Utf8.toString? content with
    | some text => .ok text
    | none => .error (.text "stream did not contain valid UTF-8")

/-- What a run finds on a host. -/
def runWorld : RunWorld Rehearsal where
  start r := r.restart
  shutdown r := r.shutdown
  discard r := r.discard
  introduce r :=
    match r.manager.current with
    | none => (.error .closed, r)
    | some k =>
      (r.channel? k).elim (.error .closed, r) fun v =>
        let root := (Uri.ofPath (Utf8.ofString (Host.render r.host.directory))).toOption
        let (e, r) := r.request k v "initialize" (some (Message.initializeParams 0 root))
          .initialized
        (e.map fun _ => (), r)
  configure r :=
    tellCurrent r fun c =>
      c.didChangeConfiguration (Json.object [("compile_on_save", .bool true)])
  canonical r path :=
    match r.host.files.look r.host.directory path with
    | .ok (place, _) => .ok (Host.render place)
    | .error e => .error e
  read r path := textOf r.host path
  opens r uri text := tellCurrent r fun c => c.didOpen uri text
  save r uri := tellCurrent r fun c => c.didSave uri
  next r :=
    match r.manager.current with
    | none => (.ended, r)
    | some k =>
      match r.nextEvent k Rehearsal.patience with
      | (.event e, r) => (.event e, r)
      | (.ended, r) => (.ended, r)
      | (.nothing, r) => (.never, r)

/-- More events than any run takes. -/
def manyEvents : Nat := 1000000

def run (h : Host) (s : Settings) (o : RunOptions) (verbose : Bool) : Outcome :=
  let (e, r) := runWorld.run s.documents o.files o.once manyEvents (Rehearsal.ofHost h s 0)
  let entries := Console.entryLines r.manager.sink verbose
  let done (t : Tally) : Outcome := .ended {
    code := if t.success then 0 else 1
    out := t.shown
    err := entries
    host := r.host
    elapsed := r.now }
  match e with
  | .endless => .endless
  | .finished t => done t
  | .interrupted t => done t
  | .broken shown => .ended {
      code := 101
      out := shown
      err := entries
      host := r.host
      elapsed := r.now }
  | .failed c => .ended {
      code := 1
      err := entries ++ [c.render]
      host := r.host
      elapsed := r.now }

/-- A command that failed before it did anything. -/
def refuse (h : Host) (c : Complaint) : Outcome := .ended { code := 1, err := [c.render], host := h }

/-- A command with all that the command line says. -/
def perform (h : Host) (env : Environment) (i : Invocation) : Outcome :=
  match configure h env i.config with
  | .error e => refuse h ⟨"loading config", loadCauses e⟩
  | .ok c =>
    let h := openLog h env
    let s := applyServer i.server c.settings
    match i.verb with
    | .install => .ended (install h s i.verbose)
    | .status => .ended (status h env s)
    | .run =>
      match applyRun i.run s with
      | .error e => refuse h ⟨"invalid --port", [e.message]⟩
      | .ok s => run h s i.run i.verbose

/-- The whole program. -/
def execute (h : Host) (env : Environment) (args : List String) : Outcome :=
  match Invocation.parse args with
  | .misuse => .misused
  | .help => .ended { code := 0, host := h }
  | .version => .ended { code := 0, out := [versionText], host := h }
  | .invoke i => perform h env i

end Sidecar.Cli
