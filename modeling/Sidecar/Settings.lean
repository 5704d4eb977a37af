/-
# Settings

Everything a session can be told, with defaults throughout, so that an empty
document gives a working setup. Relative paths are resolved against the root.
Transport settings are checked as a whole: a loopback host, a port other than
zero, and durations other than zero.

Key definitions:
* `Settings`, all of them, and `Settings.read`, from a document;
* `TransportSettings.check`, the one way to checked transport settings;
* `TransportSettings.withPort` and the like, changes that keep them checked.
-/
import Sidecar.Duration
import Sidecar.Path
import Sidecar.Selector
import Sidecar.Shape
import Sidecar.Transport.Kind

namespace Sidecar

/-! ### The server -/

/-- Where the server lives. -/
structure ServerSettings where
  root : String := "."
  envDir : Option String := none
  entrypoint : String := "server/vscode_yara.py"
  workingDir : String := "server"
  runtime : Option String := none
  deriving DecidableEq, Repr

namespace ServerSettings

open Shape

def resolve (s : ServerSettings) (p : String) : String := Path.join s.root p

/-- The directory of the environment the server is installed into. -/
def envPath (s : ServerSettings) : String :=
  match s.envDir with
  | some d => s.resolve d
  | none => Path.join (Path.join s.root "server") "env"

def entrypointPath (s : ServerSettings) : String := s.resolve s.entrypoint

def workingPath (s : ServerSettings) : String := s.resolve s.workingDir

/-- The runtime to use instead of the environment's own. -/
def runtimeOverride (s : ServerSettings) : Option String := s.runtime.map s.resolve

def read : Reader ServerSettings :=
  record "ServerSettings" [
    field "root" path fun x s => { s with root := x },
    field "env_dir" (optional path) fun x s => { s with envDir := x },
    field "entrypoint" path fun x s => { s with entrypoint := x },
    field "working_dir" path fun x s => { s with workingDir := x },
    field "runtime" (optional path) fun x s => { s with runtime := x }] {}

end ServerSettings

/-- The interpreter of an environment. -/
def envRuntime (env : String) : String := Path.join (Path.join env "bin") "python"

/-! ### The transport -/

/-- Why settings are refused. -/
inductive SettingsError where
  | remoteHost (host : Net.Address)
  | zeroPort
  | zeroDuration (name : String)
  deriving DecidableEq, Repr

def SettingsError.message : SettingsError → String
  | .remoteHost host => s!"transport host {host.render} is not a loopback address"
  | .zeroPort => "transport port must not be 0 (omit it to probe for a free port)"
  | .zeroDuration name => s!"{name} must be greater than zero"

/-- Transport settings as a document gives them. -/
structure RawTransport where
  kind : TransportKind := .socket
  host : Net.Address := Net.Address.localhost
  port : Option Nat := none
  bindTimeoutMs : Nat := 5000
  pollIntervalMs : Nat := 100
  connectTimeoutMs : Nat := 2000
  deriving DecidableEq, Repr

/-- Transport settings that passed the check. -/
structure TransportSettings where
  kind : TransportKind := .socket
  host : Net.Address := Net.Address.localhost
  port : Option Nat := none
  bindTimeout : Duration := Duration.ofMillis 5000
  pollInterval : Duration := Duration.ofMillis 100
  connectTimeout : Duration := Duration.ofMillis 2000
  deriving DecidableEq, Repr, Inhabited

namespace TransportSettings

open Shape

/-- Refuses the first of these: a host that is not loopback, port zero, a duration of zero. -/
def check (raw : RawTransport) : Except SettingsError TransportSettings :=
  if !raw.host.isLoopback then .error (.remoteHost raw.host)
  else if raw.port == some 0 then .error .zeroPort
  else if raw.bindTimeoutMs == 0 then .error (.zeroDuration "bind_timeout_ms")
  else if raw.pollIntervalMs == 0 then .error (.zeroDuration "poll_interval_ms")
  else if raw.connectTimeoutMs == 0 then .error (.zeroDuration "connect_timeout_ms")
  else .ok {
    kind := raw.kind
    host := raw.host
    port := raw.port
    bindTimeout := Duration.ofMillis raw.bindTimeoutMs
    pollInterval := Duration.ofMillis raw.pollIntervalMs
    connectTimeout := Duration.ofMillis raw.connectTimeoutMs }

def withKind (s : TransportSettings) (kind : TransportKind) : TransportSettings :=
  { s with kind }

def withPort (s : TransportSettings) (port : Option Nat) :
    Except SettingsError TransportSettings :=
  if port == some 0 then .error .zeroPort else .ok { s with port }

def withBindTimeout (s : TransportSettings) (d : Duration) :
    Except SettingsError TransportSettings :=
  if d.isZero then .error (.zeroDuration "bind_timeout_ms") else .ok { s with bindTimeout := d }

def withPollInterval (s : TransportSettings) (d : Duration) :
    Except SettingsError TransportSettings :=
  if d.isZero then .error (.zeroDuration "poll_interval_ms") else .ok { s with pollInterval := d }

def readRaw : Reader RawTransport :=
  record "RawTransportSettings" [
    field "kind" (variant ["stdio", "ipc", "socket"] TransportKind.ofLabel?)
      fun x s => { s with kind := x },
    field "host" address fun x s => { s with host := x },
    field "port" (optional (unsigned 16)) fun x s => { s with port := x },
    field "bind_timeout_ms" (unsigned 64) fun x s => { s with bindTimeoutMs := x },
    field "poll_interval_ms" (unsigned 64) fun x s => { s with pollIntervalMs := x },
    field "connect_timeout_ms" (unsigned 64) fun x s => { s with connectTimeoutMs := x }] {}

/-- First field by field, then as a whole. -/
def read : Shape.Reader TransportSettings := fun v =>
  match readRaw v with
  | .error e => .error e
  | .ok raw =>
    match check raw with
    | .ok s => .ok s
    | .error e => .error ⟨.refused e.message, []⟩

end TransportSettings

/-! ### Provisioning, life cycle, documents -/

/-- The package a usable environment has. -/
def serverPackage : String := "yarals"

/-- How the server gets installed. -/
structure ProvisionSettings where
  autoInstall : Bool := true
  script : Option String := none
  requiredPackage : String := serverPackage
  listArgs : List String := ["-m", "pip", "list"]
  deriving DecidableEq, Repr

namespace ProvisionSettings

open Shape

/-- The installer, seen from a root. -/
def scriptPath (s : ProvisionSettings) (root : String) : String :=
  match s.script with
  | some p => Path.join root p
  | none => Path.join (Path.join root "client") "install.sh"

def read : Reader ProvisionSettings :=
  record "ProvisionSettings" [
    field "auto_install" flag fun x s => { s with autoInstall := x },
    field "script" (optional path) fun x s => { s with script := x },
    field "required_package" text fun x s => { s with requiredPackage := x },
    field "list_args" (list text) fun x s => { s with listArgs := x }] {}

end ProvisionSettings

/-- How long things may take. -/
structure LifecycleSettings where
  terminateGraceMs : Nat := 2000
  requestTimeoutMs : Nat := 30000
  deriving DecidableEq, Repr

namespace LifecycleSettings

open Shape

/-- The time between a request to end and the kill. -/
def terminateGrace (s : LifecycleSettings) : Duration := Duration.ofMillis s.terminateGraceMs

/-- The time a request may take, at least a millisecond. -/
def requestTimeout (s : LifecycleSettings) : Duration := Duration.ofMillis (max s.requestTimeoutMs 1)

def read : Reader LifecycleSettings :=
  record "LifecycleSettings" [
    field "terminate_grace_ms" (unsigned 64) fun x s => { s with terminateGraceMs := x },
    field "request_timeout_ms" (unsigned 64) fun x s => { s with requestTimeoutMs := x }] {}

end LifecycleSettings

section

open Shape

/-- The selector that a document gives. -/
def Selector.read : Reader Selector :=
  record "DocumentSelector" [
    field "scheme" text fun x s => { s with scheme := x },
    field "language_id" text fun x s => { s with language := x }] {}

/-! ### All of them -/

/-- The settings of a session. -/
structure Settings where
  server : ServerSettings := {}
  transport : TransportSettings := {}
  provision : ProvisionSettings := {}
  lifecycle : LifecycleSettings := {}
  documents : Selector := {}
  deriving DecidableEq, Repr

/-- The settings that a document gives. -/
def Settings.read : Reader Settings :=
  record "SupervisorSettings" [
    field "server" ServerSettings.read fun x s => { s with server := x },
    field "transport" TransportSettings.read fun x s => { s with transport := x },
    field "provision" ProvisionSettings.read fun x s => { s with provision := x },
    field "lifecycle" LifecycleSettings.read fun x s => { s with lifecycle := x },
    field "documents" Selector.read fun x s => { s with documents := x }] {}

end

end Sidecar
