/-
# The configuration file

A TOML document whose string values may refer to the environment. It is found
by a variable that names it, or else under the home directory; a file that is
not there is no error, since everything has a default.

Key definitions:
* `Config.parse`, from the text of a document;
* `Config.location?`, where the document is;
* `Config.loadFrom` and `Config.load`, from a file.
-/
import Sidecar.Config.Expansion
import Sidecar.Settings
import Sidecar.SystemError
import Sidecar.Text.Utf8
import Sidecar.Toml.Parser

namespace Sidecar

/-- All that a configuration file can say. -/
structure Config where
  settings : Settings := {}
  /-- What the log should hold. -/
  logFilter : Option String := none
  deriving DecidableEq, Repr

namespace Config

open Shape

/-- Why a text is no configuration. -/
inductive ParseError where
  | notToml
  /-- A dotted key has too many parts. -/
  | longKey
  | misshapen (e : Shape.Error)
  deriving DecidableEq, Repr

def readLogging : Reader (Option String) :=
  record "LoggingConfig" [field "filter" (optional text) fun x _ => x] none

def read : Reader Config :=
  record "YlsConfig" [
    field "server" ServerSettings.read
      fun x c => { c with settings := { c.settings with server := x } },
    field "transport" TransportSettings.read
      fun x c => { c with settings := { c.settings with transport := x } },
    field "provision" ProvisionSettings.read
      fun x c => { c with settings := { c.settings with provision := x } },
    field "lifecycle" LifecycleSettings.read
      fun x c => { c with settings := { c.settings with lifecycle := x } },
    field "documents" Selector.read
      fun x c => { c with settings := { c.settings with documents := x } },
    field "logging" readLogging fun x c => { c with logFilter := x }] {}

/-- The configuration a document gives once its references are expanded. -/
def ofToml (env : Environment) (doc : Toml) : Except ParseError Config :=
  match read (.toml (doc.mapStrings (expand env))) with
  | .ok c => .ok c
  | .error e => .error (.misshapen e)

/-- The configuration that a text gives. -/
def parse (env : Environment) (text : String) : Except ParseError Config :=
  match Toml.parse text with
  | .error .malformed => .error .notToml
  | .error .longKey => .error .longKey
  | .ok doc => ofToml env doc

/-! ### Files -/

/-- The variable that names a configuration file. -/
def locationVariable : String := "YLS_CONFIG"

/-- Where the configuration file is looked for. -/
def location? (env : Environment) : Option String :=
  match (env.get? locationVariable).filter fun v => !v.isEmpty with
  | some p => some p
  | none => (env.get? "HOME").map fun home => Path.join (Path.join home ".yls") "config.toml"

/-- What is found at a path. -/
inductive Found where
  | file (content : List UInt8)
  | directory
  /-- Nothing that could be read. -/
  | missing (cause : SystemError)

/-- Why a file gives no configuration. -/
inductive LoadError where
  | unreadable (path : String) (cause : SystemError)
  | unparsable (path : String) (cause : ParseError)
  deriving DecidableEq, Repr

def LoadError.path : LoadError → String
  | .unreadable p _ => p
  | .unparsable p _ => p

/-- What is wrong with a text, and the keys that lead there; malformed text has no account. -/
def ParseError.account? : ParseError → Option (String × List String)
  | .notToml => none
  | .longKey => some ("recursion limit", [])
  | .misshapen e => some (e.message, e.path)

/-- A problem in a document, with the keys that lead to it on a line of their own. -/
def located (message : String) (path : List String) : String :=
  message ++ "\n" ++
    (if path.isEmpty then "" else "in `" ++ String.intercalate "." path ++ "`\n")

/-- The text of an error; a text that is not TOML has none. -/
def LoadError.message? : LoadError → Option String
  | .unreadable p cause => some s!"failed to read config at {p}: {cause.message}"
  | .unparsable p cause => cause.account?.map fun (message, path) =>
    s!"failed to parse config at {p}: {located message path}"

/-- The configuration in a file that was asked for. -/
def loadFrom (env : Environment) (path : String) (found : Found) : Except LoadError Config :=
  match found with
  | .missing cause => .error (.unreadable path cause)
  | .directory => .error (.unreadable path .isDirectory)
  | .file content =>
    match Utf8.toString? content with
    | none => .error (.unreadable path (.text "stream did not contain valid UTF-8"))
    | some text =>
      match parse env text with
      | .ok c => .ok c
      | .error e => .error (.unparsable path e)

/-- The configuration at its usual place, if there is one. -/
def load (env : Environment) (look : String → Found) : Except LoadError (Option Config) :=
  match location? env with
  | none => .ok none
  | some path =>
    match look path with
    | .missing _ => .ok none
    | found => (loadFrom env path found).map some

end Config

end Sidecar
