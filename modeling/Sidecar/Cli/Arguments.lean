/-
# Arguments of the command line

A command with its options. Options that concern every command may stand
before the command or behind it; one behind it wins. An option takes its
value from behind an equals sign or from the next argument, which must not
look like an option itself, and it may be given once at each place. After
two dashes everything is a file.

Key definitions: `Invocation`, `Invocation.parse`.
-/
import Sidecar.Text.Ascii
import Sidecar.Transport.Kind

namespace Sidecar

/-- Which server a command is about. -/
structure ServerOptions where
  root : Option String := none
  target : Option String := none
  deriving DecidableEq, Repr

/-- What a run is told. -/
structure RunOptions where
  transport : Option TransportKind := none
  port : Option Nat := none
  once : Bool := false
  files : List String := []
  deriving DecidableEq, Repr

/-- The commands there are. -/
inductive Verb where
  | install
  | status
  | run
  deriving DecidableEq, Repr

/-- All that the command line says. -/
structure Invocation where
  verb : Verb
  config : Option String := none
  verbose : Bool := false
  server : ServerOptions := {}
  run : RunOptions := {}
  deriving DecidableEq, Repr

/-- What the arguments come to. -/
inductive Request where
  | invoke (i : Invocation)
  /-- The arguments make no sense. -/
  | misuse
  | version
  | help
  deriving DecidableEq, Repr

namespace Invocation

/-- One argument by its look. -/
inductive Word where
  /-- Two dashes. -/
  | separator
  | long (name : String) (value : Option String)
  | short (flags : List Char)
  | plain (text : String)
  deriving DecidableEq, Repr

def word (arg : String) : Word :=
  match arg.toList with
  | ['-', '-'] => .separator
  | '-' :: '-' :: cs =>
    match Text.splitFirst '=' cs with
    | some (name, value) => .long (String.ofList name) (some (String.ofList value))
    | none => .long (String.ofList cs) none
  | '-' :: c :: cs => .short (c :: cs)
  | _ => .plain arg

/-- A port number: an integer between 0 and 65535, with or without a sign. -/
def port? (text : String) : Option Nat :=
  let (negative, cs) := match text.toList with
    | '+' :: r => (false, r)
    | '-' :: r => (true, r)
    | cs => (false, cs)
  if cs.isEmpty || !cs.all Text.isDigit then none
  else
    let n := Text.digitsValue cs
    if negative && n != 0 then none else if n < 65536 then some n else none

/-- What was read so far. -/
structure Partial where
  verb : Option Verb := none
  /-- The options of all commands, before the command. -/
  outerConfig : Option String := none
  outerVerbose : Bool := false
  /-- The options of all commands, behind the command. -/
  config : Option String := none
  verbose : Bool := false
  server : ServerOptions := {}
  run : RunOptions := {}
  deriving DecidableEq, Repr

/-- A value that is not empty, for something that has none yet. -/
def fresh (old : Option String) (value : String) : Option (Option String) :=
  if old.isSome || value.isEmpty then none else some (some value)

/-- Takes an option with its value. -/
def Partial.withValue (p : Partial) (name value : String) : Option Partial :=
  match p.verb, name with
  | none, "config" => (fresh p.outerConfig value).map fun c => { p with outerConfig := c }
  | some _, "config" => (fresh p.config value).map fun c => { p with config := c }
  | some _, "root" =>
    (fresh p.server.root value).map fun x => { p with server := { p.server with root := x } }
  | some _, "target" =>
    (fresh p.server.target value).map fun x => { p with server := { p.server with target := x } }
  | some .run, "transport" =>
    match p.run.transport, TransportKind.parse value with
    | none, .ok k => some { p with run := { p.run with transport := some k } }
    | _, _ => none
  | some .run, "port" =>
    match p.run.port, port? value with
    | none, some n => some { p with run := { p.run with port := some n } }
    | _, _ => none
  | _, _ => none

/-- Whether an option takes a value. -/
def takesValue (name : String) : Bool :=
  ["config", "root", "target", "transport", "port"].contains name

/-- Takes an option without a value. -/
def Partial.withFlag (p : Partial) (name : String) : Option Partial :=
  match p.verb, name with
  | none, "verbose" => if p.outerVerbose then none else some { p with outerVerbose := true }
  | some _, "verbose" => if p.verbose then none else some { p with verbose := true }
  | some .run, "once" =>
    if p.run.once then none else some { p with run := { p.run with once := true } }
  | _, _ => none

def verb? : String → Option Verb
  | "install" => some .install
  | "status" => some .status
  | "run" => some .run
  | _ => none

/-- Takes an argument that is no option: the command, or a file. -/
def Partial.withPlain (p : Partial) (text : String) : Option Partial :=
  match p.verb with
  | none => (verb? text).map fun v => { p with verb := some v }
  | some .run =>
    if text.isEmpty then none
    else some { p with run := { p.run with files := p.run.files ++ [text] } }
  | some _ => none

/-- Takes a file after two dashes. -/
def Partial.withFile (p : Partial) (text : String) : Option Partial :=
  if p.verb.isNone then none else p.withPlain text

/-- Takes flags of one letter each. -/
def Partial.withShort (p : Partial) : List Char → Except Request Partial
  | [] => .ok p
  | 'v' :: rest =>
    match p.withFlag "verbose" with
    | some p => p.withShort rest
    | none => .error .misuse
  | 'h' :: _ => .error .help
  | 'V' :: _ => .error (if p.verb.isNone then .version else .misuse)
  | _ :: _ => .error .misuse

/-- Takes all that is behind two dashes. -/
def Partial.finishFiles (p : Partial) : List String → Option Partial
  | [] => some p
  | a :: rest => (p.withFile a).bind fun p => p.finishFiles rest

/-- The whole, once there is a command. -/
def Partial.whole (p : Partial) : Request :=
  match p.verb with
  | none => .misuse
  | some verb => .invoke {
      verb
      config := p.config.orElse fun _ => p.outerConfig
      verbose := p.verbose || p.outerVerbose
      server := p.server
      run := p.run }

/-- Help is given on the whole, on a command, or on help. -/
def helpOn : List String → Request
  | [] => .help
  | [topic] => if (verb? topic).isSome || topic == "help" then .help else .misuse
  | _ => .misuse

/-- Takes the arguments one after another. -/
def parseFrom (p : Partial) : List String → Request
  | [] => p.whole
  | a :: rest =>
    match word a with
    | .separator => ((p.finishFiles rest).map Partial.whole).getD .misuse
    | .plain text =>
      if p.verb.isNone && text == "help" then helpOn rest
      else
        match p.withPlain text with
        | some p => parseFrom p rest
        | none => .misuse
    | .short flags =>
      match p.withShort flags with
      | .ok p => parseFrom p rest
      | .error r => r
    | .long "help" none => .help
    | .long "version" none => if p.verb.isNone then .version else .misuse
    | .long name (some value) =>
      match p.withValue name value with
      | some p => parseFrom p rest
      | none => .misuse
    | .long name none =>
      if takesValue name then
        match rest with
        | [] => .misuse
        | value :: rest =>
          match word value with
          | .plain _ =>
            match p.withValue name value with
            | some p => parseFrom p rest
            | none => .misuse
          | _ => .misuse
      else
        match p.withFlag name with
        | some p => parseFrom p rest
        | none => .misuse

/-- What the arguments come to. -/
def parse (args : List String) : Request := parseFrom {} args

end Invocation

end Sidecar
