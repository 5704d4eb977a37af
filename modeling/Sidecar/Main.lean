/-
# The command line

The outer layer: it reads the arguments, the environment and the files they
name, hands them to the program, and prints what comes back. No other program
can be started from here, so the host has none.
-/
import Sidecar.Cli.Program

namespace Sidecar.Terminal

/-- The content of a file, if it can be read. -/
def readContent (path : String) : IO (Option (List UInt8)) := do
  try
    return some (← IO.FS.readBinFile path).toList
  catch _ =>
    return none

/-- Adds a file to a host. -/
def addFile (h : Host) (path : String) (content : List UInt8) : Host :=
  let top := if Path.isAbsolute path then [] else h.directory
  { h with files := (h.files.put top (Path.components path) (Files.plain content)).2 }

/-- The variables with these names that are set. -/
def readEnvironment (names : List String) : IO Environment := do
  let mut env : Environment := []
  for name in names do
    if let some value ← IO.getEnv name then env := env ++ [(name, value)]
  return env

/-- The files that the arguments may mean. -/
def mentioned (env : Environment) (args : List String) : List String :=
  (Config.location? env).toList ++ args

end Sidecar.Terminal

open Sidecar Sidecar.Terminal

/-- The program. -/
def main (args : List String) : IO UInt32 := do
  let env ← readEnvironment ["HOME", Config.locationVariable]
  let directory := Path.components (← IO.currentDir).toString
  let mut h : Host := { directory }
  h := { h with files := (h.files.makeDirectories [] directory).2 }
  let mut names : List String := []
  for path in mentioned env args do
    if let some content ← readContent path then
      h := addFile h path content
      names := names ++ (Utf8.toString? content).elim [] Config.references
  let env := env ++ (← readEnvironment names)
  match Cli.execute h env args with
  | .misused =>
    (← IO.getStderr).putStrLn "usage: yls [--config FILE] [--verbose] install|status|run"
    return 2
  | .endless => return 1
  | .ended r =>
    for line in r.out do (← IO.getStdout).putStrLn line
    for line in r.err do (← IO.getStderr).putStrLn line
    return r.code.toUInt32
