/-
# Provisioning on a host

What runtimes and installers do on a host. A script is run by the shell,
which opens it from the directory it is started in.

Key definition: `Host.shell`.
-/
import Sidecar.Host.Basic
import Sidecar.Provision.Basic

namespace Sidecar.Host

/-- Runs a runtime to its end. -/
def list (h : Host) (runtime : String) (args : List String) :
    Option (Exit × List UInt8) × Host :=
  match h.launch runtime args "." with
  | .error _ => (none, h)
  | .ok (conduct, place) =>
    match h.runToEnd conduct place with
    | some (f, h) => (some (f.exit, f.out), h)
    | none => (none, h)

/-- What the shell says about a script that it cannot open. -/
def cannotOpen (script : String) : InstallerRun :=
  { exit := .ok (Exit.ofCode 2)
    err := Utf8.ofString ("sh: 0: cannot open " ++ script ++ ": No such file\n") }

/-- Runs an installer script in a directory. -/
def installWith (h : Host) (script root target : String) : Except SystemError InstallerRun × Host :=
  match h.files.look h.directory root with
  | .error e => (.error e, h)
  | .ok (_, .file _ _) => (.error .notDirectory, h)
  | .ok (place, .directory) =>
    match h.files.look place script with
    | .ok (_, .file _ (.program p)) =>
      match h.runToEnd (p.conduct { args := [target], directory := render place }) place with
      | some (f, h) => (.ok ⟨.ok f.exit, f.out, f.err⟩, h)
      | none => (.ok ⟨.ok (Exit.ofCode 0), [], []⟩, h)
    | .ok (_, .file _ (.refused _)) => (.ok ⟨.ok (Exit.ofCode 0), [], []⟩, h)
    | .ok (_, .directory) => (.ok (cannotOpen script), h)
    | .error _ => (.ok (cannotOpen script), h)

/-- What the host does for provisioning. There always is a shell. -/
def shell : Shell Host where
  isFile h path := (h.isFile path, h)
  list := list
  findRunner h := (.ok "sh", h)
  install h _ := h.installWith

end Sidecar.Host
