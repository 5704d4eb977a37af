/-
# What provisioning comes to

Whether an environment is installed is decided by one listing of its runtime,
and whether it can be made so by one run of the installer. Nothing is assumed
of the system: files may come and go between two looks, a listing may change
what the next one says, and an installer may fail in any way or succeed and
leave nothing.

What was asked of the system, and what it answered, is written down by a shell
that does the same otherwise (`Shell.traced`). The verdicts are read off such
a trace: an environment is installed if the trace shows a runtime and a
listing with the package (`ShowsPackage`), and the installer has done its work
if the trace shows one run that ended well (`ShowsInstall`).

Key definitions: `Shell.traced`, `Provision.ShowsPackage`,
`Provision.ShowsInstall`, `Provision.Told`.
Key theorems: `Provision.isInstalled_traced`, `Provision.install_traced`,
`Provision.provisioned`.
-/
import Mathlib.Tactic.Common
import Sidecar.Proofs.Effect
import Sidecar.Provision.Basic

namespace Sidecar

/-- A text occurs in another one where it is a part of it. -/
theorem Text.contains_iff {needle cs : List Char} :
    Text.contains needle cs = true ↔ needle <:+: cs := by
  induction cs with
  | nil => rw [Text.contains, List.isEmpty_iff, List.infix_nil]
  | cons c cs ih =>
    rw [Text.contains, Bool.or_eq_true, List.isPrefixOf_iff_prefix, ih, List.infix_cons_iff]

namespace Shell

/-- What was asked of the system, with its answer. -/
inductive Call where
  | file (path : String) (answer : Bool)
  | listing (runtime : String) (args : List String) (answer : Option (Exit × List UInt8))
  | runner (answer : Except String String)
  | installer (runner script root target : String) (answer : Except SystemError InstallerRun)

/-- The answer of an installer. -/
def Call.installer? : Call → Option (Except SystemError InstallerRun)
  | .installer _ _ _ _ answer => some answer
  | _ => none

/-- The answers of the installers that were run. -/
def installers (calls : List Call) : List (Except SystemError InstallerRun) :=
  calls.filterMap Call.installer?

variable {σ : Type}

/-- The same shell, which writes down what it is asked. -/
def traced (sh : Shell σ) : Shell (σ × List Call) where
  isFile w path :=
    let (answer, s) := sh.isFile w.1 path
    (answer, s, w.2 ++ [.file path answer])
  list w runtime args :=
    let (answer, s) := sh.list w.1 runtime args
    (answer, s, w.2 ++ [.listing runtime args answer])
  findRunner w :=
    let (answer, s) := sh.findRunner w.1
    (answer, s, w.2 ++ [.runner answer])
  install w runner script root target :=
    let (answer, s) := sh.install w.1 runner script root target
    (answer, s, w.2 ++ [.installer runner script root target answer])

variable (sh : Shell σ) (w : σ × List Call)

@[simp] theorem traced_isFile (path : String) : sh.traced.isFile w path =
    ((sh.isFile w.1 path).1, (sh.isFile w.1 path).2, w.2 ++ [.file path (sh.isFile w.1 path).1]) :=
  rfl

@[simp] theorem traced_list (runtime : String) (args : List String) :
    sh.traced.list w runtime args = ((sh.list w.1 runtime args).1, (sh.list w.1 runtime args).2,
      w.2 ++ [.listing runtime args (sh.list w.1 runtime args).1]) := rfl

@[simp] theorem traced_findRunner : sh.traced.findRunner w =
    ((sh.findRunner w.1).1, (sh.findRunner w.1).2, w.2 ++ [.runner (sh.findRunner w.1).1]) := rfl

@[simp] theorem traced_install (runner script root target : String) :
    sh.traced.install w runner script root target =
      ((sh.install w.1 runner script root target).1, (sh.install w.1 runner script root target).2,
        w.2 ++ [.installer runner script root target
          (sh.install w.1 runner script root target).1]) := rfl

end Shell

open Shell

namespace Provision

variable {σ : Type} (sh : Shell σ) (p : ProvisionSettings) (root target : String) (s : σ)

/-- The trace shows a runtime, and a listing of it that ended well and has the package in it. -/
def ShowsPackage (p : ProvisionSettings) (target : String) (calls : List Call) : Prop :=
  ∃ exit out, calls = [.file (envRuntime target) true,
      .listing (envRuntime target) p.listArgs (some (exit, out))] ∧
    exit.success = true ∧ p.requiredPackage.toList <:+: Utf8.lossy out

/-- The trace shows one run of the installer, and that it ended well. -/
def ShowsInstall (calls : List Call) : Prop :=
  ∃ run exit, installers calls = [.ok run] ∧ run.exit = .ok exit ∧ exit.success = true

/-- What was told to the output channel: no error if all is well, and one if not. -/
def Told (ok : Bool) (sink sink' : Sink) : Prop :=
  ∃ new, sink'.entries = sink.entries ++ new ∧
    (Session.errors new).length = if ok then 0 else 1

theorem lists_iff {package : String} {answer : Option (Exit × List UInt8)} :
    lists package answer = true ↔ ∃ exit out, answer = some (exit, out) ∧ exit.success = true ∧
      package.toList <:+: Utf8.lossy out := by
  cases answer with
  | none => simp [lists]
  | some answer =>
    obtain ⟨exit, out⟩ := answer
    simp only [lists, Bool.and_eq_true, Text.contains_iff, Option.some.injEq, Prod.mk.injEq]
    constructor
    · exact fun h => ⟨exit, out, ⟨rfl, rfl⟩, h⟩
    · rintro ⟨exit', out', ⟨rfl, rfl⟩, h⟩
      exact h

/-! ### Checking -/

/-- The verdict of a check and its calls: a look for the runtime, and its listing if it is there. -/
inductive Check (p : ProvisionSettings) (target : String) : Bool → List Call → Prop where
  | absent : Check p target false [.file (envRuntime target) false]
  | listed (answer : Option (Exit × List UInt8)) :
      Check p target (lists p.requiredPackage answer)
        [.file (envRuntime target) true, .listing (envRuntime target) p.listArgs answer]

/-- A check writes down its calls and is the same otherwise. -/
theorem isInstalled_traced (calls : List Call) :
    ∃ asked, Check p target (isInstalled sh p target s).1 asked ∧
      isInstalled sh.traced p target (s, calls) =
        ((isInstalled sh p target s).1, (isInstalled sh p target s).2, calls ++ asked) := by
  rcases hfile : sh.isFile s (envRuntime target) with ⟨there, s₁⟩
  rcases hlist : sh.list s₁ (envRuntime target) p.listArgs with ⟨answer, s₂⟩
  by_cases hthere : there = true
  · refine ⟨[.file (envRuntime target) true,
      .listing (envRuntime target) p.listArgs answer], ?_, ?_⟩
    · simp only [isInstalled, hfile, hthere, hlist, ↓reduceIte]
      exact .listed answer
    · simp [isInstalled, hfile, hthere, hlist]
  · have hthere : there = false := Bool.eq_false_iff.2 hthere
    refine ⟨[.file (envRuntime target) false], ?_, ?_⟩
    · simp only [isInstalled, hfile, hthere, Bool.false_eq_true, ↓reduceIte]
      exact .absent
    · simp [isInstalled, hfile, hthere]

variable {sh p root target s} {ok : Bool} {asked : List Call} {sink sink' : Sink}

theorem Check.showsPackage_iff (h : Check p target ok asked) :
    ok = true ↔ ShowsPackage p target asked := by
  cases h with
  | absent => simp [ShowsPackage]
  | listed answer =>
    rw [lists_iff]
    constructor
    · rintro ⟨exit, out, rfl, h⟩
      exact ⟨exit, out, rfl, h⟩
    · rintro ⟨exit, out, hcalls, h⟩
      simp only [List.cons.injEq, Call.listing.injEq, true_and, and_true] at hcalls
      exact ⟨exit, out, hcalls, h⟩

/-- No check runs an installer. -/
theorem Check.installers_eq (h : Check p target ok asked) : installers asked = [] := by
  cases h <;> rfl

/-! ### Installing -/

/-- The installer did its work. -/
def Succeeded (answer : Except SystemError InstallerRun) : Prop :=
  ∃ run exit, answer = .ok run ∧ run.exit = .ok exit ∧ exit.success = true

theorem errors_info (texts : List String) : Session.errors (texts.map (⟨.info, ·⟩)) = [] := by
  simp [Session.errors]

theorem Told.add (level : Level) (text : String) (sink : Sink) :
    Told (level != .error) sink (sink.add level text) := by
  refine ⟨[⟨level, text⟩], rfl, ?_⟩
  cases level <;> rfl

/-- What was told without an error before does not count. -/
theorem Told.trans {sink₁ : Sink} (h : Told true sink sink₁) (h' : Told ok sink₁ sink') :
    Told ok sink sink' := by
  obtain ⟨new, hentries, herrors⟩ := h
  obtain ⟨new', hentries', herrors'⟩ := h'
  refine ⟨new ++ new', by rw [hentries', hentries, List.append_assoc], ?_⟩
  have happend : Session.errors (new ++ new') = Session.errors new ++ Session.errors new' :=
    List.filter_append ..
  rw [happend, List.length_append, herrors, herrors']
  simp

theorem told_tell (sink : Sink) (texts : List String) : Told true sink (tell sink texts) :=
  ⟨texts.map (⟨.info, ·⟩), entries_tell sink texts, by rw [errors_info]; rfl⟩

/-- What comes of an installer is its success, and one error if it has none. -/
theorem report_spec (script : String) (sink : Sink) (answer : Except SystemError InstallerRun) :
    ((report script sink answer).1 = true ↔ Succeeded answer) ∧
      Told (report script sink answer).1 sink (report script sink answer).2 := by
  cases answer with
  | error e => exact ⟨by simp [report, Succeeded], Told.add .error _ sink⟩
  | ok run =>
    have htold := (told_tell sink (Output.forward run.out)).trans
      (told_tell _ (Output.forward run.err))
    obtain ⟨result, out, err⟩ := run
    cases result with
    | error e => exact ⟨by simp [report, Succeeded], htold.trans (Told.add .error _ _)⟩
    | ok exit =>
      by_cases hexit : exit.success = true
      · simp only [report, hexit, ↓reduceIte]
        exact ⟨by simp [Succeeded, hexit], htold.trans (Told.add .info _ _)⟩
      · simp only [report, hexit, Bool.false_eq_true, ↓reduceIte]
        exact ⟨by simp [Succeeded, hexit], htold.trans (Told.add .error _ _)⟩

/-- How it goes to install: the verdict, the calls and what the output channel is told. -/
inductive Installing (p : ProvisionSettings) (root target : String) (sink : Sink) :
    Bool → List Call → Sink → Prop where
  | noScript (text : String) :
      Installing p root target sink false [.file (p.scriptPath root) false] (sink.add .error text)
  | noRunner (e text : String) :
      Installing p root target sink false
        [.file (p.scriptPath root) true, .runner (.error e)] (sink.add .error text)
  | ran (runner text : String) (answer : Except SystemError InstallerRun) :
      Installing p root target sink
        (report (p.scriptPath root) (sink.add .info text) answer).1
        [.file (p.scriptPath root) true, .runner (.ok runner),
          .installer runner (p.scriptPath root) root target answer]
        (report (p.scriptPath root) (sink.add .info text) answer).2

variable (sh p root target s sink) in
/-- To install is to go one of these ways. -/
theorem install_traced (calls : List Call) :
    ∃ asked, Installing p root target sink (install sh p root target s sink).1 asked
        (install sh p root target s sink).2.2 ∧
      install sh.traced p root target (s, calls) sink =
        ((install sh p root target s sink).1,
          ((install sh p root target s sink).2.1, calls ++ asked),
          (install sh p root target s sink).2.2) := by
  rcases hfile : sh.isFile s (p.scriptPath root) with ⟨there, s₁⟩
  cases there with
  | false =>
    refine ⟨[.file (p.scriptPath root) false], ?_, ?_⟩
    · simp only [install, hfile, Bool.not_false, ↓reduceIte]
      exact .noScript _
    · simp [install, hfile]
  | true =>
    rcases hrunner : sh.findRunner s₁ with ⟨runner, s₂⟩
    cases runner with
    | error e =>
      refine ⟨[.file (p.scriptPath root) true, .runner (.error e)], ?_, ?_⟩
      · simp only [install, hfile, hrunner, Bool.false_eq_true, ↓reduceIte, Bool.not_true]
        exact .noRunner e _
      · simp [install, hfile, hrunner]
    | ok runner =>
      rcases hinstall : sh.install s₂ runner (p.scriptPath root) root target with ⟨answer, s₃⟩
      refine ⟨[.file (p.scriptPath root) true, .runner (.ok runner),
        .installer runner (p.scriptPath root) root target answer], ?_, ?_⟩
      · simp only [install, hfile, hrunner, hinstall, Bool.false_eq_true, ↓reduceIte,
          Bool.not_true]
        exact .ran runner _ answer
      · simp [install, hfile, hrunner, hinstall]

theorem Installing.told (h : Installing p root target sink ok asked sink') :
    Told ok sink sink' := by
  cases h with
  | noScript => exact Told.add .error _ sink
  | noRunner => exact Told.add .error _ sink
  | ran _ text answer => exact (Told.add .info text sink).trans (report_spec _ _ answer).2

/-- The installer decides. -/
theorem Installing.showsInstall_iff (h : Installing p root target sink ok asked sink') :
    ok = true ↔ ShowsInstall asked := by
  cases h with
  | noScript =>
    have hnone : installers [.file (p.scriptPath root) false] = [] := rfl
    simp [ShowsInstall, hnone]
  | noRunner e =>
    have hnone : installers [.file (p.scriptPath root) true, .runner (.error e)] = [] := rfl
    simp [ShowsInstall, hnone]
  | ran runner text answer =>
    have hone : installers [.file (p.scriptPath root) true, .runner (.ok runner),
        .installer runner (p.scriptPath root) root target answer] = [answer] := rfl
    rw [(report_spec _ _ answer).1, ShowsInstall, hone]
    simp [Succeeded]

theorem installers_append (calls calls' : List Call) :
    installers (calls ++ calls') = installers calls ++ installers calls' :=
  List.filterMap_append

/-- To make sure is to check, and to install if nothing is found. -/
theorem ensure_eq {σ : Type} (sh : Shell σ) (p : ProvisionSettings) (root target : String) (s : σ)
    (sink : Sink) : ensure sh p root target s sink =
      if (isInstalled sh p target s).1 then (true, (isInstalled sh p target s).2, sink)
      else install sh p root target (isInstalled sh p target s).2 sink :=
  rfl

/-- What checking and making sure come to on a shell in a state. -/
structure Provisioned (sh : Shell σ) (p : ProvisionSettings) (root target : String) (s : σ)
    (sink : Sink) : Prop where
  /-- That it is written down what is asked changes nothing. -/
  check_same : isInstalled sh p target s =
    ((isInstalled sh.traced p target (s, [])).1, (isInstalled sh.traced p target (s, [])).2.1)
  ensure_same : ensure sh p root target s sink =
    ((ensure sh.traced p root target (s, []) sink).1,
      (ensure sh.traced p root target (s, []) sink).2.1.1,
      (ensure sh.traced p root target (s, []) sink).2.2)
  check : (isInstalled sh p target s).1 = true ↔
    ShowsPackage p target (isInstalled sh.traced p target (s, [])).2.2
  /-- A check never runs the installer. -/
  check_only : installers (isInstalled sh.traced p target (s, [])).2.2 = []
  /-- An installed environment is left alone: the check is all that is done. -/
  present : (isInstalled sh p target s).1 = true →
    ensure sh.traced p root target (s, []) sink =
      (true, (isInstalled sh.traced p target (s, [])).2, sink)
  /-- Otherwise it depends on the installer alone. -/
  absent : (isInstalled sh p target s).1 = false →
    ((ensure sh p root target s sink).1 = true ↔
      ShowsInstall (ensure sh.traced p root target (s, []) sink).2.1.2)
  /-- Nothing is taken back from the output channel, and there is one error more if it is not
  installed then. -/
  told : Told (ensure sh p root target s sink).1 sink (ensure sh p root target s sink).2.2

variable (sh p root target s sink) in
/-- **What provisioning comes to, whatever the system does.** -/
theorem provisioned : Provisioned sh p root target s sink := by
  obtain ⟨checked, hcheck, hchecked⟩ := isInstalled_traced sh p target s []
  rcases hinstalled : isInstalled sh p target s with ⟨installed, s₁⟩
  rw [hinstalled] at hcheck hchecked
  obtain ⟨asked, hinstalling, hasked⟩ := install_traced sh p root target s₁ sink ([] ++ checked)
  have hensure := ensure_eq sh p root target s sink
  have htraced := ensure_eq sh.traced p root target (s, []) sink
  rw [hinstalled] at hensure
  rw [hchecked] at htraced
  constructor
  · rw [hchecked, hinstalled]
  · cases installed with
    | true => rw [hensure, htraced]; rfl
    | false => rw [hensure, htraced, if_neg Bool.false_ne_true, if_neg Bool.false_ne_true, hasked]
  · rw [hchecked, hinstalled]
    exact hcheck.showsPackage_iff
  · rw [hchecked]
    exact hcheck.installers_eq
  · intro hfound
    rw [hinstalled] at hfound
    cases hfound
    rw [htraced, hchecked]
    rfl
  · intro hmissing
    rw [hinstalled] at hmissing
    cases hmissing
    rw [hensure, htraced, if_neg Bool.false_ne_true, if_neg Bool.false_ne_true, hasked,
      hinstalling.showsInstall_iff, ShowsInstall, ShowsInstall, installers_append,
      List.nil_append, hcheck.installers_eq, List.nil_append]
  · rw [hensure]
    cases installed with
    | true => exact ⟨[], by simp, rfl⟩
    | false => exact hinstalling.told

end Provision

end Sidecar
