/-
# Transport settings stay checked

Transport settings come from a document, alone or inside a configuration, or
are the default ones (`Origin`). Whoever uses them may rely on a loopback host,
a port other than zero and durations other than zero (`Checked`), and so
everything that makes or changes them has to keep that. A document is refused
for the first requirement that it does not meet (`FirstUnmet`). A change is
refused for a zero and otherwise touches one part only (`Change.Made`), and
what the command line says about the transport is a sequence of changes
(`applyRun_eq`).

Key definitions: `TransportSettings.Checked`, `RawTransport.requirements`,
`TransportSettings.Change`.
Key theorem: `TransportSettings.transport_stays_checked`.
-/
import Sidecar.Cli.Program

namespace Sidecar

namespace Shape

variable {σ : Type} {P : σ → Prop} {fields : List (Field σ)}

/-- Setting the field to whatever value keeps the property. -/
def Field.Keeps (P : σ → Prop) (f : Field σ) : Prop := ∀ v s s', P s → f.set v s = .ok s' → P s'

theorem field_keeps {α : Type} {key : String} {r : Reader α} {set : α → σ → σ}
    (hset : ∀ v a s, P s → r v = .ok a → P (set a s)) : (field key r set).Keeps P := by
  intro v s s' hs h
  change (r v).map (fun a => set a s) = .ok s' at h
  cases hr : r v with
  | error e =>
    rw [hr] at h
    cases h
  | ok a =>
    rw [hr] at h
    cases h
    exact hset v a s hs hr

theorem setMember_keeps (hfields : ∀ f ∈ fields, f.Keeps P) {s s' : σ} {m : String × Node} (hs : P s)
    (h : setMember fields s m = .ok s') : P s' := by
  unfold setMember at h
  split at h
  · next f hf =>
    cases hv : f.set m.2 s with
    | error e =>
      rw [hv] at h
      cases h
    | ok t =>
      rw [hv] at h
      cases h
      exact hfields f (List.mem_of_find?_eq_some hf) _ _ _ hs hv
  · cases h
    exact hs

theorem exists_of_bind {α β : Type} {x : Except Error α} {f : α → Except Error β} {b : β}
    (h : x >>= f = .ok b) : ∃ a, x = .ok a ∧ f a = .ok b := by
  cases x with
  | error e => cases h
  | ok a => exact ⟨a, rfl, h⟩

theorem foldlM_keeps {α : Type} {f : σ → α → Except Error σ} {xs : List α}
    (hf : ∀ x ∈ xs, ∀ s s', P s → f s x = .ok s' → P s') {s s' : σ} (hs : P s)
    (h : xs.foldlM f s = .ok s') : P s' := by
  induction xs generalizing s with
  | nil =>
    cases h
    exact hs
  | cons x xs ih =>
    rw [List.foldlM_cons] at h
    obtain ⟨t, hx, hrest⟩ := exists_of_bind h
    have ht : P t := hf x List.mem_cons_self s t hs hx
    exact ih (fun y hy => hf y (List.mem_cons_of_mem _ hy)) ht hrest

/-- What the default has and every field keeps, every record has that is read. -/
theorem record_keeps {name : String} {default s : σ} {v : Node} (hd : P default)
    (hfields : ∀ f ∈ fields, f.Keeps P) (h : record name fields default v = .ok s) : P s := by
  unfold record at h
  split at h
  · exact foldlM_keeps (fun m _ _ _ ht hm => setMember_keeps hfields ht hm) hd h
  · next xs _ =>
    obtain ⟨t, hxs, hend⟩ := exists_of_bind h
    have hkeeps : ∀ fx ∈ fields.zip xs, ∀ s s', P s → fx.1.set fx.2 s = .ok s' → P s' :=
      fun fx hfx => hfields fx.1 (List.of_mem_zip hfx).1 fx.2
    have ht : P t := foldlM_keeps hkeeps hd hxs
    split at hend
    · cases hend
      exact ht
    · cases hend
  · cases h

end Shape

/-- What is required of settings as a document gives them, in order, each with the refusal. -/
def RawTransport.requirements (raw : RawTransport) : List (Prop × SettingsError) :=
  [(raw.host.isLoopback = true, .remoteHost raw.host),
    (raw.port ≠ some 0, .zeroPort),
    (raw.bindTimeoutMs ≠ 0, .zeroDuration "bind_timeout_ms"),
    (raw.pollIntervalMs ≠ 0, .zeroDuration "poll_interval_ms"),
    (raw.connectTimeoutMs ≠ 0, .zeroDuration "connect_timeout_ms")]

/-- The refusal belongs to the first requirement that is not met. -/
def FirstUnmet (requirements : List (Prop × SettingsError)) (e : SettingsError) : Prop :=
  ∃ met unmet rest, requirements = met ++ (unmet, e) :: rest ∧ (∀ r ∈ met, r.1) ∧ ¬ unmet

theorem not_firstUnmet_nil (e : SettingsError) : ¬ FirstUnmet [] e := by
  rintro ⟨met, unmet, rest, h, -⟩
  simp at h

theorem firstUnmet_cons {p : Prop} {e' e : SettingsError} {reqs : List (Prop × SettingsError)} :
    FirstUnmet ((p, e') :: reqs) e ↔ (¬ p ∧ e' = e) ∨ (p ∧ FirstUnmet reqs e) := by
  constructor
  · rintro ⟨met, unmet, rest, h, hmet, hunmet⟩
    cases met with
    | nil =>
      cases h
      exact .inl ⟨hunmet, rfl⟩
    | cons r met =>
      cases h
      exact .inr ⟨hmet _ List.mem_cons_self, met, unmet, rest, rfl,
        fun r hr => hmet r (List.mem_cons_of_mem _ hr), hunmet⟩
  · rintro (⟨hp, rfl⟩ | ⟨hp, met, unmet, rest, rfl, hmet, hunmet⟩)
    · exact ⟨[], p, reqs, rfl, by simp, hp⟩
    · refine ⟨(p, e') :: met, unmet, rest, rfl, fun r hr => ?_, hunmet⟩
      rcases List.mem_cons.mp hr with rfl | hr
      · exact hp
      · exact hmet r hr

namespace TransportSettings

/-- What whoever uses transport settings relies on. -/
structure Checked (s : TransportSettings) : Prop where
  host : s.host.isLoopback = true
  port : s.port ≠ some 0
  bindTimeout : 0 < s.bindTimeout.nanos
  pollInterval : 0 < s.pollInterval.nanos
  connectTimeout : 0 < s.connectTimeout.nanos

variable {raw : RawTransport} {s t : TransportSettings} {e : SettingsError}

theorem refuse_eq_error {c : Prop} [Decidable c] {e' : SettingsError}
    {x : Except SettingsError TransportSettings} :
    (if c then .error e' else x) = .error e ↔ (c ∧ e' = e) ∨ (¬ c ∧ x = .error e) := by
  split <;> simp_all

theorem refuse_eq_ok {c : Prop} [Decidable c] {e' : SettingsError}
    {x : Except SettingsError TransportSettings} :
    (if c then .error e' else x) = .ok s ↔ ¬ c ∧ x = .ok s := by
  split <;> simp_all

/-- A document is refused for the first requirement that it does not meet. -/
theorem check_eq_error_iff : check raw = .error e ↔ FirstUnmet raw.requirements e := by
  simp [check, RawTransport.requirements, firstUnmet_cons, not_firstUnmet_nil, refuse_eq_error]

/-- A document that is accepted meets every requirement, and all it says is kept. -/
theorem check_eq_ok_iff : check raw = .ok s ↔ (∀ r ∈ raw.requirements, r.1) ∧
    s = { kind := raw.kind, host := raw.host, port := raw.port
          bindTimeout := .ofMillis raw.bindTimeoutMs
          pollInterval := .ofMillis raw.pollIntervalMs
          connectTimeout := .ofMillis raw.connectTimeoutMs } := by
  rw [eq_comm (a := s)]
  simp [check, RawTransport.requirements, refuse_eq_ok, and_assoc]

theorem ofMillis_pos {n : Nat} (h : n ≠ 0) : 0 < (Duration.ofMillis n).nanos := by
  have : 0 < n := Nat.pos_of_ne_zero h
  exact Nat.mul_pos this (by decide)

theorem checked_of_check (h : check raw = .ok s) : s.Checked := by
  obtain ⟨hreq, rfl⟩ := check_eq_ok_iff.mp h
  simp only [RawTransport.requirements, List.forall_mem_cons] at hreq
  obtain ⟨hhost, hport, hbind, hpoll, hconnect, -⟩ := hreq
  exact ⟨hhost, hport, ofMillis_pos hbind, ofMillis_pos hpoll, ofMillis_pos hconnect⟩

theorem check_default : check {} = .ok {} := rfl

/-! ### Documents -/

/-- A document is refused for its shape, or else for the first requirement that it does not
meet. -/
theorem read_eq_error_iff {v : Shape.Node} {x : Shape.Error} : read v = .error x ↔
    readRaw v = .error x ∨ ∃ raw e, readRaw v = .ok raw ∧ FirstUnmet raw.requirements e ∧
      x = ⟨.refused e.message, []⟩ := by
  unfold read
  cases hraw : readRaw v with
  | error y => simp
  | ok raw =>
    cases hcheck : check raw with
    | ok s =>
      have hnone : ∀ e, ¬ FirstUnmet raw.requirements e := fun e he => by
        rw [check_eq_error_iff.mpr he] at hcheck
        cases hcheck
      simp [hcheck, hnone]
    | error e =>
      have hfirst : ∀ e', FirstUnmet raw.requirements e' ↔ e' = e := fun e' => by
        rw [← check_eq_error_iff, hcheck]
        simp [eq_comm]
      simp [hcheck, hfirst, eq_comm]

theorem checked_of_read {v : Shape.Node} (h : read v = .ok s) : s.Checked := by
  unfold read at h
  split at h
  · cases h
  · split at h
    · next hs =>
      cases h
      exact checked_of_check hs
    · cases h

/-- Where transport settings come from: they are the default, or are read from a document, be it
on their own, with all settings or as part of a configuration. -/
inductive Origin : TransportSettings → Prop where
  | default : Origin {}
  | document {v : Shape.Node} {s : TransportSettings} (h : read v = .ok s) : Origin s
  | settings {v : Shape.Node} {all : Settings} (h : Settings.read v = .ok all) :
      Origin all.transport
  | configuration {v : Shape.Node} {c : Config} (h : Config.read v = .ok c) :
      Origin c.settings.transport
  /-- References to the environment are expanded before the configuration is read. -/
  | parsed {env : Environment} {text : String} {c : Config} (h : Config.parse env text = .ok c) :
      Origin c.settings.transport
  | configured {h : Host} {env : Environment} {file : Option String} {c : Config}
      (hc : Cli.configure h env file = .ok c) : Origin c.settings.transport

theorem checked_default : Checked {} := checked_of_check check_default

theorem checked_of_settings {v : Shape.Node} {all : Settings} (h : Settings.read v = .ok all) :
    all.transport.Checked := by
  refine Shape.record_keeps (P := fun all : Settings => all.transport.Checked) checked_default ?_ h
  simp only [List.forall_mem_cons]
  exact ⟨Shape.field_keeps fun _ _ _ hs _ => hs, Shape.field_keeps fun _ _ _ _ ht => checked_of_read ht,
    Shape.field_keeps fun _ _ _ hs _ => hs, Shape.field_keeps fun _ _ _ hs _ => hs,
    Shape.field_keeps fun _ _ _ hs _ => hs, by simp⟩

theorem checked_of_configuration {v : Shape.Node} {c : Config} (h : Config.read v = .ok c) :
    c.settings.transport.Checked := by
  refine Shape.record_keeps (P := fun c : Config => c.settings.transport.Checked) checked_default
    ?_ h
  simp only [List.forall_mem_cons]
  exact ⟨Shape.field_keeps fun _ _ _ hc _ => hc, Shape.field_keeps fun _ _ _ _ ht => checked_of_read ht,
    Shape.field_keeps fun _ _ _ hc _ => hc, Shape.field_keeps fun _ _ _ hc _ => hc,
    Shape.field_keeps fun _ _ _ hc _ => hc, Shape.field_keeps fun _ _ _ hc _ => hc,
    by simp⟩

theorem checked_of_parse {env : Environment} {text : String} {c : Config}
    (h : Config.parse env text = .ok c) : c.settings.transport.Checked := by
  unfold Config.parse at h
  split at h
  · cases h
  · cases h
  · unfold Config.ofToml at h
    split at h
    · next hread =>
      cases h
      exact checked_of_configuration hread
    · cases h

theorem checked_of_loadFrom {env : Environment} {path : String} {found : Config.Found} {c : Config}
    (h : Config.loadFrom env path found = .ok c) : c.settings.transport.Checked := by
  unfold Config.loadFrom at h
  split at h
  · cases h
  · cases h
  · split at h
    · cases h
    · split at h
      · next hparse =>
        cases h
        exact checked_of_parse hparse
      · cases h

theorem checked_of_load {env : Environment} {look : String → Config.Found} {c : Config}
    (h : Config.load env look = .ok (some c)) : c.settings.transport.Checked := by
  unfold Config.load at h
  split at h
  · cases h
  · next path _ =>
    split at h
    · cases h
    · cases hload : Config.loadFrom env path (look path) with
      | error e =>
        rw [hload] at h
        cases h
      | ok c' =>
        rw [hload] at h
        cases h
        exact checked_of_loadFrom hload

/-- A configuration file that is not there leaves the default. -/
theorem checked_of_configure {h : Host} {env : Environment} {file : Option String} {c : Config}
    (hc : Cli.configure h env file = .ok c) : c.settings.transport.Checked := by
  cases file with
  | some path => exact checked_of_loadFrom hc
  | none =>
    unfold Cli.configure at hc
    cases hload : Config.load env h.find with
    | error e =>
      rw [hload] at hc
      cases hc
    | ok loaded =>
      rw [hload] at hc
      cases hc
      cases loaded with
      | none => exact checked_default
      | some c => exact checked_of_load hload

theorem Origin.checked (h : Origin s) : s.Checked := by
  cases h with
  | default => exact checked_default
  | document h => exact checked_of_read h
  | settings h => exact checked_of_settings h
  | configuration h => exact checked_of_configuration h
  | parsed h => exact checked_of_parse h
  | configured h => exact checked_of_configure h

/-! ### Changes -/

/-- A change of transport settings. -/
inductive Change where
  | kind (k : TransportKind)
  | port (p : Option Nat)
  | bindTimeout (d : Duration)
  | pollInterval (d : Duration)
  deriving DecidableEq, Repr

/-- The parts of transport settings. -/
inductive Part where
  | kind
  | host
  | port
  | bindTimeout
  | pollInterval
  | connectTimeout
  deriving DecidableEq, Repr

/-- Whether two settings agree in a part. -/
def Part.Same : Part → TransportSettings → TransportSettings → Prop
  | .kind, s, t => t.kind = s.kind
  | .host, s, t => t.host = s.host
  | .port, s, t => t.port = s.port
  | .bindTimeout, s, t => t.bindTimeout = s.bindTimeout
  | .pollInterval, s, t => t.pollInterval = s.pollInterval
  | .connectTimeout, s, t => t.connectTimeout = s.connectTimeout

namespace Change

/-- The settings after a change, or why it is refused. -/
def make (s : TransportSettings) : Change → Except SettingsError TransportSettings
  | .kind k => .ok (s.withKind k)
  | .port p => s.withPort p
  | .bindTimeout d => s.withBindTimeout d
  | .pollInterval d => s.withPollInterval d

/-- The part that a change is about. -/
def part : Change → Part
  | .kind _ => .kind
  | .port _ => .port
  | .bindTimeout _ => .bindTimeout
  | .pollInterval _ => .pollInterval

/-- The settings have the value that a change asks for. -/
def Holds (s : TransportSettings) : Change → Prop
  | .kind k => s.kind = k
  | .port p => s.port = p
  | .bindTimeout d => s.bindTimeout = d
  | .pollInterval d => s.pollInterval = d

/-- The changes to zero, with what they are refused for. -/
inductive Zero : Change → SettingsError → Prop where
  | port : Zero (.port (some 0)) .zeroPort
  | bindTimeout : Zero (.bindTimeout ⟨0⟩) (.zeroDuration "bind_timeout_ms")
  | pollInterval : Zero (.pollInterval ⟨0⟩) (.zeroDuration "poll_interval_ms")

/-- A change is made: its own part has the new value, and all other parts are as they were. -/
structure Made (c : Change) (s t : TransportSettings) : Prop where
  own : c.Holds t
  others : ∀ part, part ≠ c.part → part.Same s t

variable {c : Change}

theorem make_eq_error_iff : c.make s = .error e ↔ c.Zero e := by
  constructor
  · intro h
    cases c with
    | kind k => cases h
    | port p =>
      obtain ⟨hp, rfl⟩ := (refuse_eq_error.mp h).resolve_right (by simp)
      obtain rfl := eq_of_beq hp
      exact .port
    | bindTimeout d =>
      obtain ⟨hd, rfl⟩ := (refuse_eq_error.mp h).resolve_right (by simp)
      obtain ⟨n⟩ := d
      obtain rfl := eq_of_beq hd
      exact .bindTimeout
    | pollInterval d =>
      obtain ⟨hd, rfl⟩ := (refuse_eq_error.mp h).resolve_right (by simp)
      obtain ⟨n⟩ := d
      obtain rfl := eq_of_beq hd
      exact .pollInterval
  · rintro (_ | _ | _) <;> rfl

/-- A change that is not refused is made. -/
theorem made_of_make (h : c.make s = .ok t) : c.Made s t := by
  cases c with
  | kind k =>
    cases h
    exact ⟨rfl, fun part hpart => by cases part <;> simp_all [Part.Same, part, withKind]⟩
  | port p =>
    obtain ⟨-, ht⟩ := refuse_eq_ok.mp h
    cases ht
    exact ⟨rfl, fun part hpart => by cases part <;> simp_all [Part.Same, part]⟩
  | bindTimeout d =>
    obtain ⟨-, ht⟩ := refuse_eq_ok.mp h
    cases ht
    exact ⟨rfl, fun part hpart => by cases part <;> simp_all [Part.Same, part]⟩
  | pollInterval d =>
    obtain ⟨-, ht⟩ := refuse_eq_ok.mp h
    cases ht
    exact ⟨rfl, fun part hpart => by cases part <;> simp_all [Part.Same, part]⟩

theorem exists_made (h : ∀ e, ¬ c.Zero e) (s : TransportSettings) :
    ∃ t, c.make s = .ok t ∧ c.Made s t := by
  cases hc : c.make s with
  | error e => exact absurd (make_eq_error_iff.mp hc) (h e)
  | ok t => exact ⟨t, rfl, made_of_make hc⟩

end Change

/-- The settings after a change; one that is refused leaves them as they were. -/
def change (s : TransportSettings) (c : Change) : TransportSettings :=
  match c.make s with
  | .ok t => t
  | .error _ => s

def changes (s : TransportSettings) (cs : List Change) : TransportSettings := cs.foldl change s

theorem changes_append (s : TransportSettings) (cs ds : List Change) :
    s.changes (cs ++ ds) = (s.changes cs).changes ds := by
  simp [changes]

theorem Checked.make (hs : s.Checked) {c : Change} (h : c.make s = .ok t) : t.Checked := by
  cases c with
  | kind k =>
    cases h
    exact { hs with }
  | port p =>
    obtain ⟨hp, ht⟩ := refuse_eq_ok.mp h
    cases ht
    exact { hs with port := by simpa using hp }
  | bindTimeout d =>
    obtain ⟨hd, ht⟩ := refuse_eq_ok.mp h
    cases ht
    exact { hs with bindTimeout := Nat.pos_of_ne_zero (by simpa [Duration.isZero] using hd) }
  | pollInterval d =>
    obtain ⟨hd, ht⟩ := refuse_eq_ok.mp h
    cases ht
    exact { hs with pollInterval := Nat.pos_of_ne_zero (by simpa [Duration.isZero] using hd) }

theorem Checked.change (hs : s.Checked) (c : Change) : (s.change c).Checked := by
  unfold TransportSettings.change
  split
  · next h => exact hs.make h
  · exact hs

theorem Checked.changes (hs : s.Checked) (cs : List Change) : (s.changes cs).Checked := by
  induction cs generalizing s with
  | nil => exact hs
  | cons c cs ih => exact ih (hs.change c)

/-! ### The command line -/

/-- What the command line says about the transport, as changes. -/
def overrides (o : RunOptions) : List Change :=
  o.transport.toList.map .kind ++ o.port.toList.map fun p => .port (some p)

variable {o : RunOptions} {all all' : Settings}

/-- What the command line says is refused for port zero and nothing else. -/
theorem applyRun_eq_error_iff : Cli.applyRun o all = .error e ↔ o.port = some 0 ∧ e = .zeroPort := by
  unfold Cli.applyRun withPort
  cases o.port with
  | none => simp
  | some p =>
    by_cases hp : p = 0
    · simp [hp, Except.map, eq_comm]
    · simp [hp, Except.map]

/-- What the command line says about the transport is made as changes, and nothing else happens. -/
theorem applyRun_eq (h : Cli.applyRun o all = .ok all') :
    all' = { all with transport := all.transport.changes (overrides o) } := by
  have hkind : all.transport.changes (o.transport.toList.map .kind) =
      o.transport.elim all.transport all.transport.withKind := by
    cases o.transport <;> rfl
  rw [overrides, changes_append, hkind]
  cases hport : o.port with
  | none =>
    simp only [Cli.applyRun, hport] at h
    cases h
    rfl
  | some p =>
    simp only [Cli.applyRun, hport] at h
    simp only [Option.toList_some, List.map_cons, List.map_nil, changes, List.foldl_cons,
      List.foldl_nil, change, Change.make]
    cases hset : (o.transport.elim all.transport all.transport.withKind).withPort (some p) with
    | error e =>
      rw [hset] at h
      cases h
    | ok t =>
      rw [hset] at h
      cases h
      rfl

/-- What is promised to whoever uses transport settings. -/
structure StaysChecked : Prop where
  /-- Wherever the settings come from and whatever changes are tried on them, they are checked. -/
  changed : ∀ s, Origin s → ∀ cs, (s.changes cs).Checked
  /-- So they are when the command line has had its say. -/
  overridden : ∀ s, Origin s → ∀ cs o all all', all.transport = s.changes cs →
    Cli.applyRun o all = .ok all' → all'.transport.Checked
  /-- What the command line says is refused exactly for port zero. -/
  override_refused : ∀ o all e, Cli.applyRun o all = .error e ↔ o.port = some 0 ∧ e = .zeroPort
  /-- A table is refused for the first requirement that it does not meet. -/
  refused : ∀ raw e, check raw = .error e ↔ FirstUnmet raw.requirements e
  /-- A table that meets all requirements is accepted. -/
  accepted : ∀ raw, (∃ s, check raw = .ok s) ↔ ∀ r ∈ raw.requirements, r.1
  /-- A document that is no such table is refused for its shape, any other as its table is. -/
  document : ∀ v x, read v = .error x ↔ readRaw v = .error x ∨
    ∃ raw e, readRaw v = .ok raw ∧ FirstUnmet raw.requirements e ∧ x = ⟨.refused e.message, []⟩
  /-- A change is refused exactly for a zero. -/
  change_refused : ∀ (c : Change) s e, c.make s = .error e ↔ c.Zero e
  /-- Any other change is made, to its own part only. -/
  change_made : ∀ (c : Change) s, (∀ e, ¬ c.Zero e) → ∃ t, c.make s = .ok t ∧ c.Made s t

/-- **Transport settings stay checked.** -/
theorem transport_stays_checked : StaysChecked where
  changed s hs cs := hs.checked.changes cs
  overridden s hs cs o all all' hall h := by
    rw [applyRun_eq h, hall]
    exact (hs.checked.changes cs).changes (overrides o)
  override_refused o all e := applyRun_eq_error_iff
  refused raw e := check_eq_error_iff
  accepted raw := by simp [check_eq_ok_iff]
  document v x := read_eq_error_iff
  change_refused c s e := Change.make_eq_error_iff
  change_made c s h := Change.exists_made h s

/-- A remote host outranks port zero; zeros among changes are passed over. -/
theorem transport_stays_checked_overruled :
    FirstUnmet (RawTransport.requirements { host := .v4 10 0 0 5, port := some 0 })
      (.remoteHost (.v4 10 0 0 5)) ∧
    (changes {} [.port (some 8471), .pollInterval ⟨0⟩, .port (some 0), .kind .ipc]).Checked ∧
    changes {} [.port (some 8471), .pollInterval ⟨0⟩, .port (some 0), .kind .ipc] =
      { kind := .ipc, port := some 8471 } :=
  ⟨(transport_stays_checked.refused _ _).mp rfl, transport_stays_checked.changed _ .default _, rfl⟩

end TransportSettings

end Sidecar
