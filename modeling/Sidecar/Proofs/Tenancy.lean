/-
# Leases are exclusive and exact

Any number of negotiators share one registry. Each has its own settings,
allocates endpoints and drops them again, in any order, and the system answers
questions for a free port as it likes. Whatever the history, the registry holds
exactly the ports of the endpoints that live, and no two of them have the same
(`Estate.Exact`).

Because of that an allocation can be judged by the endpoints that live
(`Estate.Judged`): it fails only if its fixed port is held by one of them, if
a question fails, or if 16 answers in a row are ports that are held. What
comes of the questions is decided by the first answer that is not a held port
(`Registry.Asked`).

Key definitions: `Registry.Asked`, `Estate`, `Estate.Exact`, `Estate.Judged`.
Key theorems: `Registry.asked_probe`, `Estate.Sound.step`, `Estate.leases_exact`.
-/
import Mathlib.Data.List.Nodup
import Mathlib.Data.List.Perm.Basic
import Mathlib.Tactic.Common
import Sidecar.Proofs.Leases

namespace Sidecar

namespace Registry

variable {r : Registry} {host : Net.Address} {ask : Nat → Except SystemError Nat} {left : Nat}
  {s : TransportSettings} {path : String}

/-- The answer is a port that is leased. -/
def Held (r : Registry) (answer : Except SystemError Nat) : Prop :=
  ∃ port, answer = .ok port ∧ port ∈ r.ports

/-- What comes of asking, from a question on: every answer is a leased port, or there is a first
that is not, and it decides. -/
inductive Asked (r : Registry) (host : Net.Address) (ask : Nat → Except SystemError Nat)
    (first : Nat) : Except AllocateError (Endpoint × Registry) → Prop where
  | exhausted (held : ∀ k, first ≤ k → k < maxProbes → r.Held (ask k)) :
      Asked r host ask first (.error (.exhausted maxProbes))
  | failed {k : Nat} {cause : SystemError} (here : first ≤ k ∧ k < maxProbes)
      (held : ∀ j, first ≤ j → j < k → r.Held (ask j)) (answer : ask k = .error cause) :
      Asked r host ask first (.error (.probe host cause))
  | free {k port : Nat} (here : first ≤ k ∧ k < maxProbes)
      (held : ∀ j, first ≤ j → j < k → r.Held (ask j)) (answer : ask k = .ok port)
      (unheld : port ∉ r.ports) :
      Asked r host ask first (.ok (.socket host port, ⟨port :: r.ports⟩))

theorem lease?_of_mem {port : Nat} (h : port ∈ r.ports) : r.lease? port = none := by
  simp [lease?, isLeased, h]

theorem lease?_of_not_mem {port : Nat} (h : port ∉ r.ports) :
    r.lease? port = some ⟨port :: r.ports⟩ := by
  simp [lease?, isLeased, h]

/-- A question whose answer is a leased port decides nothing. -/
theorem Asked.skip {first : Nat} {result : Except AllocateError (Endpoint × Registry)}
    (h : Asked r host ask (first + 1) result) (hheld : r.Held (ask first)) :
    Asked r host ask first result := by
  have hextend : ∀ {n}, (∀ j, first + 1 ≤ j → j < n → r.Held (ask j)) →
      ∀ j, first ≤ j → j < n → r.Held (ask j) := by
    intro n hrest j hj hlt
    rcases Nat.eq_or_lt_of_le hj with rfl | hj
    · exact hheld
    · exact hrest j hj hlt
  cases h with
  | exhausted held => exact .exhausted (hextend held)
  | failed here held answer => exact .failed ⟨by omega, here.2⟩ (hextend held) answer
  | free here held answer unheld => exact .free ⟨by omega, here.2⟩ (hextend held) answer unheld

/-- **What comes of the questions that are left.** -/
theorem asked_probe (hleft : left ≤ maxProbes) :
    Asked r host ask (maxProbes - left) (r.probe host ask left) := by
  induction left with
  | zero => exact .exhausted fun k hk hlt => by omega
  | succ left ih =>
    have hrest := ih (by omega)
    rw [show maxProbes - left = maxProbes - (left + 1) + 1 by omega] at hrest
    have hbefore : ∀ j, maxProbes - (left + 1) ≤ j → j < maxProbes - (left + 1) →
        r.Held (ask j) := by omega
    rw [probe]
    cases hask : ask (maxProbes - (left + 1)) with
    | error cause => exact .failed ⟨Nat.le_refl _, by omega⟩ hbefore hask
    | ok port =>
      dsimp only
      by_cases hmem : port ∈ r.ports
      · rw [lease?_of_mem hmem]
        exact hrest.skip ⟨port, hask, hmem⟩
      · rw [lease?_of_not_mem hmem]
        exact .free ⟨Nat.le_refl _, by omega⟩ hbefore hask hmem

/-- No later question was asked than the first whose answer is not a leased port. -/
theorem eq_of_first {k k' : Nat} (hk : ¬ r.Held (ask k)) (hbefore : ∀ j < k, r.Held (ask j))
    (hk' : ¬ r.Held (ask k')) (hbefore' : ∀ j < k', r.Held (ask j)) : k = k' := by
  rcases Nat.lt_trichotomy k k' with hlt | heq | hlt
  · exact absurd (hbefore' k hlt) hk
  · exact heq
  · exact absurd (hbefore k' hlt) hk'

/-! ### What comes of an allocation -/

/-- What comes of an allocation. -/
inductive Allocated (r : Registry) (s : TransportSettings) (ask : Nat → Except SystemError Nat) :
    Except AllocateError (Endpoint × Registry) → Prop where
  | plain {e : Endpoint} (kind : s.kind ≠ .socket) (same : e.kind = s.kind)
      (port : e.port? = none) : Allocated r s ask (.ok (e, r))
  | leased {port : Nat} (kind : s.kind = .socket) (fixed : s.port = some port)
      (held : port ∈ r.ports) : Allocated r s ask (.error (.leased port))
  | fixed {port : Nat} (kind : s.kind = .socket) (fixed : s.port = some port)
      (unheld : port ∉ r.ports) : Allocated r s ask (.ok (.socket s.host port, ⟨port :: r.ports⟩))
  | asked {result : Except AllocateError (Endpoint × Registry)} (kind : s.kind = .socket)
      (unfixed : s.port = none) (asked : Asked r s.host ask 0 result) : Allocated r s ask result

theorem allocated (r : Registry) (s : TransportSettings) (path : String)
    (ask : Nat → Except SystemError Nat) : Allocated r s ask (r.allocate s path ask) := by
  unfold allocate
  cases hkind : s.kind with
  | stdio => exact .plain (by simp [hkind]) hkind.symm rfl
  | ipc => exact .plain (by simp [hkind]) hkind.symm rfl
  | socket =>
    cases hport : s.port with
    | none =>
      refine .asked hkind hport ?_
      have hasked : Asked r s.host ask (maxProbes - maxProbes) (r.probe s.host ask maxProbes) :=
        asked_probe (Nat.le_refl maxProbes)
      rwa [Nat.sub_self] at hasked
    | some port =>
      dsimp only
      by_cases hmem : port ∈ r.ports
      · rw [lease?_of_mem hmem]
        exact .leased hkind hport hmem
      · rw [lease?_of_not_mem hmem]
        exact .fixed hkind hport hmem

theorem allocate_eq_leased_iff {port : Nat} :
    r.allocate s path ask = .error (.leased port) ↔
      s.kind = .socket ∧ s.port = some port ∧ port ∈ r.ports := by
  constructor
  · intro h
    have ha := allocated r s path ask
    rw [h] at ha
    cases ha with
    | leased kind fixed held => exact ⟨kind, fixed, held⟩
    | asked _ _ asked => cases asked
  · rintro ⟨hkind, hport, hmem⟩
    unfold allocate
    rw [hkind, hport]
    dsimp only
    rw [lease?_of_mem hmem]

theorem allocate_eq_exhausted_iff {n : Nat} :
    r.allocate s path ask = .error (.exhausted n) ↔
      n = maxProbes ∧ s.kind = .socket ∧ s.port = none ∧ ∀ k < maxProbes, r.Held (ask k) := by
  have ha := allocated r s path ask
  generalize r.allocate s path ask = result at ha ⊢
  cases ha with
  | plain kind => simp [kind]
  | leased _ fixed => simp [fixed]
  | fixed _ fixed => simp [fixed]
  | asked kind unfixed asked =>
    cases asked with
    | exhausted held =>
      simp only [Except.error.injEq, AllocateError.exhausted.injEq, kind, unfixed, true_and]
      exact ⟨fun h => ⟨h.symm, fun k => held k (Nat.zero_le k)⟩, fun h => h.1.symm⟩
    | @failed k _ here _ answer =>
      have hnot : ¬ ∀ k < maxProbes, r.Held (ask k) := fun hall => by
        simpa [Held, answer] using hall k here.2
      simp [hnot]
    | @free k _ here _ answer unheld =>
      have hnot : ¬ ∀ k < maxProbes, r.Held (ask k) := fun hall => by
        simpa [Held, answer, unheld] using hall k here.2
      simp [hnot]

theorem allocate_eq_probe_iff {host : Net.Address} {cause : SystemError} :
    r.allocate s path ask = .error (.probe host cause) ↔
      host = s.host ∧ s.kind = .socket ∧ s.port = none ∧
        ∃ k < maxProbes, ask k = .error cause ∧ ∀ j < k, r.Held (ask j) := by
  have ha := allocated r s path ask
  generalize r.allocate s path ask = result at ha ⊢
  cases ha with
  | plain kind => simp [kind]
  | leased _ fixed => simp [fixed]
  | fixed _ fixed => simp [fixed]
  | asked kind unfixed asked =>
    simp only [kind, unfixed, true_and]
    cases asked with
    | exhausted held =>
      simp only [Except.error.injEq, reduceCtorEq, false_iff]
      rintro ⟨-, k, hk, hask, -⟩
      simpa [Held, hask] using held k (Nat.zero_le k) hk
    | @failed k cause' here held answer =>
      simp only [Except.error.injEq, AllocateError.probe.injEq]
      constructor
      · rintro ⟨rfl, rfl⟩
        exact ⟨rfl, k, here.2, answer, fun j => held j (Nat.zero_le j)⟩
      · rintro ⟨rfl, k', -, hask, hbefore⟩
        have hk : k = k' := eq_of_first (by simp [Held, answer])
          (fun j => held j (Nat.zero_le j)) (by simp [Held, hask]) hbefore
        rw [hk, hask] at answer
        exact ⟨rfl, (Except.error.inj answer).symm⟩
    | @free k port here held answer unheld =>
      simp only [reduceCtorEq, false_iff]
      rintro ⟨-, k', -, hask, hbefore⟩
      have hk : k = k' := eq_of_first (by simp [Held, answer, unheld])
        (fun j => held j (Nat.zero_le j)) (by simp [Held, hask]) hbefore
      rw [hk, hask] at answer
      cases answer

end Registry

/-! ### Negotiators with one registry -/

/-- An endpoint that lives, with the settings of the negotiator that has allocated it. -/
structure Tenancy where
  settings : TransportSettings
  endpoint : Endpoint

/-- The endpoint is what the settings ask for: it is of their kind, and a socket is at their host
and has its own port, which is theirs if they fix one. -/
def Tenancy.Fits (t : Tenancy) : Prop :=
  t.endpoint.kind = t.settings.kind ∧
    ∀ port ∈ t.endpoint.port?, t.endpoint = .socket t.settings.host port ∧
      ∀ fixed ∈ t.settings.port, fixed = port

/-- Negotiators that share a registry, with all the endpoints that live. -/
structure Estate where
  registry : Registry := {}
  live : List Tenancy := []

namespace Estate

/-- What can happen. -/
inductive Deal where
  /-- A negotiator with these settings allocates an endpoint. -/
  | allocate (settings : TransportSettings) (path : String) (ask : Nat → Except SystemError Nat)
  /-- An endpoint is dropped. -/
  | drop (i : Nat)

/-- What a deal does. -/
def step (e : Estate) : Deal → Estate
  | .allocate settings path ask =>
    match e.registry.allocate settings path ask with
    | .ok (endpoint, registry) => ⟨registry, e.live ++ [⟨settings, endpoint⟩]⟩
    | .error _ => e
  | .drop i =>
    match e.live[i]? with
    | some t => ⟨e.registry.release t.endpoint, e.live.eraseIdx i⟩
    | none => e

/-- What a history of deals leads to. -/
def run (e : Estate) (deals : List Deal) : Estate := deals.foldl step e

/-- The ports of the endpoints that live. -/
def ports (e : Estate) : List Nat := e.live.filterMap fun t => t.endpoint.port?

/-- The answer is a port of an endpoint that lives. -/
def Holds (e : Estate) (answer : Except SystemError Nat) : Prop :=
  ∃ port, answer = .ok port ∧ port ∈ e.ports

/-- The registry is exact: it holds the ports of the endpoints that live, each of which has its
own. -/
structure Exact (e : Estate) : Prop where
  leased : ∀ port, e.registry.isLeased port = true ↔ port ∈ e.ports
  distinct : e.ports.Nodup
  count : e.registry.count = e.ports.length
  fits : ∀ t ∈ e.live, t.Fits

/-- What becomes of an allocation, judged by the endpoints that live. -/
structure Judged (e : Estate) (s : TransportSettings) (path : String)
    (ask : Nat → Except SystemError Nat) : Prop where
  leased : ∀ port, e.registry.allocate s path ask = .error (.leased port) ↔
    s.kind = .socket ∧ s.port = some port ∧ port ∈ e.ports
  exhausted : ∀ n, e.registry.allocate s path ask = .error (.exhausted n) ↔
    n = 16 ∧ s.kind = .socket ∧ s.port = none ∧ ∀ k < 16, e.Holds (ask k)
  probe : ∀ host cause, e.registry.allocate s path ask = .error (.probe host cause) ↔
    host = s.host ∧ s.kind = .socket ∧ s.port = none ∧
      ∃ k < 16, ask k = .error cause ∧ ∀ j < k, e.Holds (ask j)
  /-- Where there is no endpoint, all is as before. -/
  unchanged : ∀ error, e.registry.allocate s path ask = .error error →
    e.step (.allocate s path ask) = e

variable {e : Estate} {s : TransportSettings} {path : String}
  {ask : Nat → Except SystemError Nat}

theorem fits_allocate {r r' : Registry} {endpoint : Endpoint}
    (h : r.allocate s path ask = .ok (endpoint, r')) : Tenancy.Fits ⟨s, endpoint⟩ := by
  have ha := Registry.allocated r s path ask
  rw [h] at ha
  cases ha with
  | plain _ same port => exact ⟨same, by simp [port]⟩
  | fixed kind fixed _ => exact ⟨kind.symm, by simp [Endpoint.port?, fixed]⟩
  | asked kind unfixed asked =>
    cases asked with
    | free => exact ⟨kind.symm, by simp [Endpoint.port?, unfixed]⟩

/-- What is kept: the registry has the ports of the endpoints that live, in some order. -/
structure Sound (e : Estate) : Prop where
  leases : e.registry.ports.Perm e.ports
  distinct : e.registry.ports.Nodup
  fits : ∀ t ∈ e.live, t.Fits

/-- An endpoint has the port it has, and the others have theirs. -/
theorem filterMap_port_cons (t : Tenancy) (live : List Tenancy) :
    (t :: live).filterMap (fun t => t.endpoint.port?) =
      t.endpoint.port?.toList ++ live.filterMap fun t => t.endpoint.port? := by
  rw [List.filterMap_cons]
  cases t.endpoint.port? <;> rfl

theorem Sound.allocate (h : Sound e) {r' : Registry} {endpoint : Endpoint}
    (ha : e.registry.allocate s path ask = .ok (endpoint, r')) :
    Sound ⟨r', e.live ++ [⟨s, endpoint⟩]⟩ := by
  obtain ⟨hnew, hports⟩ := Registry.ports_allocate ha
  refine ⟨?_, ?_, ?_⟩
  · have hlive : (e.live ++ [Tenancy.mk s endpoint]).Perm (⟨s, endpoint⟩ :: e.live) :=
      List.perm_append_comm
    have hlive' := hlive.filterMap fun t => t.endpoint.port?
    rw [filterMap_port_cons] at hlive'
    rw [hports]
    exact (h.leases.append_left _).trans hlive'.symm
  · rw [hports]
    cases hport : endpoint.port? with
    | none => exact h.distinct
    | some port => exact List.nodup_cons.2 ⟨hnew port hport, h.distinct⟩
  · intro t ht
    rcases List.mem_append.1 ht with ht | ht
    · exact h.fits t ht
    · rw [List.mem_singleton.1 ht]
      exact fits_allocate ha

theorem Sound.drop (h : Sound e) {i : Nat} {t : Tenancy} (ht : e.live[i]? = some t) :
    Sound ⟨e.registry.release t.endpoint, e.live.eraseIdx i⟩ := by
  obtain ⟨hi, rfl⟩ := List.getElem?_eq_some_iff.1 ht
  have hlive := (List.getElem_cons_eraseIdx_perm hi).filterMap fun t => t.endpoint.port?
  rw [filterMap_port_cons] at hlive
  have hleases := h.leases.trans hlive.symm
  have hrest := Registry.perm_release hleases
  refine ⟨hrest, ?_, fun t ht => h.fits t (List.mem_of_mem_eraseIdx ht)⟩
  exact hrest.nodup_iff.2 (List.nodup_append.1 (hleases.nodup_iff.1 h.distinct)).2.1

/-- **Every deal keeps the leases right.** -/
theorem Sound.step (h : Sound e) (d : Deal) : Sound (e.step d) := by
  cases d with
  | allocate s path ask =>
    rw [Estate.step]
    split
    · next ha => exact h.allocate ha
    · exact h
  | drop i =>
    rw [Estate.step]
    split
    · next ht => exact h.drop ht
    · exact h

theorem Sound.run (h : Sound e) (deals : List Deal) : Sound (e.run deals) := by
  induction deals generalizing e with
  | nil => exact h
  | cons d deals ih => exact ih (h.step d)

theorem Sound.exact (h : Sound e) : Exact e where
  leased port := by
    rw [Registry.isLeased, List.contains_iff_mem]
    exact h.leases.mem_iff
  distinct := h.leases.nodup_iff.1 h.distinct
  count := h.leases.length_eq
  fits := h.fits

theorem Sound.judged (h : Sound e) (s : TransportSettings) (path : String)
    (ask : Nat → Except SystemError Nat) : Judged e s path ask := by
  have hmem : ∀ port, port ∈ e.registry.ports ↔ port ∈ e.ports := fun _ => h.leases.mem_iff
  have hheld : ∀ answer, e.registry.Held answer ↔ e.Holds answer := by
    intro answer
    simp only [Registry.Held, Holds, hmem]
  refine ⟨?_, ?_, ?_, ?_⟩
  · intro port
    rw [Registry.allocate_eq_leased_iff, hmem]
  · intro n
    rw [Registry.allocate_eq_exhausted_iff]
    simp only [hheld, Registry.maxProbes]
  · intro host cause
    rw [Registry.allocate_eq_probe_iff]
    simp only [hheld, Registry.maxProbes]
  · intro error herror
    rw [Estate.step, herror]

/-- **Leases are exclusive and exact**, whatever was allocated and dropped, by whichever negotiators
and with whatever answers of the system. -/
theorem leases_exact (deals : List Deal) :
    Exact (run {} deals) ∧ ∀ s path ask, Judged (run {} deals) s path ask := by
  have hempty : Sound {} := ⟨.nil, .nil, nofun⟩
  have h := hempty.run deals
  exact ⟨h.exact, h.judged⟩

/-- A fixed port is refused while an endpoint has it, and is free once that is dropped. -/
example : let fixed : Deal := .allocate { port := some 4000 } "" fun _ => .ok 5000
    (run {} [fixed, fixed]).ports = [4000] ∧
      (run {} [fixed, .allocate {} "" fun _ => .ok 5000, .drop 0]).registry.ports = [5000] ∧
      (run {} [fixed, .drop 0, fixed]).registry.ports = [4000] := by decide

end Estate

end Sidecar
