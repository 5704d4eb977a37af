/-
# Endpoints and their leases

An endpoint that is allocated comes with the lease of its port, if it has
one, and nobody had that lease before (`ports_allocate`). When the endpoint
is given back, the registry holds what it holds without it
(`perm_release`).

Key theorems: `Registry.ports_allocate`, `Registry.perm_release`.
-/
import Sidecar.Transport.Lease

namespace Sidecar.Registry

variable {r r' : Registry} {e : Endpoint}

theorem ports_lease? {port : Nat} (h : r.lease? port = some r') :
    port ∉ r.ports ∧ r'.ports = port :: r.ports := by
  unfold lease? isLeased at h
  split at h
  · cases h
  · next hfree =>
    cases h
    exact ⟨by simpa using hfree, rfl⟩

theorem ports_probe {host : Net.Address} {ask : Nat → Except SystemError Nat} {left : Nat}
    (h : r.probe host ask left = .ok (e, r')) :
    ∃ port, e = .socket host port ∧ port ∉ r.ports ∧ r'.ports = port :: r.ports := by
  induction left with
  | zero => cases h
  | succ left ih =>
    unfold probe at h
    split at h
    · cases h
    · next port _ =>
      split at h
      · next hl =>
        cases h
        exact ⟨port, rfl, ports_lease? hl⟩
      · exact ih h

/-- An endpoint comes with the lease of its port, which nobody had. -/
theorem ports_allocate {s : TransportSettings} {path : String}
    {ask : Nat → Except SystemError Nat} (h : r.allocate s path ask = .ok (e, r')) :
    (∀ port ∈ e.port?, port ∉ r.ports) ∧ r'.ports = e.port?.toList ++ r.ports := by
  unfold allocate at h
  split at h
  · cases h
    simp [Endpoint.port?]
  · cases h
    simp [Endpoint.port?]
  · split at h
    · next port _ =>
      split at h
      · next hl =>
        cases h
        simpa [Endpoint.port?] using ports_lease? hl
      · cases h
    · obtain ⟨port, rfl, hport⟩ := ports_probe h
      simpa [Endpoint.port?] using hport

/-- What is left when an endpoint is given back is what others hold. -/
theorem perm_release {held : List Nat} (h : r.ports.Perm (e.port?.toList ++ held)) :
    (r.release e).ports.Perm held := by
  unfold release
  cases hp : e.port? with
  | none => simpa [hp] using h
  | some port =>
    have herase := h.erase port
    simpa [hp] using herase

end Sidecar.Registry
