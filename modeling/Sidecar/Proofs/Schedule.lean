/-
# Schedules

A system whose parts work on their own goes through states in the order in
which the parts take their turns, and a schedule is any such order, without an
end. Where every move that changes anything brings a measure down, a schedule
can change the state only so often, and then the state is at rest
(`exists_rest`).

Key definition: `along`.
Key theorem: `exists_rest`.
-/
import Mathlib.Order.WellFounded

namespace Sidecar

/-- The states that a system goes through if the moves come in the given order. -/
def along {S M : Type} (step : S → M → S) (s : S) (σ : ℕ → M) : ℕ → S
  | 0 => s
  | n + 1 => step (along step s σ n) (σ n)

/-- **What can only go down comes to rest.** -/
theorem exists_rest {X α : Type} [LT α] [WellFoundedLT α] (f : ℕ → X) (μ : X → α)
    (h : ∀ n, f (n + 1) = f n ∨ μ (f (n + 1)) < μ (f n)) : ∃ N, ∀ n, N ≤ n → f n = f N := by
  obtain ⟨N, hN⟩ : ∃ N, ∀ n, ¬ μ (f n) < μ (f N) := by
    have hw : WellFounded (fun a b : α => a < b) := IsWellFounded.wf
    obtain ⟨a, ⟨N, rfl⟩, hmin⟩ := hw.has_min (Set.range fun n => μ (f n)) ⟨_, 0, rfl⟩
    exact ⟨N, fun n => hmin _ ⟨n, rfl⟩⟩
  refine ⟨N, fun n hn => ?_⟩
  induction n, hn using Nat.le_induction with
  | base => rfl
  | succ n _ ih =>
    rcases h n with hsame | hless
    · rw [hsame, ih]
    · rw [ih] at hless
      exact absurd hless (hN _)

end Sidecar
