/-
# Waiting for an endpoint ends in time

The wait for an endpoint is a loop without a counter: an attempt, a pause, and
again. It ends (`Ends`) because every pause is positive and the last one is cut
at the deadline. An attempt is made only before the deadline and is over by
then (`attempt_result`). It begins an interval or more after the attempt before
it (`Ends.paced`), so there are no more attempts than intervals begin before
the deadline (`length_of_spaced`).

Key definitions: `Poll.Ends`, `Poll.Polled`.
Key theorem: `Poll.readiness_polled`.
-/
import Mathlib.Algebra.Order.Floor.Div
import Sidecar.Proofs.CheckedTransport
import Sidecar.Transport.Readiness

namespace Sidecar.Poll

variable {p : Poll} {probe : Probe} {now : Nat} {o : Outcome}

/-- Whether the attempt at a time succeeds. -/
def succeeds (p : Poll) (probe : Probe) (t : Nat) : Bool := (probe t (p.budget t)).1

/-- When the attempt that begins at a time is over. -/
def overAt (p : Poll) (probe : Probe) (t : Nat) : Nat :=
  t + min (probe t (p.budget t)).2 (p.budget t)

/-- The loop that begins at a time ends with an outcome. -/
inductive Ends (p : Poll) (probe : Probe) : Nat → Outcome → Prop where
  | ready {now time : Nat} (h : p.attempt probe now = .ready time) :
      Ends p probe now ⟨true, time, p.attempted now⟩
  | late {now time : Nat} (h : p.attempt probe now = .late time) :
      Ends p probe now ⟨false, time, p.attempted now⟩
  | again {now time : Nat} {o : Outcome} (h : p.attempt probe now = .again time)
      (hrest : Ends p probe time o) :
      Ends p probe now { o with attempts := p.attempted now ++ o.attempts }

theorem budget_ne_zero (hconnect : 0 < p.connect) (h : now < p.deadline) : p.budget now ≠ 0 := by
  unfold budget
  omega

theorem le_overAt (p : Poll) (probe : Probe) (now : Nat) : now ≤ p.overAt probe now :=
  Nat.le_add_right _ _

theorem overAt_le (h : now ≤ p.deadline) : p.overAt probe now ≤ p.deadline := by
  have hbudget : p.budget now ≤ p.deadline - now := Nat.min_le_right _ _
  unfold overAt
  omega

theorem attempted_of_lt (hconnect : 0 < p.connect) (h : now < p.deadline) :
    p.attempted now = [now] := by
  simp [attempted, budget_ne_zero hconnect h]

theorem attempted_deadline (p : Poll) : p.attempted p.deadline = [] := by
  simp [attempted, budget]

theorem attempt_deadline (p : Poll) (probe : Probe) : p.attempt probe p.deadline = .late p.deadline := by
  have hbudget : p.budget p.deadline = 0 := by simp [budget]
  simp [attempt, hbudget]

theorem attempt_of_lt (hconnect : 0 < p.connect) (h : now < p.deadline) :
    p.attempt probe now =
      if p.succeeds probe now then .ready (p.overAt probe now)
      else if p.deadline ≤ p.overAt probe now then .late (p.overAt probe now)
      else .again (min (p.overAt probe now + p.interval) p.deadline) := by
  have hover : p.overAt probe now ≤ p.deadline := overAt_le (Nat.le_of_lt h)
  have hnext : p.overAt probe now + min p.interval (p.deadline - p.overAt probe now) =
      min (p.overAt probe now + p.interval) p.deadline := by omega
  rw [← hnext]
  simp only [attempt, if_neg (budget_ne_zero hconnect h)]
  rfl

/-- What can come after an attempt at a time. -/
inductive Result (p : Poll) (probe : Probe) (now : Nat) : Next → Prop where
  /-- At the deadline there is no attempt. -/
  | none (hnow : now = p.deadline) : Result p probe now (.late p.deadline)
  | success (hnow : now < p.deadline) (hok : p.succeeds probe now = true) :
      Result p probe now (.ready (p.overAt probe now))
  /-- The attempt has used up the time. -/
  | failure (hnow : now < p.deadline) (hok : p.succeeds probe now = false) :
      Result p probe now (.late p.deadline)
  /-- The pause is the interval, unless the deadline cuts it. -/
  | pause (hnow : now < p.deadline) (hok : p.succeeds probe now = false) :
      Result p probe now (.again (min (p.overAt probe now + p.interval) p.deadline))

theorem attempt_result {next : Next} (hconnect : 0 < p.connect) (hnow : now ≤ p.deadline)
    (h : p.attempt probe now = next) : Result p probe now next := by
  rw [← h]
  rcases Nat.eq_or_lt_of_le hnow with rfl | hlt
  · rw [attempt_deadline]
    exact .none rfl
  · rw [attempt_of_lt hconnect hlt]
    cases hok : p.succeeds probe now with
    | true => exact .success hlt hok
    | false =>
      by_cases hend : p.deadline ≤ p.overAt probe now
      · have heq : p.overAt probe now = p.deadline := Nat.le_antisymm (overAt_le hnow) hend
        simp only [Bool.false_eq_true, if_false, heq, le_refl, if_true]
        exact .failure hlt hok
      · simp only [Bool.false_eq_true, if_false, if_neg hend]
        exact .pause hlt hok

/-- A next attempt is later than this one and not behind the deadline. -/
theorem Result.again_bounds {time : Nat} (h : Result p probe now (.again time))
    (hinterval : 0 < p.interval) : now < time ∧ time ≤ p.deadline := by
  cases h with
  | pause hnow _ =>
    have hover := le_overAt p probe now
    omega

/-! ### The loop -/

/-- **The loop ends**, since every pause is positive. -/
theorem ends_run (hconnect : 0 < p.connect) (hinterval : 0 < p.interval) (hnow : now ≤ p.deadline) :
    Ends p probe now (p.run probe now) := by
  fun_induction run p probe now with
  | case1 now time h => exact .ready h
  | case2 now time h => exact .late h
  | case3 now time h hbounds rest ih => exact .again h (ih hbounds.2)
  | case4 now time h hbounds =>
    have hresult := attempt_result hconnect hnow h
    exact absurd (hresult.again_bounds hinterval) hbounds

theorem Ends.unique (h : Ends p probe now o) {o' : Outcome} (h' : Ends p probe now o') : o' = o := by
  induction h generalizing o' with
  | ready h => cases h' <;> simp_all
  | late h => cases h' <;> simp_all
  | again h hrest ih =>
    cases h' with
    | ready h' => simp_all
    | late h' => simp_all
    | again h' hrest' =>
      obtain rfl := Next.again.inj (h'.symm.trans h)
      rw [ih hrest']

/-- What a loop that began at a time leaves. -/
structure Paced (p : Poll) (probe : Probe) (now : Nat) (o : Outcome) : Prop where
  time : o.time ≤ p.deadline
  attempts : ∀ t ∈ o.attempts, now ≤ t ∧ t < p.deadline
  spaced : o.attempts.Pairwise fun t u => t + p.interval ≤ u
  ready : o.ready = true → ∃ front t, o.attempts = front ++ [t] ∧ p.succeeds probe t = true ∧
    (∀ u ∈ front, p.succeeds probe u = false) ∧ o.time = p.overAt probe t
  late : o.ready = false → o.time = p.deadline ∧ ∀ t ∈ o.attempts, p.succeeds probe t = false

theorem Ends.paced (hconnect : 0 < p.connect) (hinterval : 0 < p.interval) (h : Ends p probe now o)
    (hnow : now ≤ p.deadline) : Paced p probe now o := by
  induction h with
  | @ready now time h =>
    have hresult := attempt_result hconnect hnow h
    cases hresult with
    | success hlt hok =>
      rw [attempted_of_lt hconnect hlt]
      refine ⟨overAt_le hnow, by simp [hlt], by simp, fun _ => ?_, by simp⟩
      exact ⟨[], now, rfl, hok, by simp, rfl⟩
  | @late now time h =>
    have hresult := attempt_result hconnect hnow h
    cases hresult with
    | none heq =>
      rw [heq, attempted_deadline]
      exact ⟨le_rfl, by simp, by simp, by simp, fun _ => ⟨rfl, by simp⟩⟩
    | failure hlt hok =>
      rw [attempted_of_lt hconnect hlt]
      exact ⟨le_rfl, by simp [hlt], by simp, by simp, fun _ => ⟨rfl, by simp [hok]⟩⟩
  | @again now time o h hrest ih =>
    have hresult := attempt_result hconnect hnow h
    obtain ⟨hlater, htime⟩ := hresult.again_bounds hinterval
    have hpaced := ih htime
    cases hresult with
    | pause hlt hok =>
      rw [attempted_of_lt hconnect hlt]
      refine ⟨hpaced.time, ?_, ?_, fun hready => ?_, fun hlate => ?_⟩
      · simp only [List.singleton_append, List.forall_mem_cons]
        refine ⟨⟨le_rfl, hlt⟩, fun t ht => ?_⟩
        have := hpaced.attempts t ht
        omega
      · -- the pause before an attempt was not cut, for the attempt is before the deadline
        simp only [List.singleton_append, List.pairwise_cons]
        refine ⟨fun t ht => ?_, hpaced.spaced⟩
        have := hpaced.attempts t ht
        have := le_overAt p probe now
        omega
      · obtain ⟨front, t, hfront, hsuccess, hfail, hover⟩ := hpaced.ready hready
        refine ⟨now :: front, t, by simp [hfront], hsuccess, ?_, hover⟩
        simpa [hok] using hfail
      · obtain ⟨hend, hfail⟩ := hpaced.late hlate
        exact ⟨hend, by simpa [hok] using hfail⟩

/-- Times that are an interval or more apart, before a deadline, are no more than intervals begin
before it. -/
theorem length_of_spaced {interval deadline : Nat} {ts : List Nat}
    (hspaced : ts.Pairwise fun t u => t + interval ≤ u)
    (hbounds : ∀ t ∈ ts, now ≤ t ∧ t < deadline) (hinterval : 0 < interval) :
    ts.length * interval < deadline - now + interval := by
  induction ts generalizing now with
  | nil => simp [hinterval]
  | cons t ts ih =>
    obtain ⟨hfirst, hrest⟩ := List.pairwise_cons.mp hspaced
    obtain ⟨⟨hnow, hlt⟩, hbounds⟩ := List.forall_mem_cons.mp hbounds
    have hlength : (t :: ts).length * interval = ts.length * interval + interval := by
      rw [List.length_cons, Nat.add_mul, Nat.one_mul]
    cases ts with
    | nil =>
      simp only [List.length_nil, Nat.zero_mul, Nat.zero_add] at hlength
      omega
    | cons u us =>
      have hnext := ih hrest fun v hv => ⟨hfirst v hv, (hbounds v hv).2⟩
      have hgap := hfirst u List.mem_cons_self
      have hend := (hbounds u List.mem_cons_self).2
      omega

theorem Paced.count (hinterval : 0 < p.interval) (h : Paced p probe now o) :
    o.attempts.length ≤ (p.deadline - now) ⌈/⌉ p.interval := by
  have hlength := length_of_spaced h.spaced h.attempts hinterval
  rw [Nat.ceilDiv_eq_add_pred_div, Nat.le_div_iff_mul_le hinterval]
  omega

/-- How a wait for an endpoint goes that began at a time. -/
structure Polled (p : Poll) (probe : Probe) (now : Nat) (o : Outcome) : Prop where
  /-- The loop ends, with this outcome and no other. -/
  ends : Ends p probe now o
  unique : ∀ o', Ends p probe now o' → o' = o
  /-- The endpoint is ready with the first attempt that succeeds, begun before the deadline. -/
  ready : o.ready = true → ∃ front t, o.attempts = front ++ [t] ∧ t < p.deadline ∧
    p.succeeds probe t = true ∧ (∀ u ∈ front, p.succeeds probe u = false) ∧
    o.time = p.overAt probe t
  /-- It is given up only at the deadline, when every attempt has failed. -/
  late : o.ready = false → o.time = p.deadline ∧ ∀ t ∈ o.attempts, p.succeeds probe t = false
  /-- Nothing happens behind the deadline. -/
  time : o.time ≤ p.deadline
  attempts : ∀ t ∈ o.attempts, now ≤ t ∧ t < p.deadline
  /-- Two attempts are an interval or more apart. -/
  spaced : o.attempts.Pairwise fun t u => t + p.interval ≤ u

/-- **Waiting for an endpoint ends in time**, after no more attempts than intervals begin before the
deadline. -/
theorem readiness_polled {s : TransportSettings} (hs : s.Checked) {e : Endpoint} (he : e ≠ .stdio)
    (timeout : Duration) (probe : Probe) (now : Nat) :
    Polled (ofSettings s timeout now) probe now (awaitReady s e timeout probe now) ∧
    (awaitReady s e timeout probe now).attempts.length ≤ timeout.nanos ⌈/⌉ s.pollInterval.nanos := by
  have hrun : awaitReady s e timeout probe now = (ofSettings s timeout now).run probe now := by
    cases e with
    | stdio => exact absurd rfl he
    | ipc path => rfl
    | socket host port => rfl
  have hnow : now ≤ (ofSettings s timeout now).deadline := Nat.le_add_right _ _
  have hends : Ends (ofSettings s timeout now) probe now (awaitReady s e timeout probe now) := by
    rw [hrun]
    exact ends_run hs.connectTimeout hs.pollInterval hnow
  have hpaced := hends.paced hs.connectTimeout hs.pollInterval hnow
  constructor
  · refine ⟨hends, fun o' h' => hends.unique h', fun hready => ?_, hpaced.late, hpaced.time,
      hpaced.attempts, hpaced.spaced⟩
    obtain ⟨front, t, hfront, hrest⟩ := hpaced.ready hready
    exact ⟨front, t, hfront, (hpaced.attempts t (by simp [hfront])).2, hrest⟩
  · have htimeout : (ofSettings s timeout now).deadline - now = timeout.nanos :=
      Nat.add_sub_cancel_left now timeout.nanos
    have hcount := hpaced.count hs.pollInterval
    rwa [htimeout] at hcount

/-- A listener that comes up in the third interval of a wait of three and a half. -/
theorem readiness_polled_third :
    TransportSettings.Checked {} ∧ Endpoint.ipc "/s" ≠ .stdio ∧
    awaitReady {} (.ipc "/s") (.ofMillis 350) (fun t _ => (200000000 ≤ t, 1000)) 0 =
      ⟨true, 200003000, [0, 100001000, 200002000]⟩ ∧
    (awaitReady {} (.ipc "/s") (.ofMillis 350) (fun t _ => (200000000 ≤ t, 1000)) 0).attempts.length ≤
      (Duration.ofMillis 350).nanos ⌈/⌉ (Duration.ofMillis 100).nanos := by
  refine ⟨TransportSettings.checked_default, by decide, ?_,
    (readiness_polled TransportSettings.checked_default (by decide) _ _ _).2⟩
  simp [awaitReady, ofSettings, run, attempt, attempted, budget, Duration.ofMillis]

end Sidecar.Poll
