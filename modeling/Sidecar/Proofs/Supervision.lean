/-
# What a move does to a supervised process

A move concerns one call or the waiting task, and says little of either. A
call goes from stage to stage and asks for at most one signal on the way
(`Advance`); what it has asked for so far is read from the requests that were
taken and those that still wait (`asked`). The waiting task sends signals as
long as it waits, and only before it has reaped the process; it makes the exit
known once (`Wait`). Every fact about whole runs comes from these two.

Key definitions: `Supervised.asked`, `Supervised.Advance`, `Supervised.Wait`.
Key theorems: `Supervised.advance_step`, `Supervised.wait_step`.
-/
import Mathlib.Tactic.Common
import Sidecar.Process.Supervisor

namespace Sidecar.Supervised

variable {p : Supervised} {m : Move} {i j : Nat} {e : Exit}

/-- The signal of a request if it comes from the call. -/
def Request.by? (i : Nat) (r : Request) : Option Signal :=
  if r.call = some i then some r.signal else none

/-- The signals that a call has asked for, oldest first, taken by the waiting task or not. -/
def asked (p : Supervised) (i : Nat) : List Signal :=
  (p.sent ++ p.requests).filterMap (Request.by? i)

@[simp] theorem by?_self (s : Signal) : Request.by? i ⟨s, some i⟩ = some s := by simp [Request.by?]

theorem by?_other (s : Signal) (h : i ≠ j) : Request.by? i ⟨s, some j⟩ = none := by
  simp [Request.by?, Ne.symm h]

@[simp] theorem by?_nobody (s : Signal) : Request.by? i ⟨s, none⟩ = none := by simp [Request.by?]

@[simp] theorem calls_request (p : Supervised) (r : Request) : (p.request r).calls = p.calls := by
  unfold request
  split <;> rfl

@[simp] theorem known_request (p : Supervised) (r : Request) : (p.request r).known = p.known := by
  unfold request
  split <;> rfl

@[simp] theorem waiter_request (p : Supervised) (r : Request) : (p.request r).waiter = p.waiter := by
  unfold request
  split <;> rfl

@[simp] theorem sent_request (p : Supervised) (r : Request) : (p.request r).sent = p.sent := by
  unfold request
  split <;> rfl

theorem asked_request (p : Supervised) (r : Request) (i : Nat) :
    (p.request r).asked i =
      p.asked i ++ if p.waiter = .finished then [] else (r.by? i).toList := by
  by_cases h : p.waiter = .finished
  · simp [request, h]
  · simp only [request, h, asked, if_false, ← List.append_assoc, List.filterMap_append]
    cases hr : r.by? i <;> simp [hr]

theorem asked_take (p : Supervised) (i : Nat) : p.take.asked i = p.asked i := by
  cases hw : p.waiter with
  | waiting =>
    cases hq : p.requests with
    | nil =>
      cases hh : p.held with
      | false => simp [take, hw, hq, hh, killNow, asked]
      | true => simp [take, hw, hq, hh]
    | cons r rest =>
      cases hs : r.signal with
      | terminate => simp [take, hw, hq, hs, asked]
      | kill => simp [take, hw, hq, hs, killNow, asked]
  | _ => simp [take, hw]

/-! ### What becomes of a call -/

/-- How a move changes the stage of a call, and the signals it asks for on the way. -/
inductive Advance (p : Supervised) (m : Move) (i : Nat) :
    Option Ending → List Signal → Option Ending → Prop where
  | stays (s : Option Ending) : Advance p m i s [] s
  | begins (grace : Duration) (hm : m = .begin grace) (h : p.known = none) :
    Advance p m i none [] (some .asking)
  | knows (e : Exit) (h : p.known = some e) : Advance p m i none [] (some (.returned (some e)))
  | asks (h : p.waiter ≠ .finished) : Advance p m i (some .asking) [.terminate] (some .gracious)
  | asksLate (h : p.waiter = .finished) : Advance p m i (some .asking) [] (some .escalating)
  | lapses (hm : m = .expire i) (h : p.known = none) :
    Advance p m i (some .gracious) [] (some .escalating)
  | forces (h : p.waiter ≠ .finished) : Advance p m i (some .escalating) [.kill] (some .forced)
  | forcesLate (h : p.waiter = .finished) : Advance p m i (some .escalating) [] (some .forced)
  | notices (s : Ending) (hs : s = .gracious ∨ s = .forced) (e : Exit) (h : p.known = some e) :
    Advance p m i (some s) [] (some (.returned (some e)))
  | givesUp (hm : m = .expire i) (h : p.known = none) :
    Advance p m i (some .forced) [] (some (.returned none))

/-- The move changes the call as it may, and the call asks for nothing else. -/
def Advances (p : Supervised) (m : Move) (i : Nat) (p' : Supervised) : Prop :=
  ∃ new, Advance p m i p.calls[i]? new p'.calls[i]? ∧ p'.asked i = p.asked i ++ new

theorem Advances.of_eq {p' : Supervised} (hc : p'.calls[i]? = p.calls[i]?)
    (ha : p'.asked i = p.asked i) : Advances p m i p' :=
  ⟨[], hc ▸ .stays _, by rw [ha, List.append_nil]⟩

theorem asked_setCall (p : Supervised) (i j : Nat) (s : Ending) : (p.setCall j s).asked i = p.asked i :=
  rfl

theorem getElem?_setCall_self {s : Ending} (h : p.calls[i]? = some s) (t : Ending) :
    (p.setCall i t).calls[i]? = some t := by
  obtain ⟨hi, -⟩ := List.getElem?_eq_some_iff.mp h
  simp [setCall, hi]

/-- A call goes on to another stage without asking for anything. -/
theorem advances_setCall {s : Ending} (h : p.calls[j]? = some s) {t : Ending}
    (ht : i = j → Advance p m i (some s) [] (some t)) : Advances p m i (p.setCall j t) := by
  by_cases hij : i = j
  · obtain rfl := hij
    refine ⟨[], ?_, by rw [asked_setCall, List.append_nil]⟩
    rw [h, getElem?_setCall_self h]
    exact ht rfl
  · exact .of_eq (List.getElem?_set_ne (Ne.symm hij)) rfl

/-- A call asks for a signal and goes on. -/
theorem advances_request {s : Ending} (h : p.calls[j]? = some s) (x : Signal) {t : Ending}
    (ht : i = j → Advance p m i (some s) (if p.waiter = .finished then [] else [x]) (some t)) :
    Advances p m i ((p.request ⟨x, some j⟩).setCall j t) := by
  have hj : (p.request ⟨x, some j⟩).calls[j]? = some s := by rw [calls_request, h]
  by_cases hij : i = j
  · obtain rfl := hij
    refine ⟨_, ?_, by rw [asked_setCall, asked_request, by?_self, Option.toList_some]⟩
    rw [h, getElem?_setCall_self hj]
    exact ht rfl
  · refine .of_eq ?_ ?_
    · rw [setCall, List.getElem?_set_ne (Ne.symm hij), calls_request]
    · rw [asked_setCall, asked_request, by?_other x hij]
      simp

theorem advances_begin (p : Supervised) (grace : Duration) (i : Nat) :
    Advances p (.begin grace) i p.begin := by
  -- The new call stands behind all others.
  have hnew : ∀ s, (p.calls ++ [s])[i]? = p.calls[i]? ∨
      p.calls[i]? = none ∧ (p.calls ++ [s])[i]? = some s := by
    intro s
    rcases Nat.lt_trichotomy i p.calls.length with hi | hi | hi
    · exact .inl (List.getElem?_append_left hi)
    · exact .inr (by simp [hi])
    · have hout : (p.calls ++ [s]).length ≤ i := by simpa using Nat.succ_le_of_lt hi
      exact .inl (by rw [List.getElem?_eq_none hout, List.getElem?_eq_none (Nat.le_of_lt hi)])
  cases hk : p.known with
  | none =>
    simp only [begin, hk]
    rcases hnew .asking with h | ⟨hnone, hsome⟩
    · exact .of_eq h rfl
    · refine ⟨[], ?_, (List.append_nil _).symm⟩
      simp only [hnone, hsome]
      exact .begins grace rfl hk
  | some e =>
    simp only [begin, hk]
    rcases hnew (.returned (some e)) with h | ⟨hnone, hsome⟩
    · exact .of_eq h rfl
    · refine ⟨[], ?_, (List.append_nil _).symm⟩
      simp only [hnone, hsome]
      exact .knows e hk

theorem advances_ask (p : Supervised) (i j : Nat) : Advances p (.ask j) i (p.ask j) := by
  unfold ask
  split
  · next h =>
    by_cases hw : p.waiter = .finished
    · rw [if_pos hw]
      exact advances_setCall h fun _ => .asksLate hw
    · rw [if_neg hw]
      exact advances_request h _ fun _ => by simpa [hw] using .asks hw
  · exact .of_eq rfl rfl

theorem advances_notice (p : Supervised) (i j : Nat) : Advances p (.notice j) i (p.notice j) := by
  unfold notice
  split
  · next e h hk => exact advances_setCall h fun _ => .notices _ (.inl rfl) e hk
  · next e h hk => exact advances_setCall h fun _ => .notices _ (.inr rfl) e hk
  · exact .of_eq rfl rfl

theorem advances_expire (p : Supervised) (i j : Nat) : Advances p (.expire j) i (p.expire j) := by
  unfold expire
  split
  · next h =>
    cases hk : p.known with
    | none => exact advances_setCall h fun hij => .lapses (by rw [hij]) hk
    | some e => exact advances_setCall h fun _ => .notices _ (.inl rfl) e hk
  · next h =>
    cases hk : p.known with
    | none => exact advances_setCall h fun hij => .givesUp (by rw [hij]) hk
    | some e => exact advances_setCall h fun _ => .notices _ (.inr rfl) e hk
  · exact .of_eq rfl rfl

theorem advances_force (p : Supervised) (i j : Nat) : Advances p (.force j) i (p.force j) := by
  unfold force
  split
  · next h =>
    refine advances_request h _ fun _ => ?_
    by_cases hw : p.waiter = .finished
    · simpa [hw] using .forcesLate hw
    · simpa [hw] using .forces hw
  · exact .of_eq rfl rfl

/-- The waiting task does nothing to a call. -/
theorem advances_take (p : Supervised) (i : Nat) : Advances p .take i p.take := by
  refine .of_eq ?_ (asked_take p i)
  unfold take
  split
  · split
    · split <;> rfl
    · split <;> rfl
  · rfl

theorem advances_collect (p : Supervised) (e : Exit) (i : Nat) : Advances p m i (p.collect e) := by
  unfold collect
  split <;> exact .of_eq rfl rfl

theorem advances_publish (p : Supervised) (i : Nat) : Advances p .publish i p.publish := by
  unfold publish
  split <;> exact .of_eq rfl rfl

theorem advances_leave (p : Supervised) (i : Nat) : Advances p .leave i p.leave := by
  unfold leave
  split <;> exact .of_eq rfl rfl

theorem asked_request_nobody (p : Supervised) (x : Signal) (i : Nat) :
    (p.request ⟨x, none⟩).asked i = p.asked i := by
  simp [asked_request]

/-- **A call goes from stage to stage**, whatever moves. -/
theorem advance_step (p : Supervised) (m : Move) (i : Nat) : Advances p m i (p.step m) := by
  cases m with
  | exits e =>
    show Advances p (.exits e) i (if p.ended.isNone then { p with ended := some e } else p)
    split <;> exact .of_eq rfl rfl
  | take => exact advances_take p i
  | reap =>
    show Advances p .reap i p.reap
    unfold reap
    cases p.ended with
    | none => exact .of_eq rfl rfl
    | some e => exact advances_collect p e i
  | lose => exact advances_collect p {} i
  | publish => exact advances_publish p i
  | leave => exact advances_leave p i
  | begin grace => exact advances_begin p grace i
  | ask j => exact advances_ask p i j
  | notice j => exact advances_notice p i j
  | expire j => exact advances_expire p i j
  | force j => exact advances_force p i j
  | kill => exact .of_eq (by simp [step]) (asked_request_nobody p .kill i)
  | drop => exact .of_eq (by simp [step]) (asked_request_nobody p .kill i)

/-! ### What the waiting task does -/

/-- The process is reaped. -/
def Waiter.isDone : Waiter → Bool
  | .waiting => false
  | .killing => false
  | _ => true

/-- How a move changes the waiting task, the signals it has sent, and the exit it made known. -/
inductive Wait (p p' : Supervised) : Prop where
  | stays (hw : p'.waiter = p.waiter) (hs : p'.sent = p.sent) (hk : p'.known = p.known)
  | sends (h : p.waiter = .waiting) (hw : p'.waiter = .waiting ∨ p'.waiter = .killing)
    (hk : p'.known = p.known)
  | reaps (e : Exit) (h : p.waiter = .waiting ∨ p.waiter = .killing) (hw : p'.waiter = .reaped e)
    (hs : p'.sent = p.sent) (hk : p'.known = p.known)
  | publishes (e : Exit) (h : p.waiter = .reaped e) (hw : p'.waiter = .leaving)
    (hs : p'.sent = p.sent) (hk : p'.known = some e)
  | leaves (h : p.waiter = .leaving) (hw : p'.waiter = .finished)
    (hs : p'.sent = p.sent) (hk : p'.known = p.known)

theorem wait_take (p : Supervised) : Wait p p.take := by
  unfold take
  split
  · next h =>
    split
    · split
      · exact .sends h (.inl h) rfl
      · exact .sends h (.inr rfl) rfl
    · split
      · exact .stays rfl rfl rfl
      · exact .sends h (.inr rfl) rfl
  · exact .stays rfl rfl rfl

theorem wait_collect (p : Supervised) (e : Exit) : Wait p (p.collect e) := by
  unfold collect
  split
  · next h => exact .reaps e (.inl h) rfl rfl rfl
  · next h => exact .reaps e (.inr h) rfl rfl rfl
  · exact .stays rfl rfl rfl

theorem wait_publish (p : Supervised) : Wait p p.publish := by
  unfold publish
  split
  · next e h => exact .publishes e h rfl rfl rfl
  · exact .stays rfl rfl rfl

theorem wait_leave (p : Supervised) : Wait p p.leave := by
  unfold leave
  split
  · next h => exact .leaves h rfl rfl rfl
  · exact .stays rfl rfl rfl

theorem wait_request (p : Supervised) (r : Request) (held : Bool) (calls : List Ending) :
    Wait p { p.request r with held := held, calls := calls } :=
  .stays (waiter_request p r) (sent_request p r) (known_request p r)

theorem wait_setCall (p : Supervised) (j : Nat) (s : Ending) : Wait p (p.setCall j s) :=
  .stays rfl rfl rfl

theorem wait_ask (p : Supervised) (j : Nat) : Wait p (p.ask j) := by
  unfold ask
  split
  · split
    · exact wait_setCall p j .escalating
    · exact wait_request p ⟨.terminate, some j⟩ _ _
  · exact .stays rfl rfl rfl

theorem wait_notice (p : Supervised) (j : Nat) : Wait p (p.notice j) := by
  unfold notice
  split <;> exact .stays rfl rfl rfl

theorem wait_expire (p : Supervised) (j : Nat) : Wait p (p.expire j) := by
  unfold expire
  split
  · split <;> exact .stays rfl rfl rfl
  · exact .stays rfl rfl rfl
  · exact .stays rfl rfl rfl

theorem wait_force (p : Supervised) (j : Nat) : Wait p (p.force j) := by
  unfold force
  split
  · exact wait_request p ⟨.kill, some j⟩ _ _
  · exact .stays rfl rfl rfl

/-- **The waiting task goes from stage to stage**, whatever moves. -/
theorem wait_step (p : Supervised) (m : Move) : Wait p (p.step m) := by
  cases m with
  | exits e =>
    show Wait p (if p.ended.isNone then { p with ended := some e } else p)
    split <;> exact .stays rfl rfl rfl
  | take => exact wait_take p
  | reap =>
    show Wait p p.reap
    unfold reap
    cases p.ended with
    | none => exact .stays rfl rfl rfl
    | some e => exact wait_collect p e
  | lose => exact wait_collect p {}
  | publish => exact wait_publish p
  | leave => exact wait_leave p
  | begin grace =>
    show Wait p p.begin
    unfold begin
    split <;> exact .stays rfl rfl rfl
  | ask j => exact wait_ask p j
  | notice j => exact wait_notice p j
  | expire j => exact wait_expire p j
  | force j => exact wait_force p j
  | kill => exact wait_request p ⟨.kill, none⟩ _ _
  | drop => exact wait_request p ⟨.kill, none⟩ _ _

variable {p' : Supervised}

/-- The waiting task has made the exit known. -/
def Waiter.hasTold : Waiter → Bool
  | .leaving => true
  | .finished => true
  | _ => false

/-- An exit is known exactly if the waiting task has made one known. -/
def Settled (p : Supervised) : Prop := p.known.isSome = p.waiter.hasTold

theorem Wait.settled (h : Wait p p') (hp : Settled p) : Settled p' := by
  unfold Settled at hp ⊢
  cases h with
  | stays hw _ hk => rw [hw, hk, hp]
  | sends hold hw hk => rcases hw with hw | hw <;> simp [hw, hk, hp, hold, Waiter.hasTold]
  | reaps e hold hw _ hk => rcases hold with hold | hold <;> simp [hw, hk, hp, hold, Waiter.hasTold]
  | publishes e _ hw _ hk => simp [hw, hk, Waiter.hasTold]
  | leaves hold hw _ hk => simp [hw, hk, hp, hold, Waiter.hasTold]

/-- A known exit never changes. -/
theorem Wait.known_stays (h : Wait p p') (hp : Settled p) (he : p.known = some e) :
    p'.known = some e := by
  cases h with
  | publishes x hold _ _ _ => simp [Settled, he, hold, Waiter.hasTold] at hp
  | stays _ _ hk => rw [hk, he]
  | sends _ _ hk => rw [hk, he]
  | reaps _ _ _ _ hk => rw [hk, he]
  | leaves _ _ _ hk => rw [hk, he]

theorem Wait.finished_stays (h : Wait p p') (hf : p.waiter = .finished) : p'.waiter = .finished := by
  cases h with
  | stays hw _ _ => rw [hw, hf]
  | sends hold _ _ => simp [hf] at hold
  | reaps _ hold _ _ _ => simp [hf] at hold
  | publishes _ hold _ _ _ => simp [hf] at hold
  | leaves hold _ _ _ => simp [hf] at hold

/-- No signal is sent to a process that was reaped. -/
theorem Wait.done_stays (h : Wait p p') (hd : p.waiter.isDone = true) :
    p'.waiter.isDone = true ∧ p'.sent = p.sent := by
  cases h with
  | stays hw hs _ => exact ⟨by rw [hw, hd], hs⟩
  | sends hold _ _ => simp [hold, Waiter.isDone] at hd
  | reaps e _ hw hs _ => exact ⟨by simp [hw, Waiter.isDone], hs⟩
  | publishes e _ hw hs _ => exact ⟨by simp [hw, Waiter.isDone], hs⟩
  | leaves _ hw hs _ => exact ⟨by simp [hw, Waiter.isDone], hs⟩

theorem Settled.known_of_finished (hp : Settled p) (hf : p.waiter = .finished) :
    ∃ e, p.known = some e := by
  rw [Settled, hf] at hp
  exact Option.isSome_iff_exists.mp hp

end Sidecar.Supervised
