/-
# Ending a process

A process ends, is signalled and is reaped while calls wait for its end, each
with a grace of its own. Here all of them share a clock, and a bystander notes
when a call comes to a stage and when the exit that is known changes. A wait
is over no sooner than its time, but it may be found over late.

Whatever comes first, the exit is made known once, a call asks for the kill
only after its grace, and returns no exit only if none was known in both its
waits, and no signal follows the reaping (`Orderly`). All of this is read from
the course that each call takes (`Course`).

Key definitions: `Attended`, `Attended.Course`, `Attended.Orderly`.
Key theorems: `Attended.Course.advance`, `Attended.sound_run`, `Attended.Sound.orderly`.
-/
import Mathlib.Logic.Function.Basic
import Sidecar.Proofs.Supervision

namespace Sidecar

open Supervised

/-- A supervised process on a clock that counts nanoseconds, with what a bystander notes. -/
structure Attended where
  process : Supervised := {}
  now : Nat := 0
  /-- The grace of each call. -/
  grace : Nat → Duration := fun _ => ⟨0⟩
  /-- When a call has come to a stage. -/
  since : Nat → Ending → Option Nat := fun _ _ => none
  /-- All changes of the exit that is known, with their times. -/
  records : List (Nat × Option Exit) := []

namespace Attended

inductive Event where
  | move (m : Move)
  | pass (time : Nat)

/-- How long a call waits at a stage, if it is one at which calls wait. -/
def patience (w : Attended) (i : Nat) : Ending → Option Nat
  | .gracious => some (w.grace i).nanos
  | .forced => some killWait.nanos
  | _ => none

/-- When the wait of a call is over. -/
def due? (w : Attended) (i : Nat) : Option Nat := do
  let s ← w.process.calls[i]?
  let time ← w.patience i s
  let start ← w.since i s
  return start + time

/-- Whether a move can come now. -/
def mayMove (w : Attended) : Move → Bool
  | .expire i => (w.due? i).any (· ≤ w.now)
  | _ => true

/-- A move comes, and the bystander notes what it has changed. -/
def observe (w : Attended) (m : Move) : Attended :=
  let p := w.process.step m
  { process := p
    now := w.now
    grace := match m with
      | .begin grace => Function.update w.grace w.process.calls.length grace
      | _ => w.grace
    since i s :=
      if p.calls[i]? = some s ∧ w.process.calls[i]? ≠ some s then some w.now else w.since i s
    records :=
      if p.known = w.process.known then w.records else w.records ++ [(w.now, p.known)] }

/-- What an event does. A move that cannot come yet does nothing. -/
def step (w : Attended) : Event → Attended
  | .move m => if w.mayMove m then w.observe m else w
  | .pass time => { w with now := w.now + time }

def run (w : Attended) (events : List Event) : Attended := events.foldl step w

variable {w : Attended} {m : Move} {ev : Event} {events : List Event} {i d : Nat} {s : Ending}
  {e : Exit}

theorem run_append (w : Attended) (events more : List Event) :
    w.run (events ++ more) = (w.run events).run more :=
  List.foldl_append

/-- What every happening keeps is kept by a run. -/
theorem run_keeps {P : Attended → Prop} (hpass : ∀ w time, P w → P (w.step (.pass time)))
    (hmove : ∀ w m, w.mayMove m = true → P w → P (w.observe m)) (h : P w) (events : List Event) :
    P (w.run events) := by
  induction events generalizing w with
  | nil => exact h
  | cons ev events ih =>
    refine ih (w := w.step ev) ?_
    cases ev with
    | pass time => exact hpass w time h
    | move m =>
      rw [step]
      split
      · next hm => exact hmove w m hm h
      · exact h

/-! ### What is noted -/

theorem since_observe (h : (w.process.step m).calls[i]? ≠ some s ∨ w.process.calls[i]? = some s) :
    (w.observe m).since i s = w.since i s := by
  refine if_neg ?_
  rintro ⟨hnew, hold⟩
  rcases h with h | h
  · exact h hnew
  · exact hold h

theorem since_observe_new (hnew : (w.process.step m).calls[i]? = some s)
    (hold : w.process.calls[i]? ≠ some s) : (w.observe m).since i s = some w.now :=
  if_pos ⟨hnew, hold⟩

/-- The grace of a call is not changed once it has begun. -/
theorem grace_observe (h : w.process.calls[i]? = some s) : (w.observe m).grace i = w.grace i := by
  obtain ⟨hi, -⟩ := List.getElem?_eq_some_iff.mp h
  cases m with
  | begin grace => exact Function.update_of_ne (Nat.ne_of_lt hi) _ _
  | _ => rfl

theorem process_observe (w : Attended) (m : Move) : (w.observe m).process = w.process.step m := rfl

/-- The one record is of the exit that is known. -/
structure Recorded (w : Attended) : Prop where
  settled : Settled w.process
  unknown : w.process.known = none → w.records = []
  known : ∀ e, w.process.known = some e → ∃ t ≤ w.now, w.records = [(t, some e)]

theorem Recorded.pass (h : Recorded w) (time : Nat) : Recorded (w.step (.pass time)) where
  settled := h.settled
  unknown := h.unknown
  known e he := by
    obtain ⟨t, ht, hr⟩ := h.known e he
    exact ⟨t, Nat.le_add_right_of_le ht, hr⟩

/-- A move makes the exit known only if none was. -/
theorem Recorded.records_observe (h : Recorded w) (m : Move) :
    (w.process.step m).known = w.process.known ∧ (w.observe m).records = w.records ∨
    w.records = [] ∧ ∃ e, (w.process.step m).known = some e ∧
      (w.observe m).records = [(w.now, some e)] := by
  by_cases hk : (w.process.step m).known = w.process.known
  · exact .inl ⟨hk, if_pos hk⟩
  · have hr : (w.observe m).records = w.records ++ [(w.now, (w.process.step m).known)] := if_neg hk
    cases hold : w.process.known with
    | some e =>
      have hstays := (wait_step w.process m).known_stays h.settled hold
      exact absurd (hstays.trans hold.symm) hk
    | none =>
      obtain ⟨e, he⟩ := Option.ne_none_iff_exists'.mp (hold ▸ hk)
      exact .inr ⟨h.unknown hold, e, he, by rw [hr, h.unknown hold, he, List.nil_append]⟩

theorem Recorded.observe (h : Recorded w) (m : Move) : Recorded (w.observe m) := by
  have hsettled := (wait_step w.process m).settled h.settled
  rcases h.records_observe m with ⟨hk, hr⟩ | ⟨-, e, he, hr⟩
  · refine ⟨hsettled, ?_, ?_⟩
    · rw [hr, process_observe, hk]
      exact h.unknown
    · rw [hr, process_observe, hk]
      exact h.known
  · refine ⟨hsettled, ?_, ?_⟩
    · intro hn
      simp [process_observe, he] at hn
    · intro x hx
      have hex : e = x := by simpa [process_observe, he] using hx
      exact ⟨w.now, Nat.le_refl _, by rw [hr, hex]⟩

/-- A call came to the stage, and the time since then was over before any exit was known. -/
def Over (w : Attended) (i : Nat) (s : Ending) (time : Nat) : Prop :=
  ∃ start, w.since i s = some start ∧ start + time ≤ w.now ∧ ∀ r ∈ w.records, start + time ≤ r.1

theorem Over.pass (h : Over w i s d) (time : Nat) : Over (w.step (.pass time)) i s d := by
  obtain ⟨start, hs, hnow, hr⟩ := h
  exact ⟨start, hs, Nat.le_add_right_of_le hnow, hr⟩

/-- A wait that is over stays so, unless the call comes to the stage again. -/
theorem Over.observe (hrec : Recorded w) (h : Over w i s d)
    (hs : (w.process.step m).calls[i]? ≠ some s) : Over (w.observe m) i s d := by
  obtain ⟨start, hsince, hnow, hr⟩ := h
  refine ⟨start, by rw [since_observe (.inl hs), hsince], hnow, ?_⟩
  rcases hrec.records_observe m with ⟨-, hsame⟩ | ⟨-, e, -, hnew⟩
  · rwa [hsame]
  · rw [hnew]
    simpa using hnow

/-- A wait that may be given up is over. -/
theorem over_of_mayMove (hrec : Recorded w) (hm : w.mayMove (.expire i) = true)
    (hk : w.process.known = none) (hs : w.process.calls[i]? = some s)
    (hd : w.patience i s = some d) : Over w i s d := by
  rw [mayMove, Option.any_eq_true] at hm
  obtain ⟨due, hdue, hle⟩ := hm
  simp only [due?, hs, hd, Option.bind_eq_bind, Option.bind_some, Option.pure_def,
    Option.bind_eq_some_iff, Option.some_inj] at hdue
  obtain ⟨start, hstart, rfl⟩ := hdue
  refine ⟨start, hstart, of_decide_eq_true hle, ?_⟩
  rw [hrec.unknown hk]
  simp

/-! ### The course of a call -/

/-- The signals that a call may have asked for: the kill only if its grace was over. -/
inductive Allowed (w : Attended) (i : Nat) : List Signal → Prop where
  | nothing : Allowed w i []
  | terminate : Allowed w i [.terminate]
  | both (h : w.Over i .gracious (w.grace i).nanos) : Allowed w i [.terminate, .kill]

/-- What holds of a call at each stage, and of the signals it has asked for. -/
inductive Course (w : Attended) (i : Nat) : Option Ending → List Signal → Prop where
  | unborn : Course w i none []
  | asking : Course w i (some .asking) []
  | gracious : Course w i (some .gracious) [.terminate]
  | escalating (h : w.Over i .gracious (w.grace i).nanos) :
    Course w i (some .escalating) [.terminate]
  | forced (h : w.Over i .gracious (w.grace i).nanos) :
    Course w i (some .forced) [.terminate, .kill]
  | gaveUp (h : w.Over i .gracious (w.grace i).nanos) (hk : w.Over i .forced killWait.nanos) :
    Course w i (some (.returned none)) [.terminate, .kill]
  /-- The waiting task has gone, so that nothing more is asked for. -/
  | late (s : Ending) (hs : s = .escalating ∨ s = .forced) (signals : List Signal)
    (h : w.process.waiter = .finished) (ha : Allowed w i signals) : Course w i (some s) signals
  | returned (e : Exit) (signals : List Signal) (h : w.process.known = some e)
    (ha : Allowed w i signals) : Course w i (some (.returned (some e))) signals

theorem Allowed.pass {signals : List Signal} (h : Allowed w i signals) (time : Nat) :
    Allowed (w.step (.pass time)) i signals := by
  cases h with
  | nothing => exact .nothing
  | terminate => exact .terminate
  | both h => exact .both (h.pass time)

theorem Course.pass {s : Option Ending} {signals : List Signal} (h : Course w i s signals)
    (time : Nat) : Course (w.step (.pass time)) i s signals := by
  cases h with
  | unborn => exact .unborn
  | asking => exact .asking
  | gracious => exact .gracious
  | escalating h => exact .escalating (h.pass time)
  | forced h => exact .forced (h.pass time)
  | gaveUp h hk => exact .gaveUp (h.pass time) (hk.pass time)
  | late s hs signals h ha => exact .late s hs signals h (ha.pass time)
  | returned e signals h ha => exact .returned e signals h (ha.pass time)

/-- The grace of a call that is over stays over once the call waits for it no longer. -/
theorem Over.grace_observe (hrec : Recorded w) (h : w.Over i .gracious (w.grace i).nanos)
    (hold : w.process.calls[i]? = some s) (hnew : (w.process.step m).calls[i]? ≠ some .gracious) :
    (w.observe m).Over i .gracious ((w.observe m).grace i).nanos := by
  rw [Attended.grace_observe hold]
  exact h.observe hrec hnew

theorem Allowed.observe {signals : List Signal} (hrec : Recorded w) (h : Allowed w i signals)
    (hold : w.process.calls[i]? = some s) (hnew : (w.process.step m).calls[i]? ≠ some .gracious) :
    Allowed (w.observe m) i signals := by
  cases h with
  | nothing => exact .nothing
  | terminate => exact .terminate
  | both h => exact .both (h.grace_observe hrec hold hnew)

section Advance

variable {old new : Option Ending} {signals asked : List Signal}

/-- A call that stays where it is. -/
theorem Course.stays (hrec : Recorded w) (hold : w.process.calls[i]? = old)
    (hnew : (w.process.step m).calls[i]? = old) (h : Course w i old signals) :
    Course (w.observe m) i old signals := by
  have hwait := wait_step w.process m
  cases h with
  | unborn => exact .unborn
  | asking => exact .asking
  | gracious => exact .gracious
  | escalating h => exact .escalating (h.grace_observe hrec hold (by simp [hnew]))
  | forced h => exact .forced (h.grace_observe hrec hold (by simp [hnew]))
  | gaveUp h hk =>
    exact .gaveUp (h.grace_observe hrec hold (by simp [hnew])) (hk.observe hrec (by simp [hnew]))
  | late s hs _ hf ha =>
    have hne : s ≠ .gracious := by rcases hs with rfl | rfl <;> decide
    exact .late s hs _ (hwait.finished_stays hf) (ha.observe hrec hold (by simp [hnew, hne]))
  | returned e _ hk ha =>
    exact .returned e _ (hwait.known_stays hrec.settled hk) (ha.observe hrec hold (by simp [hnew]))

/-- A call that goes on keeps to its course: one case for each way to do so. -/
theorem Course.advance (hrec : Recorded w) (hm : w.mayMove m = true)
    (hold : w.process.calls[i]? = old) (hnew : (w.process.step m).calls[i]? = new)
    (h : Course w i old signals) (ha : Advance w.process m i old asked new) :
    Course (w.observe m) i new (signals ++ asked) := by
  have hwait := wait_step w.process m
  cases ha with
  | stays =>
    rw [List.append_nil]
    exact h.stays hrec hold hnew
  | begins grace hbegin hk =>
    cases h with
    | unborn => exact .asking
  | knows e hk =>
    cases h with
    | unborn => exact .returned e _ (hwait.known_stays hrec.settled hk) .nothing
  | asks hf =>
    cases h with
    | asking => exact .gracious
    | late _ hs => simp at hs
  | asksLate hf =>
    cases h with
    | asking => exact .late _ (.inl rfl) _ (hwait.finished_stays hf) .nothing
    | late _ hs => simp at hs
  | lapses hexpire hk =>
    obtain rfl := hexpire
    cases h with
    | gracious =>
      have hover := over_of_mayMove hrec hm hk hold rfl
      exact .escalating (hover.grace_observe hrec hold (by simp [hnew]))
    | late _ hs => simp at hs
  | forces hf =>
    cases h with
    | escalating h => exact .forced (h.grace_observe hrec hold (by simp [hnew]))
    | late _ _ _ hgone => exact absurd hgone hf
  | forcesLate hf =>
    cases h with
    | escalating => exact .late _ (.inr rfl) _ (hwait.finished_stays hf) .terminate
    | late _ _ _ _ ha =>
      rw [List.append_nil]
      exact .late _ (.inr rfl) _ (hwait.finished_stays hf) (ha.observe hrec hold (by simp [hnew]))
  | notices s hs e hk =>
    rw [List.append_nil]
    refine .returned e _ (hwait.known_stays hrec.settled hk) ?_
    cases h with
    | asking => simp at hs
    | gracious => exact .terminate
    | escalating => simp at hs
    | forced h => exact .both (h.grace_observe hrec hold (by simp [hnew]))
    | gaveUp => simp at hs
    | late _ _ _ _ ha => exact ha.observe hrec hold (by simp [hnew])
    | returned => simp at hs
  | givesUp hexpire hk =>
    obtain rfl := hexpire
    cases h with
    | forced h =>
      have hover := over_of_mayMove hrec hm hk hold rfl
      exact .gaveUp (h.grace_observe hrec hold (by simp [hnew])) (hover.observe hrec (by simp [hnew]))
    | late _ _ _ hgone =>
      obtain ⟨e, he⟩ := hrec.settled.known_of_finished hgone
      simp [hk] at he

end Advance

/-- What holds of every run. -/
structure Sound (w : Attended) : Prop where
  recorded : Recorded w
  course : ∀ i, Course w i w.process.calls[i]? (w.process.asked i)

theorem Sound.pass (h : Sound w) (time : Nat) : Sound (w.step (.pass time)) :=
  ⟨h.recorded.pass time, fun i => (h.course i).pass time⟩

theorem Sound.observe (h : Sound w) (hm : w.mayMove m = true) : Sound (w.observe m) := by
  refine ⟨h.recorded.observe m, fun i => ?_⟩
  obtain ⟨asked, ha, hasked⟩ := advance_step w.process m i
  rw [process_observe, hasked]
  exact (h.course i).advance h.recorded hm rfl rfl ha

theorem sound_run (events : List Event) : Sound (run {} events) :=
  run_keeps (fun _ time h => h.pass time) (fun _ _ hm h => h.observe hm)
    ⟨⟨rfl, fun _ => rfl, by simp⟩, fun _ => .unborn⟩ events

theorem known_run (h : Recorded w) (he : w.process.known = some e) (events : List Event) :
    (w.run events).process.known = some e := by
  refine (run_keeps (P := fun w => Recorded w ∧ w.process.known = some e) ?_ ?_ ⟨h, he⟩ events).2
  · rintro w time ⟨h, he⟩
    exact ⟨h.pass time, he⟩
  · rintro w m - ⟨h, he⟩
    exact ⟨h.observe m, (wait_step w.process m).known_stays h.settled he⟩

/-- A call that has returned stays so, and asks for nothing more. -/
theorem returned_run {x : Option Exit} {signals : List Signal}
    (hx : w.process.calls[i]? = some (.returned x)) (ha : w.process.asked i = signals)
    (events : List Event) :
    (w.run events).process.calls[i]? = some (.returned x) ∧ (w.run events).process.asked i = signals := by
  refine run_keeps
    (P := fun w => w.process.calls[i]? = some (.returned x) ∧ w.process.asked i = signals)
    ?_ ?_ ⟨hx, ha⟩ events
  · exact fun w time h => h
  · rintro w m - ⟨hx, ha⟩
    obtain ⟨new, hadv, hasked⟩ := advance_step w.process m i
    rw [hx] at hadv
    rw [process_observe, hasked, ha]
    generalize (w.process.step m).calls[i]? = after at hadv
    cases hadv with
    | stays => exact ⟨rfl, List.append_nil signals⟩
    | notices s hs => simp at hs

/-- Nothing is sent to a process that was reaped. -/
theorem sent_run (hd : w.process.waiter.isDone = true) (events : List Event) :
    (w.run events).process.sent = w.process.sent := by
  refine (run_keeps
    (P := fun v => v.process.waiter.isDone = true ∧ v.process.sent = w.process.sent)
    ?_ ?_ ⟨hd, rfl⟩ events).2
  · exact fun v time h => h
  · rintro v m - ⟨hd, hs⟩
    obtain ⟨hd', hs'⟩ := (wait_step v.process m).done_stays hd
    exact ⟨hd', hs'.trans hs⟩

/-- A call that begins when the exit is known. -/
theorem begin_known (h : Sound w) (he : w.process.known = some e) (grace : Duration) :
    (w.observe (.begin grace)).process.calls[w.process.calls.length]? =
      some (.returned (some e)) ∧
    (w.observe (.begin grace)).process.asked w.process.calls.length = [] := by
  have hnone : w.process.calls[w.process.calls.length]? = none := by simp
  have hasked : w.process.asked w.process.calls.length = [] := by
    have hc := h.course w.process.calls.length
    rw [hnone] at hc
    generalize w.process.asked w.process.calls.length = signals at hc
    cases hc with
    | unborn => rfl
  have hbegin : w.process.step (.begin grace) =
      { w.process with calls := w.process.calls ++ [.returned (some e)] } := by
    simp [Supervised.step, Supervised.begin, he]
  rw [process_observe, hbegin]
  exact ⟨by simp, hasked⟩

/-! ### What is returned -/

/-- The time is within the grace of the call, or within its wait after the kill. -/
def Awaited (w : Attended) (i t : Nat) : Prop :=
  ∃ s time start, w.patience i s = some time ∧ w.since i s = some start ∧ t < start + time

/-- A wait that was over when the exit became known is none in which it did. -/
theorem Over.not_lt {t start : Nat} {x : Option Exit} (h : Over w i s d) (hr : (t, x) ∈ w.records)
    (hs : w.since i s = some start) : ¬ t < start + d := by
  obtain ⟨begun, hbegun, -, hall⟩ := h
  have heq : begun = start := Option.some_inj.mp (hbegun.symm.trans hs)
  have hle : begun + d ≤ t := hall (t, x) hr
  omega

theorem Sound.returns (h : Sound w) {x : Option Exit}
    (hx : w.process.calls[i]? = some (.returned x)) :
    (∃ e, x = some e ∧ w.process.known = some e) ∨
      x = none ∧ w.process.asked i = [.terminate, .kill] ∧
        w.Over i .gracious (w.grace i).nanos ∧ w.Over i .forced killWait.nanos := by
  have hc := h.course i
  rw [hx] at hc
  generalize w.process.asked i = signals at hc ⊢
  cases hc with
  | gaveUp hg hk => exact .inr ⟨rfl, rfl, hg, hk⟩
  | late _ hs => simp at hs
  | returned e _ he => exact .inl ⟨e, rfl, he⟩

/-- An exit that becomes known while the call waits is what it returns. -/
theorem Sound.returns_awaited (h : Sound w) {x y : Option Exit} {t : Nat}
    (hx : w.process.calls[i]? = some (.returned x)) (hr : (t, y) ∈ w.records)
    (ht : w.Awaited i t) : x = y := by
  rcases h.returns hx with ⟨e, rfl, he⟩ | ⟨-, -, hg, hk⟩
  · obtain ⟨t', -, hrec⟩ := h.recorded.known e he
    rw [hrec, List.mem_singleton, Prod.mk.injEq] at hr
    exact hr.2.symm
  · obtain ⟨s, time, start, htime, hstart, hlt⟩ := ht
    cases s with
    | gracious =>
      obtain rfl : (w.grace i).nanos = time := Option.some_inj.mp htime
      exact absurd hlt (hg.not_lt hr hstart)
    | forced =>
      obtain rfl : killWait.nanos = time := Option.some_inj.mp htime
      exact absurd hlt (hk.not_lt hr hstart)
    | asking => simp [patience] at htime
    | escalating => simp [patience] at htime
    | returned => simp [patience] at htime

theorem Allowed.asks {signals : List Signal} (h : Allowed w i signals) :
    signals <+: [.terminate, .kill] ∧
      (.kill ∈ signals → w.Over i .gracious (w.grace i).nanos) := by
  cases h with
  | nothing => simp
  | terminate => simp
  | both h => simp [h]

theorem Course.asks {s : Option Ending} {signals : List Signal} (h : Course w i s signals) :
    signals <+: [.terminate, .kill] ∧
      (.kill ∈ signals → w.Over i .gracious (w.grace i).nanos) := by
  refine Allowed.asks ?_
  cases h with
  | unborn => exact .nothing
  | asking => exact .nothing
  | gracious => exact .terminate
  | escalating => exact .terminate
  | forced h => exact .both h
  | gaveUp h => exact .both h
  | late _ _ _ _ ha => exact ha
  | returned _ _ _ ha => exact ha

/-- The order that is kept however the moves come and however late a wait is found over. -/
structure Orderly (w : Attended) : Prop where
  /-- An exit is made known at most once. -/
  once : w.records.length ≤ 1
  record : ∀ e, w.process.known = some e ↔ ∃ t ≤ w.now, w.records = [(t, some e)]
  keeps : ∀ e, w.process.known = some e → ∀ more, (w.run more).process.known = some e
  /-- A call that begins when the exit is known returns it and asks for no signal. -/
  begun : ∀ e, w.process.known = some e → ∀ grace more,
    (w.run (.move (.begin grace) :: more)).process.calls[w.process.calls.length]? =
      some (.returned (some e)) ∧
    (w.run (.move (.begin grace) :: more)).process.asked w.process.calls.length = []
  /-- A call asks for the termination once, and then for the kill once. -/
  asks : ∀ i, w.process.asked i <+: [.terminate, .kill]
  /-- It asks for the kill only if its grace was over before an exit was known. -/
  kills : ∀ i, .kill ∈ w.process.asked i → w.Over i .gracious (w.grace i).nanos
  /-- It returns the exit, unless it asked for both and its waits were over before one was known. -/
  returns : ∀ i x, w.process.calls[i]? = some (.returned x) →
    (∃ e, x = some e ∧ w.process.known = some e) ∨
      x = none ∧ w.process.asked i = [.terminate, .kill] ∧
        w.Over i .gracious (w.grace i).nanos ∧ w.Over i .forced killWait.nanos
  awaited : ∀ i x t y, w.process.calls[i]? = some (.returned x) → (t, y) ∈ w.records →
    w.Awaited i t → x = y
  /-- No signal is sent to a process that was reaped. -/
  reaped : w.process.waiter.isDone = true → ∀ more, (w.run more).process.sent = w.process.sent

theorem Recorded.length_le (h : Recorded w) : w.records.length ≤ 1 := by
  cases hk : w.process.known with
  | none => simp [h.unknown hk]
  | some e =>
    obtain ⟨t, -, hr⟩ := h.known e hk
    simp [hr]

theorem Recorded.known_iff (h : Recorded w) :
    w.process.known = some e ↔ ∃ t ≤ w.now, w.records = [(t, some e)] := by
  refine ⟨h.known e, ?_⟩
  rintro ⟨t, -, ht⟩
  cases hk : w.process.known with
  | none => simp [h.unknown hk] at ht
  | some x =>
    obtain ⟨t', -, hr⟩ := h.known x hk
    rw [hr] at ht
    have hsame := List.singleton_inj.mp ht
    rw [Prod.mk.injEq] at hsame
    exact hsame.2

theorem Sound.orderly (h : Sound w) : Orderly w where
  once := h.recorded.length_le
  record _ := h.recorded.known_iff
  keeps _ he more := known_run h.recorded he more
  begun _ he grace more :=
    have hbegun := begin_known h he grace
    returned_run hbegun.1 hbegun.2 more
  asks i := (h.course i).asks.1
  kills i := (h.course i).asks.2
  returns _ _ hx := h.returns hx
  awaited _ _ _ _ hx hr ht := h.returns_awaited hx hr ht
  reaped hd more := sent_run hd more

end Attended

end Sidecar
