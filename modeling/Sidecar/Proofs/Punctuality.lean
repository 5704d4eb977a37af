/-
# Calls that end a process in time

Every sequence of moves comes about on some clock, if the clock is given the
time for the waits that end (`exists_run`). Nothing bounds how late a call
finds its wait over. A run is prompt if time passes only while no call has
anything to do: each of them has returned or waits, none of the waits is over
before the time is, and no exit is known to those that wait.

In a prompt run, a call that has not returned began no longer ago than its
grace and the wait after the kill together, and a while after the exit became
known all calls have returned. So a call returns the exit whenever it becomes
known in one of its waits (`Punctual`).

Key definitions: `Attended.isPrompt`, `Attended.InTime`, `Attended.Punctual`.
Key theorem: `Attended.process_ended_orderly`.
-/
import Sidecar.Proofs.Termination

namespace Sidecar

open Supervised

namespace Attended

variable {w : Attended} {m : Move} {events : List Event} {i d time : Nat} {s : Ending}
  {old new : Option Ending}

/-- Whether no call has anything to do for a time. -/
def mayPass (w : Attended) (time : Nat) : Bool :=
  (w.process.calls.all fun
    | .returned _ => true
    | .gracious => w.process.known.isNone
    | .forced => w.process.known.isNone
    | _ => false) &&
  (List.range w.process.calls.length).all fun i => (w.due? i).all (w.now + time ≤ ·)

/-- Whether time passes only while no call has anything to do. -/
def isPrompt (w : Attended) : List Event → Bool
  | [] => true
  | .pass time :: events => w.mayPass time && (w.step (.pass time)).isPrompt events
  | .move m :: events => (w.step (.move m)).isPrompt events

/-- What every happening of a prompt run keeps is kept by the run. -/
theorem prompt_keeps {P : Attended → Prop}
    (hpass : ∀ w time, w.mayPass time = true → P w → P (w.step (.pass time)))
    (hmove : ∀ w m, w.mayMove m = true → P w → P (w.observe m)) (h : P w)
    (hprompt : w.isPrompt events = true) : P (w.run events) := by
  induction events generalizing w with
  | nil => exact h
  | cons ev events ih =>
    cases ev with
    | pass time =>
      rw [isPrompt, Bool.and_eq_true] at hprompt
      exact ih (hpass w time hprompt.1 h) hprompt.2
    | move m =>
      rw [isPrompt] at hprompt
      refine ih (w := w.step (.move m)) ?_ hprompt
      by_cases hm : w.mayMove m = true
      · have hstep : w.step (.move m) = w.observe m := if_pos hm
        rw [hstep]
        exact hmove w m hm h
      · have hstep : w.step (.move m) = w := if_neg hm
        rwa [hstep]

theorem due?_eq {start : Nat} (hs : w.process.calls[i]? = some s) (hd : w.patience i s = some d)
    (hstart : w.since i s = some start) : w.due? i = some (start + d) := by
  simp [due?, hs, hd, hstart]

/-- Time does not pass beyond the end of a wait. -/
theorem le_of_mayPass {start : Nat} (h : w.mayPass time = true) (hs : w.process.calls[i]? = some s)
    (hd : w.patience i s = some d) (hstart : w.since i s = some start) :
    w.now + time ≤ start + d := by
  obtain ⟨hi, -⟩ := List.getElem?_eq_some_iff.mp hs
  rw [mayPass, Bool.and_eq_true, List.all_eq_true, List.all_eq_true] at h
  have hall := h.2 i (List.mem_range.mpr hi)
  rw [due?_eq hs hd hstart] at hall
  simpa using hall

/-- While time passes, a call has returned, or it waits and no exit is known. -/
theorem waits_of_mayPass (h : w.mayPass time = true) (hs : w.process.calls[i]? = some s) :
    (∃ x, s = .returned x) ∨ (s = .gracious ∨ s = .forced) ∧ w.process.known = none := by
  rw [mayPass, Bool.and_eq_true, List.all_eq_true] at h
  have hcall := h.1 s (List.mem_of_getElem? hs)
  cases s with
  | asking => simp at hcall
  | gracious => exact .inr ⟨.inl rfl, by simpa using hcall⟩
  | escalating => simp at hcall
  | forced => exact .inr ⟨.inr rfl, by simpa using hcall⟩
  | returned x => exact .inl ⟨x, rfl⟩

/-- How much of its time a call may have used up at each stage. -/
inductive InTime (w : Attended) (i : Nat) : Option Ending → Prop where
  | unborn : InTime w i none
  | returned (x : Option Exit) : InTime w i (some (.returned x))
  | asking (h : w.since i .asking = some w.now) : InTime w i (some .asking)
  | gracious (begun start : Nat) (hb : w.since i .asking = some begun)
    (hs : w.since i .gracious = some start) (hle : start ≤ begun)
    (hnow : w.now ≤ start + (w.grace i).nanos) : InTime w i (some .gracious)
  | escalating (begun : Nat) (hb : w.since i .asking = some begun)
    (hnow : w.now ≤ begun + (w.grace i).nanos) : InTime w i (some .escalating)
  | forced (begun start : Nat) (hb : w.since i .asking = some begun)
    (hs : w.since i .forced = some start) (hle : start ≤ begun + (w.grace i).nanos)
    (hnow : w.now ≤ start + killWait.nanos) : InTime w i (some .forced)

theorem InTime.pass (hp : w.mayPass time = true) (h : InTime w i w.process.calls[i]?) :
    InTime (w.step (.pass time)) i w.process.calls[i]? := by
  generalize hcall : w.process.calls[i]? = call at h
  cases h with
  | unborn => exact .unborn
  | returned x => exact .returned x
  | asking => simpa using waits_of_mayPass hp hcall
  | gracious begun start hb hs hle =>
    have hnow := le_of_mayPass hp hcall rfl hs
    exact .gracious begun start hb hs hle hnow
  | escalating => simpa using waits_of_mayPass hp hcall
  | forced begun start hb hs hle =>
    have hnow := le_of_mayPass hp hcall rfl hs
    exact .forced begun start hb hs hle hnow

/-- A call that goes on stays in time, since moves take none. -/
theorem InTime.advance {asked : List Signal} (hold : w.process.calls[i]? = old)
    (hnew : (w.process.step m).calls[i]? = new) (h : InTime w i old)
    (ha : Advance w.process m i old asked new) : InTime (w.observe m) i new := by
  have hgrace : ∀ s, old = some s → (w.observe m).grace i = w.grace i := fun s hs =>
    grace_observe (hold.trans hs)
  have hsince : ∀ s, new ≠ some s ∨ old = some s → (w.observe m).since i s = w.since i s := by
    intro s hs
    exact since_observe (by rwa [hold, hnew])
  have hcome : ∀ s, new = some s → old ≠ some s → (w.observe m).since i s = some w.now := by
    intro s hs hne
    exact since_observe_new (hnew.trans hs) (by rwa [hold])
  cases ha with
  | stays =>
    cases h with
    | unborn => exact .unborn
    | returned x => exact .returned x
    | asking h => exact .asking (by rw [hsince _ (.inr rfl), h]; rfl)
    | gracious begun start hb hs hle hnow =>
      refine .gracious begun start ?_ ?_ hle (by rwa [hgrace _ rfl])
      · rw [hsince _ (.inl (by simp)), hb]
      · rw [hsince _ (.inr rfl), hs]
    | escalating begun hb hnow =>
      exact .escalating begun (by rw [hsince _ (.inl (by simp)), hb]) (by rwa [hgrace _ rfl])
    | forced begun start hb hs hle hnow =>
      refine .forced begun start ?_ ?_ (by rwa [hgrace _ rfl]) hnow
      · rw [hsince _ (.inl (by simp)), hb]
      · rw [hsince _ (.inr rfl), hs]
  | begins => exact .asking (hcome _ rfl (by simp))
  | knows e => exact .returned (some e)
  | asks =>
    cases h with
    | asking h =>
      refine .gracious w.now w.now ?_ (hcome _ rfl (by simp)) (Nat.le_refl _) (Nat.le_add_right _ _)
      rw [hsince _ (.inl (by simp)), h]
  | asksLate =>
    cases h with
    | asking h =>
      refine .escalating w.now ?_ (Nat.le_add_right _ _)
      rw [hsince _ (.inl (by simp)), h]
  | lapses =>
    cases h with
    | gracious begun start hb hs hle hnow =>
      refine .escalating begun (by rw [hsince _ (.inl (by simp)), hb]) ?_
      rw [hgrace _ rfl]
      show w.now ≤ begun + (w.grace i).nanos
      omega
  | forces | forcesLate =>
    cases h with
    | escalating begun hb hnow =>
      refine .forced begun w.now ?_ (hcome _ rfl (by simp)) (by rwa [hgrace _ rfl])
        (Nat.le_add_right _ _)
      rw [hsince _ (.inl (by simp)), hb]
  | notices s _ e => exact .returned (some e)
  | givesUp => exact .returned none

/-! ### Prompt runs -/

/-- A call that has not returned has learned of no exit before now. -/
def Fresh (w : Attended) (i : Nat) : Prop :=
  ∀ s, w.process.calls[i]? = some s → (∃ x, s = .returned x) ∨ ∀ r ∈ w.records, w.now ≤ r.1

theorem Fresh.pass (hrec : Recorded w) (hp : w.mayPass time = true) (i : Nat) :
    Fresh (w.step (.pass time)) i := by
  intro s hs
  rcases waits_of_mayPass hp hs with hx | ⟨-, hk⟩
  · exact .inl hx
  · have hnone : (w.step (.pass time)).records = [] := hrec.unknown hk
    exact .inr (by simp [hnone])

theorem Fresh.observe (hrec : Recorded w) (h : Fresh w i) (m : Move) : Fresh (w.observe m) i := by
  -- What is recorded by the move is recorded now.
  have hrecords : (∀ r ∈ w.records, w.now ≤ r.1) → ∀ r ∈ (w.observe m).records, w.now ≤ r.1 := by
    intro hall
    rcases hrec.records_observe m with ⟨-, hsame⟩ | ⟨-, e, -, hnew⟩
    · rwa [hsame]
    · simp [hnew]
  intro s hs
  obtain ⟨asked, hadv, -⟩ := advance_step w.process m i
  rw [process_observe] at hs
  rw [hs] at hadv
  generalize hold : w.process.calls[i]? = old at hadv
  cases hadv with
  | stays => exact (h s hold).imp_right hrecords
  | begins _ _ hk => exact .inr (hrecords (by simp [hrec.unknown hk]))
  | knows e => exact .inl ⟨some e, rfl⟩
  | asks | asksLate | lapses | forces | forcesLate =>
    rcases h _ hold with ⟨x, hx⟩ | hall
    · simp at hx
    · exact .inr (hrecords hall)
  | notices _ _ e => exact .inl ⟨some e, rfl⟩
  | givesUp => exact .inl ⟨none, rfl⟩

/-- What holds of every prompt run. -/
structure Prompt (w : Attended) : Prop where
  sound : Sound w
  inTime : ∀ i, InTime w i w.process.calls[i]?
  fresh : ∀ i, Fresh w i

theorem Prompt.pass (h : Prompt w) (hp : w.mayPass time = true) : Prompt (w.step (.pass time)) where
  sound := h.sound.pass time
  inTime i := (h.inTime i).pass hp
  fresh i := Fresh.pass h.sound.recorded hp i

theorem Prompt.observe (h : Prompt w) (hm : w.mayMove m = true) : Prompt (w.observe m) where
  sound := h.sound.observe hm
  inTime i := by
    obtain ⟨asked, hadv, -⟩ := advance_step w.process m i
    exact (h.inTime i).advance rfl rfl hadv
  fresh i := (h.fresh i).observe h.sound.recorded m

theorem prompt_run (h : isPrompt {} events = true) : Prompt (run {} events) := by
  refine prompt_keeps (fun _ _ hp h => h.pass hp) (fun _ _ hm h => h.observe hm) ?_ h
  exact ⟨sound_run [], fun _ => .unborn, fun _ s hs => by simp at hs⟩

/-- What holds besides if time passes only while no call has anything to do. -/
structure Punctual (w : Attended) : Prop where
  /-- A call that has not returned began no longer ago than its two waits take. -/
  bounded : ∀ i s, w.process.calls[i]? = some s → (∃ x, s = .returned x) ∨
    ∃ begun, w.since i .asking = some begun ∧
      w.now ≤ begun + (w.grace i).nanos + killWait.nanos
  /-- Once an exit is known, all calls return. -/
  returned : ∀ r ∈ w.records, r.1 < w.now → ∀ s ∈ w.process.calls, ∃ x, s = .returned x
  /-- An exit that becomes known while a call waits is returned by it. -/
  awaited : ∀ i s t e, w.process.calls[i]? = some s → (t, some e) ∈ w.records → t < w.now →
    w.Awaited i t → s = .returned (some e)

theorem InTime.bounded (h : InTime w i (some s)) : (∃ x, s = .returned x) ∨
    ∃ begun, w.since i .asking = some begun ∧
      w.now ≤ begun + (w.grace i).nanos + killWait.nanos := by
  cases h with
  | returned x => exact .inl ⟨x, rfl⟩
  | asking h => exact .inr ⟨w.now, h, by omega⟩
  | gracious begun start hb _ hle hnow => exact .inr ⟨begun, hb, by omega⟩
  | escalating begun hb hnow => exact .inr ⟨begun, hb, by omega⟩
  | forced begun start hb _ hle hnow => exact .inr ⟨begun, hb, by omega⟩

theorem Prompt.returned (h : Prompt w) {r : Nat × Option Exit} (hr : r ∈ w.records)
    (ht : r.1 < w.now) (hs : w.process.calls[i]? = some s) : ∃ x, s = .returned x := by
  rcases h.fresh i s hs with hx | hall
  · exact hx
  · have hnow := hall r hr
    omega

theorem Prompt.punctual (h : Prompt w) : Punctual w where
  bounded i s hs := by
    have hi := h.inTime i
    rw [hs] at hi
    exact hi.bounded
  returned r hr ht s hs := by
    obtain ⟨i, hi⟩ := List.mem_iff_getElem?.mp hs
    exact h.returned hr ht hi
  awaited i s t e hs hr ht hawaited := by
    obtain ⟨x, rfl⟩ := h.returned hr ht hs
    rw [h.sound.returns_awaited hs hr hawaited]

/-! ### Every sequence of moves -/

/-- The bystander has noted when each call has come to where it is. -/
def Stamped (w : Attended) : Prop :=
  ∀ i s, w.process.calls[i]? = some s → ∃ t, w.since i s = some t

theorem Stamped.observe (h : Stamped w) (m : Move) : Stamped (w.observe m) := by
  intro i s hs
  by_cases hold : w.process.calls[i]? = some s
  · obtain ⟨t, ht⟩ := h i s hold
    exact ⟨t, by rw [since_observe (.inr hold), ht]⟩
  · exact ⟨w.now, since_observe_new hs hold⟩

theorem step_expire_of_not_due (h : Stamped w) (hdue : w.due? i = none) :
    w.process.step (.expire i) = w.process := by
  show w.process.expire i = w.process
  unfold Supervised.expire
  split
  · next hs =>
    obtain ⟨t, ht⟩ := h i _ hs
    rw [due?_eq hs rfl ht] at hdue
    simp at hdue
  · next hs =>
    obtain ⟨t, ht⟩ := h i _ hs
    rw [due?_eq hs rfl ht] at hdue
    simp at hdue
  · rfl

/-- Any move can come, given time. -/
theorem exists_move (h : Stamped w) (m : Move) :
    ∃ events, (w.run events).process = w.process.step m ∧ Stamped (w.run events) := by
  by_cases hm : w.mayMove m = true
  · have hrun : w.run [.move m] = w.observe m := if_pos hm
    exact ⟨[.move m], by rw [hrun, process_observe], by rw [hrun]; exact h.observe m⟩
  · cases m with
    | expire i =>
      cases hdue : w.due? i with
      | none => exact ⟨[], (step_expire_of_not_due h hdue).symm, h⟩
      | some t =>
        -- The clock is given the time until the wait is over.
        have hlater : (w.step (.pass t)).mayMove (.expire i) = true := by
          have hsame : (w.step (.pass t)).due? i = w.due? i := rfl
          rw [mayMove, hsame, hdue]
          simp [step]
        have hrun : w.run [.pass t, .move (.expire i)] = (w.step (.pass t)).observe (.expire i) :=
          if_pos hlater
        have hstamped : Stamped (w.step (.pass t)) := h
        exact ⟨_, by rw [hrun, process_observe]; rfl, by rw [hrun]; exact hstamped.observe _⟩
    | _ => exact absurd rfl hm

theorem exists_run (moves : List Move) (h : Stamped w) :
    ∃ events, (w.run events).process = w.process.run moves := by
  induction moves generalizing w with
  | nil => exact ⟨[], rfl⟩
  | cons m moves ih =>
    obtain ⟨first, hfirst, hstamped⟩ := exists_move h m
    obtain ⟨rest, hrest⟩ := ih hstamped
    refine ⟨first ++ rest, ?_⟩
    rw [run_append, hrest, hfirst]
    rfl

/-- How a process is ended, by whatever calls and with whatever the process does. -/
structure Protocol : Prop where
  /-- No sequence of moves is left out. -/
  every : ∀ moves, ∃ events, (run {} events).process = Supervised.run {} moves
  orderly : ∀ events, Orderly (run {} events)
  punctual : ∀ events, isPrompt {} events = true → Punctual (run {} events)

/-- **A process is ended in order, and in time.** -/
theorem process_ended_orderly : Protocol where
  every moves := exists_run moves fun i s hs => by simp at hs
  orderly events := (sound_run events).orderly
  punctual _ h := (prompt_run h).punctual

/-- A process that does not mind being asked to terminate, and two calls, of which the second
begins after its end. -/
def stubborn : List Event :=
  [.move (.begin ⟨5⟩), .move (.ask 0), .move .take, .pass 5, .move (.expire 0), .move (.force 0),
    .move .take, .move (.exits (Exit.ofSignal 9)), .pass 1, .move .reap, .move .publish,
    .move (.notice 0), .pass 1, .move (.begin ⟨5⟩), .move (.ask 1), .move .leave]

theorem process_ended_orderly_stubborn : isPrompt {} stubborn = true ∧
    Punctual (run {} stubborn) ∧
    (run {} stubborn).records = [(6, some (Exit.ofSignal 9))] ∧
    (run {} stubborn).process.calls =
      [.returned (some (Exit.ofSignal 9)), .returned (some (Exit.ofSignal 9))] ∧
    (run {} stubborn).process.sent = [⟨.terminate, some 0⟩, ⟨.kill, some 0⟩] :=
  have hprompt : isPrompt {} stubborn = true := by decide
  ⟨hprompt, process_ended_orderly.punctual stubborn hprompt, by decide, by decide, by decide⟩

end Attended

end Sidecar
