/-
# The stream of events

The reader puts events into a queue and never waits for the one who takes them:
what does not fit is lost. This module follows the queue through any order of
moves, as long as nobody gives the client up.

What a move does to the queue is one of three things (`Passage`): diagnostics
are accepted, reading ends, or nothing is added. So what was taken and what is
still in the queue make up, together, all that was accepted, in the order in
which it came; the end of reading comes last, if it found room. The reason of
the end is also kept beside the queue, and is set once, room or not.

Key definitions: `Client.received`, `Client.Accepts`, `Client.Passage`, `Client.Ending`,
`Client.Streamed`.
Key theorems: `Client.passage_step`, `Client.Listening.streamed`, `Client.events_streamed`.
-/
import Mathlib.Data.List.Induction
import Sidecar.Proofs.Dispatch
import Sidecar.Proofs.Routing

namespace Sidecar.Client

variable {c c₀ : Client} {m : Move} {moves : List Move} {e : ServerEvent} {reason : ChannelEnd}

/-- The event that a move takes. -/
def takenEvent? (c : Client) : Move → Option ServerEvent
  | .takeEvent => c.events.head?
  | _ => none

/-- The events that are taken along a run. -/
def received (c : Client) : List Move → List ServerEvent
  | [] => []
  | m :: moves => (c.takenEvent? m).toList ++ (c.step m).received moves

/-- With this move the reader meets diagnostics. -/
def Brings (c : Client) (m : Move) (e : ServerEvent) : Prop :=
  c.reading = true ∧
    ∃ f uri items, m = .arrive f ∧ Entails f (.event uri items) ∧ e = .diagnostics uri items

/-- Diagnostics are accepted if fewer than 256 events wait. -/
def Accepts (c : Client) (m : Move) (e : ServerEvent) : Prop :=
  Brings c m e ∧ c.events.length < 256

theorem received_append (c : Client) (moves rest : List Move) :
    c.received (moves ++ rest) = c.received moves ++ (c.run moves).received rest := by
  induction moves generalizing c with
  | nil => rfl
  | cons m moves ih =>
    rw [List.cons_append, received, received, ih, List.append_assoc]
    rfl

theorem received_takeEvents (c : Client) (n : Nat) :
    c.received (List.replicate n .takeEvent) = c.events.take n := by
  induction n generalizing c with
  | zero => simp [received]
  | succ n ih =>
    rw [List.replicate_succ, received, ih]
    cases h : c.events with
    | nil => simp [takenEvent?, step, h]
    | cons e es => simp [takenEvent?, step, h]

theorem brings_iff {f : Json} :
    Brings c (.arrive f) e ↔ c.reading = true ∧ (consequence? f).bind Consequence.event? = some e := by
  refine and_congr_right fun _ => ?_
  constructor
  · rintro ⟨g, uri, items, hg, hentails, rfl⟩
    cases hg
    rw [consequence?_eq_some_iff.2 hentails]
    rfl
  · intro h
    obtain ⟨k, hk, he⟩ := Option.bind_eq_some_iff.1 h
    cases k with
    | event uri items =>
      cases he
      exact ⟨f, uri, items, rfl, consequence?_eq_some_iff.1 hk, rfl⟩
    | reply | delivery | entry => cases he

theorem Accepts.unique {e' : ServerEvent} (h : Accepts c m e) (h' : Accepts c m e') : e = e' := by
  obtain ⟨⟨-, f, -, -, rfl, -⟩, -⟩ := id h
  have he := (brings_iff.1 h.1).2
  have he' := (brings_iff.1 h'.1).2
  exact Option.some.inj (he.symm.trans he')

/-! ### One move -/

/-- The queue of events and the state of the reader are as before. -/
structure Aside (c c' : Client) : Prop where
  events : c'.events = c.events
  reading : c'.reading = c.reading
  closed : c'.closed = c.closed

theorem Aside.enqueue? {c' c'' : Client} {frame : Json} (h : Aside c c')
    (hqueued : c'.enqueue? frame = some c'') : Aside c c'' := by
  unfold Client.enqueue? at hqueued
  split_ifs at hqueued
  cases hqueued
  exact ⟨h.events, h.reading, h.closed⟩

theorem Aside.notify {c' : Client} (h : Aside c c') (method : String) (params : Option Json) :
    Aside c (c'.notify method params).2 := by
  unfold Client.notify
  split
  · next hqueued => exact h.enqueue? hqueued
  · exact h

theorem aside_setVersion (c : Client) (uri : String) (v : Int32) : Aside c (c.setVersion uri v) :=
  ⟨rfl, rfl, rfl⟩

/-- Moves that concern neither the reader nor the one who takes events. -/
def Move.isElsewhere : Move → Bool
  | .arrive _ | .endReading _ | .takeEvent | .shut => false
  | _ => true

theorem aside_step (hm : m.isElsewhere = true) : Aside c (c.step m) := by
  cases m with
  | arrive | endReading | takeEvent | shut => cases hm
  | call | abandon | stopWriting => exact ⟨rfl, rfl, rfl⟩
  | notify | configure | save => exact Aside.notify ⟨rfl, rfl, rfl⟩ _ _
  | «open» uri text => exact (aside_setVersion c uri 1).notify _ _
  | change uri text =>
    show Aside c (c.didChange uri text).2
    unfold didChange
    split
    · exact (aside_setVersion c uri 1).notify _ _
    · exact (aside_setVersion c uri _).notify _ _
  | close uri =>
    have hdropped : Aside c (c.dropVersion uri) := ⟨rfl, rfl, rfl⟩
    exact hdropped.notify _ _
  | register id =>
    show Aside c (c.register id)
    unfold register
    repeat' split
    all_goals exact ⟨rfl, rfl, rfl⟩
  | submit id =>
    show Aside c (c.submit id)
    unfold submit
    split
    · split
      · split
        · next hqueued =>
          have haside := Aside.enqueue? ⟨rfl, rfl, rfl⟩ hqueued
          exact ⟨haside.events, haside.reading, haside.closed⟩
        · exact ⟨rfl, rfl, rfl⟩
      · exact ⟨rfl, rfl, rfl⟩
    · exact ⟨rfl, rfl, rfl⟩
  | collect id =>
    show Aside c (c.collect id)
    unfold collect
    repeat' split
    all_goals exact ⟨rfl, rfl, rfl⟩
  | expire id =>
    show Aside c (c.expire id)
    unfold expire
    repeat' split
    all_goals exact ⟨rfl, rfl, rfl⟩
  | withdraw id =>
    show Aside c (c.withdraw id)
    unfold withdraw
    repeat' split
    all_goals exact ⟨rfl, rfl, rfl⟩
  | write =>
    show Aside c ((c.takeFrame?.map (·.2)).getD c)
    unfold takeFrame?
    repeat' split
    all_goals exact ⟨rfl, rfl, rfl⟩

/-- What a notification does to the queue of events. -/
theorem handle_passage (c : Client) (method : String) (params : Option Json) :
    (c.handle method params).events = c.events ++ (if c.events.length < 256 then
        (notified? method params).bind Consequence.event? else none).toList ∧
      (c.handle method params).reading = c.reading ∧
      (c.handle method params).closed = c.closed := by
  by_cases hroom : c.events.length < 256
  · rw [handle_eq hroom, if_pos hroom]
    rcases notified? method params with _ | _ | _ | _ | _ <;>
      simp [undergo?, undergo, Consequence.event?]
  · rw [if_neg hroom]
    have hfull (e : ServerEvent) : c.offer e = c := if_neg hroom
    unfold handle
    split
    case h_5 => simp
    all_goals split <;> simp [hfull, say]

/-- What a frame does to the queue of events. -/
theorem dispatch_passage (c : Client) (f : Json) :
    (c.dispatch f).events = c.events ++ (if c.events.length < 256 then
        (consequence? f).bind Consequence.event? else none).toList ∧
      (c.dispatch f).reading = c.reading ∧ (c.dispatch f).closed = c.closed := by
  unfold dispatch consequence?
  cases Incoming.ofFrame? f with
  | none => simp
  | some incoming =>
    cases incoming with
    | response id frame =>
      simp only [Option.bind_some, Consequence.event?, ite_self, Option.toList_none, List.append_nil]
      unfold deliver
      split <;> exact ⟨rfl, rfl, rfl⟩
    | request id method =>
      simp only [Option.bind_some, Consequence.event?, ite_self, Option.toList_none, List.append_nil]
      cases hqueued : c.enqueue? (Message.methodNotFound id method) with
      | none => exact ⟨rfl, rfl, rfl⟩
      | some c' =>
        have haside := Aside.enqueue? ⟨rfl, rfl, rfl⟩ hqueued
        exact ⟨haside.events, haside.reading, haside.closed⟩
    | notification method params => exact handle_passage c method params

/-- What a move does to the queue of events and to the reader. -/
inductive Passage (c : Client) (m : Move) : Prop where
  /-- Diagnostics are accepted. -/
  | accepted (e : ServerEvent) (haccepts : Accepts c m e) (htaken : c.takenEvent? m = none)
      (hevents : (c.step m).events = c.events ++ [e]) (hreading : (c.step m).reading = c.reading)
      (hclosed : (c.step m).closed = c.closed)
  /-- Reading ends. -/
  | ended (reason : ChannelEnd) (hm : m = .endReading reason) (hwas : c.reading = true)
      (hevents : (c.step m).events =
        c.events ++ if c.events.length < 256 then [.closed reason] else [])
      (hreading : (c.step m).reading = false) (hclosed : (c.step m).closed = some reason)
  /-- Nothing is added. -/
  | quiet (hnone : ∀ e, ¬ Accepts c m e) (hend : c.reading = true → ∀ reason, m ≠ .endReading reason)
      (hevents : (c.takenEvent? m).toList ++ (c.step m).events = c.events)
      (hreading : (c.step m).reading = c.reading) (hclosed : (c.step m).closed = c.closed)

theorem Aside.passage (h : Aside c (c.step m)) (htaken : c.takenEvent? m = none)
    (hnone : ∀ e, ¬ Accepts c m e) (hend : c.reading = true → ∀ reason, m ≠ .endReading reason) :
    Passage c m := by
  refine .quiet hnone hend ?_ h.reading h.closed
  rw [htaken, h.events]
  rfl

theorem passage_arrive (c : Client) (f : Json) : Passage c (.arrive f) := by
  cases hreading : c.reading with
  | false =>
    have hstep : c.step (.arrive f) = c := by simp [step, hreading]
    refine Aside.passage (by rw [hstep]; exact ⟨rfl, rfl, rfl⟩) rfl ?_ (by simp)
    rintro e ⟨hbrings, -⟩
    rw [brings_iff, hreading] at hbrings
    cases hbrings.1
  | true =>
    have hstep : c.step (.arrive f) = c.dispatch f := by simp [step, hreading]
    obtain ⟨hevents, hkept, hclosed⟩ := dispatch_passage c f
    rw [← hstep] at hevents hkept hclosed
    by_cases hroom : c.events.length < 256
    · rw [if_pos hroom] at hevents
      cases hevent : (consequence? f).bind Consequence.event? with
      | some e =>
        rw [hevent] at hevents
        exact .accepted e ⟨brings_iff.2 ⟨hreading, hevent⟩, hroom⟩ rfl hevents hkept hclosed
      | none =>
        rw [hevent] at hevents
        refine Aside.passage ⟨by simpa using hevents, hkept, hclosed⟩ rfl ?_ (by simp)
        rintro e ⟨hbrings, -⟩
        rw [brings_iff, hevent] at hbrings
        cases hbrings.2
    · rw [if_neg hroom] at hevents
      refine Aside.passage ⟨by simpa using hevents, hkept, hclosed⟩ rfl ?_ (by simp)
      exact fun e h => hroom h.2

theorem not_accepts (hm : ∀ f, m ≠ .arrive f) (e : ServerEvent) : ¬ Accepts c m e := by
  rintro ⟨⟨-, f, -, -, hf, -⟩, -⟩
  exact hm f hf

/-- **Diagnostics are accepted, reading ends, or nothing is added.** -/
theorem passage_step (c : Client) (hm : m ≠ .shut) : Passage c m := by
  cases m with
  | arrive f => exact passage_arrive c f
  | shut => exact absurd rfl hm
  | endReading reason =>
    cases hreading : c.reading with
    | false =>
      have hstep : c.step (.endReading reason) = c := by simp [step, hreading]
      refine Aside.passage (by rw [hstep]; exact ⟨rfl, rfl, rfl⟩) rfl (not_accepts (by simp)) ?_
      rw [hreading]
      simp
    | true =>
      have hstep : c.step (.endReading reason) = c.endReading reason := by simp [step, hreading]
      have hended : (c.endReading reason).events =
          c.events ++ (if c.events.length < 256 then [.closed reason] else []) ∧
          (c.endReading reason).reading = false ∧ (c.endReading reason).closed = some reason := by
        by_cases hroom : c.events.length < 256 <;>
          simp [endReading, release, offer, eventCapacity, hroom]
      rw [← hstep] at hended
      exact .ended reason rfl hreading hended.1 hended.2.1 hended.2.2
  | takeEvent =>
    refine .quiet (not_accepts (by simp)) (by simp) ?_ rfl rfl
    cases h : c.events <;> simp [takenEvent?, step, h]
  | _ => exact Aside.passage (aside_step rfl) rfl (not_accepts (by simp)) (by simp)

/-! ### A run -/

/-- At the place `i` of a run diagnostics are accepted. -/
def AcceptedAt (c₀ : Client) (moves : List Move) (i : Nat) (e : ServerEvent) : Prop :=
  ∃ m, moves[i]? = some m ∧ Accepts (c₀.run (moves.take i)) m e

theorem AcceptedAt.lt {i : Nat} (h : AcceptedAt c₀ moves i e) : i < moves.length := by
  obtain ⟨m, hm, -⟩ := h
  exact (List.getElem?_eq_some_iff.1 hm).1

theorem acceptedAt_concat {i : Nat} :
    AcceptedAt c₀ (moves ++ [m]) i e ↔
      AcceptedAt c₀ moves i e ∨ i = moves.length ∧ Accepts (c₀.run moves) m e := by
  rcases lt_trichotomy i moves.length with hlt | rfl | hgt
  · have htake : (moves ++ [m]).take i = moves.take i := List.take_append_of_le_length hlt.le
    have hne : i ≠ moves.length := hlt.ne
    simp [AcceptedAt, htake, List.getElem?_append_left hlt, hne]
  · simp [AcceptedAt]
  · have hnot : ¬ AcceptedAt c₀ moves i e := fun h => lt_asymm hgt h.lt
    have hnot' : ¬ AcceptedAt c₀ (moves ++ [m]) i e := by
      intro h
      have := h.lt
      rw [List.length_append, List.length_singleton] at this
      omega
    simp [hnot, hnot', hgt.ne']

/-- Whether reading has ended in a run, and the event that tells of it, if it found room. -/
inductive Ending (c₀ : Client) (moves : List Move) : List ServerEvent → Prop where
  /-- Reading goes on, and no reason was ever set. -/
  | awaited (hreading : (c₀.run moves).reading = true)
      (hclosed : ∀ pre, pre <+: moves → (c₀.run pre).closed = none) : Ending c₀ moves []
  /-- The reason is set when reading ends, and never again. -/
  | come (pre : List Move) (reason : ChannelEnd) (post : List Move)
      (hmoves : moves = pre ++ .endReading reason :: post) (hwas : (c₀.run pre).reading = true)
      (hreading : (c₀.run moves).reading = false)
      (hclosed : ∀ p, p <+: moves →
        (c₀.run p).closed = if p.length ≤ pre.length then none else some reason) :
      Ending c₀ moves (if (c₀.run pre).events.length < 256 then [.closed reason] else [])

/-- The events of a run: `log` has the diagnostics that were accepted, each with its place in the
run, and `closing` the event that tells of the end of reading. -/
structure Streamed (c₀ : Client) (moves : List Move) (log : List (Nat × ServerEvent))
    (closing : List ServerEvent) : Prop where
  order : (log.map (·.1)).Pairwise (· < ·)
  accepted : ∀ i e, (i, e) ∈ log ↔ AcceptedAt c₀ moves i e
  ending : Ending c₀ moves closing
  /-- What was taken and what still waits are all of them, in order. -/
  conserved : c₀.received moves ++ (c₀.run moves).events = log.map (·.2) ++ closing
  /-- So that it is full where not fewer than 256 events wait. -/
  bounded : (c₀.run moves).events.length ≤ 256

/-- A run from the start on in which nobody gives the client up. -/
structure Listening (c₀ : Client) (moves : List Move) : Prop where
  reading : c₀.reading = true
  closed : c₀.closed = none
  events : c₀.events = []
  kept : Move.shut ∉ moves

theorem Listening.front (h : Listening c₀ (moves ++ [m])) : Listening c₀ moves :=
  ⟨h.reading, h.closed, h.events, fun hm => h.kept (List.mem_append_left _ hm)⟩

theorem Ending.nil_of_reading {closing : List ServerEvent} (h : Ending c₀ moves closing)
    (hreading : (c₀.run moves).reading = true) : closing = [] := by
  cases h with
  | awaited => rfl
  | come pre reason post hmoves hwas hended hclosed =>
    rw [hreading] at hended
    cases hended

/-- A move that neither ends reading nor sets a reason. -/
theorem Ending.concat_of_kept {closing : List ServerEvent} (h : Ending c₀ moves closing)
    (hreading : (c₀.run (moves ++ [m])).reading = (c₀.run moves).reading)
    (hclosed : (c₀.run (moves ++ [m])).closed = (c₀.run moves).closed) :
    Ending c₀ (moves ++ [m]) closing := by
  cases h with
  | awaited hgoes hnone =>
    refine .awaited (hreading.trans hgoes) fun p hp => ?_
    rcases List.prefix_concat_iff.1 hp with rfl | hp
    · rw [hclosed, hnone moves (List.prefix_refl _)]
    · exact hnone p hp
  | come pre reason post hmoves hwas hended hset =>
    refine .come pre reason (post ++ [m]) (by simp [hmoves]) hwas (hreading.trans hended) fun p hp => ?_
    rcases List.prefix_concat_iff.1 hp with rfl | hp
    · have hlate : ¬ moves.length ≤ pre.length := by simp [hmoves]
      have hlate' : ¬ (moves ++ [m]).length ≤ pre.length := by simp [hmoves]
      rw [hclosed, hset moves (List.prefix_refl _), if_neg hlate, if_neg hlate']
    · exact hset p hp

/-- The move with which reading ends. -/
theorem Ending.concat_end {closing : List ServerEvent} (h : Ending c₀ moves closing)
    (hwas : (c₀.run moves).reading = true)
    (hreading : (c₀.run (moves ++ [.endReading reason])).reading = false)
    (hclosed : (c₀.run (moves ++ [.endReading reason])).closed = some reason) :
    Ending c₀ (moves ++ [.endReading reason])
      (if (c₀.run moves).events.length < 256 then [.closed reason] else []) := by
  cases h with
  | awaited _ hnone =>
    refine .come moves reason [] rfl hwas hreading fun p hp => ?_
    rcases List.prefix_concat_iff.1 hp with rfl | hp
    · simp [hclosed]
    · rw [hnone p hp, if_pos hp.length_le]
  | come _ _ _ _ _ hended _ =>
    rw [hwas] at hended
    cases hended

section Concat

variable {log : List (Nat × ServerEvent)} {closing : List ServerEvent}

theorem received_concat (c : Client) (moves : List Move) (m : Move) :
    c.received (moves ++ [m]) = c.received moves ++ ((c.run moves).takenEvent? m).toList := by
  rw [received_append]
  simp [received]

theorem Streamed.concat_accepted (h : Streamed c₀ moves log closing)
    (haccepts : Accepts (c₀.run moves) m e) (htaken : (c₀.run moves).takenEvent? m = none)
    (hevents : ((c₀.run moves).step m).events = (c₀.run moves).events ++ [e])
    (hreading : ((c₀.run moves).step m).reading = (c₀.run moves).reading)
    (hclosed : ((c₀.run moves).step m).closed = (c₀.run moves).closed) :
    Streamed c₀ (moves ++ [m]) (log ++ [(moves.length, e)]) [] := by
  have hnil : closing = [] := h.ending.nil_of_reading haccepts.1.1
  subst hnil
  constructor
  case order =>
    rw [List.map_append, List.pairwise_append]
    refine ⟨h.order, by simp, ?_⟩
    intro i hi j hj
    obtain ⟨⟨i, e'⟩, hmem, rfl⟩ := List.mem_map.1 hi
    have hlt := ((h.accepted i e').1 hmem).lt
    simp only [List.map_cons, List.map_nil, List.mem_singleton] at hj
    omega
  case accepted =>
    intro i e'
    rw [acceptedAt_concat, List.mem_append, h.accepted, List.mem_singleton, Prod.mk.injEq]
    refine or_congr_right (and_congr_right fun _ => ?_)
    exact ⟨fun heq => heq ▸ haccepts, fun h' => h'.unique haccepts⟩
  case ending =>
    refine h.ending.concat_of_kept ?_ ?_
    · rw [run_concat, hreading]
    · rw [run_concat, hclosed]
  case conserved =>
    have hconserved := h.conserved
    rw [List.append_nil] at hconserved
    rw [received_concat, run_concat, htaken, hevents, Option.toList_none, List.append_nil,
      ← List.append_assoc, hconserved]
    simp
  case bounded =>
    have hroom := haccepts.2
    rw [run_concat, hevents, List.length_append, List.length_singleton]
    omega

theorem Streamed.concat_ended (h : Streamed c₀ moves log closing)
    (hwas : (c₀.run moves).reading = true)
    (hevents : ((c₀.run moves).step (.endReading reason)).events = (c₀.run moves).events ++
      if (c₀.run moves).events.length < 256 then [.closed reason] else [])
    (hreading : ((c₀.run moves).step (.endReading reason)).reading = false)
    (hclosed : ((c₀.run moves).step (.endReading reason)).closed = some reason) :
    Streamed c₀ (moves ++ [.endReading reason]) log
      (if (c₀.run moves).events.length < 256 then [.closed reason] else []) := by
  have hnil : closing = [] := h.ending.nil_of_reading hwas
  subst hnil
  refine ⟨h.order, fun i e => ?_, h.ending.concat_end hwas ?_ ?_, ?_, ?_⟩
  · rw [acceptedAt_concat, h.accepted]
    simp [not_accepts]
  · rw [run_concat, hreading]
  · rw [run_concat, hclosed]
  · have hconserved := h.conserved
    rw [List.append_nil] at hconserved
    rw [received_concat, run_concat, hevents, ← hconserved]
    simp [takenEvent?]
  · have hbounded := h.bounded
    rw [run_concat, hevents, List.length_append]
    split
    · rw [List.length_singleton]
      omega
    · simpa using hbounded

theorem Streamed.concat_quiet (h : Streamed c₀ moves log closing)
    (hnone : ∀ e, ¬ Accepts (c₀.run moves) m e)
    (hevents : ((c₀.run moves).takenEvent? m).toList ++ ((c₀.run moves).step m).events =
      (c₀.run moves).events)
    (hreading : ((c₀.run moves).step m).reading = (c₀.run moves).reading)
    (hclosed : ((c₀.run moves).step m).closed = (c₀.run moves).closed) :
    Streamed c₀ (moves ++ [m]) log closing := by
  refine ⟨h.order, fun i e => ?_, h.ending.concat_of_kept ?_ ?_, ?_, ?_⟩
  · rw [acceptedAt_concat, h.accepted]
    simp [hnone]
  · rw [run_concat, hreading]
  · rw [run_concat, hclosed]
  · rw [received_concat, run_concat, List.append_assoc, hevents, h.conserved]
  · have hbounded := h.bounded
    have hlen := congrArg List.length hevents
    rw [List.length_append] at hlen
    rw [run_concat]
    omega

end Concat

theorem Listening.streamed (h : Listening c₀ moves) :
    ∃ log closing, Streamed c₀ moves log closing := by
  induction moves using List.reverseRecOn with
  | nil =>
    refine ⟨[], [], by simp, by simp [AcceptedAt], .awaited h.reading ?_, ?_, ?_⟩
    · intro p hp
      rw [List.prefix_nil.1 hp]
      exact h.closed
    · simp [received, run, h.events]
    · simp [run, h.events]
  | append_singleton moves m ih =>
    obtain ⟨log, closing, hs⟩ := ih h.front
    have hm : m ≠ .shut := fun hm => h.kept (by simp [hm])
    cases passage_step (c₀.run moves) hm with
    | accepted e haccepts htaken hevents hreading hclosed =>
      exact ⟨_, _, hs.concat_accepted haccepts htaken hevents hreading hclosed⟩
    | ended reason hmove hwas hevents hreading hclosed =>
      subst hmove
      exact ⟨_, _, hs.concat_ended hwas hevents hreading hclosed⟩
    | quiet hnone _ hevents hreading hclosed =>
      exact ⟨_, _, hs.concat_quiet hnone hevents hreading hclosed⟩

/-- **Events come in order, and none is lost but for want of room.** Whatever else happens, those who
take events get the diagnostics that were accepted, in the order in which they came, and then the end
of reading if it found room; they get all of them if they go on taking. -/
theorem events_streamed (h : Listening c₀ moves) :
    ∃ log closing, Streamed c₀ moves log closing ∧
      ∀ n, (c₀.run moves).events.length ≤ n →
        c₀.received (moves ++ List.replicate n .takeEvent) = log.map (·.2) ++ closing := by
  obtain ⟨log, closing, hs⟩ := h.streamed
  refine ⟨log, closing, hs, fun n hn => ?_⟩
  rw [received_append, received_takeEvents, List.take_of_length_le hn, hs.conserved]

/-- Diagnostics without an item. -/
def clean : Json :=
  .obj [("method", .str "textDocument/publishDiagnostics"), ("params", .arr [.str "u", .arr []])]

/-- One more than fits comes, then one is taken and one more comes, and reading ends while the queue
is full again. -/
def flood : List Move :=
  List.replicate 257 (.arrive clean) ++ [.takeEvent, .arrive clean, .endReading .closed, .takeEvent]

theorem events_streamed_flood :
    Listening {} flood ∧
      (∃ log closing, Streamed {} flood log closing ∧
        ∀ n, (run {} flood).events.length ≤ n →
          received {} (flood ++ List.replicate n .takeEvent) = log.map (·.2) ++ closing) ∧
      received {} flood = [.diagnostics "u" [], .diagnostics "u" []] ∧
      (run {} flood).events = List.replicate 255 (.diagnostics "u" []) ∧
      (run {} flood).closed = some .closed := by
  have hkept : Move.shut ∉ flood := by
    rw [flood, List.mem_append, List.mem_replicate]
    simp
  have h : Listening {} flood := ⟨rfl, rfl, rfl, hkept⟩
  refine ⟨h, events_streamed h, ?_, ?_, ?_⟩ <;> decide +kernel

end Sidecar.Client
