/-
# Responses reach the calls they belong to

Any number of callers use one client, and their steps mix with the frames of
the server, with the end of a call's time and with the end of reading, in any
order. Whatever the order, ids are never used twice, a call ends once, and it
ends with a response only if that is the first one to its id that came while
the call was open (`Routed`).

Two things are kept along a run. One is about the present (`Sound`): which
calls the reader knows, and what may lie in the slot of each. The other is
about the past (`Tells`): a filled slot holds the first response that
was heard, and where the slot is not filled none was heard.

Key definitions: `Client.Sound`, `Client.Hears`, `Client.FirstHeard`, `Client.Routed`.
Key theorems: `Client.Course.sound`, `Client.Course.slot_history`,
`Client.responses_routed`.
-/
import Mathlib.Algebra.Ring.Int.Defs
import Mathlib.Algebra.Ring.Nat
import Mathlib.Data.List.Induction
import Mathlib.Data.List.Nodup
import Sidecar.Proofs.JsonObject
import Sidecar.Proofs.Turn

namespace Sidecar.Client

/-- The outcome of a call that has no response. -/
def GaveUp (o : Except ClientError Json) : Prop :=
  o = .error .closed ∨ ∃ method after, o = .error (.timeout method after)

/-- What holds of a call, given whether the reader knows its id and still reads. -/
def Call.Sound (known : Prop) (reading : Bool) (x : Call) : Prop :=
  match x.progress with
  | .numbered => ¬ known ∧ x.slot = .empty
  | .registered | .waiting =>
    (known → x.slot = .empty) ∧ (reading = true → known ∨ ∃ f, x.slot = .filled f)
  | .leaving o => GaveUp o
  | .done o => ¬ known ∧ (GaveUp o ∨ ∃ f, x.slot = .filled f ∧ o = outcomeOf x.method f)

/-- What holds of a client at every time. The ids are given out in turn, so that no id is used twice
before all of them are used up. -/
structure Sound (c : Client) : Prop where
  ids : c.calls.map (·.id) = List.range' 1 c.calls.length
  nextId : c.nextId = (c.calls.length + 1) % 2 ^ 64
  frames : ∀ x ∈ c.calls, ∃ params, x.frame = Message.request x.id x.method params
  known : ∀ id ∈ c.pending, ∃ x ∈ c.calls, x.id = id
  calls : ∀ x ∈ c.calls, x.Sound (x.id ∈ c.pending) c.reading

/-- A client that nobody has called yet. -/
structure Fresh (c : Client) : Prop where
  nextId : c.nextId = 1
  pending : c.pending = []
  calls : c.calls = []

theorem Fresh.sound {c : Client} (h : Fresh c) : Sound c := by
  constructor <;> simp [h.calls, h.pending, h.nextId]

variable {c c' : Client} {x y : Call}

theorem Sound.nodup (h : Sound c) : (c.calls.map (·.id)).Nodup := by
  rw [h.ids]
  exact List.nodup_range'

theorem Sound.eq_of_id_eq (h : Sound c) (hx : x ∈ c.calls) (hy : y ∈ c.calls)
    (he : x.id = y.id) : x = y :=
  List.inj_on_of_nodup_map h.nodup hx hy he

/-- Without reading there is nothing more to hold of a call. -/
theorem Call.Sound.mono {known : Prop} {reading reading' : Bool} (h : x.Sound known reading)
    (hr : reading' = true → reading = true) : x.Sound known reading' := by
  unfold Call.Sound at h ⊢
  cases hp : x.progress <;> simp only [hp] at h ⊢
  case registered | waiting => exact ⟨h.1, fun hr' => h.2 (hr hr')⟩
  all_goals exact h

theorem Call.Sound.congr {known known' : Prop} {reading : Bool} (h : x.Sound known reading)
    (hk : known' ↔ known) : x.Sound known' reading := by
  rwa [propext hk]

theorem Advance.mem_iff_of_ne {pending pending' : List Nat} {p : Progress}
    (h : Advance pending x p pending') {id : Nat} (hne : id ≠ x.id) :
    id ∈ pending' ↔ id ∈ pending := by
  cases h <;> simp [hne]

theorem Advance.mem_ids {pending pending' : List Nat} {p : Progress}
    (h : Advance pending x p pending') {id : Nat} (hid : id ∈ pending') :
    id ∈ pending ∨ id = x.id := by
  by_cases hne : id = x.id
  · exact .inr hne
  · exact .inl ((h.mem_iff_of_ne hne).1 hid)

theorem Advance.sound {pending pending' : List Nat} {p : Progress} {reading : Bool}
    (h : Advance pending x p pending') (hs : x.Sound (x.id ∈ pending) reading) :
    { x with progress := p }.Sound (x.id ∈ pending') reading := by
  unfold Call.Sound at hs ⊢
  cases h with
  | register hp =>
    simp only [hp] at hs
    simp [hs.2]
  | submit hp =>
    simp only [hp] at hs
    exact hs
  | refuse hp => exact .inl rfl
  | collect hp hf =>
    simp only [hp, hf, reduceCtorEq, imp_false] at hs
    exact ⟨hs.1, .inr ⟨_, hf, rfl⟩⟩
  | miss hp hd => exact .inl rfl
  | expire after hp => exact .inr ⟨_, _, rfl⟩
  | withdraw hp =>
    simp only [hp] at hs
    exact ⟨by simp, .inl hs⟩

theorem Advance.not_done {pending pending' : List Nat} {p : Progress}
    (h : Advance pending x p pending') (o : Except ClientError Json) : x.progress ≠ .done o := by
  cases h <;> simp_all

/-! ### What a move keeps -/

theorem mem_updateCall {id : Nat} {f : Call → Call} :
    y ∈ (c.updateCall id f).calls ↔ ∃ x ∈ c.calls, (if x.id = id then f x else x) = y := by
  simp [updateCall]

/-- Two records of one call. -/
structure Call.Same (x y : Call) : Prop where
  id : y.id = x.id
  method : y.method = x.method
  frame : y.frame = x.frame

theorem Call.leave_same (slot : Slot) (x : Call) : x.Same (x.leave slot) := by
  unfold Call.leave
  split <;> exact ⟨rfl, rfl, rfl⟩

theorem Call.same_ite {P : Prop} [Decidable P] (h : x.Same y) : x.Same (if P then y else x) := by
  split
  · exact h
  · exact ⟨rfl, rfl, rfl⟩

theorem Call.leave_of_not_open {slot : Slot} (h : x.isOpen = false) : x.leave slot = x := by
  simp [Call.leave, h]

/-- A move that changes the calls one by one keeps what it keeps of each. -/
theorem Sound.map (h : Sound c) {g : Call → Call} (hcalls : c'.calls = c.calls.map g)
    (hg : ∀ x : Call, x.Same (g x)) (hnext : c'.nextId = c.nextId)
    (hknown : ∀ id ∈ c'.pending, ∃ x ∈ c.calls, x.id = id)
    (hsound : ∀ x ∈ c.calls, (g x).Sound (x.id ∈ c'.pending) c'.reading) : Sound c' := by
  have hmem : ∀ y, y ∈ c'.calls ↔ ∃ x ∈ c.calls, g x = y := by
    intro y
    rw [hcalls, List.mem_map]
  constructor
  · have hids : (c.calls.map g).map (·.id) = c.calls.map (·.id) := by
      rw [List.map_map]
      exact List.map_congr_left fun x _ => (hg x).id
    rw [hcalls, hids, List.length_map, h.ids]
  · rw [hnext, hcalls, List.length_map, h.nextId]
  · intro y hy
    obtain ⟨x, hx, rfl⟩ := (hmem y).1 hy
    obtain ⟨params, hp⟩ := h.frames x hx
    exact ⟨params, by rw [(hg x).frame, (hg x).id, (hg x).method, hp]⟩
  · intro id hid
    obtain ⟨x, hx, hxid⟩ := hknown id hid
    exact ⟨g x, (hmem _).2 ⟨x, hx, rfl⟩, by rw [(hg x).id, hxid]⟩
  · intro y hy
    obtain ⟨x, hx, rfl⟩ := (hmem y).1 hy
    rw [(hg x).id]
    exact hsound x hx

theorem Sound.still (h : Sound c) (hs : Still c c') : Sound c' := by
  refine h.map (g := id) (by simp [hs.calls]) (fun _ => ⟨rfl, rfl, rfl⟩) hs.nextId ?_ ?_
  · rw [hs.pending]
    exact h.known
  · intro x hx
    rw [hs.pending]
    exact (h.calls x hx).mono hs.reading

/-- The next id is new as long as there are ids left. -/
theorem Sound.nextId_eq (h : Sound c) (hlen : c.calls.length + 1 < 2 ^ 64) :
    c.nextId = c.calls.length + 1 := by
  rw [h.nextId, Nat.mod_eq_of_lt hlen]

theorem Sound.id_lt (h : Sound c) (hx : x ∈ c.calls) : x.id < c.calls.length + 1 := by
  have hid : x.id ∈ c.calls.map (·.id) := List.mem_map_of_mem hx
  rw [h.ids, List.mem_range'_1] at hid
  omega

theorem Sound.nextId_not_mem (h : Sound c) (hlen : c.calls.length + 1 < 2 ^ 64) :
    c.nextId ∉ c.pending := by
  intro hid
  obtain ⟨x, hx, hxid⟩ := h.known _ hid
  have := h.id_lt hx
  rw [h.nextId_eq hlen] at hxid
  omega

theorem Sound.call (h : Sound c) (hlen : c.calls.length + 1 < 2 ^ 64) (method : String)
    (params : Option Json) : Sound (c.call method params) := by
  have hnext := h.nextId_eq hlen
  constructor
  · simp only [Client.call, List.map_append, List.map_cons, List.map_nil, List.length_append,
      List.length_cons, List.length_nil, h.ids, hnext]
    rw [List.range'_concat]
    simp [Nat.add_comm]
  · simp [Client.call, hnext]
  · intro y hy
    simp only [Client.call, List.mem_append, List.mem_singleton] at hy
    rcases hy with hy | rfl
    · exact h.frames y hy
    · exact ⟨params, rfl⟩
  · intro id hid
    obtain ⟨x, hx, hxid⟩ := h.known id hid
    exact ⟨x, List.mem_append_left _ hx, hxid⟩
  · intro y hy
    simp only [Client.call, List.mem_append, List.mem_singleton] at hy
    rcases hy with hy | rfl
    · exact h.calls y hy
    · exact ⟨h.nextId_not_mem hlen, rfl⟩

theorem Sound.advance (h : Sound c) (hx : x ∈ c.calls) {p : Progress}
    (hp : Advance c.pending x p c'.pending) (hcalls : c'.calls = (c.setProgress x.id p).calls)
    (hnext : c'.nextId = c.nextId) (hreading : c'.reading = c.reading) : Sound c' := by
  refine h.map hcalls (fun y => Call.same_ite ⟨rfl, rfl, rfl⟩) hnext ?_ ?_
  · intro id hid
    rcases hp.mem_ids hid with hid | rfl
    · exact h.known id hid
    · exact ⟨x, hx, rfl⟩
  · intro y hy
    rw [hreading]
    by_cases he : y.id = x.id
    · have hyx := h.eq_of_id_eq hy hx he
      subst hyx
      simpa using hp.sound (h.calls y hy)
    · simpa [he] using (h.calls y hy).congr (hp.mem_iff_of_ne he)

/-- What holds of an open call once the reader has left something for it. -/
theorem Call.Sound.leave {known : Prop} {reading reading' : Bool} (h : x.Sound known reading)
    (slot : Slot) (hs : reading' = true → reading = true ∧ ∃ f, slot = .filled f) :
    (x.leave slot).Sound False reading' := by
  unfold Call.leave
  unfold Call.Sound at h ⊢
  cases hp : x.progress <;>
    simp only [Call.isOpen, hp, reduceIte, Bool.false_eq_true, false_or, false_implies,
      not_false_eq_true, true_and] at h ⊢
  case numbered => exact h.2
  case registered | waiting => exact fun hr => (hs hr).2
  case leaving => exact h
  case done => exact h.2

theorem Sound.deliver (h : Sound c) {id : Nat} (hid : id ∈ c.pending) (f : Json) :
    Sound (c.deliver id f) := by
  have hdel : c.deliver id f = (c.forget id).updateCall id (Call.leave (.filled f)) := by
    rw [Client.deliver, if_pos (by simpa using hid)]
  rw [hdel]
  refine h.map rfl (fun y => Call.same_ite (Call.leave_same _ y)) rfl ?_ ?_
  · intro id' hid'
    exact h.known id' (List.mem_of_mem_filter hid')
  · intro y hy
    by_cases he : y.id = id
    · have hs := (h.calls y hy).leave (.filled f) fun hr => ⟨hr, f, rfl⟩
      simpa [he, updateCall, forget] using hs
    · simpa [he, updateCall, forget] using h.calls y hy

theorem Sound.release (h : Sound c) (reason : ChannelEnd) : Sound (c.endReading reason) := by
  refine h.map (endReading_calls c reason) (fun y => Call.same_ite (Call.leave_same _ y))
    (endReading_nextId c reason) (by simp) ?_
  intro y hy
  rw [endReading_pending, endReading_reading]
  by_cases hk : y.id ∈ c.pending
  · have hs : (y.leave .dropped).Sound False false := (h.calls y hy).leave .dropped nofun
    simpa [hk] using hs
  · have hs : y.Sound (y.id ∈ c.pending) false := (h.calls y hy).mono nofun
    simpa [hk] using hs

/-- **What holds at every time is kept by every move**, as long as there are ids left. -/
theorem Sound.step (h : Sound c) {m : Move} (hm : ∀ id, m ≠ .abandon id)
    (hlen : (c.step m).calls.length < 2 ^ 64) : Sound (c.step m) := by
  have ht := turn_step c hm
  generalize c.step m = c' at ht hlen
  cases ht with
  | still hs _ => exact h.still hs
  | call method params => exact h.call (by simpa [Client.call] using hlen) method params
  | advance _ hx hp hcalls hnext hreading => exact h.advance hx hp hcalls hnext hreading
  | deliver _ _ hid => exact h.deliver hid _
  | release reason => exact h.release reason

/-! ### What a move does to one call -/

theorem Call.Sound.of_open {known : Prop} {reading : Bool} (h : x.Sound known reading)
    (ho : x.isOpen = true) :
    (known → x.slot = .empty) ∧ (reading = true → known ∨ ∃ f, x.slot = .filled f) := by
  unfold Call.Sound at h
  unfold Call.isOpen at ho
  cases hp : x.progress <;> simp only [hp, Bool.false_eq_true] at h ho
  all_goals exact h

/-- The reader takes the frame for a response to an open call. -/
def Hears (c : Client) (f : Json) (id : Nat) : Prop :=
  c.reading = true ∧ Responds f id ∧ ∃ x ∈ c.calls, x.id = id ∧ x.isOpen = true

theorem Sound.isOpen_of_hears (h : Sound c) (hx : x ∈ c.calls) {f : Json} (hf : Hears c f x.id) :
    x.isOpen = true := by
  obtain ⟨-, -, y, hy, hid, ho⟩ := hf
  rwa [← h.eq_of_id_eq hy hx hid]

/-- What a move does to the slot of a call. -/
inductive Refill (c : Client) (m : Move) (x : Call) : Slot → Prop where
  | keep (h : ∀ f, m.frame? = some f → Hears c f x.id → ∃ g, x.slot = .filled g) :
      Refill c m x x.slot
  | fill {f : Json} (hm : m.frame? = some f) (hf : Hears c f x.id) (hs : x.slot = .empty) :
      Refill c m x (.filled f)
  | drop (hm : m.frame? = none) (hs : x.slot = .empty) : Refill c m x .dropped

theorem Refill.of_frame_none {m : Move} (hm : m.frame? = none) : Refill c m x x.slot :=
  .keep fun f hf => by simp [hm] at hf

theorem Sound.refill_deliver (h : Sound c) {f : Json} {id : Nat} (hr : c.reading = true)
    (hf : Responds f id) (hid : id ∈ c.pending) (hx : x ∈ c.calls) :
    Refill c (.arrive f) x (if x.id = id then x.leave (.filled f) else x).slot := by
  by_cases he : x.id = id
  · subst he
    rw [if_pos rfl]
    by_cases ho : x.isOpen = true
    · rw [Call.leave, if_pos ho]
      exact .fill rfl ⟨hr, hf, x, hx, rfl, ho⟩ (((h.calls x hx).of_open ho).1 hid)
    · rw [Call.leave, if_neg ho]
      exact .keep fun g _ hg => absurd (h.isOpen_of_hears hx hg) ho
  · rw [if_neg he]
    refine .keep fun g hg hears => ?_
    cases hg
    exact absurd (hears.2.1.id_unique hf) he

theorem Sound.refill_release (h : Sound c) {m : Move} (hm : m.frame? = none) (hx : x ∈ c.calls) :
    Refill c m x (if x.id ∈ c.pending then x.leave .dropped else x).slot := by
  by_cases hk : x.id ∈ c.pending
  · rw [if_pos hk, Call.leave]
    by_cases ho : x.isOpen = true
    · rw [if_pos ho]
      exact .drop hm (((h.calls x hx).of_open ho).1 hk)
    · rw [if_neg ho]
      exact .of_frame_none hm
  · rw [if_neg hk]
    exact .of_frame_none hm

/-- A call after a move is new, with an id above all others, or it is a call from before. -/
theorem Sound.refill_step (h : Sound c) {m : Move} (hm : ∀ id, m ≠ .abandon id)
    (hlen : (c.step m).calls.length < 2 ^ 64) (hy : y ∈ (c.step m).calls) :
    (m.frame? = none ∧ y.slot = .empty ∧ y.id = c.calls.length + 1) ∨
      ∃ x ∈ c.calls, x.id = y.id ∧ Refill c m x y.slot := by
  have ht := turn_step c hm
  generalize c.step m = c' at ht hlen hy
  cases ht with
  | still hs hunheard =>
    rw [hs.calls] at hy
    refine .inr ⟨y, hy, rfl, .keep fun f hf hears => ?_⟩
    have ho := ((h.calls y hy).of_open (h.isOpen_of_hears hy hears)).2 hears.1
    exact ho.resolve_left (hunheard f y.id hf hears.1 hears.2.1)
  | call method params =>
    simp only [Client.call, List.mem_append, List.mem_singleton] at hy
    rcases hy with hy | rfl
    · exact .inr ⟨y, hy, rfl, .of_frame_none rfl⟩
    · exact .inl ⟨rfl, rfl, h.nextId_eq (by simpa [Client.call] using hlen)⟩
  | advance hframe hx hp hcalls _ _ =>
    rw [hcalls, setProgress, mem_updateCall] at hy
    obtain ⟨z, hz, rfl⟩ := hy
    refine .inr ⟨z, hz, ?_, ?_⟩
    · split <;> rfl
    · have hslot := Refill.of_frame_none (c := c) (x := z) hframe
      split <;> exact hslot
  | deliver hr hf hid =>
    rw [Client.deliver, if_pos (by simpa using hid), mem_updateCall] at hy
    obtain ⟨z, hz, rfl⟩ := hy
    exact .inr ⟨z, hz, ((Call.same_ite (Call.leave_same _ z)).id).symm,
      h.refill_deliver hr hf hid hz⟩
  | release reason =>
    rw [endReading_calls, Client.release, List.mem_map] at hy
    obtain ⟨z, hz, rfl⟩ := hy
    refine .inr ⟨z, hz, ((Call.same_ite (Call.leave_same _ z)).id).symm, ?_⟩
    simpa using h.refill_release rfl hz

/-- A call that is over stays as it is. -/
theorem Sound.done_step (h : Sound c) {m : Move} (hm : ∀ id, m ≠ .abandon id) (hx : x ∈ c.calls)
    {o : Except ClientError Json} (hdone : x.progress = .done o) : x ∈ (c.step m).calls := by
  have hopen : x.isOpen = false := by simp [Call.isOpen, hdone]
  have ht := turn_step c hm
  generalize c.step m = c' at ht
  cases ht with
  | still hs _ => rwa [hs.calls]
  | call method params => exact List.mem_append_left _ hx
  | @advance _ _ z p _ hz hp hcalls _ _ =>
    rw [hcalls, setProgress, mem_updateCall]
    have hne : x.id ≠ z.id := by
      intro he
      have hxz := h.eq_of_id_eq hx hz he
      subst hxz
      exact hp.not_done o hdone
    exact ⟨x, hx, if_neg hne⟩
  | deliver _ _ hid =>
    rw [Client.deliver, if_pos (by simpa using hid), mem_updateCall]
    exact ⟨x, hx, by simp [Call.leave_of_not_open hopen]⟩
  | release reason =>
    rw [endReading_calls, Client.release, List.mem_map]
    exact ⟨x, hx, by simp [Call.leave_of_not_open hopen]⟩

/-- A frame changes no call that it is not a response to. -/
theorem mem_step_arrive (hx : x ∈ c.calls) {f : Json} (hf : ¬ Responds f x.id) :
    x ∈ (c.step (.arrive f)).calls := by
  have ht := turn_arrive c f
  generalize c.step (.arrive f) = c' at ht
  cases ht with
  | still hs _ => rwa [hs.calls]
  | advance hm => cases hm
  | deliver _ hid hmem =>
    rw [Client.deliver, if_pos (by simpa using hmem), mem_updateCall]
    refine ⟨x, hx, if_neg ?_⟩
    rintro rfl
    exact hf hid

/-- A move with which a call begins. -/
def Move.isCall : Move → Bool
  | .call .. => true
  | _ => false

theorem length_calls_step (c : Client) {m : Move} (hm : ∀ id, m ≠ .abandon id) :
    c.calls.length ≤ (c.step m).calls.length ∧
      (c.step m).calls.length ≤ c.calls.length + [m].countP Move.isCall := by
  have ht := turn_step c hm
  generalize c.step m = c' at ht
  cases ht with
  | still hs _ => simp [hs.calls]
  | call method params => simp [Client.call, Move.isCall]
  | advance _ _ _ hcalls _ _ => simp [hcalls, setProgress, updateCall]
  | deliver _ _ hid => simp [Client.deliver, hid, updateCall, forget]
  | release reason => simp [Client.release]

/-- A run from the start in which no caller walks away from its call, and with fewer calls than
there are ids. -/
structure Course (c₀ : Client) (moves : List Move) : Prop where
  fresh : Fresh c₀
  driven : ∀ id, Move.abandon id ∉ moves
  few : moves.countP Move.isCall < 2 ^ 64

variable {c₀ : Client} {pre post moves : List Move} {m : Move}

/-- An item of a longer list is the one added last, or one of those before. -/
theorem split_concat {α : Type} {xs front back : List α} {x y : α}
    (h : xs ++ [x] = front ++ y :: back) :
    (xs = front ∧ x = y ∧ back = []) ∨ ∃ rest, back = rest ++ [x] ∧ xs = front ++ y :: rest := by
  rcases List.eq_nil_or_concat' back with rfl | ⟨rest, last, rfl⟩
  · obtain ⟨hxs, hx⟩ := List.append_inj' h rfl
    exact .inl ⟨hxs, List.singleton_inj.1 hx, rfl⟩
  · rw [← List.cons_append, ← List.append_assoc] at h
    obtain ⟨hxs, hx⟩ := List.append_inj' h rfl
    exact .inr ⟨rest, by rw [hx], hxs⟩

theorem run_concat (c : Client) (moves : List Move) (m : Move) :
    c.run (moves ++ [m]) = (c.run moves).step m := by
  simp [run]

theorem Course.front (h : Course c₀ (pre ++ post)) : Course c₀ pre := by
  refine ⟨h.fresh, fun id hid => h.driven id (List.mem_append_left _ hid), ?_⟩
  have := h.few
  rw [List.countP_append] at this
  omega

theorem Course.ne_abandon (h : Course c₀ (pre ++ m :: post)) (id : Nat) : m ≠ .abandon id := by
  rintro rfl
  exact h.driven id (by simp)

theorem Course.length_calls_le (h : Course c₀ moves) :
    (c₀.run moves).calls.length ≤ moves.countP Move.isCall := by
  induction moves using List.reverseRecOn with
  | nil => simp [run, h.fresh.calls]
  | append_singleton pre m ih =>
    have hstep := (length_calls_step (c₀.run pre) h.ne_abandon).2
    have := ih h.front
    rw [run_concat, List.countP_append]
    omega

/-- **What holds at every time** of every run. -/
theorem Course.sound (h : Course c₀ moves) : Sound (c₀.run moves) := by
  induction moves using List.reverseRecOn with
  | nil => exact h.fresh.sound
  | append_singleton pre m ih =>
    have hlen := Nat.lt_of_le_of_lt h.length_calls_le h.few
    rw [run_concat] at hlen ⊢
    exact (ih h.front).step h.ne_abandon hlen

theorem Course.length_calls_mono (h : Course c₀ (pre ++ post)) :
    (c₀.run pre).calls.length ≤ (c₀.run (pre ++ post)).calls.length := by
  induction post using List.reverseRecOn with
  | nil => simp
  | append_singleton post m ih =>
    rw [← List.append_assoc] at h ⊢
    rw [run_concat]
    exact Nat.le_trans (ih h.front) (length_calls_step _ h.ne_abandon).1

/-- A call that is over stays as it is to the end of the run. -/
theorem Course.done_run (h : Course c₀ (pre ++ post)) (hx : x ∈ (c₀.run pre).calls)
    {o : Except ClientError Json} (hdone : x.progress = .done o) :
    x ∈ (c₀.run (pre ++ post)).calls := by
  induction post using List.reverseRecOn with
  | nil => simpa using hx
  | append_singleton post m ih =>
    rw [← List.append_assoc] at h ⊢
    rw [run_concat]
    exact h.front.sound.done_step h.ne_abandon (ih h.front) hdone

/-- No frame of the run was heard as a response to the call. -/
def Unheard (c₀ : Client) (moves : List Move) (id : Nat) : Prop :=
  ∀ pre f post, moves = pre ++ .arrive f :: post → ¬ Hears (c₀.run pre) f id

/-- The frame that comes next is the first response to the call that is heard. -/
def FirstHears (c₀ : Client) (pre : List Move) (f : Json) (id : Nat) : Prop :=
  Hears (c₀.run pre) f id ∧ Unheard c₀ pre id

/-- The first response to the call that was heard in the run. -/
def FirstHeard (c₀ : Client) (moves : List Move) (f : Json) (id : Nat) : Prop :=
  ∃ pre post, moves = pre ++ .arrive f :: post ∧ FirstHears c₀ pre f id

theorem FirstHeard.concat {f : Json} {id : Nat} (h : FirstHeard c₀ pre f id) :
    FirstHeard c₀ (pre ++ [m]) f id := by
  obtain ⟨pre', post, rfl, hf⟩ := h
  exact ⟨pre', post ++ [m], by simp, hf⟩

theorem FirstHeard.not_unheard {f : Json} {id : Nat} (h : FirstHeard c₀ moves f id) :
    ¬ Unheard c₀ moves id := by
  obtain ⟨pre, post, hmoves, hf, -⟩ := h
  exact fun hu => hu pre f post hmoves hf

theorem Unheard.concat {id : Nat} (h : Unheard c₀ pre id)
    (hm : ∀ f, m.frame? = some f → ¬ Hears (c₀.run pre) f id) : Unheard c₀ (pre ++ [m]) id := by
  intro pre' f post hmoves
  rcases split_concat hmoves with ⟨rfl, rfl, -⟩ | ⟨post', -, hpre⟩
  · exact hm f rfl
  · exact h pre' f post' hpre

/-- Nothing can be heard for an id that is not yet given out. -/
theorem Course.unheard_new (h : Course c₀ moves) {id : Nat}
    (hid : (c₀.run moves).calls.length < id) : Unheard c₀ moves id := by
  rintro pre f post rfl ⟨-, -, x, hx, rfl, -⟩
  have hlen := h.length_calls_mono
  have := h.front.sound.id_lt hx
  omega

/-- What the slot of a call tells about the past. -/
def Tells (c₀ : Client) (moves : List Move) (id : Nat) : Slot → Prop
  | .filled f => FirstHeard c₀ moves f id
  | _ => Unheard c₀ moves id

theorem Tells.refill {slot : Slot} (h : Tells c₀ pre x.id x.slot)
    (hr : Refill (c₀.run pre) m x slot) : Tells c₀ (pre ++ [m]) x.id slot := by
  cases hr with
  | keep hk =>
    cases hs : x.slot with
    | filled f =>
      rw [hs] at h
      exact FirstHeard.concat h
    | empty | dropped =>
      rw [hs] at h
      refine Unheard.concat h fun f hf hears => ?_
      obtain ⟨g, hg⟩ := hk f hf hears
      rw [hs] at hg
      cases hg
  | @fill f hm hf hs =>
    rw [hs] at h
    cases m <;> cases hm
    exact ⟨pre, [], rfl, hf, h⟩
  | drop hm hs =>
    rw [hs] at h
    exact Unheard.concat h fun f hf => by simp [hm] at hf

/-- **A filled slot holds the first response that was heard**, and where the slot is not filled none
was heard. -/
theorem Course.slot_history (h : Course c₀ moves) (hx : x ∈ (c₀.run moves).calls) :
    Tells c₀ moves x.id x.slot := by
  induction moves using List.reverseRecOn generalizing x with
  | nil => simp [run, h.fresh.calls] at hx
  | append_singleton pre m ih =>
    have hlen := Nat.lt_of_le_of_lt h.length_calls_le h.few
    rw [run_concat] at hlen hx
    rcases h.front.sound.refill_step h.ne_abandon hlen hx with
      ⟨hframe, hslot, hid⟩ | ⟨y, hy, hid, hrefill⟩
    · rw [hslot]
      have hnew : Unheard c₀ pre x.id := h.front.unheard_new (by omega)
      exact hnew.concat fun f hf => by simp [hframe] at hf
    · rw [← hid]
      exact (ih h.front hy).refill hrefill

/-! ### Routing -/

theorem request_id (id : Nat) (method : String) (params : Option Json) :
    (Message.request id method params).get? "id" = some (.nat id) := by
  unfold Message.request
  cases params <;> rw [Json.get?_object] <;> simp [Message.paramsMember]

theorem outcomeOf_rpc_iff {method : String} {f : Json} :
    (∃ code message, outcomeOf method f = .error (.rpc method code message)) ↔
      (f.get? "error").isSome := by
  unfold outcomeOf
  cases f.get? "error" <;> simp

theorem Sound.call?_eq (h : Sound c) (hx : x ∈ c.calls) : c.call? x.id = some x := by
  cases hc : c.call? x.id with
  | none =>
    exact absurd (List.find?_eq_none.1 hc x hx) (by simp)
  | some y =>
    obtain ⟨hy, hid⟩ := call?_eq_some hc
    rw [h.eq_of_id_eq hy hx hid]

/-- A response to a call that is known and open is left for it. -/
theorem mem_step_response (hx : x ∈ c.calls) (hr : c.reading = true) (ho : x.isOpen = true)
    (hk : x.id ∈ c.pending) {f : Json} (hf : Responds f x.id) :
    { x with slot := .filled f } ∈ (c.step (.arrive f)).calls := by
  rw [step_response hr hf, Client.deliver, if_pos (by simpa using hk), mem_updateCall]
  exact ⟨x, hx, by simp [Call.leave, ho]⟩

/-- A call that looks and finds a response ends with it. -/
theorem Sound.mem_step_collect (h : Sound c) (hx : x ∈ c.calls) (hp : x.progress = .waiting)
    {f : Json} (hs : x.slot = .filled f) :
    { x with progress := .done (outcomeOf x.method f) } ∈ (c.step (.collect x.id)).calls := by
  have hstep : c.step (.collect x.id) = c.setProgress x.id (.done (outcomeOf x.method f)) := by
    rw [Client.step, collect, h.call?_eq hx]
    simp only [hp, hs]
  rw [hstep, setProgress, mem_updateCall]
  exact ⟨x, hx, if_pos rfl⟩

/-- What routing promises of a run. -/
structure Routed (c₀ : Client) (moves : List Move) : Prop where
  /-- No two calls have the same id, and each sends its own. -/
  distinct : ((c₀.run moves).calls.map (·.id)).Nodup ∧
    ∀ x ∈ (c₀.run moves).calls, x.frame.get? "id" = some (.nat x.id)
  /-- A call that is over stays as it is. -/
  once : ∀ pre post, moves = pre ++ post → ∀ x ∈ (c₀.run pre).calls, ∀ o,
    x.progress = .done o → x ∈ (c₀.run moves).calls
  /-- A call that did not give up has its outcome from the first response to it that was heard, an
  error exactly if the response has one. -/
  answered : ∀ x ∈ (c₀.run moves).calls, ∀ o, x.progress = .done o →
    GaveUp o ∨ ∃ f, FirstHeard c₀ moves f x.id ∧ o = outcomeOf x.method f ∧
      ((∃ code message, o = .error (.rpc x.method code message)) ↔ (f.get? "error").isSome)
  /-- A frame changes at most one call, and only one that it is a response to. -/
  exclusive : ∀ pre f post, moves = pre ++ .arrive f :: post →
    ∀ x ∈ (c₀.run pre).calls, x ∉ (c₀.run (pre ++ [.arrive f])).calls →
      Responds f x.id ∧ ∀ y ∈ (c₀.run pre).calls, y ∉ (c₀.run (pre ++ [.arrive f])).calls → y = x
  /-- The first response to an open call is not lost: it is left for the call, which ends with it if
  it looks. -/
  kept : ∀ pre f post, moves = pre ++ .arrive f :: post →
    ∀ x ∈ (c₀.run pre).calls, x.isOpen = true → FirstHears c₀ pre f x.id →
      x.id ∈ (c₀.run pre).pending ∧
      { x with slot := .filled f } ∈ (c₀.run (pre ++ [.arrive f])).calls ∧
      (x.progress = .waiting →
        { x with slot := .filled f, progress := .done (outcomeOf x.method f) } ∈
          (c₀.run (pre ++ [.arrive f, .collect x.id])).calls)
  /-- The reader does not know a call that is over, then or later. -/
  forgotten : ∀ pre post, moves = pre ++ post → ∀ x ∈ (c₀.run pre).calls, ∀ o,
    x.progress = .done o → x.id ∉ (c₀.run moves).pending

theorem Sound.of_done (h : Sound c) (hx : x ∈ c.calls) {o : Except ClientError Json}
    (hdone : x.progress = .done o) :
    x.id ∉ c.pending ∧ (GaveUp o ∨ ∃ f, x.slot = .filled f ∧ o = outcomeOf x.method f) := by
  have hs := h.calls x hx
  unfold Call.Sound at hs
  rwa [hdone] at hs

theorem Course.answered (h : Course c₀ moves) (hx : x ∈ (c₀.run moves).calls)
    {o : Except ClientError Json} (hdone : x.progress = .done o) :
    GaveUp o ∨ ∃ f, FirstHeard c₀ moves f x.id ∧ o = outcomeOf x.method f := by
  rcases (h.sound.of_done hx hdone).2 with hgave | ⟨f, hslot, ho⟩
  · exact .inl hgave
  · have hfirst := h.slot_history hx
    rw [hslot] at hfirst
    exact .inr ⟨f, hfirst, ho⟩

theorem Course.known_of_firstHears (h : Course c₀ pre) (hx : x ∈ (c₀.run pre).calls)
    (ho : x.isOpen = true) {f : Json} (hf : FirstHears c₀ pre f x.id) :
    x.id ∈ (c₀.run pre).pending := by
  obtain ⟨⟨hr, -, -⟩, hunheard⟩ := hf
  rcases ((h.sound.calls x hx).of_open ho).2 hr with hk | ⟨g, hg⟩
  · exact hk
  · have hfirst := h.slot_history hx
    rw [hg] at hfirst
    exact absurd hunheard hfirst.not_unheard

/-- **Every response reaches the call it belongs to**, in whatever order the steps of the calls, the
frames of the server, the end of their time and the end of reading come. -/
theorem responses_routed (h : Course c₀ moves) : Routed c₀ moves where
  distinct := by
    refine ⟨h.sound.nodup, fun x hx => ?_⟩
    obtain ⟨params, hp⟩ := h.sound.frames x hx
    rw [hp, request_id]
  once := by
    rintro pre post rfl x hx o hdone
    exact h.done_run hx hdone
  answered := by
    intro x hx o hdone
    rcases h.answered hx hdone with hgave | ⟨f, hf, rfl⟩
    · exact .inl hgave
    · exact .inr ⟨f, hf, rfl, outcomeOf_rpc_iff⟩
  exclusive := by
    rintro pre f post rfl
    rw [run_concat]
    -- a call that the frame has changed is one that it is a response to
    have hchanged : ∀ x ∈ (c₀.run pre).calls, x ∉ ((c₀.run pre).step (.arrive f)).calls →
        Responds f x.id := fun x hx => not_imp_comm.1 (mem_step_arrive hx)
    intro x hx hx'
    refine ⟨hchanged x hx hx', fun y hy hy' => ?_⟩
    exact h.front.sound.eq_of_id_eq hy hx ((hchanged y hy hy').id_unique (hchanged x hx hx'))
  kept := by
    rintro pre f post rfl x hx ho hf
    have hk := h.front.known_of_firstHears hx ho hf
    have hleft := mem_step_response hx hf.1.1 ho hk hf.1.2.1
    rw [List.append_cons] at h
    rw [← run_concat] at hleft
    refine ⟨hk, hleft, fun hp => ?_⟩
    rw [List.append_cons, run_concat]
    exact h.front.sound.mem_step_collect hleft hp rfl
  forgotten := by
    rintro pre post rfl x hx o hdone
    exact (h.sound.of_done (h.done_run hx hdone) hdone).1

/-- Three calls whose steps mix with responses out of order, again, unasked and too late. -/
def bustle : List Move :=
  [.call "a" none, .call "b" none, .register 2, .call "c" none, .register 1, .submit 2, .submit 1,
    .write, .arrive (.obj [("id", .nat 3), ("result", .null)]), .register 3, .submit 3,
    .arrive (.obj [("error", .obj [("code", .int 7)]), ("id", .nat 2)]),
    .arrive (.obj [("id", .nat 2), ("result", .null)]), .arrive (.obj [("id", .str "1")]),
    .arrive (.obj [("id", .nat 1), ("result", .bool true)]), .collect 2, .collect 1, .expire 3,
    .arrive (.obj [("id", .nat 3), ("result", .null)]), .withdraw 3, .collect 3]

theorem responses_routed_bustle : Course {} bustle ∧ Routed {} bustle ∧
    (run {} bustle).calls.map (·.progress) =
      [.done (.ok (.bool true)), .done (.error (.rpc "b" 7 "unknown error")),
        .done (.error (.timeout "c" (Duration.ofSeconds 30)))] := by
  have h : Course {} bustle := ⟨⟨rfl, rfl, rfl⟩, by simp [bustle], by decide⟩
  exact ⟨h, responses_routed h, rfl⟩

end Sidecar.Client
