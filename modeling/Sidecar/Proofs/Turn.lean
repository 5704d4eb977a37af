/-
# What a move does to the calls of a client

Most moves do not touch the calls of a client, nor what its reader knows of
them (`Still`). The others do one of four things: a call takes an id, a call
takes a step of its own (`Advance`), the reader gives a response to a call it
knows, or it lets go of all of them. `Turn` lists these with all they depend
on, and `turn_step` says that no move does anything else, unless a caller
walks away from its call.

Key definitions: `Client.Responds`, `Client.Advance`, `Client.Turn`.
Key theorem: `Client.turn_step`.
-/
import Mathlib.Tactic.Common
import Sidecar.Client.Basic

namespace Sidecar.Client

/-- A frame is a response to the call with the given id: it has that id, no method, and a result or
an error. -/
def Responds (frame : Json) (id : Nat) : Prop :=
  (frame.get? "id").bind Json.unsigned? = some id ∧
  (frame.get? "method").bind Json.str? = none ∧
  ((frame.get? "result").isSome ∨ (frame.get? "error").isSome)

theorem Responds.id_unique {f : Json} {id id' : Nat} (h : Responds f id) (h' : Responds f id') :
    id = id' :=
  Option.some.inj (h.1.symm.trans h'.1)

theorem ofFrame?_eq_response_iff {f g : Json} {id : Nat} :
    Incoming.ofFrame? f = some (.response id g) ↔ g = f ∧ Responds f id := by
  unfold Incoming.ofFrame? Responds
  cases hid : f.get? "id" <;> cases hm : (f.get? "method").bind Json.str? <;>
    simp only [Option.bind_none, Option.bind_some, Bool.or_eq_true]
  case some.none v =>
    split_ifs with ho
    · cases v.unsigned? with
      | none => simp
      | some i =>
        simp only [Option.map_some, Option.some.injEq, Incoming.response.injEq, ho, and_true]
        rw [and_comm, eq_comm (a := f)]
    · simp [ho]
  all_goals simp

theorem dispatch_response (c : Client) {f : Json} {id : Nat} (h : Responds f id) :
    c.dispatch f = c.deliver id f := by
  rw [dispatch, ofFrame?_eq_response_iff.2 ⟨rfl, h⟩]

theorem step_response {c : Client} (hr : c.reading = true) {f : Json} {id : Nat}
    (h : Responds f id) : c.step (.arrive f) = c.deliver id f := by
  rw [step, if_pos hr, dispatch_response c h]

/-! ### Moves that leave the calls alone -/

/-- The calls, the ids the reader knows and the next id are as before, and reading has not begun
again. -/
structure Still (c c' : Client) : Prop where
  calls : c'.calls = c.calls
  pending : c'.pending = c.pending
  nextId : c'.nextId = c.nextId
  reading : c'.reading = true → c.reading = true

theorem Still.refl (c : Client) : Still c c := ⟨rfl, rfl, rfl, id⟩

theorem still_of_enqueue? {c c' : Client} {frame : Json} (h : c.enqueue? frame = some c') :
    Still c c' := by
  unfold enqueue? at h
  split_ifs at h
  cases h
  exact ⟨rfl, rfl, rfl, id⟩

theorem still_notify (c : Client) (method : String) (params : Option Json) :
    Still c (c.notify method params).2 := by
  unfold notify
  cases h : c.enqueue? (Message.notification method params) with
  | none => exact .refl c
  | some c' => exact still_of_enqueue? h

theorem still_didOpen (c : Client) (uri text : String) : Still c (c.didOpen uri text).2 :=
  have h := still_notify (c.setVersion uri 1) "textDocument/didOpen"
    (some (Message.openParams uri c.language 1 text))
  ⟨h.calls, h.pending, h.nextId, h.reading⟩

theorem still_didChange (c : Client) (uri text : String) : Still c (c.didChange uri text).2 := by
  unfold didChange
  cases c.version? uri with
  | none => exact still_didOpen c uri text
  | some v =>
    have h := still_notify (c.setVersion uri (v + 1)) "textDocument/didChange"
      (some (Message.changeParams uri (v + 1) text))
    exact ⟨h.calls, h.pending, h.nextId, h.reading⟩

theorem still_didClose (c : Client) (uri : String) : Still c (c.didClose uri).2 :=
  have h := still_notify (c.dropVersion uri) "textDocument/didClose"
    (some (Message.uriParams uri))
  ⟨h.calls, h.pending, h.nextId, h.reading⟩

theorem still_offer (c : Client) (e : ServerEvent) : Still c (c.offer e) := by
  unfold offer
  split_ifs
  · exact ⟨rfl, rfl, rfl, id⟩
  · exact .refl c

section EndReading

variable (c : Client) (reason : ChannelEnd)

@[simp]
theorem endReading_calls : (c.endReading reason).calls = c.release.calls :=
  (still_offer _ _).calls

@[simp]
theorem endReading_pending : (c.endReading reason).pending = [] :=
  (still_offer _ _).pending

@[simp]
theorem endReading_nextId : (c.endReading reason).nextId = c.nextId :=
  (still_offer _ _).nextId

@[simp]
theorem endReading_reading : (c.endReading reason).reading = false :=
  Bool.eq_false_iff.2 fun h => nomatch (still_offer _ _).reading h

end EndReading

theorem still_handle (c : Client) (method : String) (params : Option Json) :
    Still c (c.handle method params) := by
  unfold handle
  split
  · split
    · exact still_offer c _
    · exact .refl c
  on_goal 4 => exact .refl c
  -- the three kinds of message to the user
  all_goals
    split
    · exact ⟨rfl, rfl, rfl, id⟩
    · exact .refl c

/-- A frame that is no response leaves the calls alone. -/
theorem still_dispatch (c : Client) {f : Json} (h : ∀ id, ¬ Responds f id) :
    Still c (c.dispatch f) := by
  unfold dispatch
  split
  · exact .refl c
  · next id g hf => exact absurd (ofFrame?_eq_response_iff.1 hf).2 (h id)
  · next id method _ =>
    cases he : c.enqueue? (Message.methodNotFound id method) with
    | none => exact .refl c
    | some c' => exact still_of_enqueue? he
  · exact still_handle c _ _

theorem still_write (c : Client) : Still c ((c.takeFrame?.map (·.2)).getD c) := by
  unfold takeFrame?
  split
  · split_ifs
    · exact ⟨rfl, rfl, rfl, id⟩
    · exact .refl c
  · exact .refl c

theorem still_shut (c : Client) : Still c c.shut := ⟨rfl, rfl, rfl, fun h => nomatch h⟩

/-! ### Steps of a call -/

/-- A call takes a step of its own: how far it then has come, and the ids the reader knows after. -/
inductive Advance (pending : List Nat) (x : Call) : Progress → List Nat → Prop where
  | register (h : x.progress = .numbered) : Advance pending x .registered (x.id :: pending)
  | submit (h : x.progress = .registered) : Advance pending x .waiting pending
  | refuse (h : x.progress = .registered) : Advance pending x (.leaving (.error .closed)) pending
  | collect {f : Json} (h : x.progress = .waiting) (hs : x.slot = .filled f) :
      Advance pending x (.done (outcomeOf x.method f)) pending
  | miss (h : x.progress = .waiting) (hs : x.slot = .dropped) :
      Advance pending x (.leaving (.error .closed)) pending
  | expire (after : Duration) (h : x.progress = .waiting) :
      Advance pending x (.leaving (.error (.timeout x.method after))) pending
  | withdraw {o : Except ClientError Json} (h : x.progress = .leaving o) :
      Advance pending x (.done o) (pending.filter (· != x.id))

/-- The frame that a move brings. -/
def Move.frame? : Move → Option Json
  | .arrive f => some f
  | _ => none

/-- Everything that a move can do to the calls and to what the reader knows of them. -/
inductive Turn (c : Client) : Move → Client → Prop where
  /-- Nothing. A response that does nothing is to a call the reader does not know. -/
  | still {m : Move} {c' : Client} (h : Still c c')
      (hm : ∀ f id, m.frame? = some f → c.reading = true → Responds f id → id ∉ c.pending) :
      Turn c m c'
  | call (method : String) (params : Option Json) :
      Turn c (.call method params) (c.call method params)
  | advance {m : Move} {c' : Client} {x : Call} {p : Progress} (hm : m.frame? = none)
      (hx : x ∈ c.calls) (hp : Advance c.pending x p c'.pending)
      (calls : c'.calls = (c.setProgress x.id p).calls) (nextId : c'.nextId = c.nextId)
      (reading : c'.reading = c.reading) : Turn c m c'
  | deliver {f : Json} {id : Nat} (hr : c.reading = true) (h : Responds f id)
      (hid : id ∈ c.pending) : Turn c (.arrive f) (c.deliver id f)
  | release (reason : ChannelEnd) : Turn c (.endReading reason) (c.endReading reason)

theorem call?_eq_some {c : Client} {id : Nat} {x : Call} (h : c.call? id = some x) :
    x ∈ c.calls ∧ x.id = id :=
  ⟨List.mem_of_find?_eq_some h, by simpa using List.find?_some h⟩

section Turns

variable (c : Client) (id : Nat)

/-- A move that is not the arrival of a frame may do nothing. -/
theorem Turn.idle {c : Client} {m : Move} (hm : m.frame? = none) {c' : Client}
    (h : Still c c') : Turn c m c' :=
  .still h fun f _ hf => by simp [hm] at hf

theorem turn_register : Turn c (.register id) (c.register id) := by
  unfold register
  split
  · next x hx =>
    obtain ⟨hmem, rfl⟩ := call?_eq_some hx
    split
    · next hp => exact .advance rfl hmem (.register hp) rfl rfl rfl
    · exact .idle rfl (.refl c)
  · exact .idle rfl (.refl c)

theorem turn_submit : Turn c (.submit id) (c.submit id) := by
  unfold submit
  split
  · next x hx =>
    obtain ⟨hmem, rfl⟩ := call?_eq_some hx
    split
    · next hp =>
      cases he : c.enqueue? x.frame with
      | none => exact .advance rfl hmem (.refuse hp) rfl rfl rfl
      | some c' =>
        unfold enqueue? at he
        split_ifs at he
        cases he
        exact .advance rfl hmem (.submit hp) rfl rfl rfl
    · exact .idle rfl (.refl c)
  · exact .idle rfl (.refl c)

theorem turn_collect : Turn c (.collect id) (c.collect id) := by
  unfold collect
  split
  · next x hx =>
    obtain ⟨hmem, rfl⟩ := call?_eq_some hx
    split
    · next hp =>
      split
      · next f hs => exact .advance rfl hmem (.collect hp hs) rfl rfl rfl
      · next hs => exact .advance rfl hmem (.miss hp hs) rfl rfl rfl
      · exact .idle rfl (.refl c)
    · exact .idle rfl (.refl c)
  · exact .idle rfl (.refl c)

theorem turn_expire : Turn c (.expire id) (c.expire id) := by
  unfold expire
  split
  · next x hx =>
    obtain ⟨hmem, rfl⟩ := call?_eq_some hx
    split
    · next hp => exact .advance rfl hmem (.expire c.requestTimeout hp) rfl rfl rfl
    · exact .idle rfl (.refl c)
  · exact .idle rfl (.refl c)

theorem turn_withdraw : Turn c (.withdraw id) (c.withdraw id) := by
  unfold withdraw
  split
  · next x hx =>
    obtain ⟨hmem, rfl⟩ := call?_eq_some hx
    split
    · next o hp => exact .advance rfl hmem (.withdraw hp) rfl rfl rfl
    · exact .idle rfl (.refl c)
  · exact .idle rfl (.refl c)

theorem turn_arrive (f : Json) : Turn c (.arrive f) (c.step (.arrive f)) := by
  by_cases hr : c.reading = true
  · by_cases hf : ∃ id, Responds f id
    · obtain ⟨id, hf⟩ := hf
      rw [step_response hr hf]
      by_cases hid : id ∈ c.pending
      · exact .deliver hr hf hid
      · refine .still ?_ ?_
        · rw [deliver, if_neg (by simpa using hid)]
          exact .refl c
        · rintro g id' ⟨⟩ - hg
          rwa [hg.id_unique hf]
    · rw [step, if_pos hr]
      refine .still (still_dispatch c fun id h => hf ⟨id, h⟩) ?_
      rintro g id ⟨⟩ - hg
      exact absurd ⟨id, hg⟩ hf
  · rw [step, if_neg hr]
    exact .still (.refl c) fun _ _ _ h => absurd h hr

end Turns

/-- **No move does anything else**, unless a caller walks away from its call. -/
theorem turn_step (c : Client) {m : Move} (hm : ∀ id, m ≠ .abandon id) : Turn c m (c.step m) := by
  cases m with
  | call method params => exact .call method params
  | register id => exact turn_register c id
  | submit id => exact turn_submit c id
  | collect id => exact turn_collect c id
  | expire id => exact turn_expire c id
  | withdraw id => exact turn_withdraw c id
  | abandon id => exact absurd rfl (hm id)
  | notify method params => exact .idle rfl (still_notify c method params)
  | «open» uri text => exact .idle rfl (still_didOpen c uri text)
  | change uri text => exact .idle rfl (still_didChange c uri text)
  | save uri => exact .idle rfl (still_notify c _ _)
  | close uri => exact .idle rfl (still_didClose c uri)
  | configure settings => exact .idle rfl (still_notify c _ _)
  | arrive f => exact turn_arrive c f
  | endReading reason =>
    rw [step]
    split_ifs
    · exact .release reason
    · exact .idle rfl (.refl c)
  | write => exact .idle rfl (still_write c)
  | stopWriting => exact .idle rfl ⟨rfl, rfl, rfl, id⟩
  | shut => exact .idle rfl (still_shut c)
  | takeEvent => exact .idle rfl ⟨rfl, rfl, rfl, id⟩

end Sidecar.Client
