/-
# Frames reach the peer in the order in which they were accepted

A line is a client with its writer, the bytes under way, and a peer that reads
them. Any number of callers hand frames over, the reader of the client hands
over its replies, and someone may order the writer to end; all of them wait
where the queue is full. The writer takes one command after another and puts
the bytes of a frame on the wire in pieces of any size. It ends on the order,
when a write fails or when nobody is left, and it may be given up at any time.

Whatever comes in whatever order, a frame that was accepted is decoded, or its
bytes are in the pipe, or the writer has not taken it, in this order
(`Ordered`). So what is decoded is a prefix of what was accepted. Behind the
order to end there is a fixed list of frames still to be heard, and as long as
nothing breaks off none of them is lost (`Closing`).

Key definitions: `Line`, `Line.step`, `Line.Ordered`, `Line.Closing`, `Line.PeerReads`.
Key theorems: `Line.Ordered.step`, `Line.Closing.step`, `Line.frames_delivered_in_order`.
-/
import Sidecar.Proofs.Documents
import Sidecar.Proofs.Pipe
import Sidecar.Proofs.Schedule

namespace Sidecar

namespace Line

/-- How far the writer of the client has come. -/
inductive Stage where
  /-- It takes frames. -/
  | working
  /-- It takes no more frames, and its end is still to be closed. -/
  | ending
  | closed
  deriving DecidableEq, Repr

/-- How many commands wait for the writer at most. -/
def capacity : Nat := 64

end Line

/-- A client, its writer, and a peer that reads what is written. -/
structure Line where
  client : Client
  stage : Line.Stage := .working
  /-- How many frames stand before the order to end; nothing if there is no such order. -/
  order : Option Nat := none
  pipe : Frame.Pipe := {}
  /-- The frames that were accepted into the queue. -/
  accepted : List Json := []
  /-- What the peer has read. -/
  heard : List Frame.Item := []

namespace Line

/-- What can happen next. -/
inductive Move where
  /-- What callers and the reader of the client do. -/
  | own (m : Client.Move)
  /-- The order to end is given. -/
  | close
  /-- The writer takes a frame. -/
  | take
  | put (n : Nat)
  /-- A write fails. -/
  | fail
  /-- The writer takes the order to end. -/
  | obey
  /-- The writer learns that nobody is left to hand it frames. -/
  | desert
  /-- The writer closes its end and is over. -/
  | finish
  /-- The client is given up. -/
  | abort
  | carry (n : Nat)
  | notice
  /-- The peer reads. -/
  | decode

/-- Whether a move is up to the writer. -/
def isWriters : Client.Move → Bool
  | .write | .stopWriting | .shut => true
  | _ => false

/-- How many commands wait for the writer, the order to end included. -/
def load (l : Line) : Nat := l.client.queue.length + l.order.toList.length

/-- Whether the writer is between two frames. -/
def atRest (l : Line) : Bool := l.stage == .working && l.pipe.unput.isEmpty

/-- Callers and the reader work on the client; what they add to the queue is accepted. -/
def accept (l : Line) (c : Client) : Line :=
  { l with client := c, accepted := l.accepted ++ c.queue.drop l.client.queue.length }

/-- Whether what was read goes up to the end. -/
def atEnd (items : List Frame.Item) : Bool :=
  match items.getLast? with
  | some .ended => true
  | _ => false

/-- The peer reads what has arrived. -/
def decode (l : Line) : Line :=
  match l.pipe.read with
  | .done v rest => { l with pipe := { l.pipe with arrived := rest }, heard := l.heard ++ [.frame v] }
  | .failed e rest =>
    { l with pipe := { l.pipe with arrived := rest }, heard := l.heard ++ [.error e] }
  | .ended => { l with heard := l.heard ++ [.ended] }
  | .awaiting => l

/-- What a move does. Who finds the queue full waits, and so does a writer that has nothing to
write. -/
def step (l : Line) : Move → Line
  | .own m =>
    if isWriters m || decide (capacity < (l.accept (l.client.step m)).load) then l
    else l.accept (l.client.step m)
  | .close =>
    if l.order.isNone && l.client.writing && decide (l.load < capacity) then
      { l with order := some l.client.queue.length }
    else l
  | .take =>
    match l.client.takeFrame? with
    | some (frame, c) =>
      if l.atRest && l.order != some 0 then
        { l with client := c, order := l.order.map (· - 1), pipe := l.pipe.begin frame }
      else l
    | none => l
  | .put n => { l with pipe := l.pipe.put n }
  | .fail => if l.stage == .working then { l with stage := .ending, pipe := l.pipe.giveUp } else l
  | .obey => if l.atRest && l.order == some 0 then { l with stage := .ending, order := none } else l
  | .desert =>
    if l.atRest && l.order.isNone && l.client.queue.isEmpty then { l with stage := .ending } else l
  | .finish =>
    if l.stage == .ending then
      { l with stage := .closed, pipe := l.pipe.close, client := l.client.step .stopWriting }
    else l
  | .abort => { l with stage := .closed, pipe := l.pipe.close, client := l.client.step .shut }
  | .carry n => { l with pipe := l.pipe.carry n }
  | .notice => { l with pipe := l.pipe.notice }
  | .decode => if atEnd l.heard then l else l.decode


section Queue

open Client

theorem prefix_of_posts {c c' : Client} {frames : List Json} (h : Posts c c' frames) :
    c.queue <+: c'.queue :=
  ⟨frames, h.queue.symm⟩

theorem prefix_of_enqueue? {c c' : Client} {frame : Json} (h : c.enqueue? frame = some c') :
    c.queue <+: c'.queue := by
  unfold enqueue? at h
  split_ifs at h
  cases h
  exact List.prefix_append _ _

variable (c : Client)

theorem prefix_notify (method : String) (params : Option Json) :
    c.queue <+: (c.notify method params).2.queue := by
  unfold Client.notify
  cases h : c.enqueue? (Message.notification method params) with
  | none => exact List.prefix_rfl
  | some c' => exact prefix_of_enqueue? h

theorem prefix_didChange (uri text : String) : c.queue <+: (c.didChange uri text).2.queue := by
  unfold didChange
  cases c.version? uri with
  | none => exact prefix_notify (c.setVersion uri 1) _ _
  | some v => exact prefix_notify (c.setVersion uri (v + 1)) _ _

theorem prefix_submit (id : Nat) : c.queue <+: (c.submit id).queue := by
  unfold submit
  split
  · next x _ =>
    split
    · cases h : c.enqueue? x.frame with
      | none => exact List.prefix_rfl
      | some c' =>
        have hq : c.queue <+: c'.queue := prefix_of_enqueue? h
        exact hq
    · exact List.prefix_rfl
  · exact List.prefix_rfl

theorem prefix_dispatch (f : Json) : c.queue <+: (c.dispatch f).queue := by
  unfold dispatch
  split
  · exact List.prefix_rfl
  · unfold deliver
    split <;> exact List.prefix_rfl
  · next id method _ =>
    cases h : c.enqueue? (Message.methodNotFound id method) with
    | none => exact List.prefix_rfl
    | some c' => exact prefix_of_enqueue? h
  · exact prefix_of_posts (posts_handle c _ _)

/-- Callers and the reader only ever add to the queue. -/
theorem prefix_step {m : Client.Move} (hm : isWriters m = false) : c.queue <+: (c.step m).queue := by
  cases m with
  | write | stopWriting | shut => cases hm
  | call | abandon | takeEvent => exact List.prefix_rfl
  | register id => exact prefix_of_posts (posts_own_step c id).1
  | collect id => exact prefix_of_posts (posts_own_step c id).2.1
  | expire id => exact prefix_of_posts (posts_own_step c id).2.2.1
  | withdraw id => exact prefix_of_posts (posts_own_step c id).2.2.2
  | submit id => exact prefix_submit c id
  | notify | save | configure => exact prefix_notify c _ _
  | «open» uri text => exact prefix_notify (c.setVersion uri 1) _ _
  | change uri text => exact prefix_didChange c uri text
  | close uri => exact prefix_notify (c.dropVersion uri) _ _
  | arrive f =>
    rw [Client.step]
    split
    · exact prefix_dispatch c f
    · exact List.prefix_rfl
  | endReading reason =>
    rw [Client.step]
    split
    · exact prefix_of_posts (posts_endReading c reason)
    · exact List.prefix_rfl

end Queue

variable {l : Line}

theorem takeFrame?_eq_some {c c' : Client} {frame : Json} (h : c.takeFrame? = some (frame, c')) :
    c.queue = frame :: c'.queue ∧ c'.writing = c.writing := by
  unfold Client.takeFrame? at h
  split at h
  · next f rest hq =>
    split_ifs at h
    cases h
    exact ⟨hq, rfl⟩
  · cases h

/-! ### What is decoded is what was accepted first -/

/-- The frames that the peer has decoded. -/
def frames (l : Line) : List Json :=
  l.heard.filterMap fun
    | .frame v => some v
    | _ => none

/-- Where the accepted frames are: decoded, in the pipe as far as their bytes were not given up, or
not taken by the writer. As long as the writer works nothing is lost, and nothing but frames is
heard. -/
structure Ordered (l : Line) (vs : List Json) (lost : List UInt8) (rest : List Json) : Prop where
  accepted : l.accepted = l.frames ++ (vs ++ rest)
  carries : l.pipe.Carries vs lost
  working : l.stage = .working → lost = [] ∧ rest = l.client.queue ∧ l.pipe.shut = false ∧
    l.heard = l.frames.map .frame

section Ordered

variable {vs rest : List Json} {lost : List UInt8}

theorem Ordered.own (h : l.Ordered vs lost rest) {c : Client} (hc : l.client.queue <+: c.queue) :
    ∃ rest, (l.accept c).Ordered vs lost rest := by
  obtain ⟨added, hadded⟩ := hc
  have hdrop : c.queue.drop l.client.queue.length = added := by
    rw [← hadded, List.drop_left']
    rfl
  refine ⟨rest ++ added, ?_, h.carries, fun hs => ?_⟩
  · rw [accept, hdrop]
    simp [frames, h.accepted]
  · obtain ⟨hlost, hrest, hopen⟩ := h.working hs
    exact ⟨hlost, by rw [hrest, hadded]; rfl, hopen⟩

theorem Ordered.take (h : l.Ordered vs lost rest) {frame : Json} {c : Client}
    (hc : l.client.takeFrame? = some (frame, c)) (hrest : l.atRest = true) (order : Option Nat) :
    { l with client := c, order, pipe := l.pipe.begin frame }.Ordered (vs ++ [frame]) [] c.queue := by
  simp only [atRest, Bool.and_eq_true, beq_iff_eq, List.isEmpty_iff] at hrest
  obtain ⟨rfl, rfl, hshut, hheard⟩ := h.working hrest.1
  have hq := (takeFrame?_eq_some hc).1
  refine ⟨?_, h.carries.begin hrest.2 hshut frame, fun _ => ⟨rfl, rfl, hshut, hheard⟩⟩
  rw [← List.append_cons, ← hq]
  exact h.accepted

/-- The writer no longer takes frames; what it had begun may be given up. -/
theorem Ordered.stop (h : l.Ordered vs lost rest) {l' : Line} (hstage : l'.stage ≠ .working)
    (haccepted : l'.accepted = l.accepted) (hheard : l'.heard = l.heard)
    (hpipe : l'.pipe.Carries vs (l.pipe.unput ++ lost)) :
    l'.Ordered vs (l.pipe.unput ++ lost) rest := by
  refine ⟨?_, hpipe, fun hs => absurd hs hstage⟩
  rw [haccepted, frames, hheard]
  exact h.accepted

theorem Ordered.decode (h : l.Ordered vs lost rest) (hvs : ∀ v ∈ vs, Frame.Readable v) :
    ∃ vs lost rest, l.decode.Ordered vs lost rest := by
  have hr := h.carries.reading fun v hv => (hvs v hv).legible
  unfold Line.decode
  generalize l.pipe.read = outcome at hr
  cases hr with
  | @done v vs bs hbs =>
    have hv := (hvs v List.mem_cons_self).integral.reread_eq
    refine ⟨vs, lost, rest, ?_, h.carries.take hbs, fun hs => ?_⟩
    · simp [frames, hv, h.accepted]
    · obtain ⟨hlost, hrest, hshut, hheard⟩ := h.working hs
      refine ⟨hlost, hrest, hshut, ?_⟩
      simp only [frames, List.filterMap_append, List.map_append, hv]
      exact congrArg (· ++ [.frame v]) hheard
  | awaiting => exact ⟨vs, lost, rest, h⟩
  | ended hend =>
    refine ⟨vs, lost, rest, by simp [frames, h.accepted], h.carries, fun hs => ?_⟩
    exact absurd (h.carries.ended hend).1 (by simp [(h.working hs).2.2.1])
  | cut e hend =>
    -- what is cut off is the last thing in the pipe
    obtain ⟨hshut, hwire⟩ := h.carries.ended hend
    refine ⟨[], [], vs ++ rest, by simp [frames, h.accepted], ⟨?_, h.carries.shut, h.carries.ended⟩,
      fun hs => ?_⟩
    · simp [hwire, h.carries.shut hshut]
    · exact absurd hshut (by simp [(h.working hs).2.2.1])

/-- **No move mixes the frames up.** -/
theorem Ordered.step (h : l.Ordered vs lost rest) (hvs : ∀ v ∈ l.accepted, Frame.Readable v)
    (m : Move) : ∃ vs lost rest, (l.step m).Ordered vs lost rest := by
  have same : ∃ vs lost rest, l.Ordered vs lost rest := ⟨vs, lost, rest, h⟩
  have hpipe : ∀ {p : Frame.Pipe}, p.Carries vs lost → p.shut = l.pipe.shut →
      ∃ vs lost rest, { l with pipe := p }.Ordered vs lost rest := fun hp hshut =>
    ⟨vs, lost, rest, h.accepted, hp, fun hs => hshut ▸ h.working hs⟩
  cases m with
  | own m =>
    rw [Line.step]
    split
    · exact same
    · next hm =>
      rw [Bool.or_eq_true, not_or, Bool.not_eq_true] at hm
      obtain ⟨rest, hown⟩ := h.own (prefix_step l.client hm.1)
      exact ⟨vs, lost, rest, hown⟩
  | close =>
    rw [Line.step]
    split
    · exact ⟨vs, lost, rest, h.accepted, h.carries, h.working⟩
    · exact same
  | take =>
    rw [Line.step]
    split
    · next frame c hc =>
      split
      · next hrest => exact ⟨_, _, _, h.take hc (Bool.and_eq_true_iff.1 hrest).1 _⟩
      · exact same
    · exact same
  | put n => exact hpipe (h.carries.put n) rfl
  | carry n => exact hpipe (h.carries.carry n) rfl
  | notice => exact hpipe h.carries.notice rfl
  | fail =>
    rw [Line.step]
    split
    · exact ⟨_, _, _, h.stop (by simp) rfl rfl h.carries.giveUp⟩
    · exact same
  | obey =>
    rw [Line.step]
    split
    · exact ⟨vs, lost, rest, h.accepted, h.carries, by simp⟩
    · exact same
  | desert =>
    rw [Line.step]
    split
    · exact ⟨vs, lost, rest, h.accepted, h.carries, by simp⟩
    · exact same
  | finish =>
    rw [Line.step]
    split
    · exact ⟨_, _, _, h.stop (by simp) rfl rfl h.carries.close⟩
    · exact same
  | abort => exact ⟨_, _, _, h.stop (by simp [Line.step]) rfl rfl h.carries.close⟩
  | decode =>
    rw [Line.step]
    split
    · exact same
    · refine h.decode fun v hv => hvs v ?_
      simp [h.accepted, hv]

end Ordered

/-! ### What an ordered end brings -/

/-- The frames that the writer has still to take before it comes to the order to end. -/
def ahead (l : Line) : List Json :=
  if l.stage = .working then l.client.queue.take (l.order.getD 0) else []

/-- The line is being closed, and `A` are the frames that were accepted before: `hs` are decoded,
`vs` are in the pipe, and the others stand before the order to end. -/
structure Closing (A : List Json) (l : Line) (hs vs : List Json) : Prop where
  frames : A = hs ++ (vs ++ l.ahead)
  carries : l.pipe.Carries vs []
  shut : l.pipe.shut = true ↔ l.stage = .closed
  ordered : l.stage = .working → ∃ k, l.order = some k ∧ k ≤ l.client.queue.length
  idle : l.stage = .ending → l.pipe.unput = []
  heard : l.heard = hs.map .frame ∨ l.heard = A.map .frame ++ [.ended] ∧ vs = [] ∧ l.stage = .closed

section Closing

variable {A hs vs : List Json}

theorem Closing.unput_eq_nil (h : Closing A l hs vs) (hs : l.stage ≠ .working) :
    l.pipe.unput = [] := by
  cases hstage : l.stage with
  | working => exact absurd hstage hs
  | ending => exact h.idle hstage
  | closed => exact h.carries.shut (h.shut.2 hstage)

/-- Only the pipe has changed. -/
theorem Closing.pipe (h : Closing A l hs vs) {p : Frame.Pipe} (hp : p.Carries vs [])
    (hshut : p.shut = l.pipe.shut) (hput : l.pipe.unput = [] → p.unput = []) :
    Closing A { l with pipe := p } hs vs :=
  ⟨h.frames, hp, by rw [← h.shut, ← hshut], h.ordered, fun hs => hput (h.idle hs), h.heard⟩

theorem Closing.own (h : Closing A l hs vs) {c : Client} (hc : l.client.queue <+: c.queue) :
    Closing A (l.accept c) hs vs := by
  refine ⟨?_, h.carries, h.shut, fun hw => ?_, h.idle, h.heard⟩
  · have hahead : (l.accept c).ahead = l.ahead := by
      unfold ahead accept
      by_cases hw : l.stage = .working
      · obtain ⟨k, hk, hle⟩ := h.ordered hw
        obtain ⟨added, hadded⟩ := hc
        simp only [hw, hk, ↓reduceIte, Option.getD_some, ← hadded]
        exact List.take_append_of_le_length hle
      · simp only [hw, ↓reduceIte]
    rw [hahead]
    exact h.frames
  · obtain ⟨k, hk, hle⟩ := h.ordered hw
    exact ⟨k, hk, hle.trans hc.length_le⟩

theorem Closing.take (h : Closing A l hs vs) {frame : Json} {c : Client}
    (hc : l.client.takeFrame? = some (frame, c)) (hrest : l.atRest = true) (hne : l.order ≠ some 0) :
    Closing A { l with client := c, order := l.order.map (· - 1), pipe := l.pipe.begin frame }
      hs (vs ++ [frame]) := by
  simp only [atRest, Bool.and_eq_true, beq_iff_eq, List.isEmpty_iff] at hrest
  obtain ⟨hw, hput⟩ := hrest
  have hq := (takeFrame?_eq_some hc).1
  have hshut : l.pipe.shut = false := Bool.eq_false_iff.2 fun hs => by
    rw [h.shut.1 hs] at hw
    cases hw
  obtain ⟨k, hk, hle⟩ := h.ordered hw
  obtain ⟨k, rfl⟩ : ∃ j, k = j + 1 := Nat.exists_eq_succ_of_ne_zero fun h0 => hne (h0 ▸ hk)
  rw [hq, List.length_cons] at hle
  refine ⟨?_, h.carries.begin hput hshut frame, ?_, fun _ => ⟨k, by simp [hk], by simpa using hle⟩,
    fun hs => ?_, ?_⟩
  · rw [h.frames, ahead, ahead, if_pos hw, if_pos hw, hk, hq]
    simp
  · exact h.shut
  · rw [hw] at hs
    cases hs
  · refine h.heard.imp_right fun hend => ?_
    rw [hw] at hend
    cases hend.2.2

theorem Closing.decode (h : Closing A l hs vs) (hvs : ∀ v ∈ A, Frame.Readable v)
    (hend : atEnd l.heard = false) : ∃ hs vs, Closing A l.decode hs vs := by
  have hheard : l.heard = hs.map .frame := by
    refine h.heard.resolve_right fun hcase => ?_
    simp [atEnd, hcase.1] at hend
  have hlegible : ∀ v ∈ vs, Frame.Legible v := fun v hv => (hvs v (by simp [h.frames, hv])).legible
  have hr := h.carries.reading hlegible
  unfold Line.decode
  cases hread : l.pipe.read with
  | failed e rest => exact absurd hread (h.carries.read_ne_failed hlegible e rest)
  | awaiting => exact ⟨hs, vs, h⟩
  | ended =>
    obtain ⟨rfl, hended⟩ := h.carries.eq_nil_of_ended hlegible hread
    have hclosed := h.shut.1 (h.carries.ended hended).1
    have hA : A = hs := by simpa [ahead, hclosed] using h.frames
    exact ⟨hs, [], h.frames, h.carries, h.shut, h.ordered, h.idle,
      .inr ⟨by simp [hheard, hA], rfl, hclosed⟩⟩
  | done w rest =>
    rw [hread] at hr
    cases hr with
    | @done v vs _ hbs =>
      have hv := (hvs v (by simp [h.frames])).integral.reread_eq
      refine ⟨hs ++ [v], vs, ?_, h.carries.take hbs, h.shut, h.ordered, h.idle,
        .inl (by simp [hheard, hv])⟩
      simpa [ahead] using h.frames

/-- A move that does not break the end off: neither a write that fails nor a client that is given
up. Once the writer is over, these do no harm. -/
def Graceful (l : Line) (m : Move) : Prop := m ≠ .fail ∧ m ≠ .abort ∨ l.stage = .closed

/-- **A line that is being closed loses none of the frames accepted before.** -/
theorem Closing.step (h : Closing A l hs vs) (hvs : ∀ v ∈ A, Frame.Readable v) {m : Move}
    (hm : Graceful l m) : ∃ hs vs, Closing A (l.step m) hs vs := by
  have same : ∃ hs vs, Closing A l hs vs := ⟨hs, vs, h⟩
  cases m with
  | own m =>
    rw [Line.step]
    split
    · exact same
    · next hm =>
      rw [Bool.or_eq_true, not_or, Bool.not_eq_true] at hm
      exact ⟨hs, vs, h.own (prefix_step l.client hm.1)⟩
  | close =>
    rw [Line.step]
    split
    · next hno =>
      simp only [Bool.and_eq_true, Option.isNone_iff_eq_none] at hno
      have hstage : l.stage ≠ .working := fun hw => by
        obtain ⟨k, hk, -⟩ := h.ordered hw
        rw [hno.1.1] at hk
        cases hk
      refine ⟨hs, vs, ?_, h.carries, h.shut, fun hw => absurd hw hstage, h.idle, h.heard⟩
      simpa [ahead, hstage] using h.frames
    · exact same
  | take =>
    rw [Line.step]
    split
    · next frame c hc =>
      split
      · next hrest =>
        rw [Bool.and_eq_true, bne_iff_ne] at hrest
        exact ⟨_, _, h.take hc hrest.1 hrest.2⟩
      · exact same
    · exact same
  | put n => exact ⟨hs, vs, h.pipe (h.carries.put n) rfl fun hput => by simp [Frame.Pipe.put, hput]⟩
  | carry n => exact ⟨hs, vs, h.pipe (h.carries.carry n) rfl id⟩
  | notice => exact ⟨hs, vs, h.pipe h.carries.notice rfl id⟩
  | fail =>
    have hclosed : l.stage = .closed := hm.resolve_left fun hne => hne.1 rfl
    rw [Line.step, if_neg (by simp [hclosed])]
    exact same
  | obey =>
    rw [Line.step]
    split
    · next hrest =>
      simp only [atRest, Bool.and_eq_true, beq_iff_eq, List.isEmpty_iff] at hrest
      obtain ⟨⟨hw, hput⟩, hzero⟩ := hrest
      refine ⟨hs, vs, ?_, h.carries, ?_, by simp, fun _ => hput, ?_⟩
      · simpa [ahead, hw, hzero] using h.frames
      · simpa [hw] using h.shut
      · exact h.heard.imp_right fun hend => by simp [hw] at hend
    · exact same
  | desert =>
    rw [Line.step]
    split
    · next hrest =>
      simp only [atRest, Bool.and_eq_true, beq_iff_eq, Option.isNone_iff_eq_none] at hrest
      obtain ⟨k, hk, -⟩ := h.ordered hrest.1.1.1
      rw [hrest.1.2] at hk
      cases hk
    · exact same
  | finish =>
    rw [Line.step]
    split
    · next hstage =>
      have hending : l.stage = .ending := by simpa using hstage
      have hclosed := h.carries.close
      rw [h.idle hending, List.append_nil] at hclosed
      refine ⟨hs, vs, ?_, hclosed, by simp [Frame.Pipe.close], by simp, by simp, ?_⟩
      · simpa [ahead, hending] using h.frames
      · exact h.heard.imp_right fun hend => by simp [hending] at hend
    · exact same
  | abort =>
    have hstage : l.stage = .closed := hm.resolve_left fun hne => hne.2 rfl
    have hclosed := h.carries.close
    rw [h.unput_eq_nil (by simp [hstage]), List.append_nil] at hclosed
    refine ⟨hs, vs, ?_, hclosed, by simp [Line.step, Frame.Pipe.close], by simp [Line.step],
      by simp [Line.step], ?_⟩
    · simpa [Line.step, ahead, hstage] using h.frames
    · exact h.heard.imp_right fun hend => ⟨hend.1, hend.2.1, rfl⟩
  | decode =>
    rw [Line.step]
    split
    · exact same
    · next hend => exact h.decode hvs (Bool.eq_false_iff.2 hend)

end Closing

/-- The line of a client after `n` moves. -/
def state (c : Client) (σ : ℕ → Move) (n : ℕ) : Line := along step { client := c } σ n

theorem state_succ (c : Client) (σ : ℕ → Move) (n : ℕ) :
    state c σ (n + 1) = (state c σ n).step (σ n) := rfl

/-- The order to end is given to a writer that works. -/
structure Closes (l : Line) (m : Move) : Prop where
  move : m = .close
  working : l.stage = .working
  first : l.order = none
  given : (l.step m).order ≠ none

/-- The peer keeps reading what arrives. -/
structure PeerReads (σ : ℕ → Move) : Prop where
  carry : ∀ n, ∃ t, n ≤ t ∧ ∃ k, σ t = .carry k
  notice : ∀ n, ∃ t, n ≤ t ∧ σ t = .notice
  decode : ∀ n, ∃ t, n ≤ t ∧ σ t = .decode

theorem accepted_step (l : Line) (m : Move) : l.accepted <+: (l.step m).accepted := by
  cases m with
  | own m =>
    rw [step]
    split
    · exact List.prefix_rfl
    · exact List.prefix_append _ _
  | decode =>
    rw [step]
    split
    · exact List.prefix_rfl
    · unfold decode
      split <;> exact List.prefix_rfl
  | take =>
    rw [step]
    split <;> try split
    all_goals exact List.prefix_rfl
  | close | fail | obey | desert | finish =>
    rw [step]
    split <;> exact List.prefix_rfl
  | put | carry | notice | abort => exact List.prefix_rfl

theorem stage_closed_step (h : l.stage = .closed) (m : Move) : (l.step m).stage = .closed := by
  cases m with
  | own m =>
    rw [step]
    split <;> exact h
  | close =>
    rw [step]
    split <;> exact h
  | take =>
    rw [step]
    split <;> try split
    all_goals exact h
  | decode =>
    rw [step]
    split
    · exact h
    · unfold decode
      split <;> exact h
  | fail | obey | desert | finish =>
    rw [step, if_neg (by simp [atRest, h])]
    exact h
  | abort => rfl
  | put | carry | notice => exact h

variable {c : Client} {σ : ℕ → Move}

theorem exists_ordered (hq : c.queue = []) (n : ℕ)
    (h : ∀ v ∈ (state c σ n).accepted, Frame.Readable v) :
    ∃ vs lost rest, (state c σ n).Ordered vs lost rest := by
  induction n with
  | zero => exact ⟨[], [], [], rfl, Frame.Pipe.carries_empty, fun _ => ⟨rfl, hq.symm, rfl, rfl⟩⟩
  | succ n ih =>
    rw [state_succ] at h ⊢
    have hn : ∀ v ∈ (state c σ n).accepted, Frame.Readable v :=
      fun v hv => h v ((accepted_step _ _).subset hv)
    obtain ⟨vs, lost, rest, hi⟩ := ih hn
    exact hi.step hn (σ n)

/-- With the order to end, closing begins. -/
theorem Ordered.closing {vs rest : List Json} {lost : List UInt8} (h : l.Ordered vs lost rest) {m : Move}
    (hm : Closes l m) : Closing l.accepted (l.step m) l.frames vs := by
  obtain ⟨rfl, hw, hnone, hgiven⟩ := hm
  obtain ⟨rfl, rfl, hshut, hheard⟩ := h.working hw
  rw [Line.step] at hgiven ⊢
  split at hgiven
  · next hc =>
    rw [if_pos hc]
    refine ⟨?_, h.carries, by simp [hshut, hw], fun _ => ⟨_, rfl, le_rfl⟩, ?_, .inl hheard⟩
    · simpa [ahead, hw] using h.accepted
    · intro hs
      rw [hw] at hs
      cases hs
  · exact absurd hnone hgiven

theorem exists_closing {A : List Json} (hA : ∀ v ∈ A, Frame.Readable v) {t u : ℕ}
    (hclosing : ∃ hs vs, Closing A (state c σ t) hs vs) (htu : t ≤ u)
    (hgraceful : ∀ k, t ≤ k → k < u → Graceful (state c σ k) (σ k)) :
    ∃ hs vs, Closing A (state c σ u) hs vs := by
  induction u, htu using Nat.le_induction with
  | base => exact hclosing
  | succ u htu ih =>
    obtain ⟨hs, vs, h⟩ := ih fun k hk hku => hgraceful k hk (hku.trans u.lt_succ_self)
    exact h.step hA (hgraceful u htu u.lt_succ_self)

theorem state_closed {u : ℕ} (h : (state c σ u).stage = .closed) {n : ℕ} (hn : u ≤ n) :
    (state c σ n).stage = .closed := by
  induction n, hn using Nat.le_induction with
  | base => exact h
  | succ n _ ih => exact stage_closed_step ih (σ n)

/-! ### A peer that reads on -/

/-- What the peer has still to do. -/
def remaining (x : Frame.Pipe × List Frame.Item) : ℕ := x.1.weight + (!atEnd x.2).toNat

theorem remaining_lt {p q : Frame.Pipe} (h : q.weight < p.weight) (items : List Frame.Item) :
    remaining (q, items) < remaining (p, items) :=
  Nat.add_lt_add_right h _

theorem Closing.decode_eq_or_lt {A hs vs : List Json} (h : Closing A l hs vs)
    (hvs : ∀ v ∈ A, Frame.Readable v) (hend : atEnd l.heard = false) :
    (l.decode.pipe, l.decode.heard) = (l.pipe, l.heard) ∨
      remaining (l.decode.pipe, l.decode.heard) < remaining (l.pipe, l.heard) := by
  have hlegible : ∀ v ∈ vs, Frame.Legible v := fun v hv => (hvs v (by simp [h.frames, hv])).legible
  have hr := h.carries.reading hlegible
  unfold Line.decode
  cases hread : l.pipe.read with
  | failed e rest => exact absurd hread (h.carries.read_ne_failed hlegible e rest)
  | awaiting => exact .inl rfl
  | ended =>
    right
    simp only [remaining, hend]
    simp [atEnd]
  | done w rest =>
    rw [hread] at hr
    cases hr with
    | @done v vs _ hbs =>
      right
      have hframe : atEnd (l.heard ++ [.frame v.reread]) = false := by simp [atEnd]
      simp only [remaining, hend, hframe]
      exact Nat.add_lt_add_right (Frame.Pipe.weight_take hbs) _

/-- Once the writer is over, the peer finds things as they were or has less to do. -/
theorem Closing.peer_step {A hs vs : List Json} (h : Closing A l hs vs)
    (hvs : ∀ v ∈ A, Frame.Readable v) (hclosed : l.stage = .closed) (m : Move) :
    ((l.step m).pipe, (l.step m).heard) = (l.pipe, l.heard) ∨
      remaining ((l.step m).pipe, (l.step m).heard) < remaining (l.pipe, l.heard) := by
  have hput : l.pipe.unput = [] := h.unput_eq_nil (by simp [hclosed])
  have hshut : l.pipe.shut = true := h.shut.2 hclosed
  cases m with
  | own m =>
    rw [Line.step]
    split <;> exact .inl rfl
  | close =>
    rw [Line.step]
    split <;> exact .inl rfl
  | take =>
    rw [Line.step]
    split
    · rw [if_neg (by simp [atRest, hclosed])]
      exact .inl rfl
    · exact .inl rfl
  | fail | obey | desert | finish =>
    rw [Line.step, if_neg (by simp [atRest, hclosed])]
    exact .inl rfl
  | abort =>
    left
    simp only [Line.step, Frame.Pipe.close]
    rw [← hput, ← hshut]
  | put n => exact (l.pipe.put_eq_or_lt n).imp (congrArg (·, l.heard)) (remaining_lt · l.heard)
  | carry n => exact (l.pipe.carry_eq_or_lt n).imp (congrArg (·, l.heard)) (remaining_lt · l.heard)
  | notice => exact l.pipe.notice_eq_or_lt.imp (congrArg (·, l.heard)) (remaining_lt · l.heard)
  | decode =>
    rw [Line.step]
    split
    · exact .inl rfl
    · next hend => exact h.decode_eq_or_lt hvs (Bool.eq_false_iff.2 hend)

/-- Where none of the moves of a peer that reads on changes anything, it has heard everything. -/
theorem Closing.heard_all {A hs vs : List Json} (h : Closing A l hs vs)
    (hvs : ∀ v ∈ A, Frame.Readable v) (hclosed : l.stage = .closed) {k : ℕ}
    (hcarry : l.pipe.carry k = l.pipe) (hnotice : l.pipe.notice = l.pipe)
    (hdecode : (l.step .decode).heard = l.heard) : l.heard = A.map .frame ++ [.ended] := by
  refine (h.heard.resolve_left fun hheard => ?_).1
  have hended : l.pipe.ended = true :=
    Frame.Pipe.ended_of_notice hnotice (h.shut.2 hclosed) (Frame.Pipe.eq_nil_of_carry hcarry)
  have hend : atEnd l.heard = false := by
    rw [hheard, atEnd, List.getLast?_map]
    cases hs.getLast? <;> rfl
  have hlegible : ∀ v ∈ vs, Frame.Legible v := fun v hv => (hvs v (by simp [h.frames, hv])).legible
  have hr := h.carries.reading hlegible
  rw [Line.step, hend, if_neg Bool.false_ne_true] at hdecode
  unfold Line.decode at hdecode
  cases hread : l.pipe.read with
  | awaiting =>
    rw [hread] at hr
    cases hr with
    | awaiting hnot =>
      rw [hended] at hnot
      cases hnot
  | _ => simp [hread] at hdecode

/-- What the peer finds no longer changes from some time on, and then it has heard everything. -/
theorem eventually_heard {A : List Json} (hA : ∀ v ∈ A, Frame.Readable v) {u : ℕ}
    (hclosing : ∀ n, u ≤ n → ∃ hs vs, Closing A (state c σ n) hs vs)
    (hclosed : ∀ n, u ≤ n → (state c σ n).stage = .closed) (hpeer : PeerReads σ) :
    ∃ N, ∀ n, N ≤ n → (state c σ n).heard = A.map .frame ++ [.ended] := by
  have hdown : ∀ n, ((state c σ (u + (n + 1))).pipe, (state c σ (u + (n + 1))).heard) =
        ((state c σ (u + n)).pipe, (state c σ (u + n)).heard) ∨
      remaining ((state c σ (u + (n + 1))).pipe, (state c σ (u + (n + 1))).heard) <
        remaining ((state c σ (u + n)).pipe, (state c σ (u + n)).heard) := fun n => by
    obtain ⟨hs, vs, h⟩ := hclosing (u + n) (u.le_add_right n)
    exact h.peer_step hA (hclosed _ (u.le_add_right n)) (σ (u + n))
  obtain ⟨N, hrest⟩ := exists_rest
    (fun n => ((state c σ (u + n)).pipe, (state c σ (u + n)).heard)) remaining hdown
  -- from here on, all that the peer finds is as it was after `u + N` moves
  have hsame : ∀ n, u + N ≤ n → (state c σ n).pipe = (state c σ (u + N)).pipe ∧
      (state c σ n).heard = (state c σ (u + N)).heard := fun n hn => by
    obtain ⟨k, rfl⟩ := Nat.exists_eq_add_of_le ((u.le_add_right N).trans hn)
    exact Prod.mk.inj (hrest k (by omega))
  obtain ⟨t₁, ht₁, k, hcarry⟩ := hpeer.carry (u + N)
  obtain ⟨t₂, ht₂, hnotice⟩ := hpeer.notice (u + N)
  obtain ⟨t₃, ht₃, hdecode⟩ := hpeer.decode (u + N)
  have h₁ := (hsame (t₁ + 1) (by omega)).1
  have h₂ := (hsame (t₂ + 1) (by omega)).1
  have h₃ := (hsame (t₃ + 1) (by omega)).2
  rw [state_succ, hcarry, step, (hsame t₁ ht₁).1] at h₁
  rw [state_succ, hnotice, step, (hsame t₂ ht₂).1] at h₂
  rw [state_succ, hdecode, ← (hsame t₃ ht₃).2] at h₃
  obtain ⟨hs, vs, h⟩ := hclosing t₃ (by omega)
  have hall := h.heard_all hA (hclosed t₃ (by omega)) (by rw [(hsame t₃ ht₃).1]; exact h₁)
    (by rw [(hsame t₃ ht₃).1]; exact h₂) h₃
  exact ⟨u + N, fun n hn => by rw [(hsame n hn).2, ← (hsame t₃ ht₃).2, hall]⟩

/-- **Frames reach the peer in the order in which they were accepted.** Whatever the callers, the
reader, the writer and the peer do in whatever order, the frames that the peer has decoded are the
first of those that were accepted. If the order to end is given to a writer that works, no write
fails, and the writer ends before it is given up, then the peer hears all that was accepted before
the order and nothing else, and, as it reads on, it comes to the clean end. -/
theorem frames_delivered_in_order (c : Client) (hq : c.queue = []) (σ : ℕ → Move) :
    (∀ n, (∀ v ∈ (state c σ n).accepted, Frame.Readable v) →
      (state c σ n).frames <+: (state c σ n).accepted) ∧
    ∀ t u, Closes (state c σ t) (σ t) → t < u →
      (∀ k, t < k → k < u → σ k ≠ .fail ∧ σ k ≠ .abort) → (state c σ u).stage = .closed →
      (∀ v ∈ (state c σ t).accepted, Frame.Readable v) →
      (∀ n, t < n → (state c σ n).heard <+: (state c σ t).accepted.map .frame ++ [.ended]) ∧
      (PeerReads σ → ∃ N, ∀ n, N ≤ n →
        (state c σ n).heard = (state c σ t).accepted.map .frame ++ [.ended]) := by
  refine ⟨fun n hread => ?_, fun t u hclose htu hcalm hclosed hread => ?_⟩
  · obtain ⟨vs, lost, rest, h⟩ := exists_ordered hq n hread
    exact ⟨vs ++ rest, h.accepted.symm⟩
  · obtain ⟨vs, lost, rest, h⟩ := exists_ordered hq t hread
    have hgraceful : ∀ k, t < k → Graceful (state c σ k) (σ k) := fun k hk => by
      by_cases hku : k < u
      · exact .inl (hcalm k hk hku)
      · exact .inr (state_closed hclosed (Nat.not_lt.1 hku))
    have hclosing : ∀ n, t < n → ∃ hs vs, Closing (state c σ t).accepted (state c σ n) hs vs :=
      fun n hn => exists_closing (t := t + 1) hread ⟨_, vs, h.closing hclose⟩ hn
        fun k hk _ => hgraceful k hk
    refine ⟨fun n hn => ?_, eventually_heard hread (fun n hn => hclosing n (htu.trans_le hn))
      fun n hn => state_closed hclosed hn⟩
    obtain ⟨hs, vs, hn⟩ := hclosing n hn
    rcases hn.heard with hheard | ⟨hheard, -⟩
    · rw [hheard, hn.frames, List.map_append, List.append_assoc]
      exact List.prefix_append _ _
    · rw [hheard]

/-- Three callers that are about to hand over their frames. -/
def callers : Client where
  nextId := 4
  pending := [3, 2, 1]
  calls := [1, 2, 3].map fun id =>
    { id, method := "ping", progress := .registered,
      frame := .obj [("id", .nat id), ("jsonrpc", .str "2.0"), ("method", .str "ping")] }

/-- The second frame is accepted while the first is being written; then comes the order to end, and
the third frame is too late for it. -/
def farewell : ℕ → Move
  | 0 => .own (.submit 1)
  | 1 => .take
  | 2 => .put 9
  | 3 => .own (.submit 2)
  | 4 => .carry 5
  | 5 => .decode
  | 6 => .close
  | 7 => .own (.submit 3)
  | 8 => .put 99
  | 9 => .take
  | 10 => .put 99
  | 11 => .obey
  | 12 => .finish
  | n + 13 => if n % 3 = 0 then .carry 30 else if n % 3 = 1 then .notice else .decode

theorem peerReads_farewell : PeerReads farewell := by
  refine ⟨fun n => ⟨3 * n + 13, by omega, 30, ?_⟩, fun n => ⟨3 * n + 1 + 13, by omega, ?_⟩,
    fun n => ⟨3 * n + 2 + 13, by omega, ?_⟩⟩
  · simp [farewell]
  · simp [farewell, Nat.add_mod]
  · simp [farewell, Nat.add_mod]

theorem farewell_calm (k : ℕ) : farewell k ≠ .fail ∧ farewell k ≠ .abort := by
  unfold farewell
  repeat' split
  all_goals simp

theorem frames_delivered_in_order_farewell :
    (state callers farewell 8).accepted.length = 3 ∧
    ∃ N, ∀ n, N ≤ n → (state callers farewell n).heard =
      [.frame (.obj [("id", .nat 1), ("jsonrpc", .str "2.0"), ("method", .str "ping")]),
        .frame (.obj [("id", .nat 2), ("jsonrpc", .str "2.0"), ("method", .str "ping")]), .ended] := by
  have hread : ∀ v ∈ (state callers farewell 6).accepted, Frame.Readable v := by
    have hacc : (state callers farewell 6).accepted =
        [1, 2].map fun id => .obj [("id", .nat id), ("jsonrpc", .str "2.0"), ("method", .str "ping")] :=
      rfl
    have hint : ∀ id : ℕ, id < 9 →
        (Json.obj [("id", .nat id), ("jsonrpc", .str "2.0"), ("method", .str "ping")]).Integral := by
      intro id hid
      have hkeys : ["id", "jsonrpc", "method"].Pairwise (· < ·) := by decide
      refine .obj ((List.pairwise_map (f := Prod.fst)).1 hkeys) ?_
      simp only [List.mem_cons, List.not_mem_nil, or_false, forall_eq_or_imp, forall_eq]
      exact ⟨.int (by omega) (by omega), .str _, .str _⟩
    rw [hacc]
    simp only [List.map_cons, List.map_nil, List.mem_cons, List.not_mem_nil, or_false,
      forall_eq_or_imp, forall_eq]
    exact ⟨⟨hint 1 (by decide), by decide +kernel, by decide⟩,
      ⟨hint 2 (by decide), by decide +kernel, by decide⟩⟩
  have hclose : Closes (state callers farewell 6) (farewell 6) :=
    ⟨rfl, by decide +kernel, by decide +kernel, by decide +kernel⟩
  have h := (frames_delivered_in_order callers rfl farewell).2 6 13 hclose (by decide)
    (fun k _ _ => farewell_calm k) (by decide +kernel) hread
  exact ⟨by decide +kernel, h.2 peerReads_farewell⟩

end Line

end Sidecar
