/-
# A client and the stand-in in conversation

A client whose owner goes through a script, the stand-in at the other end, and
a pipe each way. Whoever has its turn does what it can (`Dialogue.step`): the
owner, the writer and the reader of the client, the stand-in, the bytes on
their way, and the one who takes events.

At every time all that was said lies somewhere (`Dialogue.Wiring`): frames in
the queue and in the pipe to the stand-in, which say words; notes in the pipe
back. And all that is to come of what was done has come or is on its way
(`Dialogue.Ledger`): the results, the events, the entries and the reply that
the owner waits for. What is left to do is a lexicographic measure, the steps
of the owner first; bytes that move lower it.

Key definitions: `Dialogue`, `Dialogue.step`, `Dialogue.Joint`, `Dialogue.Feasible`,
`Dialogue.measure`, `Dialogue.Stalled`.
Key theorems: `Dialogue.Ledger.accepted_prefix`, `Dialogue.measure_lt_iff`.
-/
import Mathlib.Data.Prod.Lex
import Sidecar.Proofs.Script

namespace Sidecar

/-- A client whose owner goes through a script, a stand-in, and the bytes under way between them. -/
structure Dialogue where
  client : Client
  server : StandIn := {}
  /-- Whether the stand-in is still there. -/
  serving : Bool := true
  /-- From the client to the stand-in. -/
  up : Frame.Pipe := {}
  /-- From the stand-in to the client. -/
  down : Frame.Pipe := {}
  todo : List Chore
  done : List Chore := []
  /-- The call that the owner is waiting for. -/
  current : Option Nat := none
  /-- The frames that were accepted into the client's queue. -/
  accepted : List Json := []
  /-- The frames that the stand-in has written. -/
  answered : List Json := []
  /-- What the requests have come to. -/
  results : List (Except ClientError Json) := []
  /-- The events that were taken. -/
  seen : List ServerEvent := []

namespace Dialogue

/-- Who can do something next. -/
inductive Part where
  /-- The owner of the client. -/
  | owner
  /-- The writer of the client. -/
  | writer
  | putUp
  | carryUp
  | server
  | putDown
  | carryDown
  /-- The client notices that nothing more will come. -/
  | notice
  /-- The reader of the client. -/
  | reader
  /-- The one who takes events. -/
  | listener
  deriving DecidableEq, Repr

/-- The client has done something; what it has added to its queue is accepted. -/
def adopt (s : Dialogue) (c : Client) : Dialogue :=
  { s with client := c, accepted := s.accepted ++ c.queue.drop s.client.queue.length }

/-- The chore in front is done. -/
def tick (s : Dialogue) : Dialogue :=
  { s with todo := s.todo.drop 1, done := s.done ++ s.todo.take 1, current := none }

/-- The owner makes the next move of a request. -/
def pursue (s : Dialogue) (method : String) (params : Option Json) (sequel : Sequel) : Dialogue :=
  match s.current with
  | none => { s.adopt (s.client.step (.call method params)) with current := some s.client.nextId }
  | some id =>
    match (s.client.call? id).map Client.Call.progress with
    | some .numbered => s.adopt (s.client.step (.register id))
    | some .registered => s.adopt (s.client.step (.submit id))
    | some .waiting => s.adopt (s.client.step (.collect id))
    | some (.leaving _) => s.adopt (s.client.step (.withdraw id))
    | some (.done outcome) =>
      let r := Conversation.conclude s.client sequel outcome
      { (s.adopt (r.2.step (.abandon id))).tick with results := s.results ++ [r.1] }
    | none => s

/-- The owner makes its next move. -/
def proceed (s : Dialogue) : Dialogue :=
  match s.todo.head?.map Chore.act with
  | none => s
  | some (.tell m) => (s.adopt (s.client.step m)).tick
  | some (.ask method params sequel) => s.pursue method params sequel

/-- The stand-in goes. -/
def hangUp (s : Dialogue) : Dialogue := { s with serving := false, down := s.down.close }

/-- The stand-in does something about a frame. -/
def serve (s : Dialogue) (frame : Json) : Dialogue :=
  let r := s.server.react frame
  match r.2 with
  | .silence => { s with server := r.1 }
  | .answer a =>
    { s with server := r.1, down := s.down.begin a, answered := s.answered ++ [a] }
  | .leave => s.hangUp

/-- The stand-in reads. -/
def attend (s : Dialogue) : Dialogue :=
  match s.up.read with
  | .done frame rest => { s with up := { s.up with arrived := rest } }.serve frame
  | .failed _ rest => { s with up := { s.up with arrived := rest } }.hangUp
  | .ended => s.hangUp
  | .awaiting => s

/-- The client reads. -/
def hear (s : Dialogue) : Dialogue :=
  match s.down.read with
  | .done frame rest =>
    { s with down := { s.down with arrived := rest } }.adopt (s.client.step (.arrive frame))
  | .failed e rest =>
    { s with down := { s.down with arrived := rest } }.adopt
      (s.client.step (.endReading (.failed e)))
  | .ended => s.adopt (s.client.step (.endReading .closed))
  | .awaiting => s

/-- What a part does if it has its turn; `n` is how many bytes move. Who finds the queue full
waits. -/
def step (s : Dialogue) (part : Part) (n : Nat) : Dialogue :=
  match part with
  | .owner => if Line.capacity < s.proceed.client.queue.length then s else s.proceed
  | .writer =>
    match s.client.takeFrame? with
    | some (frame, c) =>
      if s.up.unput.isEmpty then { s with client := c, up := s.up.begin frame } else s
    | none => s
  | .putUp => { s with up := s.up.put n }
  | .carryUp => { s with up := s.up.carry n }
  | .server => if s.serving && s.down.unput.isEmpty then s.attend else s
  | .putDown => { s with down := s.down.put n }
  | .carryDown => { s with down := s.down.carry n }
  | .notice => { s with down := s.down.notice }
  | .reader => if s.client.reading then s.hear else s
  | .listener =>
    { s with client := s.client.step .takeEvent, seen := s.seen ++ s.client.events.take 1 }

/-- How far a call has come: the ids that the reader knows, the reply that is due, and the frames
that were handed over for it. -/
inductive Phase (x : Client.Call) : List Nat → List (Nat × String) → List Json → Prop where
  | numbered (hp : x.progress = .numbered) (hs : x.slot = .empty) : Phase x [] [] []
  | registered (hp : x.progress = .registered) (hs : x.slot = .empty) : Phase x [x.id] [] []
  | unanswered (hp : x.progress = .waiting) (hs : x.slot = .empty) :
      Phase x [x.id] [(x.id, x.method)] [x.frame]
  | answered (hp : x.progress = .waiting)
      (hs : x.slot = .filled (StandIn.reply (.nat x.id) x.method)) : Phase x [] [] [x.frame]
  | settled (hp : x.progress = .done (Client.verdict x.method)) : Phase x [] [] [x.frame]

/-- The owner's part, `p` being the client as it would be after what was done: the owner is between
two chores, or one call is under way. -/
inductive Attends (p c : Client) (todo : List Chore) :
    Option Nat → List (Nat × String) → List Json → Prop where
  | idle (hcalls : c.calls = []) (hpending : c.pending = []) (hnext : c.nextId = p.nextId) :
      Attends p c todo none [] []
  | busy {x : Client.Call} {d : Chore} {rest : List Chore} {params : Option Json} {sequel : Sequel}
      {due : List (Nat × String)} {extra : List Json} (htodo : todo = d :: rest)
      (hact : d.act = .ask x.method params sequel) (hcalls : c.calls = [x]) (hid : x.id = p.nextId)
      (hframe : x.frame = Message.request x.id x.method params)
      (hnext : c.nextId = (p.nextId + 1) % UInt64.size) (hphase : Phase x c.pending due extra) :
      Attends p c todo (some x.id) due extra

section Client

open Client

variable {c : Client} {x : Call}

theorem call?_singleton (h : c.calls = [x]) : c.call? x.id = some x := by simp [call?, h]

theorem register_singleton (h : c.calls = [x]) (hp : x.progress = .numbered) :
    c.register x.id = { c with
      pending := x.id :: c.pending, calls := [{ x with progress := .registered }] } := by
  simp [register, call?_singleton h, hp, setProgress, updateCall, h]

theorem submit_singleton (h : c.calls = [x]) (hp : x.progress = .registered)
    (hw : c.writing = true) : c.submit x.id = { c with
      queue := c.queue ++ [x.frame], calls := [{ x with progress := .waiting }] } := by
  simp [submit, call?_singleton h, hp, setProgress, updateCall, h, enqueue?_of_writing hw]

theorem collect_empty (h : c.calls = [x]) (hp : x.progress = .waiting) (hs : x.slot = .empty) :
    c.collect x.id = c := by
  simp [collect, call?_singleton h, hp, hs]

theorem collect_filled (h : c.calls = [x]) (hp : x.progress = .waiting) {f : Json}
    (hs : x.slot = .filled f) : c.collect x.id =
      { c with calls := [{ x with progress := .done (outcomeOf x.method f) }] } := by
  simp [collect, call?_singleton h, hp, hs, setProgress, updateCall, h]

theorem deliver_singleton (h : c.calls = [x]) (hp : x.progress = .waiting)
    (hpending : c.pending = [x.id]) (f : Json) : c.deliver x.id f =
      { c with pending := [], calls := [{ x with slot := .filled f }] } := by
  simp [deliver, hpending, forget, updateCall, h, Call.leave, Call.isOpen, hp]

end Client

/-! ### What holds at every time -/

/-- The client as it would be after what was done. -/
def plan (c₀ : Client) (s : Dialogue) : Client := s.done.foldl Chore.perform c₀

/-- The entry that a greeting makes. -/
def greeted : Entry := ⟨.info, "Successfully connected"⟩

/-- What is under way: the frames `vs` in the pipe to the stand-in, the words `ws` that these and
the frames in the queue say, and the notes `ds` in the pipe to the client. -/
structure Wiring (s : Dialogue) (vs : List Json) (ws : List Word) (ds : List Note) : Prop where
  up : s.up.Carries vs []
  unshut : s.up.shut = false
  down : s.down.Carries (ds.map Note.frame) []
  shut : s.down.shut = !s.serving
  words : List.Forall₂ Says (vs ++ s.client.queue) ws
  /-- The last word is that the stand-in is to exit. -/
  parting : ∃ ws', Word.leave ∉ ws' ∧
    ws = ws' ++ if s.serving && s.todo.isEmpty then [.leave] else []
  gone : s.serving = false → s.todo = [] ∧ ws = []
  writing : s.client.writing = true
  flag : ws.foldl Word.switch s.server.compileOnSave = s.done.foldl Chore.switch false
  served : ∃ fs, s.accepted = fs ++ (vs ++ s.client.queue) ∧
    StandIn.serve {} (fs.map Json.reread) = (s.answered, !s.serving) ∧
    StandIn.after {} (fs.map Json.reread) = s.server
  notes : ∀ d ∈ ds, d.frame ∈ s.answered
  finished : s.client.reading = false → ds = [] ∧ s.serving = false

/-- What has come of what was done, if `ns` are the notes that the client has still to read. -/
structure Ledger (c₀ : Client) (s : Dialogue) (ns : List Note) : Prop where
  language : s.client.language = (plan c₀ s).language
  versions : s.client.versions = (plan c₀ s).versions
  writing : (plan c₀ s).writing = true
  nextId : (plan c₀ s).nextId < UInt64.size
  owner : ∃ extra, Attends (plan c₀ s) s.client s.todo s.current (ns.filterMap Note.due?) extra ∧
    s.accepted = (plan c₀ s).queue ++ extra
  methods : ∀ v ∈ s.accepted, CallsMethod v
  results : s.results = s.done.filterMap Chore.answer?
  events : s.seen ++ s.client.events ++ ns.filterMap Note.event? =
    (Chore.complaints false s.done).map (fun uri => .diagnostics uri [Client.syntaxError]) ++
      if s.client.reading then [] else [.closed .closed]
  greetings : ∃ k, s.client.sink.entries = c₀.sink.entries ++ List.replicate k greeted ∧
    k + ns.count .greeting = s.done.countP Chore.isIntroduction

/-- What holds at every time of a conversation. -/
def Joint (c₀ : Client) (script : List Chore) (s : Dialogue) : Prop :=
  s.done ++ s.todo = script ∧ ∃ vs ws ds, Wiring s vs ws ds ∧
    Ledger c₀ s (ds ++ Word.notes s.server.compileOnSave ws)

/-- A script that ends with the shutdown, and whose frames are within the limits in both
directions. -/
structure Feasible (c₀ : Client) (script : List Chore) : Prop where
  last : ∃ chores, script = chores ++ [.shutdown] ∧ .shutdown ∉ chores
  up : ∀ v ∈ Chore.frames c₀ script, Frame.Legible v
  down : ∀ v ∈ (StandIn.serve {} ((Chore.frames c₀ script).map Json.reread)).1, Frame.Legible v

variable {c₀ : Client} {script : List Chore} {s : Dialogue} {vs : List Json} {ws : List Word}
  {ds : List Note} {ns : List Note}

theorem Phase.extra_eq {x : Client.Call} {pending : List Nat} {due : List (Nat × String)}
    {extra : List Json} (h : Phase x pending due extra) : extra = [] ∨ extra = [x.frame] := by
  cases h <;> simp

/-- The frame of the call that is under way is the next one that the script asks for. -/
theorem Attends.append_prefix {p c : Client} {todo : List Chore} {current : Option Nat}
    {due : List (Nat × String)} {extra : List Json} (h : Attends p c todo current due extra) :
    p.queue ++ extra <+: (todo.foldl Chore.perform p).queue := by
  have hidle := Chore.queue_foldl_perform p todo
  cases h with
  | idle => rwa [List.append_nil]
  | @busy x d rest params sequel _ _ htodo hact _ hid hframe _ hphase =>
    have hone : p.queue ++ [x.frame] <+: (todo.foldl Chore.perform p).queue := by
      rw [htodo, List.foldl_cons]
      refine List.IsPrefix.trans ?_ (Chore.queue_foldl_perform _ rest)
      rw [Chore.perform, hact, hframe, hid]
      exact ⟨Chore.sequelFrames sequel, by simp⟩
    rcases hphase.extra_eq with rfl | rfl
    · rwa [List.append_nil]
    · exact hone

theorem Ledger.accepted_prefix (h : Ledger c₀ s ns) (hscript : s.done ++ s.todo = script) :
    s.accepted <+: Chore.frames c₀ script := by
  obtain ⟨extra, hattends, haccepted⟩ := h.owner
  have hframes : Chore.frames c₀ script = (s.todo.foldl Chore.perform (plan c₀ s)).queue := by
    rw [← hscript, Chore.frames, List.foldl_append, plan]
  rw [hframes, haccepted]
  exact hattends.append_prefix

theorem Wiring.legible_up (h : Wiring s vs ws ds) (hl : Ledger c₀ s ns)
    (hscript : s.done ++ s.todo = script) (hf : Feasible c₀ script) :
    ∀ v ∈ vs, Frame.Legible v := by
  obtain ⟨fs, hfs, -⟩ := h.served
  intro v hv
  exact hf.up v ((hl.accepted_prefix hscript).subset (by simp [hfs, hv]))

theorem Wiring.legible_down (h : Wiring s vs ws ds) (hl : Ledger c₀ s ns)
    (hscript : s.done ++ s.todo = script) (hf : Feasible c₀ script) :
    ∀ v ∈ ds.map Note.frame, Frame.Legible v := by
  obtain ⟨fs, hfs, hserve, -⟩ := h.served
  have hprefix : fs.map Json.reread <+: (Chore.frames c₀ script).map Json.reread :=
    (List.IsPrefix.trans ⟨_, hfs.symm⟩ (hl.accepted_prefix hscript)).map _
  have hanswers := StandIn.serve_prefix {} hprefix
  rw [hserve] at hanswers
  intro v hv
  obtain ⟨d, hd, rfl⟩ := List.mem_map.1 hv
  exact hf.down _ (hanswers.subset (h.notes d hd))

/-! ### What is left to do -/

/-- How far a call has come, as a number. -/
def index : Client.Progress → ℕ
  | .numbered => 1
  | .registered => 2
  | .waiting => 3
  | .leaving _ | .done _ => 4

/-- What the owner has still to do. -/
def rank (s : Dialogue) : ℕ :=
  5 * s.todo.length - (s.client.calls.map fun x => index x.progress).sum

/-- What is left to do: first of all by the owner, and then along the way of a frame from the queue
to the stand-in and of a note back to the one who takes events. -/
def measure (s : Dialogue) : ℕ ×ₗ ℕ ×ₗ ℕ ×ₗ ℕ ×ₗ ℕ :=
  toLex (s.rank, toLex (s.client.queue.length, toLex (s.up.weight + s.serving.toNat,
    toLex (s.down.weight + s.client.reading.toNat, s.client.events.length))))

theorem measure_lt_iff {s' : Dialogue} : s'.measure < s.measure ↔
    s'.rank < s.rank ∨ s'.rank = s.rank ∧
      (s'.client.queue.length < s.client.queue.length ∨
        s'.client.queue.length = s.client.queue.length ∧
        (s'.up.weight + s'.serving.toNat < s.up.weight + s.serving.toNat ∨
          s'.up.weight + s'.serving.toNat = s.up.weight + s.serving.toNat ∧
          (s'.down.weight + s'.client.reading.toNat < s.down.weight + s.client.reading.toNat ∨
            s'.down.weight + s'.client.reading.toNat = s.down.weight + s.client.reading.toNat ∧
            s'.client.events.length < s.client.events.length))) := by
  simp only [measure, Prod.Lex.toLex_lt_toLex]

section Measure

variable {s' : Dialogue}

theorem measure_lt_of_up (hrank : s'.rank = s.rank)
    (hqueue : s'.client.queue.length = s.client.queue.length)
    (h : s'.up.weight + s'.serving.toNat < s.up.weight + s.serving.toNat) :
    s'.measure < s.measure :=
  measure_lt_iff.2 (.inr ⟨hrank, .inr ⟨hqueue, .inl h⟩⟩)

theorem measure_lt_of_down (hrank : s'.rank = s.rank)
    (hqueue : s'.client.queue.length = s.client.queue.length)
    (hup : s'.up.weight + s'.serving.toNat = s.up.weight + s.serving.toNat)
    (h : s'.down.weight + s'.client.reading.toNat < s.down.weight + s.client.reading.toNat) :
    s'.measure < s.measure :=
  measure_lt_iff.2 (.inr ⟨hrank, .inr ⟨hqueue, .inr ⟨hup, .inl h⟩⟩⟩)

end Measure

/-- Why a part has nothing to do. -/
def Stalled (s : Dialogue) : Part → Prop
  | .owner => s.todo = [] ∨ s.client.queue ≠ [] ∨
      ∃ x ∈ s.client.calls, x.progress = .waiting ∧ x.slot = .empty
  | .writer => s.client.queue = [] ∨ s.up.unput ≠ []
  | .putUp => s.up.unput = []
  | .carryUp => s.up.wire = []
  | .server => s.serving = false ∨ s.down.unput ≠ [] ∨ s.up.read = .awaiting
  | .putDown => s.down.unput = []
  | .carryDown => s.down.wire = []
  | .notice => s.down.shut = true → s.down.wire = [] → s.down.ended = true
  | .reader => s.client.reading = false ∨ s.down.read = .awaiting
  | .listener => s.client.events = []

/-- A part keeps what holds at every time, and it does nothing, for a reason, or leaves less to
do. -/
def Advances (c₀ : Client) (script : List Chore) (s : Dialogue) (part : Part) (s' : Dialogue) :
    Prop :=
  Joint c₀ script s' ∧ (s' = s ∧ s.Stalled part ∨ s'.measure < s.measure)

/-- Only the calls, what the reader knows of them and the next id matter to the owner. -/
theorem Attends.congr {p c c' : Client} {todo : List Chore} {current : Option Nat}
    {due : List (Nat × String)} {extra : List Json} (h : Attends p c todo current due extra)
    (hcalls : c'.calls = c.calls) (hpending : c'.pending = c.pending)
    (hnext : c'.nextId = c.nextId) : Attends p c' todo current due extra := by
  cases h with
  | idle hc hp hn => exact .idle (hcalls.trans hc) (hpending.trans hp) (hnext.trans hn)
  | busy htodo hact hc hid hframe hn hphase =>
    exact .busy htodo hact (hcalls.trans hc) hid hframe (hnext.trans hn) (hpending ▸ hphase)

/-- Whoever does not touch the owner's side leaves the ledger as it is. -/
theorem Ledger.elsewhere (h : Ledger c₀ s ns) (queue : List Json) (up down : Frame.Pipe)
    (server : StandIn) (serving : Bool) (answered : List Json) :
    Ledger c₀
      { s with client := { s.client with queue }, up, down, server, serving, answered } ns := by
  obtain ⟨extra, hattends, haccepted⟩ := h.owner
  exact { h with owner := ⟨extra, hattends.congr rfl rfl rfl, haccepted⟩ }

theorem Wiring.with_up (h : Wiring s vs ws ds) {p : Frame.Pipe} (hp : p.Carries vs [])
    (hshut : p.shut = s.up.shut) : Wiring { s with up := p } vs ws ds :=
  { h with up := hp, unshut := hshut.trans h.unshut }

theorem Wiring.with_down (h : Wiring s vs ws ds) {p : Frame.Pipe}
    (hp : p.Carries (ds.map Note.frame) []) (hshut : p.shut = s.down.shut) :
    Wiring { s with down := p } vs ws ds :=
  { h with down := hp, shut := hshut.trans h.shut }

theorem Joint.advances_up (h : Joint c₀ script s) {p : Frame.Pipe} {part : Part}
    (hcarries : ∀ vs, s.up.Carries vs [] → p.Carries vs []) (hshut : p.shut = s.up.shut)
    (hp : p = s.up ∧ s.Stalled part ∨ p.weight < s.up.weight) :
    Advances c₀ script s part { s with up := p } := by
  obtain ⟨hscript, vs, ws, ds, hw, hl⟩ := h
  refine ⟨⟨hscript, vs, ws, ds, hw.with_up (hcarries vs hw.up) hshut,
    hl.elsewhere s.client.queue p s.down s.server s.serving s.answered⟩, ?_⟩
  rcases hp with ⟨rfl, hstalled⟩ | hlt
  · exact .inl ⟨rfl, hstalled⟩
  · exact .inr (measure_lt_of_up rfl rfl (Nat.add_lt_add_right hlt _))

theorem Joint.advances_down (h : Joint c₀ script s) {p : Frame.Pipe} {part : Part}
    (hcarries : ∀ vs, s.down.Carries vs [] → p.Carries vs []) (hshut : p.shut = s.down.shut)
    (hp : p = s.down ∧ s.Stalled part ∨ p.weight < s.down.weight) :
    Advances c₀ script s part { s with down := p } := by
  obtain ⟨hscript, vs, ws, ds, hw, hl⟩ := h
  refine ⟨⟨hscript, vs, ws, ds, hw.with_down (hcarries _ hw.down) hshut,
    hl.elsewhere s.client.queue s.up p s.server s.serving s.answered⟩, ?_⟩
  rcases hp with ⟨rfl, hstalled⟩ | hlt
  · exact .inl ⟨rfl, hstalled⟩
  · exact .inr (measure_lt_of_down rfl rfl rfl (Nat.add_lt_add_right hlt _))

theorem Joint.advances_putUp (h : Joint c₀ script s) (n : ℕ) :
    Advances c₀ script s .putUp (s.step .putUp n) :=
  h.advances_up (fun _ hc => hc.put n) rfl
    ((s.up.put_eq_or_lt n).imp_left fun he => ⟨he, Frame.Pipe.eq_nil_of_put he⟩)

theorem Joint.advances_carryUp (h : Joint c₀ script s) (n : ℕ) :
    Advances c₀ script s .carryUp (s.step .carryUp n) :=
  h.advances_up (fun _ hc => hc.carry n) rfl
    ((s.up.carry_eq_or_lt n).imp_left fun he => ⟨he, Frame.Pipe.eq_nil_of_carry he⟩)

theorem Joint.advances_putDown (h : Joint c₀ script s) (n : ℕ) :
    Advances c₀ script s .putDown (s.step .putDown n) :=
  h.advances_down (fun _ hc => hc.put n) rfl
    ((s.down.put_eq_or_lt n).imp_left fun he => ⟨he, Frame.Pipe.eq_nil_of_put he⟩)

theorem Joint.advances_carryDown (h : Joint c₀ script s) (n : ℕ) :
    Advances c₀ script s .carryDown (s.step .carryDown n) :=
  h.advances_down (fun _ hc => hc.carry n) rfl
    ((s.down.carry_eq_or_lt n).imp_left fun he => ⟨he, Frame.Pipe.eq_nil_of_carry he⟩)

theorem Joint.advances_notice (h : Joint c₀ script s) (n : ℕ) :
    Advances c₀ script s .notice (s.step .notice n) :=
  h.advances_down (fun _ hc => hc.notice) rfl
    (s.down.notice_eq_or_lt.imp_left fun he => ⟨he, Frame.Pipe.ended_of_notice he⟩)

end Dialogue

end Sidecar
