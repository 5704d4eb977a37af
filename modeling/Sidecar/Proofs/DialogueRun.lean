/-
# Scripts are carried out

A conversation in which everyone has a turn again and again comes to rest, for
each move that does something leaves less to do. Where nobody has anything to
do the stand-in is gone (`Dialogue.Joint.not_serving`), and then everything is
done (`Dialogue.Joint.carriedOut`). Nothing that should not be there is there
at any time before (`Dialogue.Joint.faithful`).

Key definitions: `Dialogue.state`, `Dialogue.CarriedOut`, `Dialogue.Faithful`, `Dialogue.Fair`.
Key theorems: `Dialogue.joint_state`, `Dialogue.script_carried_out`.
-/
import Sidecar.Proofs.DialogueStep
import Sidecar.Proofs.Schedule

namespace Sidecar.Dialogue

variable {c₀ : Client} {script : List Chore} {s : Dialogue}

theorem Attends.not_waiting {p c : Client} {todo : List Chore} {current : Option Nat}
    {extra : List Json} (h : Attends p c todo current [] extra) {x : Client.Call} (hx : x ∈ c.calls)
    (hp : x.progress = .waiting) : x.slot ≠ .empty := by
  generalize hdue : [] = due at h
  cases h with
  | idle hcalls =>
    rw [hcalls] at hx
    cases hx
  | @busy y _ _ _ _ _ _ _ _ hcalls _ _ _ hphase =>
    rw [hcalls, List.mem_singleton] at hx
    subst hx
    generalize c.pending = pending at hphase
    cases hphase with
    | unanswered => cases hdue
    | answered _ hs => simp [hs]
    | numbered hp' | registered hp' | settled hp' =>
      rw [hp] at hp'
      cases hp'

/-- All that was to come of a script has come of it. -/
structure CarriedOut (c₀ : Client) (script : List Chore) (s : Dialogue) : Prop where
  done : s.done = script
  results : s.results = script.filterMap Chore.answer?
  seen : s.seen = (Chore.complaints false script).map
    (fun uri => .diagnostics uri [Client.syntaxError]) ++ [.closed .closed]
  entries : s.client.sink.entries =
    c₀.sink.entries ++ List.replicate (script.countP Chore.isIntroduction) greeted

/-- While the stand-in is there, someone has something to do. -/
theorem Joint.not_serving (h : Joint c₀ script s) (hf : Feasible c₀ script)
    (hstalled : ∀ part, s.Stalled part) : s.serving = false := by
  obtain ⟨hscript, vs, ws, ds, hw, hl⟩ := h
  by_contra hserving
  have hup : s.up.unput = [] := hstalled .putUp
  have hdown : s.down.unput = [] := hstalled .putDown
  have hqueue : s.client.queue = [] := (hstalled .writer).resolve_right fun hne => hne hup
  have hserver : s.up.read = .awaiting :=
    ((hstalled .server).resolve_left hserving).resolve_left fun hne => hne hdown
  have hreader : s.down.read = .awaiting :=
    (hstalled .reader).resolve_left fun hr => hserving (hw.finished hr).2
  obtain ⟨rfl, -⟩ :=
    hw.up.eq_nil_of_awaiting (hw.legible_up hl hscript hf) hup (hstalled .carryUp) hserver
  obtain ⟨hds, -⟩ :=
    hw.down.eq_nil_of_awaiting (hw.legible_down hl hscript hf) hdown (hstalled .carryDown) hreader
  have hwords := hw.words
  rw [hqueue, List.append_nil, List.forall₂_nil_left_iff] at hwords
  obtain rfl := List.map_eq_nil_iff.1 hds
  subst hwords
  -- nothing is under way, so that the last word was not said and the owner can go on
  obtain ⟨extra, hattends, -⟩ := hl.owner
  rcases hstalled .owner with htodo | hne | ⟨x, hx, hp, hs⟩
  · obtain ⟨ws', -, hws⟩ := hw.parting
    simp [htodo, hserving] at hws
  · exact hne hqueue
  · exact hattends.not_waiting hx hp hs

/-- **Where nobody has anything to do, everything is done.** -/
theorem Joint.carriedOut (h : Joint c₀ script s) (hf : Feasible c₀ script)
    (hstalled : ∀ part, s.Stalled part) : CarriedOut c₀ script s := by
  have hserving := h.not_serving hf hstalled
  obtain ⟨hscript, vs, ws, ds, hw, hl⟩ := h
  obtain ⟨htodo, rfl⟩ := hw.gone hserving
  have hended : s.down.ended = true :=
    hstalled .notice (by rw [hw.shut, hserving]; rfl) (hstalled .carryDown)
  have hreading : s.client.reading = false := by
    refine (hstalled .reader).resolve_right fun hread => ?_
    have hopen := (hw.down.eq_nil_of_awaiting (hw.legible_down hl hscript hf) (hstalled .putDown)
      (hstalled .carryDown) hread).2
    rw [hended] at hopen
    cases hopen
  obtain ⟨rfl, -⟩ := hw.finished hreading
  have hevents : s.client.events = [] := hstalled .listener
  rw [htodo, List.append_nil] at hscript
  subst hscript
  obtain ⟨k, hentries, hcount⟩ := hl.greetings
  refine ⟨rfl, hl.results, ?_, ?_⟩
  · simpa [Word.notes, hevents, hreading] using hl.events
  · rw [hentries, ← hcount]
    rfl

/-- The conversation after `n` moves. -/
def state (c₀ : Client) (script : List Chore) (σ : ℕ → Part × ℕ) (n : ℕ) : Dialogue :=
  along (fun s m => s.step m.1 m.2) { client := c₀, todo := script } σ n

/-- A client that is connected and was not used yet. -/
structure Connected (c : Client) : Prop where
  nextId : c.nextId < UInt64.size
  calls : c.calls = []
  pending : c.pending = []
  queue : c.queue = []
  events : c.events = []
  writing : c.writing = true
  reading : c.reading = true

/-- Everyone has a turn again and again. -/
def Fair (σ : ℕ → Part × ℕ) : Prop := ∀ part n, ∃ t, n ≤ t ∧ (σ t).1 = part

variable {σ : ℕ → Part × ℕ}

theorem Connected.joint (hc : Connected c₀) (hf : Feasible c₀ script) :
    Joint c₀ script { client := c₀, todo := script } := by
  have hne : script ≠ [] := by
    obtain ⟨chores, rfl, -⟩ := hf.last
    simp
  refine ⟨rfl, [], [], [], ?_, ?_⟩
  · exact {
      up := Frame.Pipe.carries_empty
      unshut := rfl
      down := Frame.Pipe.carries_empty
      shut := rfl
      words := by simp [hc.queue]
      parting := ⟨[], by simp, by simp [hne]⟩
      gone := by simp
      writing := hc.writing
      flag := rfl
      served := ⟨[], by simp [hc.queue], rfl, rfl⟩
      notes := by simp
      finished := by simp [hc.reading] }
  · exact {
      language := rfl
      versions := rfl
      writing := hc.writing
      nextId := hc.nextId
      owner := ⟨[], .idle hc.calls hc.pending rfl, by simp [plan, hc.queue]⟩
      methods := by simp
      results := rfl
      events := by simp [hc.events, hc.reading, Word.notes, Chore.complaints]
      greetings := ⟨0, by simp, rfl⟩ }

theorem joint_state (hc : Connected c₀) (hf : Feasible c₀ script) (n : ℕ)
    (hroom : ∀ k < n, (σ k).1 = .reader →
      (state c₀ script σ k).client.events.length < Client.eventCapacity) :
    Joint c₀ script (state c₀ script σ n) := by
  induction n with
  | zero => exact hc.joint hf
  | succ n ih =>
    have h := ih fun k hk => hroom k (hk.trans n.lt_succ_self)
    exact (h.step hf (σ n).1 (σ n).2 (hroom n n.lt_succ_self)).1

/-- What can be said at any time: what was done has come to what it should, no event is there that
should not be, and nothing that was sent is a reply. -/
structure Faithful (c₀ : Client) (script : List Chore) (s : Dialogue) : Prop where
  script : s.done ++ s.todo = script
  results : s.results = s.done.filterMap Chore.answer?
  events : s.seen ++ s.client.events <+: (Chore.complaints false s.done).map
    (fun uri => .diagnostics uri [Client.syntaxError]) ++ [.closed .closed]
  entries : ∃ k ≤ s.done.countP Chore.isIntroduction,
    s.client.sink.entries = c₀.sink.entries ++ List.replicate k greeted
  sent : ∀ v ∈ s.accepted, ∀ id method, v ≠ Message.methodNotFound id method

theorem Joint.faithful (h : Joint c₀ script s) : Faithful c₀ script s := by
  obtain ⟨hscript, vs, ws, ds, hw, hl⟩ := h
  obtain ⟨k, hentries, hcount⟩ := hl.greetings
  refine ⟨hscript, hl.results, ?_, ⟨k, by omega, hentries⟩, fun v hv id method =>
    (hl.methods v hv).ne_methodNotFound id method⟩
  refine List.IsPrefix.trans ⟨_, hl.events⟩ ?_
  split
  · rw [List.append_nil]
    exact List.prefix_append _ _
  · exact List.prefix_rfl

/-- **A script is carried out against the stand-in.** Whatever the order in which the owner, the two
halves of the client, the stand-in and the bytes between them move, as long as events are taken in
time: each request that is done has come to its own answer, in order; the events are the complaints
about the documents that were saved while compiling on save was on, in order; each introduction
makes one entry; and the client never replies. If everyone has a turn again and again, all of the
script gets done, and all that was to come of it comes. -/
theorem script_carried_out (c₀ : Client) (hc : Connected c₀) (script : List Chore)
    (hf : Feasible c₀ script) (σ : ℕ → Part × ℕ)
    (hroom : ∀ n, (σ n).1 = .reader →
      (state c₀ script σ n).client.events.length < Client.eventCapacity) :
    (∀ n, Faithful c₀ script (state c₀ script σ n)) ∧
    (Fair σ → ∃ N, ∀ n, N ≤ n → CarriedOut c₀ script (state c₀ script σ n)) := by
  have hjoint : ∀ n, Joint c₀ script (state c₀ script σ n) :=
    fun n => joint_state hc hf n fun k _ => hroom k
  refine ⟨fun n => (hjoint n).faithful, fun hfair => ?_⟩
  have hstep : ∀ n, Advances c₀ script (state c₀ script σ n) (σ n).1 (state c₀ script σ (n + 1)) :=
    fun n => (hjoint n).step hf _ _ (hroom n)
  obtain ⟨N, hrest⟩ := exists_rest (state c₀ script σ) measure
    fun n => (hstep n).2.imp_left And.left
  -- a move of the state at rest changes nothing, so there is a reason for it
  have hstalled : ∀ part, (state c₀ script σ N).Stalled part := fun part => by
    obtain ⟨t, ht, hpart⟩ := hfair part N
    have hmove := (hstep t).2
    rw [hrest t ht, hrest (t + 1) (by omega), hpart] at hmove
    exact (hmove.resolve_right (lt_irrefl _)).2
  exact ⟨N, fun n hn => hrest n hn ▸ (hjoint N).carriedOut hf hstalled⟩

theorem Joint.length_events_le (h : Joint c₀ script s) :
    s.client.events.length ≤ (Chore.complaints false script).length + 1 := by
  obtain ⟨hscript, vs, ws, ds, -, hl⟩ := h
  have hlen := congrArg List.length hl.events
  rw [← hscript, Chore.complaints_append, List.length_append]
  split at hlen <;> simp at hlen <;> omega

/-- Where there are few complaints, nobody has to take events in time. -/
theorem room_of_few (hc : Connected c₀) (hf : Feasible c₀ script)
    (hfew : (Chore.complaints false script).length + 1 < Client.eventCapacity) (n : ℕ) :
    (state c₀ script σ n).client.events.length < Client.eventCapacity := by
  induction n using Nat.strong_induction_on with
  | h n ih =>
    have hjoint := joint_state (σ := σ) hc hf n fun k hk _ => ih k hk
    exact hjoint.length_events_le.trans_lt hfew

/-- Two documents are saved, the first one also before compiling on save is on and after a setting
that is no boolean. -/
def session : List Chore :=
  [.introduce 7 (some "file:///rules"), .save "file:///a.yar",
    .configure (.obj [("compile_on_save", .bool true),
      ("ratio", .num (.float (Binary64.ofRatio false 1 3)))]),
    .save "file:///a.yar", .request "exit" none, .change "file:///b.yar" "rule b \x7b",
    .save "file:///b.yar", .configure (.obj [("compile_on_save", .nat 1)]), .save "file:///a.yar",
    .execute Message.compileRule [.str "file:///a.yar"], .shutdown]

/-- Everyone in turn. -/
def rounds (n : ℕ) : Part × ℕ :=
  ([.owner, .writer, .putUp, .carryUp, .server, .putDown, .carryDown, .notice, .reader,
    .listener].getD (n % 10) .owner, 100)

theorem fair_rounds : Fair rounds := by
  intro part n
  have hturn : ∀ k < 10, (rounds (10 * n + k)).1 = (rounds k).1 := fun k hk => by
    simp [rounds, Nat.mod_eq_of_lt hk]
  have hpart : ∃ k < 10, (rounds k).1 = part := by cases part <;> decide
  obtain ⟨k, hk, rfl⟩ := hpart
  exact ⟨10 * n + k, by omega, hturn k hk⟩

def sessionFrames : List Json :=
  [Message.request 1 "initialize" (some (Message.initializeParams 7 (some "file:///rules"))),
    Message.notification "initialized" (some (.obj [])),
    Message.notification "textDocument/didSave" (some (Message.uriParams "file:///a.yar")),
    Message.notification "workspace/didChangeConfiguration" (some (Message.configurationParams
      (.obj [("compile_on_save", .bool true),
        ("ratio", .num (.float (Binary64.ofRatio false 1 3)))]))),
    Message.notification "textDocument/didSave" (some (Message.uriParams "file:///a.yar")),
    Message.request 2 "exit" none,
    Message.notification "textDocument/didOpen"
      (some (Message.openParams "file:///b.yar" "yara" 1 "rule b \x7b")),
    Message.notification "textDocument/didSave" (some (Message.uriParams "file:///b.yar")),
    Message.notification "workspace/didChangeConfiguration" (some (Message.configurationParams
      (.obj [("compile_on_save", .nat 1)]))),
    Message.notification "textDocument/didSave" (some (Message.uriParams "file:///a.yar")),
    Message.request 3 "workspace/executeCommand"
      (some (Message.commandParams Message.compileRule [.str "file:///a.yar"])),
    Message.request 4 "shutdown" none,
    Message.notification "exit" none]

theorem frames_session : Chore.frames {} session = sessionFrames := by rfl

theorem legible_sessionFrames : ∀ v ∈ sessionFrames, Frame.Legible v := by
  simp (disch := decide) only [sessionFrames, Message.request, Message.notification,
    Message.paramsMember, Message.initializeParams, Message.capabilities, Message.dynamic,
    Message.uriParams, Message.openParams, Message.documentParams, Message.configurationParams,
    Message.commandParams, Option.elim, Option.map_some, Option.map_none, Option.toList,
    List.append_nil, List.cons_append, List.nil_append, Json.object_eq_insertionSort]
  decide +kernel

/-- What the frames say. -/
def sessionWords : List Word :=
  [.ask 1 "initialize", .ready, .save "file:///a.yar", .configure true, .save "file:///a.yar",
    .ask 2 "exit", .other, .save "file:///b.yar", .configure false, .save "file:///a.yar",
    .ask 3 "workspace/executeCommand", .ask 4 "shutdown", .leave]

theorem says_sessionFrames : List.Forall₂ Says sessionFrames sessionWords := by
  refine .cons (says_request _ _ _) <| .cons (says_initialized _) <| .cons (says_save _) <|
    .cons (says_configuration _) <| .cons (says_save _) <| .cons (says_request _ _ _) <|
    .cons (says_other _ ?_) <| .cons (says_save _) <| .cons (says_configuration _) <|
    .cons (says_save _) <| .cons (says_request _ _ _) <| .cons (says_request _ _ _) <|
    .cons (says_exit _) .nil
  decide

theorem legible_sessionNotes : ∀ n ∈ Word.notes false sessionWords, Frame.Legible n.frame := by
  have hnotes : Word.notes false sessionWords =
      [.reply 1 "initialize", .greeting, .complaint "file:///a.yar", .reply 2 "exit",
        .complaint "file:///b.yar", .reply 3 "workspace/executeCommand", .reply 4 "shutdown"] := rfl
  simp (disch := decide) only [hnotes, List.forall_mem_cons, Note.frame, StandIn.reply,
    StandIn.abilities, StandIn.greeting, StandIn.complaint, StandIn.positionAt, Message.result,
    Message.methodNotFound, Message.notification, Message.paramsMember, Option.map_some,
    Option.toList, List.cons_append, List.nil_append, Json.object_eq_insertionSort]
  decide +kernel

theorem feasible_session : Feasible {} session := by
  refine ⟨⟨session.dropLast, rfl, by simp [session]⟩, ?_, fun v hv => ?_⟩
  · rw [frames_session]
    exact legible_sessionFrames
  · rw [frames_session] at hv
    obtain ⟨n, hn, rfl⟩ := StandIn.exists_note_of_mem_serve says_sessionFrames {} v hv
    exact legible_sessionNotes n hn

theorem script_carried_out_session :
    (∀ n, Faithful {} session (state {} session rounds n)) ∧
    ∃ N, ∀ n, N ≤ n → (state {} session rounds n).results =
        [.ok StandIn.abilities, .error (.rpc "exit" (-32601) "Method not found: exit"), .ok .null,
          .ok .null] ∧
      (state {} session rounds n).seen =
        [.diagnostics "file:///a.yar" [Client.syntaxError],
          .diagnostics "file:///b.yar" [Client.syntaxError], .closed .closed] ∧
      (state {} session rounds n).client.sink.entries = [greeted] := by
  have hc : Connected {} := ⟨by decide, rfl, rfl, rfl, rfl, rfl, rfl⟩
  have h := script_carried_out {} hc session feasible_session rounds fun n _ =>
    room_of_few hc feasible_session (by decide) n
  obtain ⟨N, hN⟩ := h.2 fair_rounds
  exact ⟨h.1, N, fun n hn => ⟨(hN n hn).results, (hN n hn).seen, (hN n hn).entries⟩⟩

end Sidecar.Dialogue
