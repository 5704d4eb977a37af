/-
# What a frame from the server brings about

A frame has at most one consequence, and which one it is can be told from the
frame alone (`Entails`): a request of the server is declined, a response goes to
the call that waits for it, published diagnostics become an event, and a message
to the user becomes an entry of the output. Any other frame is passed over.

Reading a list of frames does what their consequences say, one after the other,
and nothing else. As each consequence is about one part of the client, every
part can be given in closed form (`Dispatched`). Only the first response to a
call reaches it, since it strikes off the id.

Key definitions: `Client.Consequence`, `Client.Entails`, `Client.undergo`, `Client.Dispatched`.
Key theorems: `Client.consequence?_eq_some_iff`, `Client.run_arrive_eq`,
`Client.frames_have_own_effect`.
-/
import Mathlib.Data.List.Forall2
import Mathlib.Data.List.ReduceOption
import Mathlib.Tactic.Common
import Sidecar.Proofs.JsonObject
import Sidecar.Proofs.Payload
import Sidecar.Proofs.Turn

namespace Sidecar.Client

/-- What a frame can bring about. -/
inductive Consequence where
  /-- A request of the server is declined. -/
  | reply (id : Json) (method : String)
  /-- A response goes to the call with the id. -/
  | delivery (id : Nat) (frame : Json)
  /-- Diagnostics of a document are passed on. -/
  | event (uri : String) (items : List Diagnostic)
  /-- A message to the user is put out. -/
  | entry (level : Level) (text : String)

/-- The methods of messages to the user. -/
def messageMethods : List String :=
  ["window/logMessage", "window/showMessage", "window/showMessageRequest"]

/-- A frame brings something about. -/
inductive Entails (f : Json) : Consequence → Prop where
  /-- It has an id, whatever it is, and a method. -/
  | reply (id : Json) (method : String) (hid : f.get? "id" = some id)
      (hmethod : f.get? "method" = some (.str method)) : Entails f (.reply id method)
  /-- It has a number of 64 bits as its id, no method, and a result or an error. -/
  | delivery (id : Nat) (hid : f.get? "id" = some (Json.nat id)) (hlt : id < 2 ^ 64)
      (hmethod : ∀ s, f.get? "method" ≠ some (.str s))
      (houtcome : (f.get? "result").isSome ∨ (f.get? "error").isSome) : Entails f (.delivery id f)
  /-- It has no id and publishes diagnostics. -/
  | event (params : Json) (uri : String) (items : List Diagnostic) (hid : f.get? "id" = none)
      (hmethod : f.get? "method" = some (.str "textDocument/publishDiagnostics"))
      (hparams : f.get? "params" = some params) (h : Incoming.Publishes params uri items) :
      Entails f (.event uri items)
  /-- It has no id and announces a message. -/
  | entry (method : String) (params : Json) (level : Level) (text : String)
      (hid : f.get? "id" = none) (hmethod : f.get? "method" = some (.str method))
      (hmem : method ∈ messageMethods) (hparams : f.get? "params" = some params)
      (h : Incoming.Announces params level text) : Entails f (.entry level text)

variable {c : Client} {f : Json} {fs : List Json} {k : Consequence} {ks : List Consequence}
  {id : Json} {method : String}

theorem bind_str?_eq_some_iff {x : Option Json} {s : String} :
    x.bind Json.str? = some s ↔ x = some (.str s) := by
  simp [Option.bind_eq_some_iff, Incoming.str?_eq_some_iff]

theorem bind_str?_eq_none_iff {x : Option Json} :
    x.bind Json.str? = none ↔ ∀ s, x ≠ some (.str s) := by
  simp only [Option.eq_none_iff_forall_ne_some, ne_eq, bind_str?_eq_some_iff]

theorem responds_iff {id : Nat} :
    Responds f id ↔ f.get? "id" = some (Json.nat id) ∧ id < 2 ^ 64 ∧
      (∀ s, f.get? "method" ≠ some (.str s)) ∧
      ((f.get? "result").isSome ∨ (f.get? "error").isSome) := by
  have hunsigned (v : Json) : v.unsigned? = some id ↔ v = Json.nat id ∧ id < 2 ^ 64 := by
    show Incoming.number? 64 v = some id ↔ _
    exact Incoming.number?_eq_some_iff
  rw [Responds, bind_str?_eq_none_iff, Option.bind_eq_some_iff]
  simp only [hunsigned]
  constructor
  · rintro ⟨⟨v, hv, rfl, hlt⟩, hmethod, houtcome⟩
    exact ⟨hv, hlt, hmethod, houtcome⟩
  · rintro ⟨hid, hlt, hmethod, houtcome⟩
    exact ⟨⟨_, hid, rfl, hlt⟩, hmethod, houtcome⟩

theorem ofFrame?_eq_request_iff :
    Incoming.ofFrame? f = some (.request id method) ↔
      f.get? "id" = some id ∧ f.get? "method" = some (.str method) := by
  rw [← bind_str?_eq_some_iff]
  unfold Incoming.ofFrame?
  cases f.get? "id" <;> cases (f.get? "method").bind Json.str? <;> simp

theorem ofFrame?_eq_notification_iff {params : Option Json} :
    Incoming.ofFrame? f = some (.notification method params) ↔
      f.get? "id" = none ∧ f.get? "method" = some (.str method) ∧ f.get? "params" = params := by
  rw [← bind_str?_eq_some_iff]
  unfold Incoming.ofFrame?
  cases f.get? "id" <;> cases (f.get? "method").bind Json.str? <;> simp

/-- The consequence of a notification. -/
def notified? (method : String) (params : Option Json) : Option Consequence :=
  if method = "textDocument/publishDiagnostics" then
    (params.bind Incoming.diagnostics?).map fun p => .event p.1 p.2
  else if method ∈ messageMethods then
    (params.bind Incoming.message?).map fun p => .entry p.1 p.2
  else none

/-- The consequence of a frame. -/
def consequence? (f : Json) : Option Consequence :=
  match Incoming.ofFrame? f with
  | none => none
  | some (.response id f) => some (.delivery id f)
  | some (.request id method) => some (.reply id method)
  | some (.notification method params) => notified? method params

theorem notified?_publish {v : Json} {uri : String} {items : List Diagnostic}
    (h : Incoming.Publishes v uri items) :
    notified? "textDocument/publishDiagnostics" (some v) = some (.event uri items) := by
  rw [notified?, if_pos rfl, Option.bind_some, Incoming.diagnostics?_eq_some_iff.2 h]
  rfl

theorem notified?_announce {v : Json} {level : Level} {text : String} (hm : method ∈ messageMethods)
    (h : Incoming.Announces v level text) :
    notified? method (some v) = some (.entry level text) := by
  have hne : method ≠ "textDocument/publishDiagnostics" := by
    rintro rfl
    simp [messageMethods] at hm
  rw [notified?, if_neg hne, if_pos hm, Option.bind_some, Incoming.message?_eq_some_iff.2 h]
  rfl

theorem entails_of_notified? (hid : f.get? "id" = none)
    (hmethod : f.get? "method" = some (.str method))
    (h : notified? method (f.get? "params") = some k) : Entails f k := by
  unfold notified? at h
  split_ifs at h with hpublish hmessage
  · obtain ⟨⟨uri, items⟩, hread, rfl⟩ := Option.map_eq_some_iff.1 h
    obtain ⟨v, hv, hread⟩ := Option.bind_eq_some_iff.1 hread
    subst hpublish
    exact .event v uri items hid hmethod hv (Incoming.diagnostics?_eq_some_iff.1 hread)
  · obtain ⟨⟨level, text⟩, hread, rfl⟩ := Option.map_eq_some_iff.1 h
    obtain ⟨v, hv, hread⟩ := Option.bind_eq_some_iff.1 hread
    exact .entry method v level text hid hmethod hmessage hv (Incoming.message?_eq_some_iff.1 hread)

/-- **The consequence of a frame is what it entails**, so that there is at most one. -/
theorem consequence?_eq_some_iff : consequence? f = some k ↔ Entails f k := by
  constructor
  · intro h
    unfold consequence? at h
    split at h
    · cases h
    · next id g hframe =>
      obtain ⟨rfl, hresponds⟩ := ofFrame?_eq_response_iff.1 hframe
      obtain ⟨hid, hlt, hmethod, houtcome⟩ := responds_iff.1 hresponds
      cases h
      exact .delivery id hid hlt hmethod houtcome
    · next id method hframe =>
      obtain ⟨hid, hmethod⟩ := ofFrame?_eq_request_iff.1 hframe
      cases h
      exact .reply id method hid hmethod
    · next method params hframe =>
      obtain ⟨hid, hmethod, rfl⟩ := ofFrame?_eq_notification_iff.1 hframe
      exact entails_of_notified? hid hmethod h
  · intro h
    unfold consequence?
    cases h with
    | reply id method hid hmethod => rw [ofFrame?_eq_request_iff.2 ⟨hid, hmethod⟩]
    | delivery id hid hlt hmethod houtcome =>
      have hresponds := responds_iff.2 ⟨hid, hlt, hmethod, houtcome⟩
      rw [ofFrame?_eq_response_iff.2 ⟨rfl, hresponds⟩]
    | event params uri items hid hmethod hparams h =>
      rw [ofFrame?_eq_notification_iff.2 ⟨hid, hmethod, hparams⟩]
      exact notified?_publish h
    | entry method params level text hid hmethod hmem hparams h =>
      rw [ofFrame?_eq_notification_iff.2 ⟨hid, hmethod, hparams⟩]
      exact notified?_announce hmem h

/-! ### Undergoing consequences -/

/-- A call is given a response, if it still takes one. -/
def Call.given (frame : Json) (x : Call) : Call :=
  if x.isOpen then { x with slot := .filled frame } else x

/-- What a consequence does to a client. -/
def undergo (c : Client) : Consequence → Client
  | .reply id method => { c with queue := c.queue ++ [Message.methodNotFound id method] }
  | .delivery id frame =>
    { c with
      pending := c.pending.filter (· != id)
      calls := c.calls.map fun x => if id ∈ c.pending ∧ x.id = id then x.given frame else x }
  | .event uri items => { c with events := c.events ++ [.diagnostics uri items] }
  | .entry level text => { c with sink := { c.sink with entries := c.sink.entries ++ [⟨level, text⟩] } }

/-- What a frame without consequence does is nothing. -/
def undergo? (c : Client) (k : Option Consequence) : Client := k.elim c c.undergo

theorem handle_message (h : method ∈ messageMethods) (params : Option Json) :
    c.handle method params = (params.bind Incoming.message?).elim c fun m => c.say m.1 m.2 := by
  simp only [messageMethods, List.mem_cons, List.not_mem_nil, or_false] at h
  rcases h with rfl | rfl | rfl <;> rw [handle] <;> cases params.bind Incoming.message? <;> rfl

theorem handle_eq (hroom : c.events.length < eventCapacity) (method : String)
    (params : Option Json) : c.handle method params = c.undergo? (notified? method params) := by
  by_cases hpublish : method = "textDocument/publishDiagnostics"
  · subst hpublish
    rw [notified?, if_pos rfl, handle]
    cases params.bind Incoming.diagnostics? with
    | none => rfl
    | some p => exact if_pos hroom
  · rw [notified?, if_neg hpublish]
    by_cases hmessage : method ∈ messageMethods
    · rw [if_pos hmessage, handle_message hmessage]
      cases params.bind Incoming.message? <;> rfl
    · rw [if_neg hmessage]
      simp only [messageMethods, List.mem_cons, List.not_mem_nil, or_false, not_or] at hmessage
      simp [handle, hmessage, undergo?]

theorem deliver_eq (c : Client) (id : Nat) (frame : Json) :
    c.deliver id frame = c.undergo (.delivery id frame) := by
  by_cases hid : id ∈ c.pending
  · simp [deliver, undergo, forget, updateCall, Call.leave, Call.given, hid]
  · have hkept : c.pending.filter (· != id) = c.pending := by
      refine List.filter_eq_self.2 fun i hi => bne_iff_ne.2 ?_
      rintro rfl
      exact hid hi
    rw [deliver, List.contains_eq_mem, if_neg (by simpa using hid), undergo, hkept]
    simp [hid]

/-- **A frame does what its consequence says**, as long as the writer takes frames and there is room
for an event. -/
theorem dispatch_eq (hw : c.writing = true) (hroom : c.events.length < eventCapacity) (f : Json) :
    c.dispatch f = c.undergo? (consequence? f) := by
  unfold dispatch consequence?
  cases Incoming.ofFrame? f with
  | none => rfl
  | some incoming =>
    cases incoming with
    | response id frame => exact deliver_eq c id frame
    | request id method =>
      show (c.enqueue? (Message.methodNotFound id method)).getD c = _
      rw [enqueue?, if_pos hw]
      rfl
    | notification method params => exact handle_eq hroom method params

/-- No frame of a list meets a full queue of events. -/
def Roomy (c : Client) : List Json → Prop
  | [] => True
  | f :: fs => c.events.length < eventCapacity ∧ Roomy (c.step (.arrive f)) fs

theorem reading_undergo? (c : Client) (k : Option Consequence) :
    (c.undergo? k).reading = c.reading := by
  rcases k with _ | _ | _ | _ | _ <;> rfl

theorem writing_undergo? (c : Client) (k : Option Consequence) :
    (c.undergo? k).writing = c.writing := by
  rcases k with _ | _ | _ | _ | _ <;> rfl

theorem step_arrive_eq (hr : c.reading = true) (hw : c.writing = true)
    (hroom : c.events.length < eventCapacity) (f : Json) :
    c.step (.arrive f) = c.undergo? (consequence? f) := by
  rw [step, if_pos hr, dispatch_eq hw hroom]

/-- **Frames do what their consequences say**, in their order. -/
theorem run_arrive_eq (hr : c.reading = true) (hw : c.writing = true) (hroom : Roomy c fs) :
    c.run (fs.map .arrive) = (fs.map consequence?).foldl undergo? c := by
  induction fs generalizing c with
  | nil => rfl
  | cons f fs ih =>
    obtain ⟨hfirst, hrest⟩ := hroom
    show (c.step (.arrive f)).run (fs.map .arrive) = _
    have hstep := step_arrive_eq hr hw hfirst f
    rw [hstep] at hrest ⊢
    refine ih ?_ ?_ hrest
    · rw [reading_undergo?, hr]
    · rw [writing_undergo?, hw]

/-! ### Each part of the client -/

namespace Consequence

/-- The request that is declined. -/
def asked? : Consequence → Option (Json × String)
  | reply id method => some (id, method)
  | _ => none

/-- The response, and the id of the call it is for. -/
def delivered? : Consequence → Option (Nat × Json)
  | delivery id frame => some (id, frame)
  | _ => none

def event? : Consequence → Option ServerEvent
  | event uri items => some (.diagnostics uri items)
  | _ => none

def entry? : Consequence → Option Entry
  | entry level text => some ⟨level, text⟩
  | _ => none

end Consequence

/-- What every step appends, a run appends in order. -/
theorem foldl_append_filterMap {α β S : Type} (part : S → List β) (f : S → α → S) (g : α → Option β)
    (h : ∀ s a, part (f s a) = part s ++ (g a).toList) (s : S) (as : List α) :
    part (as.foldl f s) = part s ++ as.filterMap g := by
  induction as generalizing s with
  | nil => simp
  | cons a as ih =>
    rw [List.foldl_cons, ih, h, List.append_assoc, List.filterMap_cons]
    cases g a <;> rfl

theorem foldl_undergo? (c : Client) (es : List (Option Consequence)) :
    es.foldl undergo? c = es.reduceOption.foldl undergo c := by
  rw [List.reduceOption, List.foldl_filterMap]
  congr 1
  funext c e
  cases e <;> rfl

theorem queue_foldl_undergo (c : Client) (ks : List Consequence) :
    (ks.foldl undergo c).queue =
      c.queue ++ (ks.filterMap Consequence.asked?).map fun q => Message.methodNotFound q.1 q.2 := by
  rw [List.map_filterMap]
  refine foldl_append_filterMap Client.queue undergo _ (fun c k => ?_) c ks
  cases k <;> simp [undergo, Consequence.asked?]

theorem events_foldl_undergo (c : Client) (ks : List Consequence) :
    (ks.foldl undergo c).events = c.events ++ ks.filterMap Consequence.event? := by
  refine foldl_append_filterMap Client.events undergo _ (fun c k => ?_) c ks
  cases k <;> simp [undergo, Consequence.event?]

theorem sink_foldl_undergo (c : Client) (ks : List Consequence) :
    (ks.foldl undergo c).sink =
      { c.sink with entries := c.sink.entries ++ ks.filterMap Consequence.entry? } := by
  have hname : (ks.foldl undergo c).sink.name = c.sink.name := by
    induction ks generalizing c with
    | nil => rfl
    | cons k ks ih =>
      rw [List.foldl_cons, ih]
      cases k <;> rfl
  have hentries : (ks.foldl undergo c).sink.entries =
      c.sink.entries ++ ks.filterMap Consequence.entry? := by
    refine foldl_append_filterMap (fun c => c.sink.entries) undergo _ (fun c k => ?_) c ks
    cases k <;> simp [undergo, Consequence.entry?]
  show _ = Sink.mk c.sink.name _
  rw [← hname, ← hentries]

theorem pending_foldl_undergo (c : Client) (ks : List Consequence) :
    (ks.foldl undergo c).pending =
      c.pending.filter fun id => id ∉ (ks.filterMap Consequence.delivered?).map (·.1) := by
  induction ks generalizing c with
  | nil => simp
  | cons k ks ih =>
    rw [List.foldl_cons, ih]
    cases k with
    | delivery id frame =>
      simp only [undergo, List.filter_filter, List.filterMap_cons, Consequence.delivered?,
        List.map_cons, List.mem_cons, not_or]
      refine List.filter_congr fun i _ => ?_
      rw [Bool.eq_iff_iff]
      simp [and_comm]
    | reply | event | entry => rfl

/-- Only the first response reaches a call, as it strikes off the id. -/
theorem calls_foldl_undergo (c : Client) (ks : List Consequence) :
    (ks.foldl undergo c).calls = c.calls.map fun x =>
      if x.id ∈ c.pending ∧ x.isOpen = true then
        { x with slot := ((ks.filterMap Consequence.delivered?).lookup x.id).elim x.slot .filled }
      else x := by
  induction ks generalizing c with
  | nil => simp
  | cons k ks ih =>
    rw [List.foldl_cons, ih]
    cases k with
    | delivery id frame =>
      simp only [undergo, List.map_map, List.filterMap_cons, Consequence.delivered?]
      refine List.map_congr_left fun x _ => ?_
      by_cases hid : x.id = id
      · subst hid
        by_cases hknown : x.id ∈ c.pending
        · cases hopen : x.isOpen <;> simp [hknown, Call.given, hopen]
        · simp [hknown]
      · have hlookup (ds : List (Nat × Json)) : ((id, frame) :: ds).lookup x.id = ds.lookup x.id := by
          rw [List.lookup_cons, beq_false_of_ne hid]
        have hknown : x.id ∈ c.pending.filter (· != id) ↔ x.id ∈ c.pending := by simp [hid]
        simp only [Function.comp_apply, hid, and_false, if_false, hknown, hlookup]
    | reply | event | entry => rfl

theorem foldl_undergo_rest (c : Client) (ks : List Consequence) :
    ks.foldl undergo c =
      { c with
        queue := (ks.foldl undergo c).queue
        pending := (ks.foldl undergo c).pending
        calls := (ks.foldl undergo c).calls
        events := (ks.foldl undergo c).events
        sink := (ks.foldl undergo c).sink } := by
  induction ks generalizing c with
  | nil => rfl
  | cons k ks ih =>
    refine (ih (c.undergo k)).trans ?_
    cases k <;> rfl

/-- A reply declines a request: it has the same id, says that the method is not known, and has
neither a result nor a method of its own. -/
structure Declines (reply id : Json) (method : String) : Prop where
  version : reply.get? "jsonrpc" = some (.str "2.0")
  id : reply.get? "id" = some id
  error : ∃ e, reply.get? "error" = some e ∧ e.get? "code" = some (.num (.int (-32601))) ∧
    e.get? "message" = some (.str ("Method not found: " ++ method))
  result : reply.get? "result" = none
  method : reply.get? "method" = none

theorem declines_methodNotFound (id : Json) (method : String) :
    Declines (Message.methodNotFound id method) id method := by
  constructor
  case error =>
    refine ⟨Json.object [("code", .num (.int (-32601))),
      ("message", .str ("Method not found: " ++ method))], ?_, ?_, ?_⟩
    · simp [Message.methodNotFound, Json.get?_object, Json.int, Message.methodNotFoundCode]
    · simp [Json.get?_object]
    · simp [Json.get?_object]
  all_goals simp [Message.methodNotFound, Json.get?_object]

/-- What a list of frames has done to a client, where `es` are their consequences. -/
structure Dispatched (c : Client) (fs : List Json) (es : List (Option Consequence)) : Prop where
  /-- Every frame has the consequence that it entails, and none if it entails none. -/
  entailed : List.Forall₂ (fun f e => ∀ k, e = some k ↔ Entails f k) fs es
  /-- Every request is declined once, in the order of the requests. -/
  queue : ∃ replies, (c.run (fs.map .arrive)).queue = c.queue ++ replies ∧
    List.Forall₂ (fun reply q => Declines reply q.1 q.2) replies
      (es.reduceOption.filterMap Consequence.asked?)
  /-- The ids of the responses are struck off. -/
  pending : (c.run (fs.map .arrive)).pending =
    c.pending.filter fun id => id ∉ (es.reduceOption.filterMap Consequence.delivered?).map (·.1)
  /-- The first response with its id goes to a call that waits. -/
  calls : (c.run (fs.map .arrive)).calls = c.calls.map fun x =>
    if x.id ∈ c.pending ∧ x.isOpen = true then
      { x with
        slot := ((es.reduceOption.filterMap Consequence.delivered?).lookup x.id).elim x.slot .filled }
    else x
  events : (c.run (fs.map .arrive)).events =
    c.events ++ es.reduceOption.filterMap Consequence.event?
  entries : (c.run (fs.map .arrive)).sink =
    { c.sink with entries := c.sink.entries ++ es.reduceOption.filterMap Consequence.entry? }
  /-- Nothing else has changed. -/
  rest : c.run (fs.map .arrive) =
    { c with
      queue := (c.run (fs.map .arrive)).queue
      pending := (c.run (fs.map .arrive)).pending
      calls := (c.run (fs.map .arrive)).calls
      events := (c.run (fs.map .arrive)).events
      sink := (c.run (fs.map .arrive)).sink }

/-- **Every frame has exactly its own effect.** While the reader and the writer work and there is room
for events, the frames of any list do what they entail, in their order, and nothing else. -/
theorem frames_have_own_effect (hr : c.reading = true) (hw : c.writing = true)
    (hroom : Roomy c fs) : ∃ es, Dispatched c fs es := by
  have hrun := run_arrive_eq hr hw hroom
  rw [foldl_undergo?] at hrun
  refine ⟨fs.map consequence?, ?_, ?_, ?_, ?_, ?_, ?_, ?_⟩
  · rw [List.forall₂_map_right_iff]
    exact List.forall₂_same.2 fun f _ k => consequence?_eq_some_iff
  · refine ⟨_, by rw [hrun, queue_foldl_undergo], ?_⟩
    rw [List.forall₂_map_left_iff]
    exact List.forall₂_same.2 fun q _ => declines_methodNotFound q.1 q.2
  · rw [hrun, pending_foldl_undergo]
  · rw [hrun, calls_foldl_undergo]
  · rw [hrun, events_foldl_undergo]
  · rw [hrun, sink_foldl_undergo]
  · rw [hrun]
    exact foldl_undergo_rest c _

/-- One frame of each kind while a call waits: a request whose id is null, a response and a second
one to the same call, diagnostics, diagnostics on a line that is no number, a message, and a text. -/
def mixedPost : List Json :=
  [.obj [("id", .null), ("method", .str "client/registerCapability")],
    .obj [("id", .nat 1), ("result", .null)],
    .obj [("error", .str "late"), ("id", .nat 1)],
    .obj [("method", .str "textDocument/publishDiagnostics"),
      ("params", .arr [.str "u", .arr [
        .arr [.arr [.arr [.nat 3, .nat 5]], .nat 9, .null, .str "unknown tag"]]])],
    .obj [("method", .str "textDocument/publishDiagnostics"),
      ("params", .arr [.str "u", .arr [
        .arr [.arr [.arr [.null, .nat 5]], .nat 9, .null, .str "unknown tag"]]])],
    .obj [("method", .str "window/showMessage"),
      ("params", .obj [("message", .str "no rules"), ("type", .nat 1)])],
    .str "id"]

/-- A client with one call that waits. -/
def awaiting : Client := run {} [.call "m" none, .register 1, .submit 1]

theorem frames_have_own_effect_mixed :
    (∃ es, Dispatched awaiting mixedPost es) ∧
      (awaiting.run (mixedPost.map .arrive)).queue =
        awaiting.queue ++ [Message.methodNotFound .null "client/registerCapability"] ∧
      (awaiting.run (mixedPost.map .arrive)).pending = [] ∧
      (awaiting.run (mixedPost.map .arrive)).calls.map (·.slot) =
        [.filled (.obj [("id", .nat 1), ("result", .null)])] ∧
      (awaiting.run (mixedPost.map .arrive)).events =
        [.diagnostics "u" [⟨.warning, "unknown tag", 3, 5, "yara"⟩]] ∧
      (awaiting.run (mixedPost.map .arrive)).sink.entries = [⟨.error, "no rules"⟩] := by
  refine ⟨frames_have_own_effect rfl rfl ?_, rfl, rfl, rfl, rfl, rfl⟩
  refine ⟨?_, ?_, ?_, ?_, ?_, ?_, ?_, trivial⟩ <;> decide

end Sidecar.Client
