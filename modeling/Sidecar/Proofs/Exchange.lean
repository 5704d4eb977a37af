/-
# What a client and the stand-in say to each other

The frames of one side, with what the other side makes of them. A frame of the
client is read by the stand-in with the floating point numbers in it perhaps
changed, but nothing that the stand-in looks at is such a number, so each frame
has one meaning (`Word`, `Says`). A frame of the stand-in has none, and the
client reads it as it was written (`Note.reread_frame`): a reply to a call, a
greeting that goes to the sink, or a complaint that becomes an event.

What the stand-in writes is a function of the words it is told in turn
(`Word.notes`), and it never takes back what it has written (`serve_prefix`).

Key definitions: `Word`, `Note`, `Says`, `Client.verdict`.
Key theorems: `StandIn.react_request`, `Client.outcomeOf_reply`, `Client.dispatch_complaint`,
`Note.reread_frame`, `StandIn.serve_concat`.
-/
import Sidecar.Proofs.Pipe
import Sidecar.Proofs.Turn
import Sidecar.StandIn

namespace Sidecar

namespace Json

theorem find?_rereadMembers (ms : List (String × Json)) (key : String) :
    ((rereadMembers ms).find? fun m => m.1 == key).map (·.2) =
      ((ms.find? fun m => m.1 == key).map (·.2)).map reread := by
  induction ms with
  | nil => rfl
  | cons m ms ih =>
    rw [rereadMembers, List.find?_cons, List.find?_cons]
    cases m.1 == key with
    | true => rfl
    | false => exact ih

theorem get?_reread (v : Json) (key : String) : v.reread.get? key = (v.get? key).map reread := by
  cases v with
  | obj ms => exact find?_rereadMembers ms key
  | num n => cases n <;> rfl
  | _ => rfl

theorem str?_reread (v : Json) : v.reread.str? = v.str? := by
  cases v with
  | num n => cases n <;> rfl
  | _ => rfl

theorem bool?_reread (v : Json) : v.reread.bool? = v.bool? := by
  cases v with
  | num n => cases n <;> rfl
  | _ => rfl

theorem Integral.object {ms : List (String × Json)} (hkeys : (ms.map (·.1)).Nodup)
    (h : ∀ m ∈ ms, m.2.Integral) : (object ms).Integral :=
  .obj (pairwise_sortMembers hkeys) fun m hm => h m ((sortMembers_perm hkeys).mem_iff.1 hm)

theorem Integral.nat {n : Nat} (h : n < 2 ^ 64) : (nat n).Integral := .int (by omega) (by omega)

end Json

/-! ### What the stand-in makes of the frames of a client -/

namespace StandIn

theorem reread_at (v : Json) (key : String) : at_ v.reread key = (at_ v key).reread := by
  rw [at_, at_, Json.get?_reread]
  cases v.get? key <;> rfl

theorem methodOf_reread (v : Json) : methodOf v.reread = methodOf v := by
  rw [methodOf, methodOf, Json.get?_reread]
  cases v.get? "method" with
  | none => rfl
  | some m => simp [Json.str?_reread]

theorem compileFlag_reread (v : Json) : compileFlag v.reread = compileFlag v := by
  simp only [compileFlag, reread_at, Json.bool?_reread]

theorem documentOf_reread (v : Json) : documentOf v.reread = (documentOf v).reread := by
  simp only [documentOf, reread_at]

theorem react_request (s : StandIn) (id : Nat) (method : String) (params : Option Json) :
    s.react (Message.request id method params).reread = (s, .answer (reply (.nat id) method)) := by
  have hid : (Message.request id method params).get? "id" = some (.nat id) := by
    cases params <;> simp [Message.request, Message.paramsMember, Json.get?_object]
  have hmethod : methodOf (Message.request id method params) = method := by
    cases params <;> simp [methodOf, Message.request, Message.paramsMember, Json.get?_object, Json.str?]
  rw [react, Json.get?_reread, hid, methodOf_reread, hmethod]
  rfl

section Notification

variable (s : StandIn) (method : String) (params : Option Json)

theorem get?_id_notification : (Message.notification method params).reread.get? "id" = none := by
  rw [Json.get?_reread]
  cases params <;> simp [Message.notification, Message.paramsMember, Json.get?_object]

theorem methodOf_notification : methodOf (Message.notification method params).reread = method := by
  rw [methodOf_reread]
  cases params <;>
    simp [methodOf, Message.notification, Message.paramsMember, Json.get?_object, Json.str?]

theorem react_initialized :
    s.react (Message.notification "initialized" params).reread = (s, .answer greeting) := by
  rw [react, get?_id_notification, methodOf_notification]
  rfl

theorem react_exit : s.react (Message.notification "exit" params).reread = (s, .leave) := by
  rw [react, get?_id_notification, methodOf_notification]
  rfl

/-- Whether settings tell the stand-in to compile on save. -/
def enabledBy (settings : Json) : Bool :=
  match settings.get? "compile_on_save" with
  | some (.bool b) => b
  | _ => false

theorem react_configuration (settings : Json) :
    s.react (Message.notification "workspace/didChangeConfiguration"
        (some (Message.configurationParams settings))).reread =
      ({ compileOnSave := enabledBy settings }, .silence) := by
  have hflag : compileFlag (Message.notification "workspace/didChangeConfiguration"
      (some (Message.configurationParams settings))) = enabledBy settings := by
    simp only [compileFlag, at_, Message.notification, Message.configurationParams,
      Message.paramsMember]
    simp [Json.get?_object, enabledBy]
    cases settings.get? "compile_on_save" with
    | none => rfl
    | some v => cases v <;> rfl
  rw [react, get?_id_notification, methodOf_notification]
  simp only [compileFlag_reread, hflag]

theorem react_save (uri : String) :
    s.react (Message.notification "textDocument/didSave" (some (Message.uriParams uri))).reread =
      (s, if s.compileOnSave then .answer (complaint (.str uri)) else .silence) := by
  have hdoc : documentOf (Message.notification "textDocument/didSave"
      (some (Message.uriParams uri))) = .str uri := by
    simp [documentOf, at_, Message.notification, Message.uriParams, Message.documentParams,
      Message.paramsMember, Json.get?_object]
  rw [react, get?_id_notification, methodOf_notification]
  simp only [documentOf_reread, hdoc]
  rfl

theorem react_other (h : method ∉ ["initialized", "exit", "workspace/didChangeConfiguration",
    "textDocument/didSave"]) :
    s.react (Message.notification method params).reread = (s, .silence) := by
  simp only [List.mem_cons, List.not_mem_nil, or_false, not_or] at h
  rw [react, get?_id_notification, methodOf_notification]
  simp [h]

end Notification

end StandIn

/-! ### What the client makes of the frames of the stand-in -/

namespace Client

theorem responds_reply {id : Nat} (hid : id < 2 ^ 64) (method : String) :
    Responds (StandIn.reply (.nat id) method) id := by
  have hun : (Json.nat id).unsigned? = some id := by
    simpa [Json.nat, Json.unsigned?] using hid
  unfold StandIn.reply
  split <;> simp [Responds, Message.result, Message.methodNotFound, Json.get?_object, hun]

/-- What a request with the given method comes to. -/
def verdict (method : String) : Except ClientError Json :=
  match method with
  | "initialize" => .ok StandIn.abilities
  | "shutdown" | "workspace/executeCommand" => .ok .null
  | _ => .error (.rpc method (-32601) ("Method not found: " ++ method))

theorem outcomeOf_reply (id : Json) (method : String) :
    outcomeOf method (StandIn.reply id method) = verdict method := by
  have hcode : (Json.int Message.methodNotFoundCode).signed? = some (-32601) := by decide
  unfold StandIn.reply verdict
  split <;> simp [outcomeOf, Message.result, Message.methodNotFound, Json.get?_object, hcode, Json.str?]

/-- What the stand-in finds wrong with every document. -/
def syntaxError : Diagnostic where
  severity := .error
  message := "syntax error, unexpected end of file"
  line := 0
  col := 0
  source := "yara"

theorem ofFrame?_notification (method : String) (params : Option Json) :
    Incoming.ofFrame? (Message.notification method params) = some (.notification method params) := by
  cases params <;>
    simp [Incoming.ofFrame?, Message.notification, Message.paramsMember, Json.get?_object, Json.str?]

/-- The fields of a record are found among the members it was made from. -/
theorem fields?_object {ms : List (String × Json)} (h : (ms.map (·.1)).Nodup) (names : List String) :
    Incoming.fields? names (Json.object ms) =
      some (names.map fun n => (ms.find? fun m => m.1 == n).map (·.2)) :=
  congrArg some (List.map_congr_left fun n _ => Json.get?_object h n)

theorem message?_greeting : Incoming.message?
    (Json.object [("type", .nat 3), ("message", .str "Successfully connected")]) =
      some (.info, "Successfully connected") := by
  rw [Incoming.message?, fields?_object (by decide)]
  rfl

theorem dispatch_greeting (c : Client) :
    c.dispatch StandIn.greeting = c.say .info "Successfully connected" := by
  rw [dispatch, StandIn.greeting, ofFrame?_notification]
  simp only [handle, Option.bind_some, message?_greeting]

theorem rangeStart?_complaint : Incoming.rangeStart?
    (Json.object [("start", StandIn.positionAt 0 0), ("end", StandIn.positionAt 0 4)]) =
      some (0, 0) := by
  have hstart : Incoming.position? (StandIn.positionAt 0 0) = some (0, 0) := by
    rw [Incoming.position?, StandIn.positionAt, fields?_object (by decide)]
    rfl
  rw [Incoming.rangeStart?, fields?_object (by decide)]
  exact hstart

theorem diagnostics?_complaint (uri : String) : Incoming.diagnostics?
    (Json.object [
      ("uri", .str uri),
      ("diagnostics", .arr [Json.object [
        ("range", Json.object [("start", StandIn.positionAt 0 0), ("end", StandIn.positionAt 0 4)]),
        ("severity", .nat 1),
        ("source", .str "yara"),
        ("message", .str "syntax error, unexpected end of file")]])]) = some (uri, [syntaxError]) := by
  have hitem : Incoming.diagnostic? (Json.object [
      ("range", Json.object [("start", StandIn.positionAt 0 0), ("end", StandIn.positionAt 0 4)]),
      ("severity", .nat 1),
      ("source", .str "yara"),
      ("message", .str "syntax error, unexpected end of file")]) = some syntaxError := by
    rw [Incoming.diagnostic?, fields?_object (by simp)]
    simp [rangeStart?_complaint]
    rfl
  rw [Incoming.diagnostics?, fields?_object (by simp)]
  simp [hitem, Json.str?]

theorem dispatch_complaint (c : Client) (uri : String) :
    c.dispatch (StandIn.complaint (.str uri)) = c.offer (.diagnostics uri [syntaxError]) := by
  rw [dispatch, StandIn.complaint, ofFrame?_notification]
  simp only [handle, Option.bind_some, diagnostics?_complaint]

end Client

/-- What a frame of the client says to the stand-in. -/
inductive Word where
  | ask (id : Nat) (method : String)
  /-- The client may be greeted. -/
  | ready
  /-- The stand-in is to exit. -/
  | leave
  | configure (on : Bool)
  | save (uri : String)
  /-- Nothing that matters. -/
  | other
  deriving DecidableEq

/-- What the stand-in says to the client. -/
inductive Note where
  | reply (id : Nat) (method : String)
  | greeting
  | complaint (uri : String)
  deriving DecidableEq

namespace Note

def frame : Note → Json
  | reply id method => StandIn.reply (.nat id) method
  | greeting => StandIn.greeting
  | complaint uri => StandIn.complaint (.str uri)

/-- The request that is answered. -/
def due? : Note → Option (Nat × String)
  | reply id method => some (id, method)
  | _ => none

/-- The event that the client makes of a note. -/
def event? : Note → Option ServerEvent
  | complaint uri => some (.diagnostics uri [Client.syntaxError])
  | _ => none

end Note

namespace Word

/-- Whether the stand-in compiles on save from then on. -/
def switch (on : Bool) : Word → Bool
  | configure b => b
  | _ => on

/-- What the stand-in has to say to it. -/
def note? (on : Bool) : Word → Option Note
  | ask id method => some (.reply id method)
  | ready => some .greeting
  | save uri => if on then some (.complaint uri) else none
  | _ => none

def reaction (on : Bool) : Word → StandIn.Reaction
  | leave => .leave
  | w => (w.note? on).elim .silence fun n => .answer n.frame

/-- What the stand-in has to say to some words, one after another. -/
def notes (on : Bool) : List Word → List Note
  | [] => []
  | w :: ws => (w.note? on).toList ++ notes (w.switch on) ws

theorem notes_append (on : Bool) (ws ws' : List Word) :
    notes on (ws ++ ws') = notes on ws ++ notes (ws.foldl switch on) ws' := by
  induction ws generalizing on with
  | nil => rfl
  | cons w ws ih => simp [notes, ih]

end Word

/-- A frame says a word if the stand-in, once it has read the frame, takes it for that. -/
def Says (frame : Json) (w : Word) : Prop :=
  ∀ s : StandIn, s.react frame.reread =
    ({ compileOnSave := w.switch s.compileOnSave }, w.reaction s.compileOnSave)

section Says

open StandIn

theorem says_request (id : Nat) (method : String) (params : Option Json) :
    Says (Message.request id method params) (.ask id method) :=
  fun s => react_request s id method params

theorem says_initialized (params : Option Json) :
    Says (Message.notification "initialized" params) .ready :=
  fun s => react_initialized s params

theorem says_exit (params : Option Json) : Says (Message.notification "exit" params) .leave :=
  fun s => react_exit s params

theorem says_configuration (settings : Json) :
    Says (Message.notification "workspace/didChangeConfiguration"
      (some (Message.configurationParams settings))) (.configure (enabledBy settings)) :=
  fun s => react_configuration s settings

theorem says_save (uri : String) :
    Says (Message.notification "textDocument/didSave" (some (Message.uriParams uri))) (.save uri) := by
  rintro ⟨on⟩
  rw [react_save]
  cases on <;> rfl

theorem says_other {method : String} (params : Option Json)
    (h : method ∉ ["initialized", "exit", "workspace/didChangeConfiguration",
      "textDocument/didSave"]) :
    Says (Message.notification method params) .other :=
  fun s => react_other s method params h

end Says

theorem StandIn.abilities_integral : abilities.Integral := by
  unfold abilities
  refine .object (by decide) ?_
  simp only [List.mem_cons, List.not_mem_nil, or_false, forall_eq_or_imp, forall_eq]
  refine ⟨.object (by decide) ?_, .object (by decide) ?_⟩
  · simp only [List.mem_cons, List.not_mem_nil, or_false, forall_eq_or_imp, forall_eq]
    refine ⟨.nat (by decide), .object (by decide) ?_⟩
    simp only [List.mem_cons, List.not_mem_nil, or_false, forall_eq]
    refine .arr ?_
    simp only [List.mem_cons, List.not_mem_nil, or_false, forall_eq_or_imp, forall_eq]
    exact ⟨.str _, .str _⟩
  · simp only [List.mem_cons, List.not_mem_nil, or_false, forall_eq]
    exact .str _

theorem StandIn.reply_integral {id : Json} (hid : id.Integral) (method : String) :
    (reply id method).Integral := by
  have hresult : ∀ v : Json, v.Integral → (Message.result id v).Integral := by
    intro v hv
    refine .object (by simp) ?_
    simp only [List.mem_cons, List.not_mem_nil, or_false, forall_eq_or_imp, forall_eq]
    exact ⟨.str _, hid, hv⟩
  unfold reply
  split
  · exact hresult _ abilities_integral
  · exact hresult _ .null
  · exact hresult _ .null
  · refine .object (by simp) ?_
    simp only [List.mem_cons, List.not_mem_nil, or_false, forall_eq_or_imp, forall_eq]
    refine ⟨.str _, hid, .object (by simp) ?_⟩
    simp only [List.mem_cons, List.not_mem_nil, or_false, forall_eq_or_imp, forall_eq]
    exact ⟨.int (by decide) (by decide), .str _⟩

theorem Message.notification_integral {method : String} {params : Json} (h : params.Integral) :
    (notification method (some params)).Integral := by
  refine .object (by simp [paramsMember]) ?_
  simp only [paramsMember, Option.map_some, Option.toList_some, List.cons_append, List.nil_append,
    List.mem_cons, List.not_mem_nil, or_false, forall_eq_or_imp, forall_eq]
  exact ⟨.str _, .str _, h⟩

theorem StandIn.greeting_integral : greeting.Integral := by
  refine Message.notification_integral (.object (by simp) ?_)
  simp only [List.mem_cons, List.not_mem_nil, or_false, forall_eq_or_imp, forall_eq]
  exact ⟨.nat (by decide), .str _⟩

theorem StandIn.positionAt_integral {line character : Nat} (hl : line < 2 ^ 64)
    (hc : character < 2 ^ 64) : (positionAt line character).Integral := by
  refine .object (by simp) ?_
  simp only [List.mem_cons, List.not_mem_nil, or_false, forall_eq_or_imp, forall_eq]
  exact ⟨.nat hl, .nat hc⟩

theorem StandIn.complaint_integral {uri : Json} (huri : uri.Integral) :
    (complaint uri).Integral := by
  refine Message.notification_integral (.object (by simp) ?_)
  simp only [List.mem_cons, List.not_mem_nil, or_false, forall_eq_or_imp, forall_eq]
  refine ⟨huri, .arr ?_⟩
  simp only [List.mem_cons, List.not_mem_nil, or_false, forall_eq]
  refine .object (by simp) ?_
  simp only [List.mem_cons, List.not_mem_nil, or_false, forall_eq_or_imp, forall_eq]
  refine ⟨.object (by simp) ?_, .nat (by decide), .str _, .str _⟩
  simp only [List.mem_cons, List.not_mem_nil, or_false, forall_eq_or_imp, forall_eq]
  exact ⟨positionAt_integral (by decide) (by decide), positionAt_integral (by decide) (by decide)⟩

/-- The ids of the calls are 64 bits wide, so that even these are read as they were written. -/
theorem Note.reread_frame {d : Note} (h : ∀ id method, d = .reply id method → id < 2 ^ 64) :
    d.frame.reread = d.frame := by
  cases d with
  | reply id method => exact (StandIn.reply_integral (.nat (h id method rfl)) method).reread_eq
  | greeting => exact StandIn.greeting_integral.reread_eq
  | complaint uri => exact (StandIn.complaint_integral (.str uri)).reread_eq

/-! ### Everything that the stand-in has written -/

namespace StandIn

/-- The state after some frames. -/
def after (s : StandIn) (frames : List Json) : StandIn := frames.foldl (fun s f => (s.react f).1) s

/-- One more frame, as long as the stand-in was not told to exit. -/
theorem serve_concat {s : StandIn} {frames out : List Json} (h : s.serve frames = (out, false))
    (f : Json) : s.serve (frames ++ [f]) =
      match ((s.after frames).react f).2 with
      | .silence => (out, false)
      | .answer a => (out ++ [a], false)
      | .leave => (out, true) := by
  induction frames generalizing s out with
  | nil =>
    cases h
    rw [List.nil_append, serve, after, List.foldl_nil]
    rcases hr : s.react f with ⟨s', r⟩
    cases r <;> rfl
  | cons g frames ih =>
    rw [serve] at h
    rw [List.cons_append, serve, after, List.foldl_cons]
    rcases hg : s.react g with ⟨s', r⟩
    rw [hg] at h
    cases r with
    | silence => exact ih h
    | leave => cases h
    | answer a =>
      rcases hrest : s'.serve frames with ⟨out', left⟩
      simp only [hrest, Prod.mk.injEq] at h
      obtain ⟨rfl, rfl⟩ := h
      have hih := ih hrest
      rw [after] at hih
      simp only [hih]
      split <;> rfl

/-- What is written does not change when more frames come. -/
theorem serve_prefix (s : StandIn) {frames more : List Json} (h : frames <+: more) :
    (s.serve frames).1 <+: (s.serve more).1 := by
  obtain ⟨rest, rfl⟩ := h
  induction frames generalizing s with
  | nil => exact List.nil_prefix
  | cons g frames ih =>
    rw [List.cons_append, serve, serve]
    rcases s.react g with ⟨s', r⟩
    cases r with
    | silence => exact ih s'
    | leave => exact List.prefix_rfl
    | answer a => exact List.cons_prefix_cons.2 ⟨rfl, ih s'⟩

/-- What is written answers the words one after another. -/
theorem exists_note_of_mem_serve {frames : List Json} {ws : List Word}
    (h : List.Forall₂ Says frames ws) (s : StandIn) :
    ∀ v ∈ (s.serve (frames.map Json.reread)).1,
      ∃ n ∈ Word.notes s.compileOnSave ws, n.frame = v := by
  induction h generalizing s with
  | nil => simp [serve]
  | @cons f w frames ws hsaid _ ih =>
    intro v hv
    have hrest : ∀ v ∈ (serve ⟨w.switch s.compileOnSave⟩ (frames.map Json.reread)).1,
        ∃ n ∈ Word.notes s.compileOnSave (w :: ws), n.frame = v := fun v hv => by
      obtain ⟨n, hn, rfl⟩ := ih _ v hv
      exact ⟨n, List.mem_append_right _ hn, rfl⟩
    rw [List.map_cons, serve, hsaid s] at hv
    cases w with
    | leave => cases hv
    | configure b => exact hrest v hv
    | other => exact hrest v hv
    | ask id method =>
      rcases List.mem_cons.1 hv with rfl | hv
      · exact ⟨.reply id method, List.mem_cons_self, rfl⟩
      · exact hrest v hv
    | ready =>
      rcases List.mem_cons.1 hv with rfl | hv
      · exact ⟨.greeting, List.mem_cons_self, rfl⟩
      · exact hrest v hv
    | save uri =>
      cases hon : s.compileOnSave <;> rw [hon] at hv hrest
      · exact hrest v hv
      · rcases List.mem_cons.1 hv with rfl | hv
        · exact ⟨.complaint uri, List.mem_cons_self, rfl⟩
        · exact hrest v hv

end StandIn

end Sidecar
