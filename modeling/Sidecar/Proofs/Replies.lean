/-
# The stand-in answers every request once

Whatever values the stand-in reads, a frame with an id is a request, whatever
its id is and whether or not its method makes sense as a request: it gets one
reply with this id, and nothing else comes of it. A frame without an id is
answered only if it is one of two notifications, and one of these only if the
latest change of the configuration asks for it (`Due`).

What is due for a frame is said by its members and by those of the answer, and
by the frames before it (`Enabled`), without the state of the stand-in.

Key definitions: `StandIn.Notifies`, `StandIn.Enabled`, `StandIn.Due`, `StandIn.heard`.
Key theorems: `StandIn.due_react`, `StandIn.compileOnSave_after`, `StandIn.serve_eq_said`,
`StandIn.requests_answered_once`, `Rehearsal.serve_eq`.
-/
import Sidecar.Proofs.Exchange
import Sidecar.Rehearsal.Basic

namespace Sidecar.StandIn

variable {s : StandIn} {frame id : Json} {frames : List Json} {method : String}

/-- The value at the end of a path of members, null where the path breaks off. -/
def memberAt (v : Json) (path : List String) : Json := path.foldl at_ v

/-- The method of a frame is empty if it has none that is a text. -/
def Names (frame : Json) (method : String) : Prop :=
  frame.get? "method" = some (.str method) ∨
    (method = "" ∧ ∀ m, frame.get? "method" ≠ some (.str m))

/-- A frame without an id and with this method. -/
def Notifies (method : String) (frame : Json) : Prop :=
  frame.get? "id" = none ∧ frame.get? "method" = some (.str method)

/-- The frame changes the configuration. -/
def Configures : Json → Prop := Notifies "workspace/didChangeConfiguration"

/-- The latest change of the configuration among these frames asks for a complaint about every
document that is saved. -/
def Enabled (frames : List Json) : Prop :=
  ∃ before change rest, frames = before ++ change :: rest ∧ Configures change ∧
    memberAt change ["params", "settings", "yara", "compile_on_save"] = .bool true ∧
    ∀ f ∈ rest, ¬ Configures f

theorem names_methodOf (frame : Json) : Names frame (methodOf frame) := by
  unfold Names methodOf
  cases frame.get? "method" with
  | none => exact .inr ⟨rfl, by simp⟩
  | some v =>
    cases v with
    | str m => exact .inl rfl
    | _ => exact .inr ⟨rfl, by simp⟩

theorem methodOf_eq_iff (hne : method ≠ "") :
    methodOf frame = method ↔ frame.get? "method" = some (.str method) := by
  constructor
  · rintro rfl
    rcases names_methodOf frame with h | ⟨h, -⟩
    · exact h
    · exact absurd h hne
  · intro h
    rw [methodOf, h]
    rfl

theorem notifies_iff (hid : frame.get? "id" = none) (hne : method ≠ "") :
    Notifies method frame ↔ methodOf frame = method := by
  rw [methodOf_eq_iff hne]
  exact ⟨fun h => h.2, fun h => ⟨hid, h⟩⟩

theorem not_notifies_of_id (hid : frame.get? "id" = some id) (method : String) :
    ¬ Notifies method frame := by
  rintro ⟨hnone, -⟩
  rw [hid] at hnone
  cases hnone

theorem Notifies.not_of_ne {method' : String} (h : Notifies method frame) (hne : method ≠ method') :
    ¬ Notifies method' frame := by
  rintro ⟨-, hmethod⟩
  rw [h.2] at hmethod
  exact hne (by simpa using hmethod)

/-! ### What is due -/

/-- The reply to a request: a result for the methods that the stand-in knows, and an error that
names the method for the others. -/
structure Replies (id : Json) (method : String) (answer : Json) : Prop where
  version : answer.get? "jsonrpc" = some (.str "2.0")
  echo : answer.get? "id" = some id
  known : method ∈ ["initialize", "shutdown", "workspace/executeCommand"] →
    answer.get? "error" = none ∧
      answer.get? "result" = some (if method = "initialize" then abilities else .null)
  unknown : method ∉ ["initialize", "shutdown", "workspace/executeCommand"] →
    answer.get? "result" = none ∧ ∃ error, answer.get? "error" = some error ∧
      error.get? "code" = some (.int (-32601)) ∧
      error.get? "message" = some (.str ("Method not found: " ++ method))

/-- The note greets the client. -/
structure Greets (note : Json) : Prop where
  notifies : Notifies "window/showMessageRequest" note
  text : memberAt note ["params", "message"] = .str "Successfully connected"

/-- The note has diagnostics for a document. -/
structure Publishes (uri note : Json) : Prop where
  notifies : Notifies "textDocument/publishDiagnostics" note
  about : memberAt note ["params", "uri"] = uri

/-- What is due for a frame; `on` if saved documents are complained about. -/
inductive Due (on : Prop) (frame : Json) : List Json → Prop where
  | reply {id answer : Json} {method : String} (request : frame.get? "id" = some id)
      (names : Names frame method) (replies : Replies id method answer) : Due on frame [answer]
  | greeting {note : Json} (ready : Notifies "initialized" frame) (greets : Greets note) :
      Due on frame [note]
  | complaint {note : Json} (saved : Notifies "textDocument/didSave" frame) (wanted : on)
      (publishes : Publishes (memberAt frame ["params", "textDocument", "uri"]) note) :
      Due on frame [note]
  | nothing (notification : frame.get? "id" = none) (unready : ¬ Notifies "initialized" frame)
      (unsaved : ¬ (Notifies "textDocument/didSave" frame ∧ on)) : Due on frame []

theorem get?_result (id value : Json) (key : String) :
    (Message.result id value).get? key =
      ([("jsonrpc", .str "2.0"), ("id", id), ("result", value)].find? fun m => m.1 == key).map
        (·.2) := by
  rw [Message.result, Json.get?_object (by simp)]

theorem replies_result (hknown : method ∈ ["initialize", "shutdown", "workspace/executeCommand"])
    (id : Json) :
    Replies id method (Message.result id (if method = "initialize" then abilities else .null)) :=
  ⟨get?_result .., get?_result .., fun _ => ⟨get?_result .., get?_result ..⟩,
    fun hne => absurd hknown hne⟩

theorem replies_methodNotFound
    (hunknown : method ∉ ["initialize", "shutdown", "workspace/executeCommand"]) (id : Json) :
    Replies id method (Message.methodNotFound id method) := by
  have hmember : ∀ key, (Message.methodNotFound id method).get? key = _ := fun key =>
    Json.get?_object (by simp) key
  have herror : ∀ key, (Json.object [("code", .int Message.methodNotFoundCode),
      ("message", .str ("Method not found: " ++ method))]).get? key = _ := fun key =>
    Json.get?_object (by simp) key
  exact ⟨hmember _, hmember _, fun hin => absurd hin hunknown,
    fun _ => ⟨hmember _, _, hmember _, herror _, herror _⟩⟩

theorem replies_reply (id : Json) (method : String) : Replies id method (reply id method) := by
  unfold reply
  split
  · exact replies_result (by simp) id
  · exact replies_result (by simp) id
  · exact replies_result (by simp) id
  · next h₁ h₂ h₃ =>
    refine replies_methodNotFound (fun hin => ?_) id
    simp only [List.mem_cons, List.not_mem_nil, or_false] at hin
    rcases hin with h | h | h
    · exact h₁ h
    · exact h₂ h
    · exact h₃ h

theorem get?_notice (method : String) (params : Json) (key : String) :
    (Message.notification method (some params)).get? key =
      ([("jsonrpc", .str "2.0"), ("method", .str method), ("params", params)].find?
        fun m => m.1 == key).map (·.2) := by
  rw [Message.notification, Json.get?_object (by simp [Message.paramsMember])]
  rfl

theorem memberAt_notice (method : String) (params : Json) (path : List String) :
    memberAt (Message.notification method (some params)) ("params" :: path) =
      memberAt params path := by
  rw [memberAt, List.foldl_cons, at_, get?_notice]
  rfl

theorem greets_greeting : Greets greeting := by
  refine ⟨⟨get?_notice .., get?_notice ..⟩, ?_⟩
  rw [greeting, memberAt_notice, memberAt, List.foldl_cons, List.foldl_nil, at_,
    Json.get?_object (by simp)]
  rfl

theorem publishes_complaint (uri : Json) : Publishes uri (complaint uri) := by
  refine ⟨⟨get?_notice .., get?_notice ..⟩, ?_⟩
  rw [complaint, memberAt_notice, memberAt, List.foldl_cons, List.foldl_nil, at_,
    Json.get?_object (by simp)]
  rfl

/-- What the stand-in writes in a reaction. -/
def Reaction.notes : Reaction → List Json
  | .answer note => [note]
  | _ => []

/-- Everything that the stand-in can do about a frame. -/
inductive Reacts (s : StandIn) (frame : Json) : StandIn × Reaction → Prop where
  | request {id : Json} (hid : frame.get? "id" = some id) :
      Reacts s frame (s, .answer (reply id (methodOf frame)))
  | greet (ready : Notifies "initialized" frame) : Reacts s frame (s, .answer greeting)
  | leave (exit : Notifies "exit" frame) : Reacts s frame (s, .leave)
  | configure (change : Configures frame) : Reacts s frame (⟨compileFlag frame⟩, .silence)
  | complain (saved : Notifies "textDocument/didSave" frame) (on : s.compileOnSave = true) :
      Reacts s frame (s, .answer (complaint (documentOf frame)))
  | overlook (saved : Notifies "textDocument/didSave" frame) (off : s.compileOnSave = false) :
      Reacts s frame (s, .silence)
  | ignore (hid : frame.get? "id" = none) (unknown : ∀ method ∈ ["initialized", "exit",
        "workspace/didChangeConfiguration", "textDocument/didSave"], ¬ Notifies method frame) :
      Reacts s frame (s, .silence)

/-- The order of the cases does not matter: which one it is depends on the frame alone. -/
theorem reacts_react (s : StandIn) (frame : Json) : Reacts s frame (s.react frame) := by
  cases hid : frame.get? "id" with
  | some id =>
    rw [react, hid]
    exact .request hid
  | none =>
    have hnotifies : ∀ {method : String}, method ≠ "" →
        (Notifies method frame ↔ methodOf frame = method) := notifies_iff hid
    rw [react, hid]
    dsimp only
    split
    · next hm => exact .greet ((hnotifies (by decide)).2 hm)
    · next hm => exact .leave ((hnotifies (by decide)).2 hm)
    · next hm => exact .configure ((hnotifies (by decide)).2 hm)
    · next hm =>
      have hsaved := (hnotifies (by decide)).2 hm
      cases hon : s.compileOnSave with
      | true => exact .complain hsaved hon
      | false => exact .overlook hsaved hon
    · next h₁ h₂ h₃ h₄ =>
      refine .ignore hid fun method hmem hm => ?_
      simp only [List.mem_cons, List.not_mem_nil, or_false] at hmem
      rcases hmem with rfl | rfl | rfl | rfl
      · exact h₁ ((hnotifies (by decide)).1 hm)
      · exact h₂ ((hnotifies (by decide)).1 hm)
      · exact h₃ ((hnotifies (by decide)).1 hm)
      · exact h₄ ((hnotifies (by decide)).1 hm)

/-- **What the stand-in writes about a frame is what is due for it.** -/
theorem due_react (s : StandIn) (frame : Json) :
    Due (s.compileOnSave = true) frame (s.react frame).2.notes := by
  have hreacts := reacts_react s frame
  generalize s.react frame = r at hreacts
  cases hreacts with
  | request hid => exact .reply hid (names_methodOf frame) (replies_reply _ _)
  | greet ready => exact .greeting ready greets_greeting
  | complain saved on => exact .complaint saved on (publishes_complaint _)
  | leave exit =>
    exact .nothing exit.1 (exit.not_of_ne (by decide)) fun h => exit.not_of_ne (by decide) h.1
  | configure change =>
    exact .nothing change.1 (change.not_of_ne (by decide)) fun h => change.not_of_ne (by decide) h.1
  | overlook saved off =>
    refine .nothing saved.1 (saved.not_of_ne (by decide)) fun h => ?_
    rw [off] at h
    cases h.2
  | ignore hid unknown =>
    exact .nothing hid (unknown _ (by simp)) fun h => unknown _ (by simp) h.1

/-- Only the notification to exit ends the loop. -/
theorem react_eq_leave_iff : (s.react frame).2 = .leave ↔ Notifies "exit" frame := by
  have hreacts := reacts_react s frame
  generalize s.react frame = r at hreacts
  cases hreacts with
  | leave exit => exact ⟨fun _ => exit, fun _ => rfl⟩
  | request hid => simp [not_notifies_of_id hid]
  | greet ready => simp [ready.not_of_ne]
  | configure change => simp [change.not_of_ne]
  | complain saved on => simp [saved.not_of_ne]
  | overlook saved off => simp [saved.not_of_ne]
  | ignore hid unknown => simp [unknown]

theorem compileFlag_eq_true_iff : compileFlag frame = true ↔
    memberAt frame ["params", "settings", "yara", "compile_on_save"] = .bool true := by
  show ((memberAt frame ["params", "settings", "yara", "compile_on_save"]).bool?).getD false = true ↔ _
  generalize memberAt frame ["params", "settings", "yara", "compile_on_save"] = v
  cases v <;> simp [Json.bool?]

theorem state_react_of_configures (h : Configures frame) :
    (s.react frame).1 = ⟨compileFlag frame⟩ := by
  have hreacts := reacts_react s frame
  generalize s.react frame = r at hreacts
  cases hreacts with
  | configure change => rfl
  | request hid => exact absurd h (not_notifies_of_id hid _)
  | greet ready => exact absurd h (ready.not_of_ne (by decide))
  | leave exit => exact absurd h (exit.not_of_ne (by decide))
  | complain saved on => exact absurd h (saved.not_of_ne (by decide))
  | overlook saved off => exact absurd h (saved.not_of_ne (by decide))
  | ignore hid unknown => exact absurd h (unknown _ (by simp))

/-- Only a change of the configuration changes the state. -/
theorem state_react_of_not_configures (h : ¬ Configures frame) : (s.react frame).1 = s := by
  have hreacts := reacts_react s frame
  generalize s.react frame = r at hreacts
  cases hreacts with
  | configure change => exact absurd change h
  | _ => rfl

theorem after_concat (s : StandIn) (frames : List Json) (frame : Json) :
    s.after (frames ++ [frame]) = ((s.after frames).react frame).1 := by
  simp [after]

theorem enabled_concat_of_configures (h : Configures frame) : Enabled (frames ++ [frame]) ↔
    memberAt frame ["params", "settings", "yara", "compile_on_save"] = .bool true := by
  constructor
  · rintro ⟨before, change, rest, heq, hchange, hon, hrest⟩
    rcases List.eq_nil_or_concat' rest with rfl | ⟨rest, last, rfl⟩
    · have hlast := (List.append_inj_right' heq rfl)
      cases hlast
      exact hon
    · rw [← List.cons_append, ← List.append_assoc] at heq
      have hlast := (List.append_inj_right' heq rfl)
      cases hlast
      exact absurd h (hrest frame (by simp))
  · intro hon
    exact ⟨frames, frame, [], rfl, h, hon, by simp⟩

theorem enabled_concat_of_not_configures (h : ¬ Configures frame) :
    Enabled (frames ++ [frame]) ↔ Enabled frames := by
  constructor
  · rintro ⟨before, change, rest, heq, hchange, hon, hrest⟩
    rcases List.eq_nil_or_concat' rest with rfl | ⟨rest, last, rfl⟩
    · have hlast := (List.append_inj_right' heq rfl)
      cases hlast
      exact absurd hchange h
    · rw [← List.cons_append, ← List.append_assoc] at heq
      have hfront := (List.append_inj_left' heq rfl)
      exact ⟨before, change, rest, hfront, hchange, hon, fun f hf => hrest f (by simp [hf])⟩
  · rintro ⟨before, change, rest, rfl, hchange, hon, hrest⟩
    refine ⟨before, change, rest ++ [frame], by simp, hchange, hon, fun f hf => ?_⟩
    rcases List.mem_append.1 hf with hf | hf
    · exact hrest f hf
    · rwa [List.mem_singleton.1 hf]

/-- **The latest change of the configuration counts.** -/
theorem compileOnSave_after (frames : List Json) :
    (after {} frames).compileOnSave = true ↔ Enabled frames := by
  induction frames using List.reverseRecOn with
  | nil => simp [after, Enabled]
  | append_singleton frames frame ih =>
    rw [after_concat]
    by_cases h : Configures frame
    · rw [state_react_of_configures h, enabled_concat_of_configures h]
      exact compileFlag_eq_true_iff
    · rw [state_react_of_not_configures h, enabled_concat_of_not_configures h]
      exact ih

/-! ### The loop -/

/-- What the stand-in writes about each of some frames. -/
def said (s : StandIn) : List Json → List (List Json)
  | [] => []
  | frame :: frames => (s.react frame).2.notes :: said (s.react frame).1 frames

theorem length_said (frames : List Json) (s : StandIn) :
    (s.said frames).length = frames.length := by
  induction frames generalizing s with
  | nil => rfl
  | cons frame frames ih => exact congrArg (· + 1) (ih _)

theorem getElem?_said (frames : List Json) (s : StandIn) (k : Nat) :
    (s.said frames)[k]? =
      frames[k]?.map fun frame => ((s.after (frames.take k)).react frame).2.notes := by
  induction frames generalizing s k with
  | nil => rfl
  | cons frame frames ih =>
    cases k with
    | zero => rfl
    | succ k => exact ih (s.react frame).1 k

/-- Whether a frame tells the stand-in to exit. -/
def isExit (frame : Json) : Bool :=
  (frame.get? "id").isNone && ((frame.get? "method").bind Json.str?) == some "exit"

/-- The frames before the first that tells the stand-in to exit. -/
def heard (frames : List Json) : List Json := frames.takeWhile fun frame => !isExit frame

theorem isExit_iff : isExit frame = true ↔ Notifies "exit" frame := by
  rw [isExit, Bool.and_eq_true, Option.isNone_iff_eq_none, beq_iff_eq, Notifies]
  refine and_congr_right fun _ => ?_
  cases frame.get? "method" with
  | none => simp
  | some v => cases v <;> simp [Json.str?]

/-- The loop goes on with the next frame, unless it was told to exit. -/
theorem serve_cons (s : StandIn) (hstay : isExit frame = false) (frames : List Json) :
    s.serve (frame :: frames) =
      ((s.react frame).2.notes ++ ((s.react frame).1.serve frames).1,
        ((s.react frame).1.serve frames).2) := by
  have hreact : (s.react frame).2 ≠ .leave := by
    rw [Ne, react_eq_leave_iff, ← isExit_iff, hstay]
    decide
  rw [serve]
  rcases hr : s.react frame with ⟨s', r⟩
  rw [hr] at hreact
  cases r with
  | silence => rfl
  | answer note => rfl
  | leave => exact absurd rfl hreact

theorem serve_of_isExit (s : StandIn) (hexit : isExit frame = true) (frames : List Json) :
    s.serve (frame :: frames) = ([], true) := by
  have hleave : (s.react frame).2 = .leave := react_eq_leave_iff.2 (isExit_iff.1 hexit)
  rw [serve]
  rcases hr : s.react frame with ⟨s', r⟩
  rw [hr] at hleave
  cases hleave
  rfl

/-- **The loop writes what it has to say about each frame, in order, up to the exit.** -/
theorem serve_eq_said (frames : List Json) (s : StandIn) :
    s.serve frames = ((s.said (heard frames)).flatten, frames.any isExit) := by
  induction frames generalizing s with
  | nil => rfl
  | cons frame frames ih =>
    cases hexit : isExit frame with
    | true => simp [serve_of_isExit s hexit, heard, hexit, said]
    | false =>
      have hheard : heard (frame :: frames) = frame :: heard frames := by simp [heard, hexit]
      rw [serve_cons s hexit, ih, hheard, said, List.flatten_cons, List.any_cons, hexit,
        Bool.false_or]

/-- A request changes nothing and ends nothing. -/
theorem request_passes (hid : frame.get? "id" = some id) (frames : List Json) :
    after {} (frames ++ [frame]) = after {} frames ∧
      (serve {} (frames ++ [frame])).2 = (serve {} frames).2 := by
  have hstay : isExit frame = false := by simp [isExit, hid]
  refine ⟨?_, ?_⟩
  · rw [after_concat]
    exact state_react_of_not_configures (not_notifies_of_id hid _)
  · rw [serve_eq_said, serve_eq_said, List.any_append]
    simp [hstay]

/-- **The stand-in answers each request exactly once**, and everything else as it is due, for
whatever values it reads. -/
theorem requests_answered_once (frames : List Json) :
    (∃ notes : List (List Json),
      serve {} frames = (notes.flatten, frames.any isExit) ∧ notes.length = (heard frames).length ∧
      ∀ (k : Nat) (frame : Json) (out : List Json), (heard frames)[k]? = some frame →
        notes[k]? = some out → Due (Enabled ((heard frames).take k)) frame out) ∧
      ∀ frame id, frame.get? "id" = some id →
        after {} (frames ++ [frame]) = after {} frames ∧
          (serve {} (frames ++ [frame])).2 = (serve {} frames).2 := by
  refine ⟨⟨said {} (heard frames), serve_eq_said frames {}, length_said _ _, ?_⟩, ?_⟩
  · intro k frame out hframe hnotes
    rw [getElem?_said, hframe] at hnotes
    cases hnotes
    rw [← compileOnSave_after]
    exact due_react _ frame
  · intro frame id hid
    exact request_passes hid frames

/-- The client wants complaints about the documents it saves. -/
def wish : List (String × Json) :=
  [("method", .str "workspace/didChangeConfiguration"),
    ("params", .obj [("settings", .obj [("yara", .obj [("compile_on_save", .bool true)])])])]

/-- A document is saved, but its name is no text. -/
def save : Json :=
  .obj [("method", .str "textDocument/didSave"),
    ("params", .obj [("textDocument", .obj [("uri", .arr [])])])]

/-- A change of the configuration and an exit that are requests, and then those that are none. -/
def requestsFirst : List Json :=
  [.obj (("id", .null) :: wish), save, .obj [("id", .bool false), ("method", .str "exit")],
    .obj wish, save, .obj [("method", .str "exit")], save]

theorem requests_answered_once_requestsFirst :
    (∃ notes : List (List Json), serve {} requestsFirst = (notes.flatten, true) ∧
      notes.flatten = [Message.methodNotFound .null "workspace/didChangeConfiguration",
        Message.methodNotFound (.bool false) "exit", complaint (.arr [])] ∧
      ∃ out out', notes[1]? = some out ∧ Due (Enabled (requestsFirst.take 1)) save out ∧
        notes[4]? = some out' ∧ Due (Enabled (requestsFirst.take 4)) save out') ∧
      after {} (requestsFirst.take 5 ++ requestsFirst.take 1) = after {} (requestsFirst.take 5) := by
  obtain ⟨⟨notes, hserve, hlength, hdue⟩, -⟩ := requests_answered_once requestsFirst
  have hheard : heard requestsFirst = requestsFirst.take 5 := rfl
  rw [hheard] at hlength hdue
  have hnote : ∀ k < 5, ∃ out, notes[k]? = some out := fun k hk =>
    ⟨_, List.getElem?_eq_getElem (by rw [hlength]; exact hk)⟩
  obtain ⟨out, hout⟩ := hnote 1 (by decide)
  obtain ⟨out', hout'⟩ := hnote 4 (by decide)
  have hflat : (serve {} requestsFirst).1 = notes.flatten := by rw [hserve]
  refine ⟨⟨notes, hserve, hflat.symm, out, out', hout, ?_, hout', ?_⟩, ?_⟩
  · exact hdue 1 save out rfl hout
  · exact hdue 4 save out' rfl hout'
  · exact ((requests_answered_once (requestsFirst.take 5)).2 _ .null rfl).1

end Sidecar.StandIn

namespace Sidecar.Rehearsal

theorem foldl_attend_of_ended {c : Child} (hended : c.isRunning = false) (v : Conversation)
    (frames : List Json) : frames.foldl attend (c, v) = (c, v) := by
  induction frames with
  | nil => rfl
  | cons frame frames ih =>
    have hattend : attend (c, v) frame = (c, v) := by simp [attend, hended]
    rw [List.foldl_cons, hattend, ih]

theorem isRunning_finish (c : Child) (e : Exit) : (c.finish e).1.isRunning = false := by
  unfold Child.finish
  split
  · next h => simpa using h
  · next h =>
    have hnone : c.process.ended.isNone = true := by simpa [Child.isRunning] using h
    simp [Child.isRunning, Supervised.step, hnone]

/-- The client hears the answers in turn, and the program ends if it was told to exit. -/
theorem foldl_attend (frames : List Json) {c : Child} (hrunning : c.isRunning = true)
    (v : Conversation) :
    (frames.foldl attend (c, v)).2 =
        (c.standIn.serve frames).1.foldl (fun v a => (v.hear (Frame.encode a)).2) v ∧
      (frames.foldl attend (c, v)).1.isRunning = !(c.standIn.serve frames).2 := by
  induction frames generalizing c v with
  | nil => exact ⟨rfl, by simpa [StandIn.serve] using hrunning⟩
  | cons frame frames ih =>
    rw [List.foldl_cons, StandIn.serve]
    rcases hreact : c.standIn.react frame with ⟨standIn, r⟩
    cases r with
    | silence =>
      have hattend : attend (c, v) frame = ({ c with standIn }, v) := by
        simp [attend, hrunning, hreact]
      have hstill : { c with standIn }.isRunning = true := hrunning
      rw [hattend]
      exact ih hstill v
    | answer a =>
      have hattend : attend (c, v) frame = ({ c with standIn }, (v.hear (Frame.encode a)).2) := by
        simp [attend, hrunning, hreact]
      have hstill : { c with standIn }.isRunning = true := hrunning
      rw [hattend]
      exact ih hstill _
    | leave =>
      have hattend : attend (c, v) frame = ((c.finish (Exit.ofCode 0)).1, v) := by
        simp [attend, hrunning, hreact]
      rw [hattend, foldl_attend_of_ended (isRunning_finish c _)]
      exact ⟨rfl, isRunning_finish c _⟩

/-- **A program that serves a client runs this loop.** -/
theorem serve_eq {c : Child} {v : Conversation} (hserving : c.serving = true)
    (hactive : c.isActive = true) (hpeer : v.peer = .connected) :
    (serve c v).2 = (c.standIn.serve v.received).1.foldl
        (fun v a => (v.hear (Frame.encode a)).2) { v with received := [] } ∧
      (serve c v).1.isRunning = !(c.standIn.serve v.received).2 := by
  have hrunning : c.isRunning = true := by
    rw [Child.isActive, Bool.and_eq_true] at hactive
    exact hactive.1
  have hserve : serve c v = v.received.foldl attend (c, { v with received := [] }) := by
    simp only [serve, hserving, hactive, hpeer, beq_self_eq_true, Bool.and_self, ↓reduceIte]
  rw [hserve]
  exact foldl_attend v.received hrunning _

end Sidecar.Rehearsal
