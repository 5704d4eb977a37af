/-
# What the server is told about documents

A server learns of the documents from the frames it is sent, and of nothing
else. This module reads those frames as a server does (`Notice.ofFrame?`) and
compares what they tell with what the client itself remembers, for all calls on
any number of documents, between which anything else may happen as long as
frames are taken.

Each call tells the server one thing, and which one depends only on what it has
been told before (`Notifies`): a change of a document that is not open to the
server is told as an opening. From this the rest follows by induction on what
has been told. A change always continues an opening, with the next version; the
version that the client remembers is the one the server heard last; and what is
told about one document does not depend on calls about others.

Key definitions: `Client.Notice`, `Client.Notice.ofFrame?`, `Client.sent`, `Client.Notifies`,
`Client.Latest`, `Client.Synchronised`.
Key theorems: `Client.OpenChannel.notifies`, `Client.Ordered.tell`,
`Client.documents_synchronised`.
-/
import Mathlib.Data.List.Basic
import Mathlib.Data.List.Induction
import Mathlib.Tactic.Common
import Sidecar.Proofs.Routing

namespace Sidecar.Client

/-- What a notification tells about a document. -/
inductive Notice where
  | opened (uri language : String) (version : Int) (text : String)
  /-- The document has this text from now on. -/
  | changed (uri : String) (version : Int) (text : String)
  | saved (uri : String)
  | closed (uri : String)
  deriving DecidableEq, Repr

namespace Notice

/-- The document that is spoken of. -/
def uri : Notice → String
  | opened uri .. | changed uri .. | saved uri | closed uri => uri

/-- The version that is told. -/
def version? : Notice → Option Int
  | opened _ _ version _ | changed _ version _ => some version
  | saved _ | closed _ => none

/-- The text that replaces the whole document. A change of a part has a range. -/
def wholeText? : Json → Option String
  | .arr [change] =>
    if (change.get? "range").isSome then none else (change.get? "text").bind Json.str?
  | _ => none

/-- What the parameters of a notification with the given method tell. -/
def ofParams? (method : String) (params : Json) : Option Notice := do
  let document ← params.get? "textDocument"
  let uri ← (document.get? "uri").bind Json.str?
  match method with
  | "textDocument/didOpen" =>
    return opened uri (← (document.get? "languageId").bind Json.str?)
      (← (document.get? "version").bind Json.int?) (← (document.get? "text").bind Json.str?)
  | "textDocument/didChange" =>
    return changed uri (← (document.get? "version").bind Json.int?)
      (← (params.get? "contentChanges").bind wholeText?)
  | "textDocument/didSave" => return saved uri
  | "textDocument/didClose" => return closed uri
  | _ => none

/-- What a frame tells. Only a notification, which has no id, tells of a document. -/
def ofFrame? (frame : Json) : Option Notice :=
  match frame.get? "id", (frame.get? "method").bind Json.str? with
  | none, some method => (frame.get? "params").bind (ofParams? method)
  | _, _ => none

theorem ofFrame?_notification (method : String) (params : Option Json) :
    ofFrame? (Message.notification method params) = params.bind (ofParams? method) := by
  cases params <;>
    simp [ofFrame?, Message.notification, Message.paramsMember, Json.get?_object, Json.str?]

theorem ofFrame?_request (id : Nat) (method : String) (params : Option Json) :
    ofFrame? (Message.request id method params) = none := by
  cases params <;>
    simp [ofFrame?, Message.request, Message.paramsMember, Json.get?_object]

theorem ofFrame?_methodNotFound (id : Json) (method : String) :
    ofFrame? (Message.methodNotFound id method) = none := by
  simp [ofFrame?, Message.methodNotFound, Json.get?_object]

theorem ofParams?_open (uri language : String) (version : Int32) (text : String) :
    ofParams? "textDocument/didOpen" (Message.openParams uri language version text) =
      some (opened uri language version.toInt text) := by
  simp [ofParams?, Message.openParams, Message.documentParams, Json.get?_object, Json.str?,
    Json.int?, Json.int]

theorem ofParams?_change (uri : String) (version : Int32) (text : String) :
    ofParams? "textDocument/didChange" (Message.changeParams uri version text) =
      some (changed uri version.toInt text) := by
  simp [ofParams?, Message.changeParams, wholeText?, Json.get?_object, Json.str?, Json.int?,
    Json.int]

theorem ofParams?_save (uri : String) :
    ofParams? "textDocument/didSave" (Message.uriParams uri) = some (saved uri) := by
  simp [ofParams?, Message.uriParams, Message.documentParams, Json.get?_object, Json.str?]

theorem ofParams?_close (uri : String) :
    ofParams? "textDocument/didClose" (Message.uriParams uri) = some (closed uri) := by
  simp [ofParams?, Message.uriParams, Message.documentParams, Json.get?_object, Json.str?]

/-- The methods of notifications about documents. -/
def methods : List String :=
  ["textDocument/didOpen", "textDocument/didChange", "textDocument/didSave",
    "textDocument/didClose"]

theorem ofParams?_of_not_mem {method : String} (h : method ∉ methods) (params : Json) :
    ofParams? method params = none := by
  simp only [methods, List.mem_cons, List.not_mem_nil, or_false, not_or] at h
  simp [ofParams?, h]

end Notice

/-! ### What is sent -/

/-- The frame that the writer takes in a move. -/
def taken? (c : Client) : Move → Option Json
  | .write => c.takeFrame?.map (·.1)
  | _ => none

/-- The frames that the writer takes along a run. -/
def written (c : Client) : List Move → List Json
  | [] => []
  | m :: moves => (c.taken? m).toList ++ (c.step m).written moves

/-- The frames that are sent along a run: those that are written, and those still to be written. -/
def sent (c : Client) (moves : List Move) : List Json := c.written moves ++ (c.run moves).queue

/-- What the server is told about documents along a run. -/
def notices (c : Client) (moves : List Move) : List Notice :=
  (c.sent moves).filterMap Notice.ofFrame?

/-- The document that a call is about. -/
def Move.uri? : Move → Option String
  | .open uri _ | .change uri _ | .save uri | .close uri => some uri
  | _ => none

/-- The channel stays open in a move, and nothing is said about documents behind the client's
back. -/
def Move.Orderly : Move → Prop
  | .stopWriting | .shut => False
  | .notify method _ => method ∉ Notice.methods
  | _ => True

/-- A run over an open channel from the start on. -/
structure OpenChannel (c₀ : Client) (moves : List Move) : Prop where
  versions : c₀.versions = []
  calls : c₀.calls = []
  queue : c₀.queue = []
  writing : c₀.writing = true
  orderly : ∀ m ∈ moves, m.Orderly

variable {c c' c₀ : Client} {m : Move} {moves : List Move} {uri : String}

theorem written_concat (c : Client) (moves : List Move) (m : Move) :
    c.written (moves ++ [m]) = c.written moves ++ ((c.run moves).taken? m).toList := by
  induction moves generalizing c with
  | nil => simp [written, run]
  | cons m' moves ih =>
    simp only [List.cons_append, written, ih, List.append_assoc]
    rfl

/-- A move hands some frames to the writer and changes nothing else that a document depends on. -/
structure Posts (c c' : Client) (frames : List Json) : Prop where
  language : c'.language = c.language
  writing : c'.writing = c.writing
  versions : c'.versions = c.versions
  queue : c'.queue = c.queue ++ frames

theorem posts_nil (language : c'.language = c.language) (writing : c'.writing = c.writing)
    (versions : c'.versions = c.versions) (queue : c'.queue = c.queue) : Posts c c' [] :=
  ⟨language, writing, versions, by rw [queue, List.append_nil]⟩

/-- What an open channel does with a frame. -/
theorem enqueue?_of_writing (hw : c.writing = true) (frame : Json) :
    c.enqueue? frame = some { c with queue := c.queue ++ [frame] } :=
  if_pos hw

theorem posts_notify (hw : c.writing = true) (method : String) (params : Option Json) :
    Posts c (c.notify method params).2 [Message.notification method params] := by
  rw [notify, enqueue?_of_writing hw]
  exact ⟨rfl, rfl, rfl, rfl⟩

theorem posts_offer (c : Client) (e : ServerEvent) : Posts c (c.offer e) [] := by
  unfold offer
  split <;> exact posts_nil rfl rfl rfl rfl

theorem posts_handle (c : Client) (method : String) (params : Option Json) :
    Posts c (c.handle method params) [] := by
  unfold handle
  split <;> try split
  all_goals first | exact posts_offer c _ | exact posts_nil rfl rfl rfl rfl

theorem posts_endReading (c : Client) (reason : ChannelEnd) : Posts c (c.endReading reason) [] := by
  have h := posts_offer { c.release with reading := false, closed := some reason } (.closed reason)
  exact ⟨h.language, h.writing, h.versions, h.queue⟩

/-- A move tells nothing about documents. -/
def Mute (c c' : Client) : Prop :=
  ∃ frames, Posts c c' frames ∧ ∀ f ∈ frames, Notice.ofFrame? f = none

theorem Posts.mute (h : Posts c c' []) : Mute c c' := ⟨[], h, by simp⟩

theorem Posts.mute_singleton {f : Json} (h : Posts c c' [f]) (hf : Notice.ofFrame? f = none) :
    Mute c c' := ⟨[f], h, by simpa using hf⟩

theorem Mute.refl (c : Client) : Mute c c := (posts_nil rfl rfl rfl rfl).mute

theorem mute_dispatch (hw : c.writing = true) (f : Json) : Mute c (c.dispatch f) := by
  unfold dispatch
  split
  · exact .refl c
  · unfold deliver
    refine Posts.mute ?_
    split <;> exact posts_nil rfl rfl rfl rfl
  · next id method _ =>
    rw [enqueue?_of_writing hw]
    exact Posts.mute_singleton ⟨rfl, rfl, rfl, rfl⟩ (Notice.ofFrame?_methodNotFound id method)
  · exact (posts_handle c _ _).mute

/-- The frame of a call is a request, which tells nothing of documents. -/
def Requests (c : Client) : Prop := ∀ x ∈ c.calls, Notice.ofFrame? x.frame = none

theorem mute_submit (hr : Requests c) (hw : c.writing = true) (id : Nat) :
    Mute c (c.submit id) := by
  unfold submit
  split
  · next x hx =>
    split
    · rw [enqueue?_of_writing hw]
      exact Posts.mute_singleton ⟨rfl, rfl, rfl, rfl⟩ (hr x (call?_eq_some hx).1)
    · exact .refl c
  · exact .refl c

/-- The other steps of a call send nothing. -/
theorem posts_own_step (c : Client) (id : Nat) :
    Posts c (c.register id) [] ∧ Posts c (c.collect id) [] ∧ Posts c (c.expire id) [] ∧
      Posts c (c.withdraw id) [] := by
  unfold register collect expire withdraw
  refine ⟨?_, ?_, ?_, ?_⟩
  all_goals
    repeat' split
    all_goals exact posts_nil rfl rfl rfl rfl

/-- Moves other than the calls on documents tell nothing of them. -/
theorem mute_step (hr : Requests c) (hw : c.writing = true) (hm : m.Orderly) (hu : m.uri? = none)
    (hwrite : m ≠ .write) : Mute c (c.step m) := by
  cases m with
  | «open» | change | save | close => cases hu
  | stopWriting | shut => cases hm
  | write => exact absurd rfl hwrite
  | submit id => exact mute_submit hr hw id
  | register id => exact (posts_own_step c id).1.mute
  | collect id => exact (posts_own_step c id).2.1.mute
  | expire id => exact (posts_own_step c id).2.2.1.mute
  | withdraw id => exact (posts_own_step c id).2.2.2.mute
  | call | abandon | takeEvent => exact Posts.mute (posts_nil rfl rfl rfl rfl)
  | notify method params =>
    refine (posts_notify hw method params).mute_singleton ?_
    rw [Notice.ofFrame?_notification]
    cases params with
    | none => rfl
    | some p => exact Notice.ofParams?_of_not_mem hm p
  | configure settings =>
    refine (posts_notify hw _ _).mute_singleton ?_
    rw [Notice.ofFrame?_notification]
    exact Notice.ofParams?_of_not_mem
      (show "workspace/didChangeConfiguration" ∉ Notice.methods by decide) _
  | arrive f =>
    rw [step]
    split
    · exact mute_dispatch hw f
    · exact .refl c
  | endReading reason =>
    rw [step]
    split
    · exact (posts_endReading c reason).mute
    · exact .refl c

theorem Requests.map (h : Requests c) {g : Call → Call} (hcalls : c'.calls = c.calls.map g)
    (hg : ∀ x, (g x).frame = x.frame) : Requests c' := by
  intro y hy
  rw [hcalls, List.mem_map] at hy
  obtain ⟨x, hx, rfl⟩ := hy
  rw [hg]
  exact h x hx

theorem Call.frame_leave (slot : Slot) (x : Call) : (x.leave slot).frame = x.frame := by
  unfold Call.leave
  split <;> rfl

theorem Requests.step (h : Requests c) (m : Move) : Requests (c.step m) := by
  by_cases hm : ∃ id, m = .abandon id
  · obtain ⟨id, rfl⟩ := hm
    exact fun x hx => h x (List.mem_filter.1 hx).1
  · have ht := turn_step c fun id hid => hm ⟨id, hid⟩
    generalize c.step m = c' at ht
    cases ht with
    | still hs _ => exact h.map (g := id) (by simp [hs.calls]) fun _ => rfl
    | call method params =>
      intro x hx
      simp only [Client.call, List.mem_append, List.mem_singleton] at hx
      rcases hx with hx | rfl
      · exact h x hx
      · exact Notice.ofFrame?_request _ method params
    | advance _ _ _ hcalls _ _ => exact h.map hcalls fun x => by split <;> rfl
    | deliver _ _ hid =>
      rw [deliver, if_pos (by simpa using hid)]
      exact h.map rfl fun x => by split <;> simp [Call.frame_leave]
    | release reason =>
      exact h.map (endReading_calls c reason) fun x => by split <;> simp [Call.frame_leave]

/-- The version `v` of the document is the last one the server was told of, and it was not told
since that the document is closed. -/
def Latest (uri : String) (ns : List Notice) (v : Int32) : Prop :=
  ∃ before n after, ns = before ++ n :: after ∧ n.uri = uri ∧ n.version? = some v.toInt ∧
    ∀ n' ∈ after, n'.uri = uri → n' = .saved uri

section Latest

variable {ns : List Notice} {n : Notice} {v w : Int32}

theorem not_latest_nil : ¬ Latest uri [] v := by
  rintro ⟨before, n, after, h, -⟩
  simp at h

theorem latest_concat : Latest uri (ns ++ [n]) v ↔
    n.uri = uri ∧ n.version? = some v.toInt ∨ (n.uri = uri → n = .saved uri) ∧ Latest uri ns v := by
  constructor
  · rintro ⟨before, n', after, h, hn', hv, hafter⟩
    rcases split_concat h with ⟨-, rfl, -⟩ | ⟨rest, rfl, rfl⟩
    · exact .inl ⟨hn', hv⟩
    · exact .inr ⟨hafter n (by simp), before, n', rest, rfl, hn', hv,
        fun x hx => hafter x (List.mem_append_left _ hx)⟩
  · rintro (⟨hn, hv⟩ | ⟨hn, before, n', after, rfl, hn', hv, hafter⟩)
    · exact ⟨ns, n, [], rfl, hn, hv, by simp⟩
    · refine ⟨before, n', after ++ [n], by simp, hn', hv, fun x hx => ?_⟩
      rcases List.mem_append.1 hx with hx | hx
      · exact hafter x hx
      · rw [List.mem_singleton.1 hx]
        exact hn

theorem Latest.unique (h : Latest uri ns v) (h' : Latest uri ns w) : v = w := by
  induction ns using List.reverseRecOn with
  | nil => exact absurd h not_latest_nil
  | append_singleton ns n ih =>
    rw [latest_concat] at h h'
    rcases h with ⟨hn, hv⟩ | ⟨hn, h⟩ <;> rcases h' with ⟨hn', hw⟩ | ⟨hn', h'⟩
    · exact Int32.toInt_inj.1 (Option.some.inj (hv.symm.trans hw))
    · rw [hn' hn] at hv
      cases hv
    · rw [hn hn'] at hw
      cases hw
    · exact ih h h'

/-- Only what is said about the document itself counts. -/
theorem latest_filter : Latest uri (ns.filter (·.uri = uri)) v ↔ Latest uri ns v := by
  induction ns using List.reverseRecOn with
  | nil => rfl
  | append_singleton ns n ih =>
    by_cases hn : n.uri = uri
    · have hlast : [n].filter (·.uri = uri) = [n] := by simp [hn]
      rw [List.filter_append, hlast, latest_concat, latest_concat, ih]
    · have hlast : [n].filter (·.uri = uri) = [] := by simp [hn]
      rw [List.filter_append, hlast, List.append_nil, latest_concat, ih]
      simp [hn]

end Latest

/-! ### What a call tells -/

/-- What the server is told in a move, given what it has been told before: a change of a document
that is not open to it is an opening. -/
inductive Notifies (language : String) (ns : List Notice) : Move → List Notice → Prop where
  | opened (uri text : String) : Notifies language ns (.open uri text) [.opened uri language 1 text]
  | changed {uri : String} {v : Int32} (text : String) (h : Latest uri ns v) :
      Notifies language ns (.change uri text) [.changed uri (v + 1).toInt text]
  | reopened {uri : String} (text : String) (h : ∀ v, ¬ Latest uri ns v) :
      Notifies language ns (.change uri text) [.opened uri language 1 text]
  | saved (uri : String) : Notifies language ns (.save uri) [.saved uri]
  | closed (uri : String) : Notifies language ns (.close uri) [.closed uri]
  | nothing {m : Move} (h : m.uri? = none) : Notifies language ns m []

section Notifies

variable {language : String} {ns ns' told told' : List Notice}

theorem Notifies.uri_eq (h : Notifies language ns m told) {n : Notice} (hn : n ∈ told) :
    m.uri? = some n.uri := by
  cases h <;> simp at hn <;> subst hn <;> rfl

/-- What a call tells depends only on what the server was told about the same document. -/
theorem Notifies.eq (h : Notifies language ns m told) (h' : Notifies language ns' m told')
    (hsame : ∀ uri v, m.uri? = some uri → (Latest uri ns v ↔ Latest uri ns' v)) : told = told' := by
  cases h with
  | opened | saved | closed => cases h' with
    | nothing h => cases h
    | _ => rfl
  | nothing hm => cases h' with
    | nothing => rfl
    | _ => cases hm
  | changed _ hl => cases h' with
    | nothing h => cases h
    | changed _ hl' => rw [hl.unique ((hsame _ _ rfl).2 hl')]
    | reopened _ hno => exact absurd ((hsame _ _ rfl).1 hl) (hno _)
  | reopened _ hno => cases h' with
    | nothing h => cases h
    | changed _ hl' => exact absurd ((hsame _ _ rfl).2 hl') (hno _)
    | reopened => rfl

end Notifies

theorem version?_dropVersion (c : Client) (uri uri' : String) :
    (c.dropVersion uri).version? uri' = if uri = uri' then none else c.version? uri' := by
  simp only [version?, dropVersion, List.find?_filter]
  by_cases h : uri = uri'
  · simp [h]
  · rw [if_neg h]
    congr 2
    funext x
    by_cases hx : x.1 = uri' <;> simp [hx, Ne.symm h]

theorem version?_setVersion (c : Client) (uri uri' : String) (v : Int32) :
    (c.setVersion uri v).version? uri' = if uri = uri' then some v else c.version? uri' := by
  by_cases h : uri = uri'
  · simp [version?, setVersion, h]
  · have hdrop := version?_dropVersion c uri uri'
    rw [if_neg h] at hdrop ⊢
    simpa [version?, setVersion, dropVersion, h] using hdrop

/-- A call tells the server one thing, and remembers the version that it tells. -/
structure Reports (c c' : Client) (n : Notice) : Prop where
  language : c'.language = c.language
  writing : c'.writing = c.writing
  queue : ∃ frame, c'.queue = c.queue ++ [frame] ∧ Notice.ofFrame? frame = some n
  version : ∀ uri v, c'.version? uri = some v ↔
    n.uri = uri ∧ n.version? = some v.toInt ∨
      (n.uri = uri → n = .saved uri) ∧ c.version? uri = some v

section Reports

variable (uri text : String)

/-- A notification after a change of what is remembered. -/
theorem reports_notify (hw : c.writing = true) {versions : List (String × Int32)}
    {method : String} {params : Json} {n : Notice} (hn : Notice.ofParams? method params = some n)
    (hversion : ∀ uri v, { c with versions }.version? uri = some v ↔
      n.uri = uri ∧ n.version? = some v.toInt ∨ (n.uri = uri → n = .saved uri) ∧
        c.version? uri = some v) :
    Reports c ({ c with versions }.notify method (some params)).2 n := by
  have h := posts_notify (c := { c with versions }) hw method (some params)
  refine ⟨h.language, h.writing, ⟨_, h.queue, ?_⟩, fun uri v => ?_⟩
  · rw [Notice.ofFrame?_notification, Option.bind_some, hn]
  · rw [← hversion, version?, version?, h.versions]

/-- A notification that tells the version that is remembered. -/
theorem reports_version (hw : c.writing = true) {v : Int32} {method : String} {params : Json}
    {n : Notice} (hn : Notice.ofParams? method params = some n) (huri : n.uri = uri)
    (htold : n.version? = some v.toInt) :
    Reports c ((c.setVersion uri v).notify method (some params)).2 n := by
  have hunsaved : n ≠ .saved uri := by
    rintro rfl
    cases htold
  refine reports_notify hw hn fun uri' w => ?_
  have hset := version?_setVersion c uri uri' v
  rw [setVersion] at hset
  rw [hset]
  split
  · next heq =>
    subst heq
    simp only [huri, htold, hunsaved, Option.some.injEq, Int32.toInt_inj, true_and, forall_const,
      false_and, or_false]
  · next hne => simp [huri, hne]

theorem reports_open (hw : c.writing = true) :
    Reports c (c.didOpen uri text).2 (.opened uri c.language 1 text) :=
  reports_version uri hw (Notice.ofParams?_open uri c.language 1 text) rfl rfl

theorem reports_change (hw : c.writing = true) {v : Int32} (hv : c.version? uri = some v) :
    Reports c (c.didChange uri text).2 (.changed uri (v + 1).toInt text) := by
  rw [didChange, hv]
  exact reports_version uri hw (Notice.ofParams?_change uri (v + 1) text) rfl rfl

/-- A change of a document that is not open. -/
theorem reports_reopen (hw : c.writing = true) (hv : c.version? uri = none) :
    Reports c (c.didChange uri text).2 (.opened uri c.language 1 text) := by
  rw [didChange, hv]
  exact reports_open uri text hw

theorem reports_save (hw : c.writing = true) : Reports c (c.didSave uri).2 (.saved uri) := by
  refine reports_notify hw (Notice.ofParams?_save uri) fun uri' v => ?_
  simp only [Notice.version?, reduceCtorEq, and_false, false_or, Notice.saved.injEq, Notice.uri,
    imp_self, true_and]

theorem reports_close (hw : c.writing = true) : Reports c (c.didClose uri).2 (.closed uri) := by
  refine reports_notify hw (Notice.ofParams?_close uri) fun uri' v => ?_
  have hdrop := version?_dropVersion c uri uri'
  rw [dropVersion] at hdrop
  rw [hdrop]
  split <;> simp_all [Notice.uri, Notice.version?]

end Reports

/-- The client remembers what the server has been told. -/
structure InStep (c₀ : Client) (moves : List Move) : Prop where
  language : (c₀.run moves).language = c₀.language
  writing : (c₀.run moves).writing = true
  requests : Requests (c₀.run moves)
  version : ∀ uri v, (c₀.run moves).version? uri = some v ↔ Latest uri (c₀.notices moves) v

/-- What a move tells is what it adds to what is sent, and the client remembers it. -/
structure Conveys (c : Client) (m : Move) (told : List Notice) : Prop where
  language : (c.step m).language = c.language
  writing : (c.step m).writing = c.writing
  queue : ∃ frames, (c.taken? m).toList ++ (c.step m).queue = c.queue ++ frames ∧
    frames.filterMap Notice.ofFrame? = told
  version : ∀ uri ns, (∀ v, c.version? uri = some v ↔ Latest uri ns v) →
    ∀ v, (c.step m).version? uri = some v ↔ Latest uri (ns ++ told) v

theorem Reports.conveys {n : Notice} (h : Reports c (c.step m) n) (htaken : c.taken? m = none) :
    Conveys c m [n] := by
  obtain ⟨frame, hqueue, hframe⟩ := h.queue
  refine ⟨h.language, h.writing, ⟨[frame], by simp [htaken, hqueue], by simp [hframe]⟩, ?_⟩
  intro uri ns hns v
  rw [h.version, latest_concat, hns]

theorem Mute.conveys (h : Mute c (c.step m)) (htaken : c.taken? m = none) : Conveys c m [] := by
  obtain ⟨frames, hposts, hframes⟩ := h
  refine ⟨hposts.language, hposts.writing, ⟨frames, by simp [htaken, hposts.queue], ?_⟩, ?_⟩
  · exact List.filterMap_eq_nil_iff.2 hframes
  · intro uri ns hns v
    rw [List.append_nil, ← hns, version?, version?, hposts.versions]

/-- The writer takes the first frame of those that wait: as many are sent as before. -/
theorem conveys_write (hw : c.writing = true) : Conveys c .write [] := by
  cases hq : c.queue with
  | nil =>
    have htake : c.takeFrame? = none := by rw [takeFrame?, hq]
    have hstep : c.step .write = c := by rw [step, htake]; rfl
    have htaken : c.taken? .write = none := by rw [taken?, htake]; rfl
    refine Mute.conveys ?_ htaken
    rw [hstep]
    exact .refl c
  | cons frame rest =>
    have htake : c.takeFrame? = some (frame, { c with queue := rest }) := by
      simp only [takeFrame?, hq, hw, if_true]
    have hstep : c.step .write = { c with queue := rest } := by rw [step, htake]; rfl
    have htaken : c.taken? .write = some frame := by rw [taken?, htake]; rfl
    refine ⟨by rw [hstep], by rw [hstep], ⟨[], by simp [htaken, hstep, hq], rfl⟩, ?_⟩
    intro uri ns hns v
    rw [List.append_nil, ← hns, hstep, version?, version?]

/-- **Each move tells what it should.** -/
theorem InStep.notifies (h : InStep c₀ moves) (hm : m.Orderly) :
    ∃ told, Notifies c₀.language (c₀.notices moves) m told ∧ Conveys (c₀.run moves) m told := by
  rw [← h.language]
  have hw := h.writing
  have hversion := h.version
  cases m with
  | «open» uri text => exact ⟨_, .opened uri text, (reports_open uri text hw).conveys rfl⟩
  | change uri text =>
    cases hv : (c₀.run moves).version? uri with
    | some v => exact ⟨_, .changed text ((hversion uri v).1 hv),
        (reports_change uri text hw hv).conveys rfl⟩
    | none =>
      have hno : ∀ v, ¬ Latest uri (c₀.notices moves) v := by
        intro v hl
        rw [← hversion, hv] at hl
        cases hl
      exact ⟨_, .reopened text hno, (reports_reopen uri text hw hv).conveys rfl⟩
  | save uri => exact ⟨_, .saved uri, (reports_save uri hw).conveys rfl⟩
  | close uri => exact ⟨_, .closed uri, (reports_close uri hw).conveys rfl⟩
  | write => exact ⟨_, .nothing rfl, conveys_write hw⟩
  | _ => exact ⟨_, .nothing rfl, (mute_step h.requests hw hm rfl nofun).conveys rfl⟩

theorem Conveys.notices_concat {told : List Notice} (h : Conveys (c₀.run moves) m told) :
    c₀.notices (moves ++ [m]) = c₀.notices moves ++ told := by
  obtain ⟨frames, hqueue, rfl⟩ := h.queue
  rw [notices, sent, written_concat, run_concat, List.append_assoc, hqueue, ← List.append_assoc,
    List.filterMap_append]
  rfl

theorem InStep.step (h : InStep c₀ moves) (hm : m.Orderly) : InStep c₀ (moves ++ [m]) := by
  obtain ⟨told, -, hc⟩ := h.notifies hm
  constructor
  · rw [run_concat, hc.language, h.language]
  · rw [run_concat, hc.writing, h.writing]
  · rw [run_concat]
    exact h.requests.step m
  · intro uri v
    rw [run_concat, hc.notices_concat]
    exact hc.version uri _ (h.version uri) v

theorem OpenChannel.front {pre post : List Move} (h : OpenChannel c₀ (pre ++ post)) :
    OpenChannel c₀ pre :=
  ⟨h.versions, h.calls, h.queue, h.writing, fun m hm => h.orderly m (List.mem_append_left _ hm)⟩

theorem OpenChannel.inStep (h : OpenChannel c₀ moves) : InStep c₀ moves := by
  induction moves using List.reverseRecOn with
  | nil =>
    refine ⟨rfl, h.writing, ?_, ?_⟩
    · simp [Requests, run, h.calls]
    · intro uri v
      have hnone : c₀.notices [] = [] := by simp [notices, sent, written, run, h.queue]
      rw [hnone]
      simp [run, version?, h.versions, not_latest_nil]
  | append_singleton moves m ih => exact (ih h.front).step (h.orderly m (by simp))

/-- **What is told in a move depends only on what has been told before.** -/
theorem OpenChannel.notifies (h : OpenChannel c₀ (moves ++ [m])) :
    ∃ told, c₀.notices (moves ++ [m]) = c₀.notices moves ++ told ∧
      Notifies c₀.language (c₀.notices moves) m told := by
  obtain ⟨told, hnotifies, hc⟩ := h.front.inStep.notifies (h.orderly m (by simp))
  exact ⟨told, hc.notices_concat, hnotifies⟩

/-! ### What the server makes of it -/

/-- A document that is open stays open. -/
def Notice.continues : Notice → Bool
  | .changed .. | .saved _ => true
  | .opened .. | .closed _ => false

def Notice.isChange : Notice → Bool
  | .changed .. => true
  | _ => false

/-- The document was opened and then changed `k` times, and neither closed nor opened since. -/
def Edited (uri : String) (ns : List Notice) (k : Nat) : Prop :=
  ∃ before language v text after, ns = before ++ .opened uri language v text :: after ∧
    (∀ n ∈ after, n.uri = uri → n.continues = true) ∧
    k = after.countP fun n => n.uri = uri ∧ n.isChange

/-- What has been told has the form it should have. -/
structure Ordered (language : String) (ns : List Notice) : Prop where
  opened : ∀ uri l v text, .opened uri l v text ∈ ns → l = language ∧ v = 1
  changed : ∀ before uri x text after, ns = before ++ .changed uri x text :: after →
    ∃ v, Latest uri before v ∧ x = (v + 1).toInt

section Ordered

variable {language text : String} {ns ns' told : List Notice} {n : Notice} {v : Int32} {k : Nat}

theorem Ordered.front (h : Ordered language (ns ++ ns')) : Ordered language ns := by
  refine ⟨fun uri l v text hn => h.opened uri l v text (List.mem_append_left _ hn), ?_⟩
  rintro before uri v text after rfl
  exact h.changed before uri v text (after ++ ns') (by simp)

theorem Ordered.concat (h : Ordered language ns)
    (hopened : ∀ uri l v text, n = .opened uri l v text → l = language ∧ v = 1)
    (hchanged : ∀ uri x text, n = .changed uri x text →
      ∃ v, Latest uri ns v ∧ x = (v + 1).toInt) :
    Ordered language (ns ++ [n]) := by
  constructor
  · intro uri l v text hn
    rcases List.mem_append.1 hn with hn | hn
    · exact h.opened uri l v text hn
    · exact hopened uri l v text (List.mem_singleton.1 hn).symm
  · intro before uri v text after hns
    rcases split_concat hns with ⟨rfl, hn, -⟩ | ⟨rest, -, hns⟩
    · exact hchanged uri v text hn
    · exact h.changed before uri v text rest hns

/-- **Whatever a call tells continues what was told.** -/
theorem Ordered.tell (h : Ordered language ns) (ht : Notifies language ns m told) :
    Ordered language (ns ++ told) := by
  cases ht with
  | opened | reopened =>
    refine h.concat ?_ nofun
    rintro _ _ _ _ ⟨⟩
    exact ⟨rfl, rfl⟩
  | changed text hl =>
    refine h.concat nofun ?_
    rintro _ _ _ ⟨⟩
    exact ⟨_, hl, rfl⟩
  | saved | closed => exact h.concat nofun nofun
  | nothing => simpa using h

theorem Edited.concat (h : Edited uri ns k) (hn : n.uri = uri → n.continues = true) :
    Edited uri (ns ++ [n]) (if n.uri = uri ∧ n.isChange then k + 1 else k) := by
  obtain ⟨before, l, v, text, after, rfl, hafter, rfl⟩ := h
  refine ⟨before, l, v, text, after ++ [n], by simp, fun x hx => ?_, ?_⟩
  · rcases List.mem_append.1 hx with hx | hx
    · exact hafter x hx
    · rw [List.mem_singleton.1 hx]
      exact hn
  · rw [List.countP_append, List.countP_singleton]
    by_cases hc : n.uri = uri ∧ n.isChange <;> simp [hc]

/-- Versions count the changes since the document was opened. -/
theorem Ordered.edited (h : Ordered language ns) (hl : Latest uri ns v) :
    ∃ k : Nat, Edited uri ns k ∧ v = Int32.ofNat (k + 1) := by
  induction ns using List.reverseRecOn generalizing v with
  | nil => exact absurd hl not_latest_nil
  | append_singleton ns n ih =>
    rcases latest_concat.1 hl with ⟨hn, hv⟩ | ⟨hn, hl⟩
    · cases n with
      | opened u l w text =>
        cases hn
        obtain ⟨-, rfl⟩ := h.opened u l w text (by simp)
        have hone : (1 : Int32).toInt = v.toInt := Option.some.inj hv
        exact ⟨0, ⟨ns, l, 1, text, [], rfl, by simp, rfl⟩, (Int32.toInt_inj.1 hone).symm⟩
      | changed u w text =>
        cases hn
        obtain ⟨v', hl', rfl⟩ := h.changed ns u w text [] rfl
        obtain ⟨k, hk, rfl⟩ := ih h.front hl'
        have hnext := hk.concat (n := .changed u (Int32.ofNat (k + 1) + 1).toInt text) fun _ => rfl
        rw [if_pos ⟨rfl, rfl⟩] at hnext
        refine ⟨k + 1, hnext, ?_⟩
        rw [← Int32.toInt_inj.1 (Option.some.inj hv)]
        exact (Int32.ofNat_add (k + 1) 1).symm
      | saved | closed => cases hv
    · obtain ⟨k, hk, hv⟩ := ih h.front hl
      refine ⟨k, ?_, hv⟩
      have hnext := hk.concat (n := n) fun he => by rw [hn he]; rfl
      rwa [if_neg] at hnext
      rintro ⟨he, hc⟩
      rw [hn he] at hc
      cases hc

end Ordered

theorem OpenChannel.ordered (h : OpenChannel c₀ moves) :
    Ordered c₀.language (c₀.notices moves) := by
  induction moves using List.reverseRecOn with
  | nil =>
    have hnone : c₀.notices [] = [] := by simp [notices, sent, written, run, h.queue]
    rw [hnone]
    exact ⟨by simp, by simp⟩
  | append_singleton moves m ih =>
    obtain ⟨told, hnotices, ht⟩ := h.notifies
    rw [hnotices]
    exact (ih h.front).tell ht

theorem OpenChannel.filter (h : OpenChannel c₀ moves) (p : Move → Bool) :
    OpenChannel c₀ (moves.filter p) :=
  ⟨h.versions, h.calls, h.queue, h.writing, fun m hm => h.orderly m (List.mem_filter.1 hm).1⟩

/-- What is told about a document is what would be told without the other calls. -/
theorem OpenChannel.notices_filter (h : OpenChannel c₀ moves) (uri : String) :
    (c₀.notices moves).filter (·.uri = uri) = c₀.notices (moves.filter (·.uri? = some uri)) := by
  induction moves using List.reverseRecOn with
  | nil => simp [notices, sent, written, run, h.queue]
  | append_singleton moves m ih =>
    obtain ⟨told, hnotices, ht⟩ := h.notifies
    rw [hnotices, List.filter_append, List.filter_append, ih h.front]
    by_cases hm : m.uri? = some uri
    · have halone : [m].filter (·.uri? = some uri) = [m] := by simp [hm]
      have htold : told.filter (·.uri = uri) = told := by
        refine List.filter_eq_self.2 fun n hn => ?_
        have huri := hm.symm.trans (ht.uri_eq hn)
        simpa using (Option.some.inj huri).symm
      have hapart := h.filter (·.uri? = some uri)
      rw [List.filter_append, halone] at hapart
      obtain ⟨told', hnotices', ht'⟩ := hapart.notifies
      rw [halone, htold, hnotices']
      congr 1
      refine ht.eq ht' fun uri' v huri' => ?_
      obtain rfl := Option.some.inj (hm.symm.trans huri')
      rw [← ih h.front, latest_filter]
    · have halone : [m].filter (·.uri? = some uri) = [] := by simp [hm]
      have htold : told.filter (·.uri = uri) = [] := by
        refine List.filter_eq_nil_iff.2 fun n hn huri => hm ?_
        rw [ht.uri_eq hn, of_decide_eq_true huri]
      rw [halone, htold, List.append_nil, List.append_nil]

theorem OpenChannel.version?_filter (h : OpenChannel c₀ moves) (uri : String) :
    (c₀.run moves).version? uri = (c₀.run (moves.filter (·.uri? = some uri))).version? uri := by
  refine Option.ext fun v => ?_
  rw [h.inStep.version, (h.filter _).inStep.version, ← h.notices_filter, latest_filter]

/-! ### The server and the client agree -/

/-- A version that fits is one more than the one before. -/
theorem toInt_ofNat_add_one {k : Nat} (h : k < 2 ^ 31 - 2) :
    (Int32.ofNat (k + 1) + 1).toInt = (Int32.ofNat (k + 1)).toInt + 1 := by
  have hnext : Int32.ofNat (k + 1) + 1 = Int32.ofNat (k + 1 + 1) := (Int32.ofNat_add (k + 1) 1).symm
  rw [hnext, Int32.toInt_ofNat_of_lt (by omega), Int32.toInt_ofNat_of_lt (by omega)]
  omega

/-- What the server is told about documents along a run, and what the client remembers. -/
structure Synchronised (c₀ : Client) (moves : List Move) : Prop where
  /-- Each call tells one thing, with the text it was given, and nothing else is told. -/
  told : ∀ pre m post, moves = pre ++ m :: post → ∃ told,
    c₀.notices (pre ++ [m]) = c₀.notices pre ++ told ∧
      Notifies c₀.language (c₀.notices pre) m told
  opened : ∀ uri language v text, .opened uri language v text ∈ c₀.notices moves →
    language = c₀.language ∧ v = 1
  /-- A change is of a document that was opened and not closed since, and has the next version: one
  more, as long as 32 bits are enough. -/
  changed : ∀ before uri x text after, c₀.notices moves = before ++ .changed uri x text :: after →
    ∃ v k, Latest uri before v ∧ Edited uri before k ∧ x = (v + 1).toInt ∧
      (k < 2 ^ 31 - 2 → x = v.toInt + 1)
  version : ∀ uri v, (c₀.run moves).version? uri = some v ↔ Latest uri (c₀.notices moves) v
  /-- Versions count changes. -/
  counted : ∀ uri v, (c₀.run moves).version? uri = some v →
    ∃ k, Edited uri (c₀.notices moves) k ∧ v = Int32.ofNat (k + 1)
  /-- Without the calls about other documents all would be the same. -/
  apart : ∀ uri,
    (c₀.notices moves).filter (·.uri = uri) = c₀.notices (moves.filter (·.uri? = some uri)) ∧
      (c₀.run moves).version? uri = (c₀.run (moves.filter (·.uri? = some uri))).version? uri

/-- **The server and the client agree on every document**, at every point of a run over an open
channel. -/
theorem documents_synchronised (h : OpenChannel c₀ moves) : Synchronised c₀ moves where
  told := by
    rintro pre m post rfl
    rw [← List.singleton_append, ← List.append_assoc] at h
    exact h.front.notifies
  opened := h.ordered.opened
  changed := by
    intro before uri x text after hns
    obtain ⟨v, hl, rfl⟩ := h.ordered.changed before uri x text after hns
    have hbefore := h.ordered
    rw [hns] at hbefore
    obtain ⟨k, hk, rfl⟩ := hbefore.front.edited hl
    exact ⟨_, k, hl, hk, rfl, toInt_ofNat_add_one⟩
  version := h.inStep.version
  counted := by
    intro uri v hv
    exact h.ordered.edited ((h.inStep.version uri v).1 hv)
  apart uri := ⟨h.notices_filter uri, h.version?_filter uri⟩

/-- Two documents and a request in between: one document is changed before it is opened, and again
after it is closed. -/
def correspondence : List Move :=
  [.change "a" "x", .open "b" "y", .call "m" none, .register 1, .submit 1, .write, .change "a" "xx",
    .close "b", .close "a", .write, .change "a" "z", .save "a", .change "a" "zz"]

theorem documents_synchronised_correspondence :
    Synchronised {} correspondence ∧
      (({} : Client).run correspondence).version? "a" = some 2 ∧
      (({} : Client).run correspondence).version? "b" = none ∧
      Latest "a" (({} : Client).notices correspondence) 2 := by
  have h : OpenChannel {} correspondence :=
    ⟨rfl, rfl, rfl, rfl, by simp [correspondence, Move.Orderly]⟩
  have hs := documents_synchronised h
  exact ⟨hs, rfl, rfl, (hs.version "a" 2).1 rfl⟩

end Sidecar.Client
