/-
# What a failed call on a document leaves behind

A call on a document changes the version that the client remembers, and only
then hands a notification to the writer. A writer that has ended takes no
notification, so the call fails, and what it has changed stays changed: the
client remembers the version that the server would have been told.

So there are two accounts of a document. One is what was accepted for sending
(`accepted`). The other is what the client remembers, which depends on the calls
alone and not on whether they failed (`version?_step`). The two agree as long as
no opening, change or closing of the document has failed
(`AnyChannel.version_iff`); otherwise what is remembered is what would have been
accepted over a channel that stays open.

Key definitions: `Client.outcome?`, `Client.Move.revise`, `Client.accepted`, `Client.Misses`,
`Client.Residue`.
Key theorems: `Client.outcome?_eq_error_iff`, `Client.version?_step`,
`Client.AnyChannel.version_iff`, `Client.failed_calls_remembered`.
-/
import Sidecar.Proofs.ChannelLoss
import Sidecar.Proofs.Documents

namespace Sidecar.Client

variable {c c' c₀ : Client} {m : Move} {moves : List Move} {uri : String} {frames : List Json}

/-- What a call on a document returns. -/
def outcome? (c : Client) : Move → Option (Except ClientError Unit)
  | .open uri text => some (c.didOpen uri text).1
  | .change uri text => some (c.didChange uri text).1
  | .save uri => some (c.didSave uri).1
  | .close uri => some (c.didClose uri).1
  | _ => none

theorem notify_fst (c : Client) (method : String) (params : Option Json) :
    (c.notify method params).1 = if c.writing then .ok () else .error .closed := by
  unfold notify enqueue?
  cases c.writing <;> rfl

theorem outcome?_of_uri (hm : m.uri? = some uri) :
    c.outcome? m = some (if c.writing then .ok () else .error .closed) := by
  cases m with
  | «open» u text => exact congrArg some (notify_fst (c.setVersion u 1) _ _)
  | change u text =>
    rw [outcome?, didChange]
    cases c.version? u with
    | none => exact congrArg some (notify_fst (c.setVersion u 1) _ _)
    | some v => exact congrArg some (notify_fst (c.setVersion u (v + 1)) _ _)
  | save u => exact congrArg some (notify_fst c _ _)
  | close u => exact congrArg some (notify_fst (c.dropVersion u) _ _)
  | _ => cases hm

/-- **A call on a document fails exactly if the writer has ended.** -/
theorem outcome?_eq_error_iff {e : ClientError} :
    c.outcome? m = some (.error e) ↔ m.uri?.isSome = true ∧ c.writing = false ∧ e = .closed := by
  cases hm : m.uri? with
  | none =>
    have hnone : c.outcome? m = none := by cases m <;> first | rfl | cases hm
    simp [hnone]
  | some uri =>
    rw [outcome?_of_uri hm]
    cases c.writing <;> simp [eq_comm]

/-! ### What is handed to the writer -/

/-- The frames that a move hands to the writer. -/
def posted (c : Client) (m : Move) : List Json :=
  ((c.taken? m).toList ++ (c.step m).queue).drop c.queue.length

/-- What was accepted for sending about documents along a run. -/
def accepted (c : Client) : List Move → List Notice
  | [] => []
  | m :: moves => (c.posted m).filterMap Notice.ofFrame? ++ (c.step m).accepted moves

theorem accepted_concat (c : Client) (moves : List Move) (m : Move) :
    c.accepted (moves ++ [m]) =
      c.accepted moves ++ ((c.run moves).posted m).filterMap Notice.ofFrame? := by
  induction moves generalizing c with
  | nil => simp [accepted, run]
  | cons m' moves ih =>
    simp only [List.cons_append, accepted, ih, List.append_assoc]
    rfl

theorem Posts.posted_eq (h : Posts c (c.step m) frames) (htaken : c.taken? m = none) :
    c.posted m = frames := by
  rw [posted, htaken, h.queue, Option.toList_none, List.nil_append, List.drop_left]

theorem Conveys.posted_eq {told : List Notice} (h : Conveys c m told) :
    (c.posted m).filterMap Notice.ofFrame? = told := by
  obtain ⟨frames, hqueue, htold⟩ := h.queue
  rw [posted, hqueue, List.drop_left, htold]

/-- A move hands over some frames, and none if the writer has ended. -/
def Offers (c c' : Client) : Prop := ∃ frames, Posts c c' frames ∧ (c.writing = false → frames = [])

theorem Posts.offers (h : Posts c c' []) : Offers c c' := ⟨[], h, fun _ => rfl⟩

theorem offers_notify (c : Client) (method : String) (params : Option Json) :
    Offers c (c.notify method params).2 := by
  cases hw : c.writing with
  | true =>
    refine ⟨_, posts_notify hw method params, fun h => ?_⟩
    rw [hw] at h
    cases h
  | false =>
    rw [notify_of_not_writing hw]
    exact Posts.offers (posts_nil rfl rfl rfl rfl)

theorem offers_submit (c : Client) (id : Nat) : Offers c (c.submit id) := by
  have hidle : Offers c c := Posts.offers (posts_nil rfl rfl rfl rfl)
  unfold submit
  split
  · next x _ =>
    split
    · cases hw : c.writing with
      | true =>
        rw [enqueue?_of_writing hw]
        refine ⟨[x.frame], ⟨rfl, rfl, rfl, rfl⟩, fun h => ?_⟩
        rw [hw] at h
        cases h
      | false =>
        rw [enqueue?_of_not_writing hw]
        exact Posts.offers (posts_nil rfl rfl rfl rfl)
    · exact hidle
  · exact hidle

theorem offers_dispatch (c : Client) (f : Json) : Offers c (c.dispatch f) := by
  unfold dispatch
  split
  · exact Posts.offers (posts_nil rfl rfl rfl rfl)
  · unfold deliver
    refine Posts.offers ?_
    split <;> exact posts_nil rfl rfl rfl rfl
  · next id method _ =>
    cases hw : c.writing with
    | true =>
      rw [enqueue?_of_writing hw]
      refine ⟨[Message.methodNotFound id method], ⟨rfl, rfl, rfl, rfl⟩, fun h => ?_⟩
      rw [hw] at h
      cases h
    | false =>
      rw [enqueue?_of_not_writing hw]
      exact Posts.offers (posts_nil rfl rfl rfl rfl)
  · exact (posts_handle c _ _).offers

/-- Moves of the writer itself. -/
def Move.isWriters : Move → Bool
  | .write | .stopWriting | .shut => true
  | _ => false

/-- Neither calls on documents nor the writer. -/
theorem offers_step (hu : m.uri? = none) (hm : m.isWriters = false) : Offers c (c.step m) := by
  cases m with
  | «open» | change | save | close => cases hu
  | write | stopWriting | shut => cases hm
  | call | abandon | takeEvent => exact Posts.offers (posts_nil rfl rfl rfl rfl)
  | register id => exact (posts_own_step c id).1.offers
  | collect id => exact (posts_own_step c id).2.1.offers
  | expire id => exact (posts_own_step c id).2.2.1.offers
  | withdraw id => exact (posts_own_step c id).2.2.2.offers
  | submit id => exact offers_submit c id
  | notify | configure => exact offers_notify c _ _
  | arrive f =>
    rw [step]
    split
    · exact offers_dispatch c f
    · exact Posts.offers (posts_nil rfl rfl rfl rfl)
  | endReading reason =>
    rw [step]
    split
    · exact (posts_endReading c reason).offers
    · exact Posts.offers (posts_nil rfl rfl rfl rfl)

theorem queue_notify_of_not_writing (hw : c.writing = false) (method : String)
    (params : Option Json) : (c.notify method params).2.queue = c.queue := by
  rw [notify_of_not_writing hw]

/-- A call on a document leaves the queue alone if the writer has ended. -/
theorem queue_step_of_uri (hw : c.writing = false) (hu : m.uri? = some uri) :
    (c.step m).queue = c.queue := by
  cases m with
  | «open» u text => exact queue_notify_of_not_writing (c := c.setVersion u 1) hw _ _
  | change u text =>
    rw [step, didChange]
    cases c.version? u with
    | none => exact queue_notify_of_not_writing (c := c.setVersion u 1) hw _ _
    | some v => exact queue_notify_of_not_writing (c := c.setVersion u (v + 1)) hw _ _
  | save u => exact queue_notify_of_not_writing hw _ _
  | close u => exact queue_notify_of_not_writing (c := c.dropVersion u) hw _ _
  | _ => cases hu

/-- A writer that has ended is handed nothing. -/
theorem posted_of_not_writing (hw : c.writing = false) (m : Move) : c.posted m = [] := by
  cases hu : m.uri? with
  | some uri =>
    have htaken : c.taken? m = none := by cases m <;> first | rfl | cases hu
    rw [posted, htaken, queue_step_of_uri hw hu]
    simp
  | none =>
    cases m with
    | write =>
      have htake : c.takeFrame? = none := by
        unfold takeFrame?
        split <;> simp [hw]
      simp [posted, taken?, step, htake]
    | stopWriting | shut => exact List.drop_nil
    | _ =>
      obtain ⟨frames, hposts, hnone⟩ := offers_step (c := c) hu rfl
      rw [hposts.posted_eq rfl, hnone hw]

/-- The version of a document after a move, given the one before. It is not asked whether a call
succeeds. -/
def Move.revise (uri : String) (v : Option Int32) : Move → Option Int32
  | .open u _ => if u = uri then some 1 else v
  | .change u _ => if u = uri then some (v.elim 1 (· + 1)) else v
  | .close u => if u = uri then none else v
  | _ => v

theorem Offers.version?_eq (h : Offers c c') (uri : String) : c'.version? uri = c.version? uri := by
  obtain ⟨frames, hposts, -⟩ := h
  rw [version?, version?, hposts.versions]

theorem version?_notify (c : Client) (method : String) (params : Option Json) (uri : String) :
    (c.notify method params).2.version? uri = c.version? uri :=
  (offers_notify c method params).version?_eq uri

/-- **What is remembered depends on the calls alone.** -/
theorem version?_step (c : Client) (m : Move) (uri : String) :
    (c.step m).version? uri = m.revise uri (c.version? uri) := by
  cases m with
  | «open» u text =>
    rw [step, didOpen, version?_notify, version?_setVersion]
    rfl
  | change u text =>
    rw [step, didChange]
    by_cases hu : u = uri
    · subst hu
      rw [Move.revise, if_pos rfl]
      cases c.version? u with
      | none =>
        show (c.didOpen u text).2.version? u = _
        rw [didOpen, version?_notify, version?_setVersion, if_pos rfl]
        rfl
      | some v =>
        dsimp only
        rw [version?_notify, version?_setVersion, if_pos rfl]
        rfl
    · rw [Move.revise, if_neg hu]
      cases c.version? u with
      | none =>
        show (c.didOpen u text).2.version? uri = _
        rw [didOpen, version?_notify, version?_setVersion, if_neg hu]
      | some v =>
        dsimp only
        rw [version?_notify, version?_setVersion, if_neg hu]
  | save u => exact version?_notify c _ _ uri
  | close u =>
    rw [step, didClose, version?_notify, version?_dropVersion]
    rfl
  | write =>
    rw [step, takeFrame?]
    split
    · split <;> rfl
    · rfl
  | stopWriting | shut => rfl
  | _ =>
    refine Offers.version?_eq ?_ uri
    exact offers_step rfl rfl

theorem version?_run (c : Client) (moves : List Move) (uri : String) :
    (c.run moves).version? uri = moves.foldl (Move.revise uri) (c.version? uri) := by
  induction moves generalizing c with
  | nil => rfl
  | cons m moves ih =>
    show ((c.step m).run moves).version? uri = _
    rw [ih, version?_step]
    rfl

/-- Only calls on documents count. -/
theorem version?_run_filter (c : Client) (moves : List Move) (uri : String) :
    (c.run (moves.filter (·.uri?.isSome))).version? uri = (c.run moves).version? uri := by
  rw [version?_run, version?_run, List.foldl_filter]
  congr 1
  funext v m
  cases m <;> rfl

/-! ### Along a run -/

/-- Nothing is said about documents behind the client's back. -/
def Move.Candid : Move → Prop
  | .notify method _ => method ∉ Notice.methods
  | _ => True

/-- A run from the start on, over a channel that may be closed at any time. -/
structure AnyChannel (c₀ : Client) (moves : List Move) : Prop where
  versions : c₀.versions = []
  calls : c₀.calls = []
  candid : ∀ m ∈ moves, m.Candid

/-- With this move an opening, a change or a closing of the document fails. -/
def Misses (uri : String) (c : Client) (m : Move) : Prop :=
  m.uri? = some uri ∧ m ≠ .save uri ∧ c.writing = false

theorem not_happened_nil {P : Client → Move → Prop} : ¬ Happened P c₀ [] := by
  rintro ⟨pre, m, post, hmoves, -⟩
  simp at hmoves

theorem happened_cons {P : Client → Move → Prop} :
    Happened P c₀ (m :: moves) ↔ P c₀ m ∨ Happened P (c₀.step m) moves := by
  constructor
  · rintro ⟨pre, m', post, hmoves, hP⟩
    cases pre with
    | nil =>
      cases hmoves
      exact .inl hP
    | cons _ pre =>
      cases hmoves
      exact .inr ⟨pre, m', post, rfl, hP⟩
  · rintro (hP | ⟨pre, m', post, rfl, hP⟩)
    · exact ⟨[], m, moves, rfl, hP⟩
    · exact ⟨m :: pre, m', post, rfl, hP⟩

theorem AnyChannel.front {pre post : List Move} (h : AnyChannel c₀ (pre ++ post)) :
    AnyChannel c₀ pre :=
  ⟨h.versions, h.calls, fun m hm => h.candid m (List.mem_append_left _ hm)⟩

theorem AnyChannel.requests (h : AnyChannel c₀ moves) : Requests (c₀.run moves) := by
  induction moves using List.reverseRecOn with
  | nil => simp [Requests, run, h.calls]
  | append_singleton moves m ih =>
    rw [run_concat]
    exact (ih h.front).step m

/-- While the writer takes frames, a move tells the server what it makes the client remember. -/
theorem exists_conveys (hr : Requests c) (hw : c.writing = true) (hm : m.Candid)
    (hstop : m ≠ .stopWriting) (hshut : m ≠ .shut) : ∃ told, Conveys c m told := by
  have horderly : m.Orderly := by
    cases m with
    | notify method params => exact hm
    | stopWriting => exact absurd rfl hstop
    | shut => exact absurd rfl hshut
    | _ => trivial
  cases m with
  | «open» uri text => exact ⟨_, (reports_open uri text hw).conveys rfl⟩
  | change uri text =>
    cases hv : c.version? uri with
    | some v => exact ⟨_, (reports_change uri text hw hv).conveys rfl⟩
    | none => exact ⟨_, (reports_reopen uri text hw hv).conveys rfl⟩
  | save uri => exact ⟨_, (reports_save uri hw).conveys rfl⟩
  | close uri => exact ⟨_, (reports_close uri hw).conveys rfl⟩
  | write => exact ⟨_, conveys_write hw⟩
  | _ => exact ⟨_, (mute_step hr hw horderly rfl (by simp)).conveys rfl⟩

/-- A move that is no call on the document that fails: what is remembered of the document goes along
with what was accepted. -/
theorem version_iff_step {ns : List Notice} (hr : Requests c) (hm : m.Candid)
    (hmiss : ¬ Misses uri c m) (h : ∀ v, c.version? uri = some v ↔ Latest uri ns v) (v : Int32) :
    (c.step m).version? uri = some v ↔
      Latest uri (ns ++ (c.posted m).filterMap Notice.ofFrame?) v := by
  cases hw : c.writing with
  | true =>
    by_cases hstop : m = .stopWriting ∨ m = .shut
    · have hposted : c.posted m = [] := by rcases hstop with rfl | rfl <;> exact List.drop_nil
      have hversion : (c.step m).version? uri = c.version? uri := by
        rcases hstop with rfl | rfl <;> rfl
      rw [hposted, hversion, h]
      simp
    · rw [not_or] at hstop
      obtain ⟨told, hconveys⟩ := exists_conveys hr hw hm hstop.1 hstop.2
      rw [hconveys.posted_eq]
      exact hconveys.version uri ns h v
  | false =>
    have hrevise : m.revise uri (c.version? uri) = c.version? uri := by
      cases m with
      | «open» u text | change u text | close u =>
        refine if_neg fun hu => hmiss ?_
        exact ⟨congrArg some hu, by simp, hw⟩
      | _ => rfl
    rw [posted_of_not_writing hw, version?_step, hrevise, h]
    simp

/-- **What is remembered of a document is what was accepted**, as long as no opening, change or
closing of it has failed. -/
theorem AnyChannel.version_iff (h : AnyChannel c₀ moves) (hmiss : ¬ Happened (Misses uri) c₀ moves)
    (v : Int32) : (c₀.run moves).version? uri = some v ↔ Latest uri (c₀.accepted moves) v := by
  induction moves using List.reverseRecOn generalizing v with
  | nil => simp [run, accepted, version?, h.versions, not_latest_nil]
  | append_singleton moves m ih =>
    rw [happened_concat, not_or] at hmiss
    rw [run_concat, accepted_concat]
    exact version_iff_step h.front.requests (h.candid m (by simp)) hmiss.2 (ih h.front hmiss.1) v

/-- The same client at the start of a channel that stays open. -/
def undisturbed (c : Client) : Client := { c with writing := true, queue := [] }

/-- **What is remembered is what the server would have been told** if no call had failed. -/
theorem AnyChannel.version_iff_undisturbed (h : AnyChannel c₀ moves) (uri : String) (v : Int32) :
    (c₀.run moves).version? uri = some v ↔
      Latest uri (c₀.undisturbed.notices (moves.filter (·.uri?.isSome))) v := by
  have hopen : OpenChannel c₀.undisturbed (moves.filter (·.uri?.isSome)) := by
    refine ⟨h.versions, h.calls, rfl, rfl, fun m hm => ?_⟩
    have hu := (List.mem_filter.1 hm).2
    cases m <;> trivial
  have hsame : (c₀.run moves).version? uri = (c₀.undisturbed.run moves).version? uri := by
    rw [version?_run, version?_run]
    rfl
  rw [hsame, ← version?_run_filter, hopen.inStep.version]

/-! ### What a failed call leaves behind -/

/-- What a call would make the client remember is what it remembers already. -/
def Redundant (c : Client) : Move → Prop
  | .open uri _ => c.version? uri = some 1
  | .change _ _ => False
  | .close uri => c.version? uri = none
  | _ => True

theorem unrevised_iff : (∀ uri, m.revise uri (c.version? uri) = c.version? uri) ↔ Redundant c m := by
  cases m with
  | «open» u text =>
    refine ⟨fun h => ?_, fun h uri => ?_⟩
    · have hu := h u
      rw [Move.revise, if_pos rfl] at hu
      exact hu.symm
    · by_cases hu : u = uri
      · subst hu
        rw [Move.revise, if_pos rfl]
        exact h.symm
      · exact if_neg hu
  | change u text =>
    refine ⟨fun h => ?_, False.elim⟩
    have hu := h u
    rw [Move.revise, if_pos rfl] at hu
    cases hv : c.version? u with
    | none =>
      rw [hv] at hu
      cases hu
    | some v =>
      rw [hv] at hu
      have hnext : v + 1 = v := Option.some.inj hu
      simp at hnext
  | close u =>
    refine ⟨fun h => ?_, fun h uri => ?_⟩
    · have hu := h u
      rw [Move.revise, if_pos rfl] at hu
      exact hu.symm
    · by_cases hu : u = uri
      · subst hu
        rw [Move.revise, if_pos rfl]
        exact h.symm
      · exact if_neg hu
  | _ => exact ⟨fun _ => trivial, fun _ _ => rfl⟩

/-- Whether a move is a change of a document. -/
def Move.isChange : Move → Bool
  | .change .. => true
  | _ => false

/-- A version is remembered that counts some changes, at most so many. -/
def Counts (k : Nat) (v : Int32) : Prop := ∃ j ≤ k, v = Int32.ofNat (j + 1)

/-- A move adds at most one to a version, and that only if it is a change. -/
theorem counts_revise {k : Nat} {v : Option Int32} {w : Int32} (h : ∀ w, v = some w → Counts k w)
    (hw : m.revise uri v = some w) : Counts (k + if m.isChange then 1 else 0) w := by
  have hkept (hv : v = some w) : Counts (k + if m.isChange then 1 else 0) w := by
    obtain ⟨j, hj, rfl⟩ := h w hv
    exact ⟨j, Nat.le_add_right_of_le hj, rfl⟩
  cases m with
  | «open» u text =>
    by_cases hu : u = uri
    · rw [Move.revise, if_pos hu, Option.some.injEq] at hw
      exact ⟨0, Nat.zero_le _, hw.symm⟩
    · rw [Move.revise, if_neg hu] at hw
      exact hkept hw
  | change u text =>
    by_cases hu : u = uri
    · rw [Move.revise, if_pos hu, Option.some.injEq] at hw
      cases v with
      | none => exact ⟨0, Nat.zero_le _, hw.symm⟩
      | some w' =>
        obtain ⟨j, hj, rfl⟩ := h w' rfl
        refine ⟨j + 1, Nat.succ_le_succ hj, ?_⟩
        rw [← hw]
        exact (Int32.ofNat_add (j + 1) 1).symm
    · rw [Move.revise, if_neg hu] at hw
      exact hkept hw
  | close u =>
    by_cases hu : u = uri
    · rw [Move.revise, if_pos hu] at hw
      cases hw
    · rw [Move.revise, if_neg hu] at hw
      exact hkept hw
  | _ => exact hkept hw

/-- Versions count changes, whether they failed or not. -/
theorem AnyChannel.counts (h : AnyChannel c₀ moves) {v : Int32}
    (hv : (c₀.run moves).version? uri = some v) : Counts (moves.countP Move.isChange) v := by
  induction moves using List.reverseRecOn generalizing v with
  | nil => simp [run, version?, h.versions] at hv
  | append_singleton moves m ih =>
    rw [run_concat, version?_step] at hv
    rw [List.countP_append, List.countP_singleton]
    exact counts_revise (fun w hw => ih h.front hw) hv

/-- What calls on documents leave behind, over a channel that may be closed at any time. -/
structure Residue (c₀ : Client) (moves : List Move) : Prop where
  /-- A call fails exactly if the writer has ended. -/
  fails : ∀ pre m post e, moves = pre ++ m :: post →
    ((c₀.run pre).outcome? m = some (.error e) ↔
      m.uri?.isSome = true ∧ (c₀.run pre).writing = false ∧ e = .closed)
  /-- The server is told nothing by it, -/
  untold : ∀ pre m post e, moves = pre ++ m :: post → (c₀.run pre).outcome? m = some (.error e) →
    c₀.accepted (pre ++ [m]) = c₀.accepted pre
  /-- and the client remembers what it would remember after a call that succeeds. -/
  revised : ∀ pre m post e, moves = pre ++ m :: post → (c₀.run pre).outcome? m = some (.error e) →
    ∀ uri, (c₀.run (pre ++ [m])).version? uri = m.revise uri ((c₀.run pre).version? uri)
  /-- It leaves no trace only if it would not have changed anything. -/
  traceless : ∀ pre m post e, moves = pre ++ m :: post →
    (c₀.run pre).outcome? m = some (.error e) →
    ((∀ uri, (c₀.run (pre ++ [m])).version? uri = (c₀.run pre).version? uri) ↔
      Redundant (c₀.run pre) m)
  /-- Where no opening, change or closing of a document has failed, its version is the last one that
  was accepted for sending. -/
  accepted : ∀ uri, ¬ Happened (Misses uri) c₀ moves → ∀ v,
    (c₀.run moves).version? uri = some v ↔ Latest uri (c₀.accepted moves) v
  /-- In any case it is the last one that would have been sent had no call failed. -/
  pretended : ∀ uri v, (c₀.run moves).version? uri = some v ↔
    Latest uri (c₀.undisturbed.notices (moves.filter (·.uri?.isSome))) v
  /-- Versions count changes. -/
  counted : ∀ uri v, (c₀.run moves).version? uri = some v → Counts (moves.countP Move.isChange) v

/-- **A call on a document that fails is remembered like one that succeeds.** Only a document of
which no opening, change or closing has failed has the version that was last accepted for sending. -/
theorem failed_calls_remembered (h : AnyChannel c₀ moves) : Residue c₀ moves where
  fails _ _ _ _ _ := outcome?_eq_error_iff
  untold := by
    rintro pre m post e - herror
    obtain ⟨-, hw, -⟩ := outcome?_eq_error_iff.1 herror
    rw [accepted_concat, posted_of_not_writing hw]
    simp
  revised := by
    rintro pre m post e - - uri
    rw [run_concat, version?_step]
  traceless := by
    rintro pre m post e - -
    rw [← unrevised_iff]
    simp only [run_concat, version?_step]
  accepted _ hmiss := h.version_iff hmiss
  pretended := h.version_iff_undisturbed
  counted _ _ := h.counts

/-- Two documents are open when the client is given up. One is then changed, a third is
opened, and the other is only saved. -/
def belated : List Move :=
  [.open "a" "x", .open "b" "y", .change "b" "yy", .write, .shut, .change "a" "xx", .save "b",
    .open "c" "z"]

theorem failed_calls_remembered_belated : AnyChannel {} belated ∧ Residue {} belated ∧
    Latest "b" (accepted {} belated) 2 ∧
    (run {} belated).outcome? (.close "a") = some (.error .closed) ∧
    (run {} belated).version? "a" = some 2 ∧ (run {} belated).version? "c" = some 1 := by
  have h : AnyChannel {} belated := ⟨rfl, rfl, by simp [belated, Move.Candid]⟩
  have hr := failed_calls_remembered h
  refine ⟨h, hr, (hr.accepted "b" ?_ 2).1 rfl, rfl, rfl, rfl⟩
  have hfirst : (step {} (.open "a" "x")).writing = true := rfl
  have hsecond : (step (step {} (.open "a" "x")) (.open "b" "y")).writing = true := rfl
  simp [belated, happened_cons, not_happened_nil, Misses, Move.uri?, hfirst, hsecond]

/-- Each kind of call fails after the client was given up, and is remembered: the opening of a
document, its change, and the closing of one that the server knows. -/
theorem failed_calls_leave_traces :
    (run {} [.shut]).outcome? (.open "a" "x") = some (.error .closed) ∧
    (run {} [.shut]).version? "a" = none ∧
    (run {} [.shut, .open "a" "x"]).version? "a" = some 1 ∧
    (run {} [.open "a" "x", .shut]).outcome? (.change "a" "y") = some (.error .closed) ∧
    (run {} [.open "a" "x", .shut]).version? "a" = some 1 ∧
    (run {} [.open "a" "x", .shut, .change "a" "y"]).version? "a" = some 2 ∧
    (run {} [.open "a" "x", .shut]).outcome? (.close "a") = some (.error .closed) ∧
    (run {} [.open "a" "x", .shut, .close "a"]).version? "a" = none ∧
    accepted {} [.open "a" "x", .shut, .close "a"] = [.opened "a" "yara" 1 "x"] := by
  refine ⟨rfl, rfl, rfl, rfl, rfl, rfl, rfl, rfl, ?_⟩
  have hopened : Conveys {} (.open "a" "x") [.opened "a" "yara" 1 "x"] :=
    (reports_open "a" "x" rfl).conveys rfl
  show (posted {} (.open "a" "x")).filterMap Notice.ofFrame? ++ [] = _
  rw [hopened.posted_eq, List.append_nil]

end Sidecar.Client
