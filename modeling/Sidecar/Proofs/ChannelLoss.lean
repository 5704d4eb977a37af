/-
# What becomes of calls when the channel is lost

When reading ends, the reader lets go of the calls that it knows, so that they
fail at once and not at the end of their time. This is not the only way in
which reading ends, and not all calls are known to the reader when it does. A
client that is given up stops its reader without a word, and a call that begins
after the end of reading finds nobody who would let it go, while a writer that
still works takes its frame.

So a call that has no response when reading has ended is told that the channel
is closed in two cases only, and there always: the reader let it go, or the
writer refused its frame (`calls_after_loss`). In all other cases it waits to
the end of its time.

A move is followed for one call at a time (`Moved`), and what is remembered of
a run is whether the call was let go and whether it was refused (`Traced`).
What a move keeps of a call is kept by the rest of the run (`Course.follows`).

Key definitions: `Client.LetGo`, `Client.Refused`, `Client.Timely`, `Client.Moved`,
`Client.AfterLoss`.
Key theorems: `Client.Sound.moved_step`, `Client.Course.traced`, `Client.calls_after_loss`.
-/
import Sidecar.Proofs.Routing

namespace Sidecar.Client

/-- At some time in the run a move came to a client of which `P` holds. -/
def Happened (P : Client → Move → Prop) (c₀ : Client) (moves : List Move) : Prop :=
  ∃ pre m post, moves = pre ++ m :: post ∧ P (c₀.run pre) m

/-- With this move the reader lets go of a call that has no response. -/
def LetsGo (id : Nat) (c : Client) (m : Move) : Prop :=
  (∃ reason, m = .endReading reason) ∧ c.reading = true ∧
    ∃ x ∈ c.calls, x.id = id ∧ x.isOpen = true ∧ x.slot = .empty

/-- With this move a call hands over its frame, and there is no writer. -/
def Refuses (id : Nat) (c : Client) (m : Move) : Prop :=
  m = .submit id ∧ c.writing = false ∧ ∃ x ∈ c.calls, x.id = id ∧ x.progress = .registered

/-- The reader has let go of a call. -/
abbrev LetGo (c₀ : Client) (moves : List Move) (id : Nat) : Prop := Happened (LetsGo id) c₀ moves

/-- The writer has refused the frame of a call. -/
abbrev Refused (c₀ : Client) (moves : List Move) (id : Nat) : Prop :=
  Happened (Refuses id) c₀ moves

/-- A call looks for what the reader has left before it looks at the clock. -/
def Timely (c₀ : Client) (moves : List Move) : Prop :=
  ¬ Happened (fun c m => ∃ x ∈ c.calls, m = .expire x.id ∧ x.progress = .waiting ∧ x.slot ≠ .empty)
    c₀ moves

variable {c c' c₀ : Client} {x y : Call} {m : Move} {pre post moves : List Move} {id : Nat}

theorem happened_concat {P : Client → Move → Prop} :
    Happened P c₀ (moves ++ [m]) ↔ Happened P c₀ moves ∨ P (c₀.run moves) m := by
  constructor
  · rintro ⟨pre, m', post, hmoves, hP⟩
    rcases split_concat hmoves with ⟨rfl, rfl, -⟩ | ⟨rest, -, hpre⟩
    · exact .inr hP
    · exact .inl ⟨pre, m', rest, hpre, hP⟩
  · rintro (⟨pre, m', post, rfl, hP⟩ | hP)
    · exact ⟨pre, m', post ++ [m], by simp, hP⟩
    · exact ⟨moves, m, [], rfl, hP⟩

theorem Timely.concat (h : Timely c₀ moves)
    (hm : ∀ x ∈ (c₀.run moves).calls, m = .expire x.id → x.progress = .waiting → x.slot = .empty) :
    Timely c₀ (moves ++ [m]) := by
  intro hn
  rcases happened_concat.1 hn with hn | ⟨x, hx, hexpire, hp, hs⟩
  · exact h hn
  · exact hs (hm x hx hexpire hp)

theorem timely_of_not_mem (h : ∀ id, Move.expire id ∉ moves) : Timely c₀ moves := by
  rintro ⟨pre, m, post, rfl, x, -, rfl, -⟩
  exact h x.id (by simp)

theorem Timely.front (h : Timely c₀ (moves ++ [m])) : Timely c₀ moves :=
  fun hn => h (happened_concat.2 (.inl hn))

/-! ### A move and one call -/

/-- What a move does with a call, and when it does nothing. -/
inductive Moved (c : Client) (m : Move) (x : Call) : Call → Prop where
  | same (hgo : ¬ LetsGo x.id c m) (href : ¬ Refuses x.id c m) : Moved c m x x
  | registered (hm : m = .register x.id) (hp : x.progress = .numbered) :
      Moved c m x { x with progress := .registered }
  | submitted (hm : m = .submit x.id) (hp : x.progress = .registered) (hw : c.writing = true) :
      Moved c m x { x with progress := .waiting }
  | refused (hm : m = .submit x.id) (hp : x.progress = .registered) (hw : c.writing = false) :
      Moved c m x { x with progress := .leaving (.error .closed) }
  | answered {f : Json} (hm : m = .collect x.id) (hp : x.progress = .waiting)
      (hs : x.slot = .filled f) : Moved c m x { x with progress := .done (outcomeOf x.method f) }
  | missed (hm : m = .collect x.id) (hp : x.progress = .waiting) (hs : x.slot = .dropped) :
      Moved c m x { x with progress := .leaving (.error .closed) }
  | expired (hm : m = .expire x.id) (hp : x.progress = .waiting) :
      Moved c m x { x with progress := .leaving (.error (.timeout x.method c.requestTimeout)) }
  | withdrawn {o : Except ClientError Json} (hm : m = .withdraw x.id)
      (hp : x.progress = .leaving o) : Moved c m x { x with progress := .done o }
  | filled {f : Json} (hm : m = .arrive f) (hr : c.reading = true) (ho : x.isOpen = true)
      (hs : x.slot = .empty) : Moved c m x { x with slot := .filled f }
  | letGo (hm : LetsGo x.id c m) (ho : x.isOpen = true) (hs : x.slot = .empty) :
      Moved c m x { x with slot := .dropped }

theorem not_letsGo (hm : ∀ reason, m ≠ .endReading reason) : ¬ LetsGo id c m := by
  rintro ⟨⟨reason, rfl⟩, -⟩
  exact hm reason rfl

theorem not_refuses (hm : m ≠ .submit id) : ¬ Refuses id c m := by
  rintro ⟨rfl, -⟩
  exact hm rfl

theorem Moved.idle (hend : ∀ reason, m ≠ .endReading reason) (hsubmit : m ≠ .submit x.id) :
    Moved c m x x :=
  .same (not_letsGo hend) (not_refuses hsubmit)

/-- What a step of a call's own does to the calls. -/
theorem Sound.moved_setProgress (h : Sound c) {z : Call} (hz : z ∈ c.calls) {p : Progress}
    (hp : Moved c m z { z with progress := p }) (hother : ∀ x : Call, x.id ≠ z.id → Moved c m x x)
    (hy : y ∈ (c.setProgress z.id p).calls) : ∃ x ∈ c.calls, x.id = y.id ∧ Moved c m x y := by
  rw [setProgress, mem_updateCall] at hy
  obtain ⟨x, hx, rfl⟩ := hy
  by_cases hid : x.id = z.id
  · obtain rfl := h.eq_of_id_eq hx hz hid
    rw [if_pos rfl]
    exact ⟨x, hx, rfl, hp⟩
  · rw [if_neg hid]
    exact ⟨x, hx, rfl, hother x hid⟩

section Steps

variable (h : Sound c) (id : Nat)
include h

theorem Sound.moved_register (hy : y ∈ (c.register id).calls) :
    ∃ x ∈ c.calls, x.id = y.id ∧ Moved c (.register id) x y := by
  have hidle : ∀ x : Call, Moved c (.register id) x x := fun x => .idle nofun nofun
  unfold register at hy
  split at hy
  · next z hz =>
    obtain ⟨hmem, rfl⟩ := call?_eq_some hz
    split at hy
    · next hp => exact h.moved_setProgress hmem (.registered rfl hp) (fun x _ => hidle x) hy
    · exact ⟨y, hy, rfl, hidle y⟩
  · exact ⟨y, hy, rfl, hidle y⟩

theorem Sound.moved_submit (hy : y ∈ (c.submit id).calls) :
    ∃ x ∈ c.calls, x.id = y.id ∧ Moved c (.submit id) x y := by
  -- only a call that is registered under the id is concerned
  have hidle : ∀ x : Call, (∀ z ∈ c.calls, z.id = id → z.id = x.id → z.progress ≠ .registered) →
      Moved c (.submit id) x x := by
    intro x hx
    refine .same (not_letsGo nofun) ?_
    rintro ⟨hm, -, z, hz, hid, hp⟩
    cases hm
    exact hx z hz hid hid hp
  unfold submit at hy
  split at hy
  · next z hz =>
    obtain ⟨hmem, rfl⟩ := call?_eq_some hz
    split at hy
    · next hp =>
      have hother : ∀ x : Call, x.id ≠ z.id → Moved c (.submit z.id) x x :=
        fun x hne => hidle x fun w _ hw hwx => absurd (hwx.symm.trans hw) hne
      cases hw : c.writing with
      | true =>
        simp only [enqueue?, hw, if_true] at hy
        exact h.moved_setProgress hmem (.submitted rfl hp hw) hother hy
      | false =>
        simp only [enqueue?, hw, Bool.false_eq_true, if_false] at hy
        exact h.moved_setProgress hmem (.refused rfl hp hw) hother hy
    · next hp =>
      refine ⟨y, hy, rfl, hidle y fun w hw hid _ => ?_⟩
      rw [h.eq_of_id_eq hw hmem hid]
      exact hp
  · next hnone =>
    refine ⟨y, hy, rfl, hidle y fun w hw hid _ => ?_⟩
    rw [← hid, h.call?_eq hw] at hnone
    cases hnone

theorem Sound.moved_collect (hy : y ∈ (c.collect id).calls) :
    ∃ x ∈ c.calls, x.id = y.id ∧ Moved c (.collect id) x y := by
  have hidle : ∀ x : Call, Moved c (.collect id) x x := fun x => .idle nofun nofun
  unfold collect at hy
  split at hy
  · next z hz =>
    obtain ⟨hmem, rfl⟩ := call?_eq_some hz
    split at hy
    · next hp =>
      split at hy
      · next f hs => exact h.moved_setProgress hmem (.answered rfl hp hs) (fun x _ => hidle x) hy
      · next hs => exact h.moved_setProgress hmem (.missed rfl hp hs) (fun x _ => hidle x) hy
      · exact ⟨y, hy, rfl, hidle y⟩
    · exact ⟨y, hy, rfl, hidle y⟩
  · exact ⟨y, hy, rfl, hidle y⟩

theorem Sound.moved_expire (hy : y ∈ (c.expire id).calls) :
    ∃ x ∈ c.calls, x.id = y.id ∧ Moved c (.expire id) x y := by
  have hidle : ∀ x : Call, Moved c (.expire id) x x := fun x => .idle nofun nofun
  unfold expire at hy
  split at hy
  · next z hz =>
    obtain ⟨hmem, rfl⟩ := call?_eq_some hz
    split at hy
    · next hp => exact h.moved_setProgress hmem (.expired rfl hp) (fun x _ => hidle x) hy
    · exact ⟨y, hy, rfl, hidle y⟩
  · exact ⟨y, hy, rfl, hidle y⟩

theorem Sound.moved_withdraw (hy : y ∈ (c.withdraw id).calls) :
    ∃ x ∈ c.calls, x.id = y.id ∧ Moved c (.withdraw id) x y := by
  have hidle : ∀ x : Call, Moved c (.withdraw id) x x := fun x => .idle nofun nofun
  unfold withdraw at hy
  split at hy
  · next z hz =>
    obtain ⟨hmem, rfl⟩ := call?_eq_some hz
    split at hy
    · next o hp => exact h.moved_setProgress hmem (.withdrawn rfl hp) (fun x _ => hidle x) hy
    · exact ⟨y, hy, rfl, hidle y⟩
  · exact ⟨y, hy, rfl, hidle y⟩

theorem Sound.moved_call {method : String} {params : Option Json}
    (hlen : (c.step (.call method params)).calls.length < 2 ^ 64)
    (hy : y ∈ (c.step (.call method params)).calls) :
    (y.id = c.calls.length + 1 ∧ y.progress = .numbered ∧ y.slot = .empty) ∨
      ∃ x ∈ c.calls, x.id = y.id ∧ Moved c (.call method params) x y := by
  have hidle : Moved c (.call method params) y y := .idle nofun nofun
  simp only [Client.step, Client.call, List.mem_append, List.mem_singleton] at hy
  rcases hy with hy | rfl
  · exact .inr ⟨y, hy, rfl, hidle⟩
  · exact .inl ⟨h.nextId_eq (by simpa [Client.step, Client.call] using hlen), rfl, rfl⟩

theorem Sound.moved_arrive {f : Json} (hy : y ∈ (c.step (.arrive f)).calls) :
    ∃ x ∈ c.calls, x.id = y.id ∧ Moved c (.arrive f) x y := by
  have hidle : ∀ x : Call, Moved c (.arrive f) x x := fun x => .idle nofun nofun
  have ht := turn_arrive c f
  generalize c.step (.arrive f) = c' at ht hy
  cases ht with
  | still hs _ =>
    rw [hs.calls] at hy
    exact ⟨y, hy, rfl, hidle y⟩
  | advance hm => cases hm
  | @deliver _ id hr hf hid =>
    rw [Client.deliver, if_pos (by simpa using hid), mem_updateCall] at hy
    obtain ⟨x, hx, rfl⟩ := hy
    refine ⟨x, hx, ((Call.same_ite (Call.leave_same _ x)).id).symm, ?_⟩
    by_cases hxid : x.id = id
    · subst hxid
      rw [if_pos rfl, Call.leave]
      split
      · next ho => exact .filled rfl hr ho (((h.calls x hx).of_open ho).1 hid)
      · exact hidle x
    · rw [if_neg hxid]
      exact hidle x

/-- When reading ends, exactly the open calls without a response are let go. -/
theorem Sound.moved_endReading {reason : ChannelEnd}
    (hy : y ∈ (c.step (.endReading reason)).calls) :
    ∃ x ∈ c.calls, x.id = y.id ∧ Moved c (.endReading reason) x y := by
  have hsame : ∀ x ∈ c.calls, (c.reading = true → x.isOpen = true → x.slot ≠ .empty) →
      Moved c (.endReading reason) x x := by
    intro x hx hne
    refine .same ?_ (not_refuses nofun)
    rintro ⟨-, hr, z, hz, hid, ho, hs⟩
    obtain rfl := h.eq_of_id_eq hz hx hid
    exact hne hr ho hs
  rw [Client.step] at hy
  split at hy
  · next hr =>
    rw [endReading_calls, Client.release, List.mem_map] at hy
    obtain ⟨x, hx, rfl⟩ := hy
    refine ⟨x, hx, ((Call.same_ite (Call.leave_same _ x)).id).symm, ?_⟩
    have hcall := (h.calls x hx).of_open
    by_cases hk : x.id ∈ c.pending
    · rw [if_pos (by simpa using hk), Call.leave]
      split
      · next ho =>
        have hs := (hcall ho).1 hk
        exact .letGo ⟨⟨reason, rfl⟩, hr, x, hx, rfl, ho, hs⟩ ho hs
      · next ho => exact hsame x hx fun _ ho' => absurd ho' ho
    · rw [if_neg (by simpa using hk)]
      refine hsame x hx fun _ ho => ?_
      obtain ⟨f, hf⟩ := ((hcall ho).2 hr).resolve_left hk
      simp [hf]
  · next hr => exact ⟨y, hy, rfl, hsame y hy fun hr' => absurd hr' hr⟩

end Steps

/-- **Whatever move comes, a call is new or was there before and has moved as it can.** -/
theorem Sound.moved_step (h : Sound c) (hm : ∀ id, m ≠ .abandon id)
    (hlen : (c.step m).calls.length < 2 ^ 64) (hy : y ∈ (c.step m).calls) :
    (y.id = c.calls.length + 1 ∧ y.progress = .numbered ∧ y.slot = .empty) ∨
      ∃ x ∈ c.calls, x.id = y.id ∧ Moved c m x y := by
  -- most moves do not touch the calls
  have hstill : Still c (c.step m) → (∀ reason, m ≠ .endReading reason) → (∀ id, m ≠ .submit id) →
      ∃ x ∈ c.calls, x.id = y.id ∧ Moved c m x y := by
    intro hs hend hsubmit
    rw [hs.calls] at hy
    exact ⟨y, hy, rfl, .idle hend (hsubmit _)⟩
  cases m with
  | call method params => exact h.moved_call hlen hy
  | register id => exact .inr (h.moved_register id hy)
  | submit id => exact .inr (h.moved_submit id hy)
  | collect id => exact .inr (h.moved_collect id hy)
  | expire id => exact .inr (h.moved_expire id hy)
  | withdraw id => exact .inr (h.moved_withdraw id hy)
  | abandon id => exact absurd rfl (hm id)
  | notify method params => exact .inr (hstill (still_notify c method params) nofun nofun)
  | «open» uri text => exact .inr (hstill (still_didOpen c uri text) nofun nofun)
  | change uri text => exact .inr (hstill (still_didChange c uri text) nofun nofun)
  | save uri => exact .inr (hstill (still_notify c _ _) nofun nofun)
  | close uri => exact .inr (hstill (still_didClose c uri) nofun nofun)
  | configure settings => exact .inr (hstill (still_notify c _ _) nofun nofun)
  | arrive f => exact .inr (h.moved_arrive hy)
  | endReading reason => exact .inr (h.moved_endReading hy)
  | write => exact .inr (hstill (still_write c) nofun nofun)
  | stopWriting => exact .inr (hstill ⟨rfl, rfl, rfl, fun hr => hr⟩ nofun nofun)
  | shut => exact .inr (hstill (still_shut c) nofun nofun)
  | takeEvent => exact .inr (hstill ⟨rfl, rfl, rfl, fun hr => hr⟩ nofun nofun)

/-- The call has not come to an end. -/
def Call.goesOn (x : Call) : Bool :=
  match x.progress with
  | .numbered | .registered | .waiting => true
  | .leaving _ | .done _ => false

/-- How a call ends, given whether it was let go or refused and what the reader has left for it. -/
inductive Ends (doomed : Prop) (method : String) (slot : Slot) :
    Except ClientError Json → Prop where
  | closed (h : doomed) : Ends doomed method slot (.error .closed)
  | timeout (h : ¬ doomed) (after : Duration) :
      Ends doomed method slot (.error (.timeout method after))
  | response (h : ¬ doomed) {f : Json} (hs : slot = .filled f) :
      Ends doomed method slot (outcomeOf method f)

/-- What the state of a call tells of the past. -/
structure Call.Traced (letGo refused : Prop) (x : Call) : Prop where
  dropped : x.slot = .dropped ↔ letGo
  taken : x.goesOn = true → ¬ refused
  ended : ∀ o, x.progress = .leaving o ∨ x.progress = .done o →
    Ends (letGo ∨ refused) x.method x.slot o

theorem Call.goesOn_of_isOpen (h : x.isOpen = true) : x.goesOn = true := by
  unfold Call.isOpen at h
  unfold Call.goesOn
  cases hp : x.progress <;> simp_all

theorem Call.not_ended (h : x.goesOn = true) {o : Except ClientError Json} :
    ¬ (x.progress = .leaving o ∨ x.progress = .done o) := by
  unfold Call.goesOn at h
  rintro (hp | hp) <;> simp [hp] at h

section Traced

variable {letGo refused : Prop}

/-- A call that goes on. -/
theorem Call.Traced.goOn (h : x.Traced letGo refused) (hx : x.goesOn = true) (hy : y.goesOn = true)
    (hslot : y.slot = .dropped ↔ x.slot = .dropped) : y.Traced letGo refused :=
  ⟨hslot.trans h.dropped, fun _ => h.taken hx, fun _ ho => absurd ho (Call.not_ended hy)⟩

/-- A call that comes to an end. -/
theorem Call.Traced.over (h : x.Traced letGo refused) {o : Except ClientError Json} {p : Progress}
    (hp : p = .leaving o ∨ p = .done o) (ho : Ends (letGo ∨ refused) x.method x.slot o) :
    ({ x with progress := p } : Call).Traced letGo refused := by
  rcases hp with rfl | rfl
  all_goals
    refine ⟨h.dropped, nofun, ?_⟩
    rintro o' (ho' | ho') <;> cases ho'
    exact ho

/-- A call that waits and was not let go is not lost yet. -/
theorem Call.Traced.not_doomed (h : x.Traced letGo refused) (hp : x.progress = .waiting)
    (hs : x.slot ≠ .dropped) : ¬ (letGo ∨ refused) := by
  rintro (hgo | href)
  · exact hs (h.dropped.2 hgo)
  · exact h.taken (by simp [Call.goesOn, hp]) href

/-- A move that neither lets the call go nor refuses it leaves the past as it was. -/
theorem Call.Traced.quiet (h : x.Traced letGo refused) (hgo : ¬ LetsGo id c m)
    (href : ¬ Refuses id c m) :
    x.Traced (letGo ∨ LetsGo id c m) (refused ∨ Refuses id c m) := by
  rwa [or_iff_left hgo, or_iff_left href]

/-- **What is remembered of a call stays true** in every move, with what the move adds. -/
theorem Call.Traced.moved (h : x.Traced letGo refused) (hx : x ∈ c.calls)
    (hmoved : Moved c m x y)
    (htimely : m = .expire x.id → x.progress = .waiting → x.slot = .empty) :
    y.Traced (letGo ∨ LetsGo x.id c m) (refused ∨ Refuses x.id c m) := by
  cases hmoved with
  | same hgo href => exact h.quiet hgo href
  | registered hm hp =>
    subst hm
    have hy := h.goOn (y := { x with progress := .registered }) (by simp [Call.goesOn, hp]) rfl .rfl
    exact hy.quiet (not_letsGo nofun) (not_refuses nofun)
  | submitted hm hp hw =>
    subst hm
    have hy := h.goOn (y := { x with progress := .waiting }) (by simp [Call.goesOn, hp]) rfl .rfl
    refine hy.quiet (not_letsGo nofun) ?_
    rintro ⟨-, hw', -⟩
    rw [hw] at hw'
    cases hw'
  | refused hm hp hw =>
    have href : Refuses x.id c m := ⟨hm, hw, x, hx, rfl, hp⟩
    subst hm
    have hgo : ¬ LetsGo x.id c (.submit x.id) := not_letsGo nofun
    refine ⟨?_, nofun, ?_⟩
    · rw [or_iff_left hgo]
      exact h.dropped
    · rintro o (ho | ho) <;> cases ho
      exact .closed (.inr (.inr href))
  | answered hm hp hs =>
    subst hm
    have hdoomed := h.not_doomed hp (by rw [hs]; nofun)
    exact (h.over (.inr rfl) (.response hdoomed hs)).quiet (not_letsGo nofun) (not_refuses nofun)
  | missed hm hp hs =>
    subst hm
    have hdoomed := h.dropped.1 hs
    exact (h.over (.inl rfl) (.closed (.inl hdoomed))).quiet (not_letsGo nofun) (not_refuses nofun)
  | expired hm hp =>
    have hdoomed := h.not_doomed hp (by rw [htimely hm hp]; nofun)
    subst hm
    exact (h.over (.inl rfl) (.timeout hdoomed _)).quiet (not_letsGo nofun) (not_refuses nofun)
  | withdrawn hm hp =>
    subst hm
    exact (h.over (.inr rfl) (h.ended _ (.inl hp))).quiet (not_letsGo nofun) (not_refuses nofun)
  | @filled f hm hr ho hs =>
    subst hm
    have hopen := Call.goesOn_of_isOpen ho
    have hy := h.goOn (y := { x with slot := .filled f }) hopen hopen (by rw [hs]; simp)
    exact hy.quiet (not_letsGo nofun) (not_refuses nofun)
  | letGo hgo ho hs =>
    have hopen := Call.goesOn_of_isOpen ho
    have href : ¬ Refuses x.id c m := by
      obtain ⟨⟨reason, rfl⟩, -⟩ := hgo
      exact not_refuses nofun
    refine ⟨⟨fun _ => .inr hgo, fun _ => rfl⟩, fun _ => ?_, fun o ho => ?_⟩
    · rw [or_iff_left href]
      exact h.taken hopen
    · exact absurd ho (Call.not_ended hopen)

end Traced

/-- Nothing can have happened to a call whose id is not yet given out. -/
theorem Course.not_happened_new (h : Course c₀ moves) {P : Client → Move → Prop}
    (hP : ∀ c m, P c m → ∃ x ∈ c.calls, x.id = id) (hid : (c₀.run moves).calls.length < id) :
    ¬ Happened P c₀ moves := by
  rintro ⟨pre, m, post, rfl, hp⟩
  obtain ⟨x, hx, rfl⟩ := hP _ m hp
  have hlen := h.length_calls_mono
  have := h.front.sound.id_lt hx
  omega

theorem LetsGo.exists_call (h : LetsGo id c m) : ∃ x ∈ c.calls, x.id = id := by
  obtain ⟨-, -, x, hx, hid, -⟩ := h
  exact ⟨x, hx, hid⟩

theorem Refuses.exists_call (h : Refuses id c m) : ∃ x ∈ c.calls, x.id = id := by
  obtain ⟨-, -, x, hx, hid, -⟩ := h
  exact ⟨x, hx, hid⟩

/-- **The state of a call tells whether it was let go or refused.** -/
theorem Course.traced (h : Course c₀ moves) (ht : Timely c₀ moves)
    (hx : x ∈ (c₀.run moves).calls) :
    x.Traced (LetGo c₀ moves x.id) (Refused c₀ moves x.id) := by
  induction moves using List.reverseRecOn generalizing x with
  | nil => simp [run, h.fresh.calls] at hx
  | append_singleton pre m ih =>
    have hlen := Nat.lt_of_le_of_lt h.length_calls_le h.few
    rw [run_concat] at hlen hx
    rw [LetGo, Refused, happened_concat, happened_concat]
    rcases h.front.sound.moved_step h.ne_abandon hlen hx with
      ⟨hid, hp, hs⟩ | ⟨y, hy, hid, hmoved⟩
    · -- a new call, of which nothing was known before
      have hnew : ∀ y ∈ (c₀.run pre).calls, y.id ≠ x.id := by
        intro y hy
        have := h.front.sound.id_lt hy
        omega
      have hgo : ¬ (LetGo c₀ pre x.id ∨ LetsGo x.id (c₀.run pre) m) := by
        rintro (hgo | hgo)
        · exact h.front.not_happened_new (fun _ _ => LetsGo.exists_call) (by omega) hgo
        · obtain ⟨y, hy, hyid⟩ := hgo.exists_call
          exact hnew y hy hyid
      have href : ¬ (Refused c₀ pre x.id ∨ Refuses x.id (c₀.run pre) m) := by
        rintro (href | href)
        · exact h.front.not_happened_new (fun _ _ => Refuses.exists_call) (by omega) href
        · obtain ⟨y, hy, hyid⟩ := href.exists_call
          exact hnew y hy hyid
      refine ⟨iff_of_false (by simp [hs]) hgo, fun _ => href, fun o ho => ?_⟩
      simp [hp] at ho
    · rw [← hid]
      refine (ih h.front ht.front hy).moved hy hmoved fun hm hp => ?_
      refine not_not.1 fun hs => ht (happened_concat.2 (.inr ?_))
      exact ⟨y, hy, hm, hp, hs⟩

/-! ### After the end of reading -/

theorem reading_step (hm : ∀ id, m ≠ .abandon id) (hr : (c.step m).reading = true) :
    c.reading = true := by
  have ht := turn_step c hm
  generalize c.step m = c' at ht hr
  cases ht with
  | still hs _ => exact hs.reading hr
  | call => exact hr
  | advance _ _ _ _ _ hreading => rwa [hreading] at hr
  | deliver hr' => exact hr'
  | release reason =>
    rw [endReading_reading] at hr
    cases hr

theorem Course.reading_run (h : Course c₀ (pre ++ post)) (hlost : (c₀.run pre).reading = false) :
    (c₀.run (pre ++ post)).reading = false := by
  induction post using List.reverseRecOn with
  | nil => simpa using hlost
  | append_singleton post m ih =>
    rw [← List.append_assoc] at h ⊢
    rw [run_concat]
    refine Bool.eq_false_iff.2 fun hr => ?_
    rw [reading_step h.ne_abandon hr] at ih
    cases ih h.front

/-- What holds of a call at some time, or when it is new, and is kept by the moves that can come
after, holds at the end. -/
theorem Course.follows {P : Call → Prop} (h : Course c₀ (pre ++ post))
    (hx : x ∈ (c₀.run (pre ++ post)).calls)
    (hpre : ∀ y ∈ (c₀.run pre).calls, y.id = x.id → P y)
    (hnew : ∀ y : Call, (∀ z ∈ (c₀.run pre).calls, z.id ≠ y.id) → y.id = x.id →
      y.progress = .numbered → y.slot = .empty → P y)
    (hmoved : ∀ mid m y z, Course c₀ (pre ++ mid) → Moved (c₀.run (pre ++ mid)) m y z → P y → P z) :
    P x := by
  induction post using List.reverseRecOn generalizing x with
  | nil =>
    rw [List.append_nil] at hx
    exact hpre x hx rfl
  | append_singleton post m ih =>
    rw [← List.append_assoc] at h hx
    have hlen := Nat.lt_of_le_of_lt h.length_calls_le h.few
    rw [run_concat] at hlen hx
    rcases h.front.sound.moved_step h.ne_abandon hlen hx with
      ⟨hid, hp, hs⟩ | ⟨y, hy, hid, hm⟩
    · refine hnew x (fun z hz => ?_) rfl hp hs
      have := h.front.length_calls_mono
      have := h.front.front.sound.id_lt hz
      omega
    · rw [← hid] at hpre hnew
      exact hmoved post m y x h.front hm (ih h.front hy hpre hnew)

/-- A call that has no response gets none when nobody reads. -/
theorem Moved.unanswered (h : Moved c m x y) (hr : c.reading = false) (hx : ∀ f, x.slot ≠ .filled f)
    (f : Json) : y.slot ≠ .filled f := by
  cases h with
  | filled _ hr' => rw [hr] at hr'; cases hr'
  | letGo => nofun
  | _ => exact hx f

/-- A call that waits in vain: its frame is handed over, and nobody will leave anything for it. -/
structure Call.Forlorn (x : Call) : Prop where
  slot : x.slot = .empty
  progress : x.progress = .waiting ∨
    ∃ after, x.progress = .leaving (.error (.timeout x.method after)) ∨
      x.progress = .done (.error (.timeout x.method after))

theorem Moved.forlorn (h : Moved c m x y) (hr : c.reading = false) (hx : x.Forlorn) :
    y.Forlorn := by
  obtain ⟨hslot, hprogress⟩ := hx
  cases h with
  | same => exact ⟨hslot, hprogress⟩
  | registered _ hp | submitted _ hp | refused _ hp => simp [hp] at hprogress
  | answered _ _ hs | missed _ _ hs => rw [hslot] at hs; cases hs
  | expired => exact ⟨hslot, .inr ⟨_, .inl rfl⟩⟩
  | withdrawn _ hp =>
    simp only [hp, reduceCtorEq, Progress.leaving.injEq, or_false, false_or] at hprogress
    obtain ⟨after, rfl⟩ := hprogress
    exact ⟨hslot, .inr ⟨after, .inr rfl⟩⟩
  | filled _ hr' => rw [hr] at hr'; cases hr'
  | letGo hgo =>
    have hr' := hgo.2.1
    rw [hr] at hr'
    cases hr'

/-! ### Without a writer -/

theorem enqueue?_of_not_writing (hw : c.writing = false) (frame : Json) :
    c.enqueue? frame = none := by
  simp [enqueue?, hw]

theorem notify_of_not_writing (hw : c.writing = false) (method : String) (params : Option Json) :
    (c.notify method params).2 = c := by
  rw [notify, enqueue?_of_not_writing hw]

theorem writing_offer (c : Client) (e : ServerEvent) : (c.offer e).writing = c.writing := by
  unfold offer
  split <;> rfl

theorem writing_dispatch (hw : c.writing = false) (f : Json) : (c.dispatch f).writing = false := by
  unfold dispatch
  split
  · exact hw
  · unfold deliver
    split <;> exact hw
  · rw [enqueue?_of_not_writing hw]
    exact hw
  · unfold handle
    split <;> try split
    all_goals first | exact hw | exact (writing_offer c _).trans hw

/-- A writer that has ended does not begin again. -/
theorem writing_step (hw : c.writing = false) (m : Move) : (c.step m).writing = false := by
  cases m with
  | call | abandon | takeEvent => exact hw
  | stopWriting | shut => rfl
  | register id =>
    show (c.register id).writing = false
    unfold register
    repeat' split
    all_goals exact hw
  | submit id =>
    show (c.submit id).writing = false
    unfold submit
    simp only [enqueue?_of_not_writing hw]
    repeat' split
    all_goals exact hw
  | collect id =>
    show (c.collect id).writing = false
    unfold collect
    repeat' split
    all_goals exact hw
  | expire id =>
    show (c.expire id).writing = false
    unfold expire
    repeat' split
    all_goals exact hw
  | withdraw id =>
    show (c.withdraw id).writing = false
    unfold withdraw
    repeat' split
    all_goals exact hw
  | notify | save | configure =>
    rw [step]
    first | rw [notify_of_not_writing hw] | rw [didSave, notify_of_not_writing hw] |
      rw [didChangeConfiguration, notify_of_not_writing hw]
    exact hw
  | «open» uri text =>
    rw [step, didOpen, notify_of_not_writing (c := c.setVersion uri 1) hw]
    exact hw
  | change uri text =>
    rw [step, didChange]
    split
    · rw [didOpen, notify_of_not_writing (c := c.setVersion uri 1) hw]
      exact hw
    · next v _ =>
      rw [notify_of_not_writing (c := c.setVersion uri (v + 1)) hw]
      exact hw
  | close uri =>
    rw [step, didClose, notify_of_not_writing (c := c.dropVersion uri) hw]
    exact hw
  | arrive f =>
    rw [step]
    split
    · exact writing_dispatch hw f
    · exact hw
  | endReading reason =>
    rw [step]
    split
    · exact (writing_offer _ _).trans hw
    · exact hw
  | write =>
    rw [step, takeFrame?]
    split
    · rw [hw, if_neg Bool.false_ne_true]
      exact hw
    · exact hw

theorem writing_run (hw : c.writing = false) (moves : List Move) :
    (c.run moves).writing = false := by
  induction moves using List.reverseRecOn with
  | nil => exact hw
  | append_singleton moves m ih =>
    rw [run_concat]
    exact writing_step ih m

/-- A call whose frame was not handed over, and will not be. -/
def Call.Unsent (x : Call) : Prop :=
  match x.progress with
  | .numbered | .registered => True
  | .waiting => False
  | .leaving o | .done o => o = .error .closed

theorem Moved.unsent (h : Moved c m x y) (hw : c.writing = false) (hx : x.Unsent) : y.Unsent := by
  unfold Call.Unsent at hx ⊢
  cases h with
  | same | filled | letGo => exact hx
  | registered => trivial
  | submitted _ _ hw' => rw [hw] at hw'; cases hw'
  | refused => rfl
  | answered _ hp | expired _ hp => rw [hp] at hx; cases hx
  | missed => rfl
  | withdrawn _ hp =>
    rw [hp] at hx
    exact hx

/-- How far a call has come. -/
def Progress.rank : Progress → Nat
  | .numbered => 0
  | .registered => 1
  | .waiting => 2
  | .leaving _ => 3
  | .done _ => 4

/-- What a call does when it is left to itself. -/
def ending (id : Nat) : List Move :=
  [.register id, .submit id, .collect id, .expire id, .withdraw id]

theorem call?_setProgress (hx : c.call? id = some x) (p : Progress) :
    (c.setProgress id p).call? id = some { x with progress := p } := by
  have hid : ∀ x : Call, (if x.id == id then { x with progress := p } else x).id = x.id := by
    intro x
    split <;> rfl
  have hfound := (call?_eq_some hx).2
  unfold call? at hx
  unfold setProgress updateCall call?
  rw [List.find?_map]
  simp only [Function.comp_def, hid, hx, Option.map_some]
  rw [if_pos (by simpa using hfound)]

section Ending

variable (hx : c.call? id = some x)
include hx

theorem call?_register : ∃ y, (c.register id).call? id = some y ∧ 1 ≤ y.progress.rank := by
  simp only [register, hx]
  split
  · have hx' : { c with pending := id :: c.pending }.call? id = some x := hx
    exact ⟨_, call?_setProgress hx' _, Nat.le_refl 1⟩
  · next hp =>
    refine ⟨x, hx, Nat.pos_of_ne_zero fun hrank => hp ?_⟩
    cases hprogress : x.progress <;> simp_all [Progress.rank]

theorem call?_submit (hp : 1 ≤ x.progress.rank) :
    ∃ y, (c.submit id).call? id = some y ∧ 2 ≤ y.progress.rank := by
  simp only [submit, hx, enqueue?]
  split
  · cases c.writing
    · exact ⟨_, call?_setProgress hx _, by simp [Progress.rank]⟩
    · have hx' : { c with queue := c.queue ++ [x.frame] }.call? id = some x := hx
      exact ⟨_, call?_setProgress hx' _, Nat.le_refl 2⟩
  · next hne =>
    refine ⟨x, hx, ?_⟩
    cases hprogress : x.progress <;> simp_all [Progress.rank]

/-- A call that has looked for a response and still waits has found none. -/
theorem call?_collect (hp : 2 ≤ x.progress.rank) :
    ∃ y, (c.collect id).call? id = some y ∧ 2 ≤ y.progress.rank ∧
      (y.progress = .waiting → y.slot = .empty) := by
  simp only [collect, hx]
  split
  · split
    · exact ⟨_, call?_setProgress hx _, by simp [Progress.rank], by simp⟩
    · exact ⟨_, call?_setProgress hx _, by simp [Progress.rank], by simp⟩
    · next hs => exact ⟨x, hx, hp, fun _ => hs⟩
  · next hne => exact ⟨x, hx, hp, fun hw => absurd hw hne⟩

theorem call?_expire (hp : 2 ≤ x.progress.rank) :
    ∃ y, (c.expire id).call? id = some y ∧ 3 ≤ y.progress.rank := by
  simp only [expire, hx]
  split
  · exact ⟨_, call?_setProgress hx _, by simp [Progress.rank]⟩
  · next hne =>
    refine ⟨x, hx, ?_⟩
    cases hprogress : x.progress <;> simp_all [Progress.rank]

theorem call?_withdraw (hp : 3 ≤ x.progress.rank) :
    ∃ y o, (c.withdraw id).call? id = some y ∧ y.progress = .done o := by
  simp only [withdraw, hx]
  split
  · next o _ => exact ⟨_, o, call?_setProgress (c := c.forget id) hx _, rfl⟩
  · next hne =>
    cases hprogress : x.progress with
    | done o => exact ⟨x, o, hx, hprogress⟩
    | leaving o => exact absurd hprogress (hne o)
    | numbered | registered | waiting => simp [hprogress, Progress.rank] at hp

end Ending

theorem Course.append (h : Course c₀ moves) (hcall : ∀ m ∈ post, m.isCall = false)
    (hdriven : ∀ id, Move.abandon id ∉ post) : Course c₀ (moves ++ post) := by
  refine ⟨h.fresh, fun id hid => ?_, ?_⟩
  · exact (List.mem_append.1 hid).elim (h.driven id) (hdriven id)
  · have hzero : post.countP Move.isCall = 0 := by simpa [List.countP_eq_zero] using hcall
    rw [List.countP_append, hzero]
    exact h.few

theorem Course.left_alone (h : Course c₀ moves) (id : Nat) : Course c₀ (moves ++ ending id) :=
  h.append (by simp [ending, Move.isCall]) (by simp [ending])

theorem ending_eq (moves : List Move) (id : Nat) : moves ++ ending id =
    moves ++ [.register id] ++ [.submit id] ++ [.collect id] ++ [.expire id] ++ [.withdraw id] := by
  simp [ending]

/-- **A call that is left to itself ends**, and does not look at the clock too early. -/
theorem Course.ends (h : Course c₀ moves) (ht : Timely c₀ moves) (hx : x ∈ (c₀.run moves).calls) :
    Course c₀ (moves ++ ending x.id) ∧ Timely c₀ (moves ++ ending x.id) ∧
      ∃ y ∈ (c₀.run (moves ++ ending x.id)).calls, y.id = x.id ∧ ∃ o, y.progress = .done o := by
  have hcourse := h.left_alone x.id
  refine ⟨hcourse, ?_⟩
  obtain ⟨x₁, h₁, hp₁⟩ := call?_register (h.sound.call?_eq hx)
  obtain ⟨x₂, h₂, hp₂⟩ := call?_submit h₁ hp₁
  obtain ⟨x₃, h₃, hp₃, hs₃⟩ := call?_collect h₂ hp₂
  obtain ⟨x₄, h₄, hp₄⟩ := call?_expire h₃ hp₃
  obtain ⟨y, o, h₅, hp₅⟩ := call?_withdraw h₄ hp₄
  rw [ending_eq] at hcourse ⊢
  have hsound := hcourse.front.front.sound
  simp only [run_concat] at hsound ⊢
  refine ⟨?_, y, (call?_eq_some h₅).1, (call?_eq_some h₅).2, o, hp₅⟩
  have hregister := ht.concat (m := .register x.id) nofun
  have hsubmit := hregister.concat (m := .submit x.id) nofun
  have hcollect := hsubmit.concat (m := .collect x.id) nofun
  have hexpire := hcollect.concat (m := .expire x.id) fun z hz hm hp => ?_
  · exact hexpire.concat (m := .withdraw x.id) nofun
  · -- what waits after it has looked has found nothing
    simp only [run_concat] at hz
    have hz₃ := hsound.call?_eq hz
    rw [← Move.expire.inj hm] at hz₃
    cases h₃.symm.trans hz₃
    exact hs₃ hp

/-! ### Calls after the loss of the channel -/

/-- What becomes of a call when reading has ended after `pre`. -/
structure AfterLoss (c₀ : Client) (pre post : List Move) (x : Call) : Prop where
  /-- It is told that the channel is closed, or it waits to the end of its time. -/
  fails : ∀ o, x.progress = .done o →
    o = .error .closed ∨ ∃ after, o = .error (.timeout x.method after)
  /-- It is told so exactly if the reader let it go or the writer refused its frame. -/
  closed_iff : ∀ o, x.progress = .done o →
    (o = .error .closed ↔ LetGo c₀ (pre ++ post) x.id ∨ Refused c₀ (pre ++ post) x.id)
  /-- If the writer has ended too, then it is told so unless its frame was handed over before. -/
  unsent : (c₀.run pre).writing = false → (∀ y ∈ (c₀.run pre).calls, y.id = x.id → y.Unsent) →
    ∀ o, x.progress = .done o → o = .error .closed
  /-- If it was waiting and the reader has left nothing for it, then it waits to the end. -/
  forlorn : (∃ y ∈ (c₀.run pre).calls, y.id = x.id ∧ y.progress = .waiting ∧ y.slot = .empty) →
    ∀ o, x.progress = .done o → ∃ after, o = .error (.timeout x.method after)
  /-- It does end when it is left to itself. -/
  ends : Course c₀ (pre ++ post ++ ending x.id) ∧ Timely c₀ (pre ++ post ++ ending x.id) ∧
    ∃ y ∈ (c₀.run (pre ++ post ++ ending x.id)).calls, y.id = x.id ∧ ∃ o, y.progress = .done o

theorem Course.unanswered (h : Course c₀ (pre ++ post)) (hlost : (c₀.run pre).reading = false)
    (hx : x ∈ (c₀.run (pre ++ post)).calls)
    (hopen : ∀ y ∈ (c₀.run pre).calls, y.id = x.id → ∀ f, y.slot ≠ .filled f) (f : Json) :
    x.slot ≠ .filled f := by
  refine h.follows (P := fun y => ∀ f, y.slot ≠ .filled f) hx hopen ?_ ?_ f
  · intro y _ _ _ hs f
    rw [hs]
    nofun
  · exact fun mid m y z hmid hm hy => hm.unanswered (hmid.reading_run hlost) hy

theorem Course.unsent (h : Course c₀ (pre ++ post)) (hw : (c₀.run pre).writing = false)
    (hx : x ∈ (c₀.run (pre ++ post)).calls)
    (hpre : ∀ y ∈ (c₀.run pre).calls, y.id = x.id → y.Unsent) : x.Unsent := by
  refine h.follows hx hpre ?_ ?_
  · intro y _ _ hp _
    rw [Call.Unsent, hp]
    trivial
  · intro mid m y z _ hm hy
    refine hm.unsent ?_ hy
    rw [run, List.foldl_append]
    exact writing_run hw mid

theorem Course.forlorn (h : Course c₀ (pre ++ post)) (hlost : (c₀.run pre).reading = false)
    (hx : x ∈ (c₀.run (pre ++ post)).calls) (hy : y ∈ (c₀.run pre).calls) (hid : y.id = x.id)
    (hwait : y.Forlorn) : x.Forlorn := by
  refine h.follows hx ?_ ?_ ?_
  · intro z hz hzid
    rwa [h.front.sound.eq_of_id_eq hz hy (hzid.trans hid.symm)]
  · exact fun z hnew hzid => absurd (hid.trans hzid.symm) (hnew y hy)
  · exact fun mid m z w hmid hm hz => hm.forlorn (hmid.reading_run hlost) hz

/-- **A call without a response outlives its channel unless it was let go or refused.** When
reading has ended, in whatever way, it is told that the channel is closed in these two cases, and
waits to the end of its time in all others. -/
theorem calls_after_loss (h : Course c₀ (pre ++ post)) (ht : Timely c₀ (pre ++ post))
    (hlost : (c₀.run pre).reading = false) (hx : x ∈ (c₀.run (pre ++ post)).calls)
    (hopen : ∀ y ∈ (c₀.run pre).calls, y.id = x.id → ∀ f, y.slot ≠ .filled f) :
    AfterLoss c₀ pre post x := by
  have hends : ∀ o, x.progress = .done o →
      Ends (LetGo c₀ (pre ++ post) x.id ∨ Refused c₀ (pre ++ post) x.id) x.method x.slot o :=
    fun o ho => (h.traced ht hx).ended o (.inr ho)
  have hslot := h.unanswered hlost hx hopen
  constructor
  case fails =>
    intro o ho
    cases hends o ho with
    | closed => exact .inl rfl
    | timeout _ after => exact .inr ⟨after, rfl⟩
    | response _ hs => exact absurd hs (hslot _)
  case closed_iff =>
    intro o ho
    cases hends o ho with
    | closed hdoomed => exact iff_of_true rfl hdoomed
    | timeout hdoomed after => exact iff_of_false nofun hdoomed
    | response _ hs => exact absurd hs (hslot _)
  case unsent =>
    intro hw hpre o ho
    have hunsent := h.unsent hw hx hpre
    rwa [Call.Unsent, ho] at hunsent
  case forlorn =>
    rintro ⟨y, hy, hid, hwait, hempty⟩ o ho
    obtain ⟨-, hp⟩ := h.forlorn hlost hx hy hid ⟨hempty, .inl hwait⟩
    rw [ho] at hp
    obtain ⟨after, hp⟩ := hp.resolve_left nofun
    exact ⟨after, Progress.done.inj (hp.resolve_left nofun)⟩
  case ends => exact h.ends ht hx

/-- One call waits, one is known to the reader and one is not when the server closes the channel. -/
def bereft : List Move :=
  [.call "a" none, .register 1, .submit 1, .call "b" none, .register 2, .call "c" none,
    .endReading .closed]

/-- The writer takes the frame of the third call before it ends, and refuses that of a fourth. -/
def aftermath : List Move :=
  [.collect 1, .withdraw 1, .register 3, .submit 3, .submit 2, .collect 2, .withdraw 2,
    .stopWriting, .call "d" none, .register 4, .submit 4, .withdraw 4]

theorem calls_after_loss_bereft :
    (run {} (bereft ++ (aftermath ++ [.expire 3] ++ [.withdraw 3]))).calls.map (·.progress) =
      [.done (.error .closed), .done (.error .closed),
        .done (.error (.timeout "c" (Duration.ofSeconds 30))), .done (.error .closed)] ∧
    ∀ x ∈ (run {} (bereft ++ (aftermath ++ [.expire 3] ++ [.withdraw 3]))).calls,
      AfterLoss {} bereft (aftermath ++ [.expire 3] ++ [.withdraw 3]) x := by
  have hcourse : Course {} (bereft ++ (aftermath ++ [.expire 3] ++ [.withdraw 3])) :=
    ⟨⟨rfl, rfl, rfl⟩, by simp [bereft, aftermath], by decide⟩
  have hquiet : Timely {} (bereft ++ aftermath) := timely_of_not_mem (by simp [bereft, aftermath])
  have htimely : Timely {} (bereft ++ (aftermath ++ [.expire 3] ++ [.withdraw 3])) := by
    rw [← List.append_assoc, ← List.append_assoc]
    refine (hquiet.concat fun x hx hm _ => ?_).concat nofun
    have hcalls : (run {} (bereft ++ aftermath)).calls.map (fun x => (x.id, x.slot)) =
      [(1, .dropped), (2, .dropped), (3, .empty), (4, .empty)] := rfl
    have hcall := List.mem_map_of_mem (f := fun x => (x.id, x.slot)) hx
    rw [hcalls, ← Move.expire.inj hm] at hcall
    simpa using hcall
  have hslots : (run {} bereft).calls.map (·.slot) = [.dropped, .dropped, .empty] := rfl
  refine ⟨rfl, fun x hx => calls_after_loss hcourse htimely rfl hx fun y hy _ f hf => ?_⟩
  have hslot : y.slot ∈ (run {} bereft).calls.map (·.slot) := List.mem_map_of_mem hy
  rw [hslots, hf] at hslot
  simp at hslot

/-- A call waits when its client is given up. -/
def givenUp : List Move := [.call "m" none, .register 1, .submit 1, .write, .shut]

/-- A call begins when the server has closed the channel. -/
def tooLate : List Move := [.endReading .closed, .call "m" none, .register 1, .submit 1, .write]

/-- Nobody reads any longer, and the first call goes on to the end of its time. -/
structure Outlives (moves : List Move) : Prop where
  course : Course {} (moves ++ ending 1)
  timely : Timely {} (moves ++ ending 1)
  lost : (run {} moves).reading = false
  expired : (run {} (moves ++ ending 1)).calls.map (·.progress) =
    [.done (.error (.timeout "m" (Duration.ofSeconds 30)))]

theorem Outlives.of_course (h : Course {} moves) (ht : Timely {} moves)
    (hx : x ∈ (run {} moves).calls) (hid : x.id = 1) (lost : (run {} moves).reading = false)
    (expired : (run {} (moves ++ ending 1)).calls.map (·.progress) =
      [.done (.error (.timeout "m" (Duration.ofSeconds 30)))]) : Outlives moves := by
  obtain ⟨hcourse, htimely, -⟩ := h.ends ht hx
  rw [hid] at hcourse htimely
  exact ⟨hcourse, htimely, lost, expired⟩

theorem calls_outlive_channel : Outlives givenUp ∧ Outlives tooLate := by
  constructor
  · exact .of_course ⟨⟨rfl, rfl, rfl⟩, by simp [givenUp], by decide⟩
      (timely_of_not_mem (by simp [givenUp])) List.mem_cons_self rfl rfl rfl
  · exact .of_course ⟨⟨rfl, rfl, rfl⟩, by simp [tooLate], by decide⟩
      (timely_of_not_mem (by simp [tooLate])) List.mem_cons_self rfl rfl rfl

end Sidecar.Client
