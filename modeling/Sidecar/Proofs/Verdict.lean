/-
# What the end of a run says

A run that stops as soon as every file has got its diagnostics should succeed
only if every file has got them and none of them is an error. It does so,
except in one case, which this module singles out: the events run dry, that
is, their stream ends before all files have got their diagnostics and without
the event that tells of the end of the channel. A run takes this for a good
end. It can come to it, since that event is dropped when too many others wait
(`flood`).

What a run makes of the events is the tally of those it has received
(`Account`), and the tally tells what they were.

Key definitions: `RunWorld.Hands`, `RunWorld.Account`, `RunWorld.Honest`,
`RunWorld.RunsDry`.
Key theorems: `RunWorld.run_account`, `RunWorld.honest_unless_dry`,
`RunWorld.flooded_run_succeeds`.
-/
import Mathlib.Tactic.Common
import Sidecar.Cli.Run

namespace Sidecar

/-- Some event brings diagnostics for the document. -/
def Answered (es : List ServerEvent) (uri : String) : Prop :=
  ∃ items, .diagnostics uri items ∈ es

/-- No event brings an error. -/
def Clean (es : List ServerEvent) : Prop :=
  ∀ uri items, .diagnostics uri items ∈ es → ∀ d ∈ items, d.severity ≠ .error

/-- Some event tells of the end of the channel. -/
def TellsEnd (es : List ServerEvent) : Prop := ∃ reason, .closed reason ∈ es

theorem answered_cons {e : ServerEvent} {es : List ServerEvent} {uri : String} :
    Answered (e :: es) uri ↔ (∃ items, e = .diagnostics uri items) ∨ Answered es uri := by
  simp only [Answered, List.mem_cons, exists_or, eq_comm]

theorem clean_cons {e : ServerEvent} {es : List ServerEvent} :
    Clean (e :: es) ↔
      (∀ uri items, e = .diagnostics uri items → ∀ d ∈ items, d.severity ≠ .error) ∧ Clean es := by
  simp only [Clean, List.mem_cons, or_imp, forall_and, eq_comm]

theorem tellsEnd_cons {e : ServerEvent} {es : List ServerEvent} :
    TellsEnd (e :: es) ↔ (∃ reason, e = .closed reason) ∨ TellsEnd es := by
  simp only [TellsEnd, List.mem_cons, exists_or, eq_comm]

namespace Tally

/-- The tally after some more events. -/
def takeAll (t : Tally) (es : List ServerEvent) : Tally := es.foldl (fun t e => (t.take e).1) t

variable {t : Tally} {e : ServerEvent} {es : List ServerEvent} {uri : String}

/-- An event stops a run only if it tells of the end of the channel or cannot be shown. -/
theorem stops_take (h : (t.take e).2 = true) :
    (t.take e).1.lost = true ∨ (t.take e).1.broken = true := by
  cases e with
  | diagnostics uri items => exact .inr h
  | closed reason => exact .inl rfl

theorem mem_pending_takeAll :
    uri ∈ (t.takeAll es).pending ↔ uri ∈ t.pending ∧ ¬ Answered es uri := by
  induction es generalizing t with
  | nil => simp [takeAll, Answered]
  | cons e es ih =>
    show uri ∈ (((t.take e).1).takeAll es).pending ↔ _
    rw [ih, answered_cons]
    cases e with
    | diagnostics uri' items => simp [take, and_assoc, eq_comm (a := uri)]
    | closed reason => simp [take]

theorem errors_takeAll : (t.takeAll es).errors = 0 ↔ t.errors = 0 ∧ Clean es := by
  induction es generalizing t with
  | nil => simp [takeAll, Clean]
  | cons e es ih =>
    show (((t.take e).1).takeAll es).errors = 0 ↔ _
    rw [ih, clean_cons]
    cases e with
    | diagnostics uri items => simp [take, and_assoc]
    | closed reason => simp [take]

theorem lost_takeAll : (t.takeAll es).lost = true ↔ t.lost = true ∨ TellsEnd es := by
  induction es generalizing t with
  | nil => simp [takeAll, TellsEnd]
  | cons e es ih =>
    show (((t.take e).1).takeAll es).lost = true ↔ _
    rw [ih, tellsEnd_cons]
    cases e with
    | diagnostics uri items => simp [take]
    | closed reason => simp [take]

/-- A run succeeds if no error and no end of the channel was among its events, and only then. -/
theorem success_takeAll (pending : List String) :
    (takeAll { pending } es).success = true ↔ Clean es ∧ ¬ TellsEnd es := by
  unfold success
  rw [Bool.and_eq_true, beq_iff_eq, errors_takeAll, Bool.not_eq_true', ← Bool.not_eq_true,
    lost_takeAll]
  simp

end Tally

/-! ### Runs -/

namespace RunWorld

variable {σ : Type} {w : RunWorld σ} {selector : Selector} {files opened : List String}
  {once : Bool} {fuel : Nat} {s s' : σ} {t t' : Tally} {es : List ServerEvent}

/-- The world hands out these events, one after the other. -/
inductive Hands (w : RunWorld σ) : σ → List ServerEvent → σ → Prop where
  | nil (s : σ) : Hands w s [] s
  | cons {e : ServerEvent} {es : List ServerEvent} {s s₁ s₂ : σ} (first : w.next s = (.event e, s₁))
      (rest : Hands w s₁ es s₂) : Hands w s (e :: es) s₂

/-- There is a server that takes files. -/
def Begins (w : RunWorld σ) (s s' : σ) : Prop :=
  ∃ s₁ s₂, w.start s = (none, s₁) ∧ w.introduce s₁ = (.ok (), s₂) ∧ w.configure s₂ = (.ok (), s')

/-- Why a run stops: it is done, it was told of the end of the channel, or nothing more comes. -/
def Stops (w : RunWorld σ) (once : Bool) (t : Tally) (s : σ) : Prop :=
  t.isDone once = true ∨ t.lost = true ∨ (w.next s).1 = .ended

/-- What a run has done that has ended with a tally: which files it has opened, and which events it
has received after that. -/
structure Account (w : RunWorld σ) (selector : Selector) (files : List String) (once : Bool) (s : σ)
    (t : Tally) (opened : List String) (es : List ServerEvent) (s' : σ) : Prop where
  received : ∃ s₀ s₁, Begins w s s₀ ∧ w.handInAll selector s₀ [] files = (.ok opened, s₁) ∧
    Hands w s₁ es s'
  tally : t = Tally.takeAll { pending := opened } es
  stops : Stops w once t s'

theorem follow_account (h : (w.follow once t fuel s).1 = .finished t') :
    ∃ es s₁, Hands w s es s₁ ∧ t' = t.takeAll es ∧ Stops w once t' s₁ := by
  induction fuel generalizing t s with
  | zero => cases h
  | succ fuel ih =>
    rw [follow] at h
    by_cases hdone : t.isDone once = true
    · rw [if_pos hdone] at h
      cases h
      exact ⟨[], _, .nil _, rfl, .inl hdone⟩
    · rw [if_neg hdone] at h
      cases hnext : w.next s with
      | mk o s₁ =>
        rw [hnext] at h
        cases o with
        | never | interrupted => cases h
        | ended =>
          cases h
          exact ⟨[], s, .nil s, rfl, .inr (.inr (by rw [hnext]))⟩
        | event e =>
          dsimp only at h
          have hfirst : t.take e = ((t.take e).1, (t.take e).2) := rfl
          cases hstops : (t.take e).2 with
          | false =>
            rw [hfirst, hstops] at h
            obtain ⟨es, s₂, hands, ht, hstop⟩ := ih h
            exact ⟨e :: es, s₂, .cons hnext hands, ht, hstop⟩
          | true =>
            rw [hfirst, hstops] at h
            dsimp only at h
            split at h
            · cases h
            · next hwhole =>
              cases h
              rcases Tally.stops_take hstops with hlost | hbroken
              · exact ⟨[e], _, .cons hnext (.nil _), rfl, .inr (.inl hlost)⟩
              · exact absurd hbroken hwhole

/-- **A run that has finished can be accounted for.** -/
theorem run_account (h : w.run selector files once fuel s = (.finished t, s')) :
    ∃ opened es s₂, Account w selector files once s t opened es s₂ := by
  unfold run at h
  split at h
  · cases h
  · next s₁ hstart =>
    split at h
    · cases h
    · next s₂ hintroduce =>
      split at h
      · cases h
      · next s₃ hconfigure =>
        split at h
        · cases h
        · next opened s₄ hopened =>
          have hfollow : (w.follow once { pending := opened } fuel s₄).1 = .finished t := by
            rw [← fst_leave, h]
          obtain ⟨es, s₅, hands, ht, hstop⟩ := follow_account hfollow
          have hbegins : Begins w s s₃ := ⟨s₁, s₂, hstart, hintroduce, hconfigure⟩
          exact ⟨opened, es, s₅, ⟨s₃, s₄, hbegins, hopened, hands⟩, ht, hstop⟩

/-! ### Success -/

/-- Success means that every file that was opened has got its diagnostics, and that none of them is
an error. -/
def Honest (t : Tally) (opened : List String) (es : List ServerEvent) : Prop :=
  t.success = true → (∀ uri ∈ opened, Answered es uri) ∧ Clean es

/-- The events end too early, and nothing tells of the end of the channel. -/
structure RunsDry (w : RunWorld σ) (opened : List String) (es : List ServerEvent) (s : σ) :
    Prop where
  ended : (w.next s).1 = .ended
  untold : ¬ TellsEnd es
  clean : Clean es
  unanswered : ∃ uri ∈ opened, ¬ Answered es uri

/-- **A run succeeds exactly if it has received no error and was not told of the end of the channel;
and its success means that every file is clean, unless the events have run dry, and only then.** -/
theorem honest_unless_dry (h : w.run selector files true fuel s = (.finished t, s')) :
    ∃ opened es s₂, Account w selector files true s t opened es s₂ ∧
      (t.success = true ↔ Clean es ∧ ¬ TellsEnd es) ∧
      (Honest t opened es ↔ ¬ RunsDry w opened es s₂) := by
  obtain ⟨opened, es, s₂, hacc⟩ := run_account h
  have hsuccess : t.success = true ↔ Clean es ∧ ¬ TellsEnd es := by
    rw [hacc.tally]
    exact Tally.success_takeAll opened
  refine ⟨opened, es, s₂, hacc, hsuccess, ?_, ?_⟩
  · rintro hhonest ⟨-, huntold, hclean, uri, huri, hun⟩
    exact hun ((hhonest (hsuccess.2 ⟨hclean, huntold⟩)).1 uri huri)
  · intro hdry ht
    obtain ⟨hclean, huntold⟩ := hsuccess.1 ht
    refine ⟨fun uri huri => ?_, hclean⟩
    by_contra hun
    rcases hacc.stops with hdone | hlost | hended
    · -- nothing is left to wait for, this file neither
      have hpending : uri ∈ t.pending := by
        rw [hacc.tally]
        exact Tally.mem_pending_takeAll.2 ⟨huri, hun⟩
      simp only [Tally.isDone, Bool.true_and, List.isEmpty_iff] at hdone
      rw [hdone] at hpending
      cases hpending
    · rw [hacc.tally, Tally.lost_takeAll] at hlost
      rcases hlost with hlost | hlost
      · cases hlost
      · exact huntold hlost
    · exact hdry ⟨hended, huntold, hclean, uri, huri, hun⟩

/-- A run with a client; `arrivals` is what the client gets from the server before any file is
opened. -/
def ofClient (arrivals : List Client.Move) : RunWorld Client where
  start c := (none, c)
  shutdown c := c.shut
  discard c := c
  introduce c := (.ok (), c.run arrivals)
  configure c := c.didChangeConfiguration (Json.object [("compile_on_save", .bool true)])
  canonical _ path := .ok path
  read _ _ := .ok "rule a \x7b condition: true \x7d"
  opens c uri text := c.didOpen uri text
  save c uri := c.didSave uri
  next c :=
    match c.events with
    | e :: _ => (.event e, c.step .takeEvent)
    | [] => (if c.reading then .never else .ended, c)

/-- The server has no complaints about a document. -/
def approval (uri : String) : Client.Move :=
  .arrive (.obj [("method", .str "textDocument/publishDiagnostics"),
    ("params", .obj [("diagnostics", .arr []), ("uri", .str uri)])])

theorem honest_unless_dry_prompt :
    ∃ t c, (ofClient [approval "file:///a.yara"]).run {} ["/a.yara"] true 2 {} = (.finished t, c) ∧
      t.success = true ∧ ∃ opened es c',
        Account (ofClient [approval "file:///a.yara"]) {} ["/a.yara"] true {} t opened es c' ∧
          Honest t opened es := by
  have h : (ofClient [approval "file:///a.yara"]).run {} ["/a.yara"] true 2 {} =
      (.finished {}, _) := rfl
  obtain ⟨opened, es, c', hacc, -, hhonest⟩ := honest_unless_dry h
  refine ⟨{}, _, h, rfl, opened, es, c', hacc, hhonest.2 ?_⟩
  rintro ⟨-, -, -, uri, huri, hun⟩
  have hpending : uri ∈ (Tally.takeAll { pending := opened } es).pending :=
    Tally.mem_pending_takeAll.2 ⟨huri, hun⟩
  rw [← hacc.tally] at hpending
  cases hpending

/-- The server approves of another document until the queue is full, and its channel ends. There is
no room for the event that would tell of it. -/
def flood : List Client.Move :=
  List.replicate Client.eventCapacity (approval "file:///b.yara") ++ [.endReading .closed]

set_option maxRecDepth 10000 in
/-- **A lost channel can look like success**: nothing was ever said about the one file. -/
theorem flooded_run_succeeds :
    ∃ t c opened es c', (ofClient flood).run {} ["/a.yara"] true 300 {} = (.finished t, c) ∧
      Account (ofClient flood) {} ["/a.yara"] true {} t opened es c' ∧
      t.success = true ∧ ∃ uri ∈ opened, ¬ Answered es uri := by
  have h : (ofClient flood).run {} ["/a.yara"] true 300 {} =
      (.finished { pending := ["file:///a.yara"] }, _) := rfl
  obtain ⟨opened, es, c', hacc⟩ := run_account h
  have hpending : "file:///a.yara" ∈ (Tally.takeAll { pending := opened } es).pending := by
    rw [← hacc.tally]
    exact List.mem_singleton_self _
  exact ⟨_, _, opened, es, c', h, hacc, rfl, _, Tally.mem_pending_takeAll.1 hpending⟩

end RunWorld

end Sidecar
