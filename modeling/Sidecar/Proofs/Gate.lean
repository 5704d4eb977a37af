/-
# The provisioning gate

A start passes `installing` only if its environment is there. If the installer
may be run, the start first makes sure of the environment: it asks for a
listing and, if that does not show the package, for the installer. Then it asks
for the listing all the same, since an installer that ended well proves
nothing. Otherwise it asks for the listing only.

Here a session lives on a site (`Site`), where its answers come from a shell.
The system begins to work on a question when a start begins to wait for the
answer, and the answer is what provisioning comes to in the state that the
system is in at that time. The system may change at any time and in any way,
so an answer may also be an old one, and everything else may happen to the
session that can happen to it. The questions that were answered to a start
before somebody disposed of the session are kept (`Site.taken`), and they
alone say where the session stands (`Standing`).

A session that was disposed of drops the question that it waits for, and asks
no other: from then on the shell is not called any more (`calls_run`).

Key definitions: `Site`, `Site.step`, `Site.Outcome`, `Site.Awaits`,
`Site.Clears`, `Site.Refuses`, `Site.Gated`.
Key theorems: `Site.outcome_step`, `Site.Standing.step`, `Site.calls_run`,
`Site.provisioning_gate`.
-/
import Sidecar.Proofs.Provisioning
import Sidecar.Proofs.Undecided

namespace Sidecar

open Session Shell

variable {σ : Type}

/-- A question of a start, with the state in which it was asked. -/
structure Inquiry (σ : Type) where
  about : Question
  world : σ
  /-- The output channel at that time. -/
  sink : Sink

namespace Inquiry

/-- What the system does about a question. -/
def ask (sh : Shell σ) (st : Settings) (q : Inquiry σ) : Bool × σ × Sink :=
  match q.about with
  | .ensuring => Provision.install sh st.provision st.server.root st.server.envPath q.world q.sink
  | .checking | .listing =>
    let (ok, world) := Provision.isInstalled sh st.provision st.server.envPath q.world
    (ok, world, q.sink)

/-- The answer. -/
def verdict (sh : Shell σ) (st : Settings) (q : Inquiry σ) : Bool := (q.ask sh st).1

/-- The question for a shell that writes down what it is asked. -/
def traced (q : Inquiry σ) : Inquiry (σ × List Call) := ⟨q.about, (q.world, []), q.sink⟩

/-- That it is written down changes nothing, and only the installer is an installer. -/
theorem ask_traced (sh : Shell σ) (st : Settings) (q : Inquiry σ) :
    ∃ asked, q.traced.ask sh.traced st =
        (q.verdict sh st, ((q.ask sh st).2.1, asked), (q.ask sh st).2.2) ∧
      (q.about ≠ .ensuring → installers asked = []) := by
  obtain ⟨about, world, sink⟩ := q
  obtain ⟨asked, hcheck, hchecked⟩ :=
    Provision.isInstalled_traced sh st.provision st.server.envPath world []
  obtain ⟨asked', -, hinstalled⟩ := Provision.install_traced sh st.provision st.server.root
    st.server.envPath world sink []
  cases about with
  | checking | listing =>
    refine ⟨asked, ?_, fun _ => hcheck.installers_eq⟩
    simp only [ask, traced, verdict, hchecked, List.nil_append]
  | ensuring =>
    refine ⟨asked', ?_, fun hne => absurd rfl hne⟩
    simp only [ask, traced, verdict, hinstalled, List.nil_append]

end Inquiry

/-- A session and the system that it is on. -/
structure Site (σ : Type) where
  /-- The session as it was created. -/
  origin : Session
  world : σ
  /-- What was asked of the shell. -/
  calls : List Call := []
  /-- The question that the system works on for a start. -/
  pending : Option (Inquiry σ) := none
  /-- The questions that were answered to a start of a session not disposed of. -/
  taken : List (Inquiry σ) := []
  /-- What the session has met. -/
  met : List Happening := []

/-- The question that a start of the session waits for. -/
def Session.asking? (s : Session) : Option Question :=
  (s.holder.bind fun i => s.tasks[i]?).bind Point.question?

namespace Site

/-- The session as it is. -/
def session (w : Site σ) : Session := w.origin.after w.met

/-- What can happen on a site. -/
inductive Event (σ : Type) where
  | meet (h : Happening)
  /-- A start gets the answer that it waits for. -/
  | answer (task : Nat) (a : Answers)
  /-- The system changes. -/
  | drift (world : σ)

def isAnswer : Happening → Bool
  | .move m _ => m.isAnswer
  | .others .. => false

/-- The system begins to work on a question. -/
def put (sh : Shell σ) (w : Site σ) (d : Question) : Site σ :=
  let q : Inquiry σ := ⟨d, w.world, w.session.sink⟩
  let (_, (world, calls), _) := q.traced.ask sh.traced w.session.settings
  { w with world, calls := w.calls ++ calls, pending := some q }

/-- The system works on the question that a start waits for, and drops any other. -/
def attend (sh : Shell σ) (w : Site σ) : Site σ :=
  match w.session.asking? with
  | none => { w with pending := none }
  | some d => if w.pending.map Inquiry.about = some d then w else w.put sh d

/-- A question is answered, and the session meets the answer. Nothing comes of the work on it if the
session was disposed of. -/
def hear (sh : Shell σ) (w : Site σ) (q : Inquiry σ) (i : Nat) (a : Answers) : Site σ :=
  let s := w.session
  let told := if s.cancelled then []
    else (q.ask sh s.settings).2.2.entries.drop q.sink.entries.length
  { w with
    pending := none
    taken := if s.cancelled then w.taken else w.taken ++ [q]
    met := w.met ++ [.others s.registry.ports s.registry told,
      .move (q.about.answer i (q.verdict sh s.settings)) a] }

/-- What an event does. An answer that is not the shell's does not count. -/
def step (sh : Shell σ) (w : Site σ) : Event σ → Site σ
  | .drift world => { w with world }
  | .meet h => if isAnswer h then w else attend sh { w with met := w.met ++ [h] }
  | .answer i a =>
    match w.pending with
    | none => w
    | some q =>
      if w.session.tasks[i]? = some q.about.point then attend sh (w.hear sh q i a) else w

def run (sh : Shell σ) (w : Site σ) (events : List (Event σ)) : Site σ := events.foldl (step sh) w

/-- A session that has just been created. -/
def start (s₀ : Session) (world : σ) : Site σ := { origin := s₀, world }

/-- Others leave the lease of the session alone. -/
def Fair (sh : Shell σ) : Site σ → List (Event σ) → Prop
  | _, [] => True
  | w, ev :: rest => (∀ h, ev = .meet h → Session.Fair w.session [h]) ∧ Fair sh (w.step sh ev) rest

variable {sh : Shell σ} {st : Settings} {w w' : Site σ} {s₀ : Session} {world : σ} {ev : Event σ}
  {events : List (Event σ)} {taken : List (Inquiry σ)} {q : Inquiry σ} {d due : Question} {i : Nat}
  {a : Answers}

theorem run_concat (w : Site σ) (events : List (Event σ)) (ev : Event σ) :
    w.run sh (events ++ [ev]) = (w.run sh events).step sh ev := by
  simp [run]

theorem fair_append {later : List (Event σ)} :
    Fair sh w (events ++ later) ↔ Fair sh w events ∧ Fair sh (w.run sh events) later := by
  induction events generalizing w with
  | nil => simp [Fair, run]
  | cons x rest ih =>
    show (_ ∧ Fair sh _ (rest ++ later)) ↔ (_ ∧ Fair sh _ rest) ∧ _
    rw [ih, and_assoc]
    rfl

theorem fair_concat : Fair sh w (events ++ [ev]) ↔
    Fair sh w events ∧ ∀ h, ev = .meet h → Session.Fair (w.run sh events).session [h] := by
  simp [fair_append, Fair]

/-- The system works on a question without the session noticing. -/
theorem attend_eq (sh : Shell σ) (w : Site σ) :
    (w.attend sh).origin = w.origin ∧ (w.attend sh).met = w.met ∧
      (w.attend sh).taken = w.taken := by
  unfold attend put
  split
  · exact ⟨rfl, rfl, rfl⟩
  · split <;> exact ⟨rfl, rfl, rfl⟩

@[simp] theorem origin_attend (sh : Shell σ) (w : Site σ) : (w.attend sh).origin = w.origin :=
  (attend_eq sh w).1

@[simp] theorem met_attend (sh : Shell σ) (w : Site σ) : (w.attend sh).met = w.met :=
  (attend_eq sh w).2.1

@[simp] theorem taken_attend (sh : Shell σ) (w : Site σ) : (w.attend sh).taken = w.taken :=
  (attend_eq sh w).2.2

@[simp] theorem session_attend (sh : Shell σ) (w : Site σ) : (w.attend sh).session = w.session := by
  rw [session, session, origin_attend, met_attend]

/-- What an event comes to: nothing, another system, something that the session meets, or an answer
to a start that asks. -/
inductive Outcome (sh : Shell σ) (w : Site σ) (ev : Event σ) : Site σ → Prop where
  | nothing : Outcome sh w ev w
  | drift (world : σ) : Outcome sh w ev { w with world }
  | meet (h : Happening) (hev : ev = .meet h) (hno : isAnswer h = false) :
      Outcome sh w ev (attend sh { w with met := w.met ++ [h] })
  | answered {q : Inquiry σ} {i : Nat} (hq : w.pending = some q)
      (hp : w.session.tasks[i]? = some q.about.point) (a : Answers) :
      Outcome sh w ev (attend sh (w.hear sh q i a))

theorem outcome_step (sh : Shell σ) (w : Site σ) (ev : Event σ) :
    Outcome sh w ev (w.step sh ev) := by
  cases ev with
  | drift world => exact .drift world
  | meet h =>
    rw [step]
    split
    · exact .nothing
    · next hno => exact .meet h rfl (Bool.eq_false_iff.2 hno)
  | answer i a =>
    rw [step]
    split
    · exact .nothing
    · next q hq =>
      split
      · next hp => exact .answered hq hp a
      · exact .nothing

/-! ### Courses on a site -/

/-- A session with nothing has no lease that others could touch. -/
theorem perm_of_bare {s : Session} (h : s.Bare) :
    s.registry.ports.Perm (s.leases ++ s.registry.ports) := by
  rw [h.leases]
  exact .refl _

theorem Outcome.course (h : Outcome sh w ev w') (hc : Course w.origin w.met)
    (hfair : ∀ hap, ev = .meet hap → Session.Fair w.session [hap]) : Course w'.origin w'.met := by
  cases h with
  | nothing => exact hc
  | drift world => exact hc
  | meet hap hev =>
    rw [origin_attend, met_attend]
    exact ⟨hc.fresh, Session.fair_append.2 ⟨hc.fair, hfair hap hev⟩⟩
  | answered hq hp =>
    rw [origin_attend, met_attend]
    have hperm := perm_of_bare (hc.sound.of_asks hp).2
    exact ⟨hc.fresh, Session.fair_append.2 ⟨hc.fair, hperm, trivial⟩⟩

/-- Whatever happens on a site to a new session is a course of it. -/
theorem course_run (hfresh : Fresh s₀) (hfair : Fair sh (start s₀ world) events) :
    Course ((start s₀ world).run sh events).origin ((start s₀ world).run sh events).met := by
  induction events using List.reverseRecOn with
  | nil => exact ⟨hfresh, trivial⟩
  | append_singleton events ev ih =>
    obtain ⟨hevents, hev⟩ := fair_concat.1 hfair
    rw [run_concat]
    exact (outcome_step sh _ ev).course (ih hevents) hev

/-- What holds of a new session and is kept by everything that happens, lasts. -/
theorem run_persists {P : Site σ → Prop} (hfresh : Fresh s₀)
    (hfair : Fair sh (start s₀ world) events) (hstart : P (start s₀ world))
    (hstep : ∀ w ev w', Course w.origin w.met → Outcome sh w ev w' → P w → P w') :
    P ((start s₀ world).run sh events) := by
  induction events using List.reverseRecOn with
  | nil => exact hstart
  | append_singleton events ev ih =>
    have hevents := (fair_concat.1 hfair).1
    rw [run_concat]
    exact hstep _ ev _ (course_run hfresh hevents) (outcome_step sh _ ev) (ih hevents)

theorem Outcome.origin_eq (h : Outcome sh w ev w') : w'.origin = w.origin := by
  cases h with
  | nothing | drift => rfl
  | meet | answered => exact origin_attend sh _

/-- Whatever has happened to the session stands. -/
theorem Outcome.met_eq (h : Outcome sh w ev w') : ∃ more, w'.met = w.met ++ more := by
  cases h with
  | nothing | drift => exact ⟨[], by simp⟩
  | meet | answered => exact ⟨_, met_attend sh _⟩

theorem origin_run (hfresh : Fresh s₀) (hfair : Fair sh (start s₀ world) events) :
    ((start s₀ world).run sh events).origin = s₀ :=
  run_persists (P := fun w => w.origin = s₀) hfresh hfair rfl
    fun _ _ _ _ hout hsame => hout.origin_eq.trans hsame

theorem settings_eq (hc : Course w.origin w.met) : w.session.settings = w.origin.settings := by
  have hcourse : Course w.origin ([] ++ w.met) := hc
  refine hcourse.persists (P := fun s => s.settings = w.origin.settings) rfl ?_ ?_
  · intro mid a m hmid hsame
    exact (hmid.sound.settings_step a m).trans hsame
  · exact fun _ _ _ => id

/-- What provisioning has told the output channel comes before the answer. -/
theorem session_hear (sh : Shell σ) (w : Site σ) (q : Inquiry σ) (i : Nat) (a : Answers) :
    ∃ told, (w.hear sh q i a).session =
      (w.session.meet (.others w.session.registry.ports w.session.registry told)).step a
        (q.about.answer i (q.verdict sh w.session.settings)) := by
  refine ⟨if w.session.cancelled then []
    else (q.ask sh w.session.settings).2.2.entries.drop q.sink.entries.length, ?_⟩
  simp only [hear, session, after, List.foldl_append, List.foldl_cons, List.foldl_nil]
  rfl

/-! ### Where a session stands -/

/-- The environment was made sure of: a check has found it, or it has not and then the installer
ended well. -/
def Ensured (sh : Shell σ) (st : Settings) (asked : List (Inquiry σ)) : Prop :=
  ∃ c, c.about = .checking ∧
    (asked = [c] ∧ c.verdict sh st = true ∨
      ∃ e, e.about = .ensuring ∧ asked = [c, e] ∧ c.verdict sh st = false ∧
        e.verdict sh st = true)

/-- The questions that were answered lead to this one. -/
def Awaits (sh : Shell σ) (st : Settings) (taken : List (Inquiry σ)) : Question → Prop
  | .checking => st.provision.autoInstall = true ∧ taken = []
  | .ensuring => st.provision.autoInstall = true ∧
      ∃ c, taken = [c] ∧ c.about = .checking ∧ c.verdict sh st = false
  | .listing => if st.provision.autoInstall then Ensured sh st taken else taken = []

theorem awaits_listing : Awaits sh st taken .listing ↔
    if st.provision.autoInstall then Ensured sh st taken else taken = [] :=
  .rfl

/-- The last question was for the listing, and it has the package. -/
def Clears (sh : Shell σ) (st : Settings) (taken : List (Inquiry σ)) : Prop :=
  ∃ before q, taken = before ++ [q] ∧ q.about = .listing ∧ Awaits sh st before .listing ∧
    q.verdict sh st = true

/-- The last question was for the installer or for the listing, and the answer is not good. -/
def Refuses (sh : Shell σ) (st : Settings) (taken : List (Inquiry σ)) : Prop :=
  ∃ before q, taken = before ++ [q] ∧ q.about ≠ .checking ∧ Awaits sh st before q.about ∧
    q.verdict sh st = false

/-- To be made sure of at once is to be made sure of in two steps between which nothing happens. -/
theorem ensured_iff (sh : Shell σ) (st : Settings) (world : σ) (sink : Sink) :
    (Provision.ensure sh st.provision st.server.root st.server.envPath world sink).1 = true ↔
      Ensured sh st [⟨.checking, world, sink⟩] ∨
      Ensured sh st [⟨.checking, world, sink⟩,
        ⟨.ensuring, (Inquiry.ask sh st ⟨.checking, world, sink⟩).2.1, sink⟩] := by
  have hcheck : (Inquiry.mk .checking world sink).verdict sh st =
      (Provision.isInstalled sh st.provision st.server.envPath world).1 := rfl
  rw [Provision.ensure_eq]
  cases hfound : (Provision.isInstalled sh st.provision st.server.envPath world).1 with
  | true => exact iff_of_true rfl (.inl ⟨_, rfl, .inl ⟨rfl, hcheck.trans hfound⟩⟩)
  | false =>
    have hmissing := hcheck.trans hfound
    rw [if_neg Bool.false_ne_true]
    constructor
    · intro hgood
      exact .inr ⟨_, rfl, .inr ⟨_, rfl, rfl, hmissing, hgood⟩⟩
    · rintro (⟨c, -, ⟨hasked, hgood⟩ | ⟨e, -, hasked, -⟩⟩ | ⟨c, -, ⟨hasked, -⟩ | ⟨e, -, hasked, -, hgood⟩⟩)
      · cases hasked
        rw [hmissing] at hgood
        cases hgood
      · cases hasked
      · cases hasked
      · cases hasked
        exact hgood

/-- What the answers come to so far; nothing if they are not in order. -/
def progress (sh : Shell σ) (st : Settings) (taken : List (Inquiry σ)) : Option Upshot :=
  taken.foldl (fun x q =>
    if x = some (.ask q.about) then some (q.about.upshot (q.verdict sh st)) else none)
    (some (.ask (.first st)))

theorem progress_concat (h : progress sh st taken = some (.ask q.about)) :
    progress sh st (taken ++ [q]) = some (q.about.upshot (q.verdict sh st)) := by
  rw [progress, List.foldl_append]
  exact if_pos h

theorem Ensured.progress_eq (h : Ensured sh st taken) (hauto : st.provision.autoInstall = true) :
    progress sh st taken = some (.ask .listing) := by
  obtain ⟨c, hc, ⟨rfl, hfound⟩ | ⟨e, he, rfl, hmissing, hgood⟩⟩ := h
  · simp [progress, Question.first, hauto, hc, hfound, Question.upshot]
  · simp [progress, Question.first, hauto, hc, he, hmissing, hgood, Question.upshot]

theorem Awaits.progress_eq (h : Awaits sh st taken due) :
    progress sh st taken = some (.ask due) := by
  cases due with
  | checking =>
    obtain ⟨hauto, rfl⟩ := h
    simp [progress, Question.first, hauto]
  | ensuring =>
    obtain ⟨hauto, c, rfl, hc, hmissing⟩ := h
    simp [progress, Question.first, hauto, hc, hmissing, Question.upshot]
  | listing =>
    rw [awaits_listing] at h
    split at h
    · next hauto => exact h.progress_eq hauto
    · next hmanual => simp [h, progress, Question.first, hmanual]

theorem Clears.progress_eq (h : Clears sh st taken) : progress sh st taken = some .pass := by
  obtain ⟨before, q, rfl, hq, hbefore, hgood⟩ := h
  rw [← hq] at hbefore
  rw [progress_concat hbefore.progress_eq, hq, hgood]
  rfl

theorem Refuses.progress_eq (h : Refuses sh st taken) : progress sh st taken = some .fail := by
  obtain ⟨before, q, rfl, hq, hbefore, hbad⟩ := h
  rw [progress_concat hbefore.progress_eq, hbad]
  cases habout : q.about with
  | checking => exact absurd habout hq
  | ensuring | listing => rfl

theorem Awaits.unique {due' : Question} (h : Awaits sh st taken due)
    (h' : Awaits sh st taken due') : due = due' := by
  have hsame := h.progress_eq.symm.trans h'.progress_eq
  cases hsame
  rfl

theorem Awaits.not_clears (h : Awaits sh st taken due) : ¬ Clears sh st taken := by
  intro h'
  cases h.progress_eq.symm.trans h'.progress_eq

theorem Awaits.not_refuses (h : Awaits sh st taken due) : ¬ Refuses sh st taken := by
  intro h'
  cases h.progress_eq.symm.trans h'.progress_eq

theorem Clears.not_refuses (h : Clears sh st taken) : ¬ Refuses sh st taken := by
  intro h'
  cases h.progress_eq.symm.trans h'.progress_eq

theorem awaits_nil : Awaits sh st ([] : List (Inquiry σ)) (.first st) := by
  unfold Question.first
  split
  · next hauto => exact ⟨hauto, rfl⟩
  · next hmanual =>
    rw [awaits_listing, if_neg hmanual]

/-- An answer leads to the next question. -/
theorem Awaits.next (h : Awaits sh st taken q.about) {next : Question}
    (hnext : q.about.upshot (q.verdict sh st) = .ask next) :
    Awaits sh st (taken ++ [q]) next := by
  have hlisting (hauto : st.provision.autoInstall = true) (he : Ensured sh st (taken ++ [q])) :
      Awaits sh st (taken ++ [q]) .listing := by
    rwa [awaits_listing, if_pos hauto]
  cases habout : q.about with
  | checking =>
    rw [habout] at h hnext
    obtain ⟨hauto, rfl⟩ := h
    cases hverdict : q.verdict sh st with
    | true =>
      rw [hverdict] at hnext
      cases hnext
      exact hlisting hauto ⟨q, habout, .inl ⟨rfl, hverdict⟩⟩
    | false =>
      rw [hverdict] at hnext
      cases hnext
      exact ⟨hauto, q, rfl, habout, hverdict⟩
  | ensuring =>
    rw [habout] at h hnext
    obtain ⟨hauto, c, rfl, hc, hmissing⟩ := h
    cases hverdict : q.verdict sh st with
    | true =>
      rw [hverdict] at hnext
      cases hnext
      exact hlisting hauto ⟨c, hc, .inr ⟨q, habout, rfl, hmissing, hverdict⟩⟩
    | false =>
      rw [hverdict] at hnext
      cases hnext
  | listing =>
    rw [habout] at hnext
    cases hverdict : q.verdict sh st <;> rw [hverdict] at hnext <;> cases hnext

theorem Awaits.clears (h : Awaits sh st taken q.about)
    (hpass : q.about.upshot (q.verdict sh st) = .pass) : Clears sh st (taken ++ [q]) := by
  cases habout : q.about <;> cases hverdict : q.verdict sh st <;> rw [habout, hverdict] at hpass <;>
    cases hpass
  exact ⟨taken, q, rfl, habout, habout ▸ h, hverdict⟩

theorem Awaits.refuses (h : Awaits sh st taken q.about)
    (hfail : q.about.upshot (q.verdict sh st) = .fail) : Refuses sh st (taken ++ [q]) := by
  refine ⟨taken, q, rfl, ?_, h, ?_⟩
  · intro habout
    rw [habout] at hfail
    cases hverdict : q.verdict sh st <;> rw [hverdict] at hfail <;> cases hfail
  · cases habout : q.about <;> cases hverdict : q.verdict sh st <;>
      first | rfl | (rw [habout, hverdict] at hfail; cases hfail)

/-- Where a session stands by the answers that it has got. -/
inductive Standing (sh : Shell σ) (st : Settings) (taken : List (Inquiry σ)) (s : Session) :
    Prop where
  | awaits {due : Question} (h : Awaits sh st taken due) (hu : Undecided s due)
      (hfirst : s.stage = .uninstalled → taken = [])
  | refuses {i : Nat} {f : Failure} (h : Refuses sh st taken)
      (hf : f = .ofProvisioning st.server.envPath st.provision.autoInstall)
      (hfailure : s.failure = some f)
      (hhist : s.history = [.uninstalled, .installing, .failed])
      (hreturned : s.tasks[i]? = some (.started (some (.failed f))))
  | clears (h : Clears sh st taken) (hhist : .installed ∈ s.history)

variable {s : Session} {held : List Nat} {own : List Entry} {m : Move}

theorem Standing.others (h : Standing sh st taken s) (registry : Registry) (sink : Sink) :
    Standing sh st taken { s with registry, sink } := by
  cases h with
  | awaits h hu hfirst => exact .awaits h ⟨hu.stages, hu.points, hu.waits⟩ hfirst
  | refuses h hf hfailure hhist hreturned => exact .refuses h hf hfailure hhist hreturned
  | clears h hhist => exact .clears h hhist

/-- A session stands where it stands until there is another answer. -/
theorem Standing.move (h : Standing sh st taken s) (hs : Sound held s) (hc : Chronicle s own)
    (hw : s.Watched) (hst : s.settings = st) (hm : m.isAnswer = false) :
    Standing sh st taken (s.step a m) := by
  obtain ⟨task, heff⟩ := exists_effect_step s a m
  obtain ⟨way, hway, hpath⟩ := heff.path
  cases h with
  | @awaits due h hu hfirst =>
    have hdue : s.stage = .uninstalled → due = .first s.settings := by
      intro hstage
      have hnil := hfirst hstage
      subst hnil
      rw [hst]
      exact h.unique awaits_nil
    refine .awaits h (hu.step hs hc.dated hw hdue hm) fun hstage => hfirst ?_
    rw [hstage] at hpath
    exact hpath.of_uninstalled
  | refuses h hf hfailure hhist hreturned =>
    have hfailed : s.stage = .failed := hc.failed.2 (by rw [hfailure]; rfl)
    have hsame := (heff.of_isTerminal (by rw [hfailed]; rfl)).2
    exact .refuses h hf (hc.failure_kept heff hfailure) (hsame.trans hhist)
      (hs.ended_step hreturned rfl)
  | clears h hhist =>
    refine .clears h ?_
    rw [hway]
    exact List.mem_append_left _ hhist

/-- A start asks only what the answers lead to. -/
theorem Standing.of_asks (h : Standing sh st taken s) (hs : Sound held s) (hc : Chronicle s own)
    (hp : s.tasks[i]? = some d.point) : Awaits sh st taken d ∧ Undecided s d := by
  obtain ⟨hstage, -⟩ := hs.of_asks hp
  obtain ⟨way, hway, hpath⟩ := hc.path
  rw [hstage] at hpath
  have hhist : s.history = [.uninstalled, .installing] := by
    rcases hpath.of_installing with ⟨-, hne⟩ | ⟨rfl, -⟩
    · cases hne
    · exact hway
  cases h with
  | awaits h hu _ =>
    obtain rfl := hu.points i d hp
    exact ⟨h, hu⟩
  | refuses _ _ _ hfailed => rw [hhist] at hfailed; simp at hfailed
  | clears _ hinstalled => rw [hhist] at hinstalled; simp at hinstalled

/-- A start that asks finds the session disposed of. -/
theorem standing_withdrawn (h : Awaits sh st taken due) (hu : Undecided s due)
    (hstage : s.stage = .installing) (hc : s.cancelled = true) :
    Standing sh st taken (s.startReturns i (some .cancelled)) := by
  refine .awaits h (hu.withdraws hc _) fun hfirst => ?_
  have hsame : (s.startReturns i (some .cancelled)).stage = s.stage := rfl
  rw [hsame, hstage] at hfirst
  cases hfirst

/-- **After an answer the session stands where the answer says.** -/
theorem standing_answered (h : Awaits sh st taken q.about) (hu : Undecided s q.about)
    (hs : Sound held s) (hc : Chronicle s own) (hst : s.settings = st)
    (hp : s.tasks[i]? = some q.about.point) :
    Standing sh st (if s.cancelled then taken else taken ++ [q])
      (s.step a (q.about.answer i (q.verdict sh st))) := by
  obtain ⟨hstage, hbare⟩ := hs.of_asks hp
  rw [step_answer hp]
  split
  · next hcancelled => exact standing_withdrawn h hu hstage hcancelled
  · cases hupshot : q.about.upshot (q.verdict sh st) with
    | ask next =>
      refine .awaits (h.next hupshot) (hs.undecided_ask hu hp next) fun hfirst => ?_
      have hsame : (s.goTo i next.point).stage = s.stage := rfl
      rw [hsame, hstage] at hfirst
      cases hfirst
    | pass => exact .clears (h.clears hupshot) (installed_mem_launch hstage)
    | fail =>
      obtain ⟨hfailure, hhist, hreturned⟩ :=
        startFails_installing hc hp hstage hbare s.provisioningFailure
      refine .refuses (h.refuses hupshot) ?_ hfailure hhist hreturned
      rw [provisioningFailure, hst]

/-- **Whatever happens on a site, the session stands where its answers say.** -/
theorem Standing.step (h : Standing sh w.origin.settings w.taken w.session)
    (hc : Course w.origin w.met) (hout : Outcome sh w ev w') :
    Standing sh w'.origin.settings w'.taken w'.session := by
  have hs : Sound (w.origin.elsewhere w.met) w.session := hc.sound
  have hchron : Chronicle w.session (w.origin.told w.met) := hc.chronicle
  have hst := settings_eq hc
  cases hout with
  | nothing => exact h
  | drift world => exact h
  | meet hap hev hno =>
    rw [origin_attend, taken_attend, session_attend, session, after_concat]
    cases hap with
    | move m a => exact h.move hs hchron hc.watched hst hno
    | others held registry entries => exact h.others registry _
  | @answered q i hq hp a =>
    obtain ⟨hawaits, hu⟩ := h.of_asks hs hchron hp
    obtain ⟨told, hsession⟩ := session_hear sh w q i a
    rw [origin_attend, taken_attend, session_attend, hsession, hst]
    have hperm := perm_of_bare (hs.of_asks hp).2
    exact standing_answered (a := a) (s := w.session.meet (.others _ w.session.registry told))
      hawaits ⟨hu.stages, hu.points, hu.waits⟩ (hs.congr rfl rfl rfl rfl rfl rfl rfl hperm)
      ⟨hchron.path, hchron.failed, hchron.errors⟩ hst hp

theorem standing_start (hfresh : Fresh s₀) :
    Standing sh s₀.settings ([] : List (Inquiry σ)) s₀ := by
  have hstage : s₀.stage = .uninstalled := by rw [hfresh]
  have hhist : s₀.history = [.uninstalled] := by rw [hfresh]
  have htasks : s₀.tasks = [] := by rw [hfresh]
  refine .awaits awaits_nil ⟨?_, ?_, ?_⟩ fun _ => rfl
  · simp [hhist, Stage.isAside]
  · simp [htasks]
  · simp [hstage]

theorem standing_run (hfresh : Fresh s₀) (hfair : Fair sh (start s₀ world) events) :
    Standing sh ((start s₀ world).run sh events).origin.settings
      ((start s₀ world).run sh events).taken ((start s₀ world).run sh events).session :=
  run_persists (P := fun w => Standing sh w.origin.settings w.taken w.session) hfresh hfair
    (standing_start hfresh) fun _ _ _ hc hout h => h.step hc hout

/-- Whoever asks has the resources. -/
theorem asking?_eq_some (hs : Sound held s) :
    s.asking? = some d ↔ ∃ i : Nat, s.tasks[i]? = some d.point := by
  unfold Session.asking?
  constructor
  · intro h
    obtain ⟨p, hp, hd⟩ := Option.bind_eq_some_iff.1 h
    obtain ⟨i, -, hi⟩ := Option.bind_eq_some_iff.1 hp
    exact ⟨i, hi.trans (congrArg some (Point.question?_eq_some.1 hd))⟩
  · rintro ⟨i, hi⟩
    rw [hs.lock i _ hi d.holds_point, Option.bind_some, hi, Option.bind_some]
    exact Point.question?_eq_some.2 rfl

/-- The system works on the question that a start waits for, and on no other. -/
def Prompt (w : Site σ) : Prop := w.pending.map Inquiry.about = w.session.asking?

theorem prompt_attend (sh : Shell σ) (w : Site σ) : Prompt (w.attend sh) := by
  unfold Prompt
  rw [session_attend]
  unfold attend
  split
  · next hnone => rw [hnone]; rfl
  · next d hd =>
    split
    · next hsame => rw [hsame, hd]
    · rw [hd]; rfl

theorem Prompt.step (h : Prompt w) (hout : Outcome sh w ev w') : Prompt w' := by
  cases hout with
  | nothing | drift => exact h
  | meet | answered => exact prompt_attend sh _

/-- Nothing new is worked on where nobody begins to ask. -/
theorem calls_attend (h : ∀ d, w.session.asking? = some d → w.pending.map Inquiry.about = some d) :
    (w.attend sh).calls = w.calls := by
  unfold attend
  split
  · rfl
  · next d hd => rw [if_pos (h d hd)]

theorem calls_step (h : Prompt w) (hc : Course w.origin w.met)
    (hcancelled : w.session.cancelled = true) (hout : Outcome sh w ev w')
    (hc' : Course w'.origin w'.met) : w'.calls = w.calls := by
  have hs : Sound (w.origin.elsewhere w.met) w.session := hc.sound
  have hs' : Sound (w'.origin.elsewhere w'.met) w'.session := hc'.sound
  cases hout with
  | nothing | drift => rfl
  | meet hap hev hno =>
    rw [session_attend] at hs'
    refine calls_attend fun d hd => ?_
    obtain ⟨i, hi⟩ := (asking?_eq_some hs').1 hd
    refine h.trans ((asking?_eq_some hs).2 ⟨i, ?_⟩)
    rw [session, after_concat] at hi
    cases hap with
    | move m a => exact unasking_step hcancelled a m i d hi
    | others => exact hi
  | @answered q i hq hp a =>
    refine calls_attend fun d hd => ?_
    obtain ⟨told, hsession⟩ := session_hear sh w q i a
    -- the start returns and lets the resources go
    have hstill : (w.session.meet (.others w.session.registry.ports w.session.registry
      told)).cancelled = true := hcancelled
    have hwaits : (w.session.meet (.others w.session.registry.ports w.session.registry
      told)).tasks[i]? = some q.about.point := hp
    rw [hsession, step_answer hwaits, if_pos hstill] at hd
    cases hd

/-- A session that was disposed of stays so. -/
theorem cancelled_step (hcancelled : w.session.cancelled = true) (hout : Outcome sh w ev w')
    (hc' : Course w'.origin w'.met) : w'.session.cancelled = true := by
  obtain ⟨more, hmet⟩ := hout.met_eq
  rw [session, hout.origin_eq, hmet]
  rw [hout.origin_eq, hmet] at hc'
  refine hc'.persists (P := fun s => s.cancelled = true) hcancelled ?_ fun _ _ _ => id
  exact fun mid a m hmid hstill => hmid.sound.cancelled_stays hstill

theorem prompt_run (hfresh : Fresh s₀) (hfair : Fair sh (start s₀ world) events) :
    Prompt ((start s₀ world).run sh events) := by
  refine run_persists (P := Prompt) hfresh hfair ?_ fun _ _ _ _ hout h => h.step hout
  have hholder : s₀.holder = none := by rw [hfresh]
  show none = s₀.asking?
  rw [Session.asking?, hholder]
  rfl

/-- **Once a session was disposed of, the shell is not called any more**: no file is looked for, no
listing made and no installer run. -/
theorem calls_run {later : List (Event σ)} (hfresh : Fresh s₀)
    (hfair : Fair sh (start s₀ world) (events ++ later))
    (hcancelled : ((start s₀ world).run sh events).session.cancelled = true) :
    ((start s₀ world).run sh (events ++ later)).calls = ((start s₀ world).run sh events).calls ∧
      ((start s₀ world).run sh (events ++ later)).session.cancelled = true := by
  induction later using List.reverseRecOn with
  | nil => simpa using hcancelled
  | append_singleton later ev ih =>
    rw [← List.append_assoc] at hfair ⊢
    obtain ⟨hbefore, hev⟩ := fair_concat.1 hfair
    obtain ⟨hcalls, hstays⟩ := ih hbefore
    have hc := course_run hfresh hbefore
    have hout := outcome_step sh ((start s₀ world).run sh (events ++ later)) ev
    have hc' := hout.course hc hev
    rw [run_concat]
    exact ⟨(calls_step (prompt_run hfresh hbefore) hc hstays hout hc').trans hcalls,
      cancelled_step hstays hout hc'⟩

/-! ### The installer -/

/-- Where the installer may not be run, nobody waits for it. -/
theorem Standing.not_ensuring (h : Standing sh st taken s) (hs : Sound held s)
    (hc : Chronicle s own) (hmanual : st.provision.autoInstall = false) (i : Nat) :
    s.tasks[i]? ≠ some .ensuring := by
  intro hp
  have hauto := (h.of_asks (d := .ensuring) hs hc hp).1.1
  rw [hmanual] at hauto
  cases hauto

/-- Nor is it run. -/
theorem installers_attend (hs : Sound held w.session)
    (hnobody : ∀ i : Nat, w.session.tasks[i]? ≠ some .ensuring) :
    installers (w.attend sh).calls = installers w.calls := by
  unfold attend
  split
  · rfl
  · next d hd =>
    split
    · rfl
    · obtain ⟨asked, htraced, hnone⟩ :=
        Inquiry.ask_traced sh w.session.settings ⟨d, w.world, w.session.sink⟩
      have hcalls : (w.put sh d).calls = w.calls ++ asked := by rw [put, htraced]
      have hd : d ≠ .ensuring := by
        rintro rfl
        obtain ⟨i, hi⟩ := (asking?_eq_some hs).1 hd
        exact hnobody i hi
      rw [hcalls, Provision.installers_append, hnone hd, List.append_nil]

theorem Standing.installers_eq (h : Standing sh w.origin.settings w.taken w.session)
    (hc : Course w.origin w.met) (hmanual : w.origin.settings.provision.autoInstall = false)
    (hout : Outcome sh w ev w') (hc' : Course w'.origin w'.met) :
    installers w'.calls = installers w.calls := by
  have hnobody := (h.step hc hout).not_ensuring hc'.sound hc'.chronicle
    (hout.origin_eq ▸ hmanual)
  have hs' : Sound (w'.origin.elsewhere w'.met) w'.session := hc'.sound
  cases hout with
  | nothing | drift => rfl
  | meet | answered =>
    rw [session_attend] at hs' hnobody
    exact installers_attend hs' hnobody

theorem installers_run (hfresh : Fresh s₀) (hfair : Fair sh (start s₀ world) events)
    (hmanual : s₀.settings.provision.autoInstall = false) :
    installers ((start s₀ world).run sh events).calls = [] := by
  induction events using List.reverseRecOn with
  | nil => rfl
  | append_singleton events ev ih =>
    obtain ⟨hbefore, hev⟩ := fair_concat.1 hfair
    have hc := course_run hfresh hbefore
    have hout := outcome_step sh ((start s₀ world).run sh events) ev
    have hstill := (standing_run hfresh hbefore).installers_eq hc
      (by rwa [origin_run hfresh hbefore]) hout (hout.course hc hev)
    rw [run_concat, hstill, ih hbefore]

/-- What the answers on a site say of the session there. -/
structure Gated (sh : Shell σ) (st : Settings) (w : Site σ) : Prop where
  /-- The questions are answered in their order, until an answer decides. -/
  asked : Clears sh st w.taken ∨ Refuses sh st w.taken ∨ ∃ due, Awaits sh st w.taken due
  /-- The session gets past `installing` exactly if all answers are there and good. -/
  passes : .installed ∈ w.session.history ↔ Clears sh st w.taken
  /-- Provisioning fails exactly if an answer is not good. -/
  fails : (∃ f, w.session.failure = some f ∧ f.kind = .provisioningFailed) ↔
    Refuses sh st w.taken
  /-- Then the start has failed in `installing`, and the session with it. -/
  failed : Refuses sh st w.taken → ∃ (i : Nat) (f : Failure),
    f = .ofProvisioning st.server.envPath st.provision.autoInstall ∧
      w.session.failure = some f ∧ w.session.history = [.uninstalled, .installing, .failed] ∧
      w.session.tasks[i]? = some (.started (some (.failed f)))
  /-- As long as an answer is due, nobody has started, or a start waits for it, or somebody has
  disposed of the session. -/
  waits : ∀ due, Awaits sh st w.taken due → w.session.stage = .uninstalled ∨
    (w.session.stage = .installing ∧ ∃ i : Nat, w.session.tasks[i]? = some due.point) ∨
    w.session.cancelled = true
  /-- The system works on the question that a start waits for, and on no other. -/
  works : ∀ d, w.pending.map Inquiry.about = some d ↔
    ∃ i : Nat, w.session.tasks[i]? = some d.point
  /-- Where the installer may not be run, it is not, and nobody waits for it. -/
  manual : st.provision.autoInstall = false →
    installers w.calls = [] ∧ ∀ i : Nat, w.session.tasks[i]? ≠ some .ensuring

/-- A session that was let pass fails with something else, if at all. -/
theorem kind_ne (hc : Course w.origin w.met) (hpast : .installed ∈ w.session.history) {f : Failure}
    (hf : w.session.failure = some f) : f.kind ≠ .provisioningFailed := by
  intro hkind
  obtain ⟨before, st, hhist, -, hst⟩ := hc.traced f hf
  have hinstalling : st = .installing := by simpa [hkind, FailureKind.stages] using hst
  obtain ⟨way, hway, hpath⟩ := hc.chronicle.path
  rw [hinstalling, hway] at hhist
  cases before with
  | nil => cases hhist
  | cons x before =>
    -- `installing` comes right behind the first stage, so there was no other before it
    rw [(List.cons.inj hhist).2] at hpath hway
    rw [session, hway, hpath.installing_first.1] at hpast
    simp at hpast

theorem Standing.gated (h : Standing sh w.origin.settings w.taken w.session)
    (hcourse : Course w.origin w.met) (hprompt : Prompt w)
    (hcalls : w.origin.settings.provision.autoInstall = false → installers w.calls = []) :
    Gated sh w.origin.settings w := by
  have hs : Sound (w.origin.elsewhere w.met) w.session := hcourse.sound
  have hc : Chronicle w.session (w.origin.told w.met) := hcourse.chronicle
  have hworks : ∀ d, w.pending.map Inquiry.about = some d ↔
      ∃ i : Nat, w.session.tasks[i]? = some d.point := by
    intro d
    rw [← asking?_eq_some hs, hprompt]
  have hmanual : w.origin.settings.provision.autoInstall = false →
      installers w.calls = [] ∧ ∀ i : Nat, w.session.tasks[i]? ≠ some .ensuring := fun hm =>
    ⟨hcalls hm, h.not_ensuring hs hc hm⟩
  cases h with
  | @awaits due h hu hfirst =>
    have hpast : .installed ∉ w.session.history := by
      intro hmem
      cases hu.stages _ hmem
    have hfailure : w.session.failure = none := by
      by_contra hsome
      have hfailed := hc.failed.2 (Option.isSome_iff_ne_none.2 hsome)
      have haside := hu.isAside hc.dated
      rw [hfailed] at haside
      cases haside
    constructor
    case asked => exact .inr (.inr ⟨due, h⟩)
    case passes => exact iff_of_false hpast h.not_clears
    case fails => exact iff_of_false (by simp [hfailure]) h.not_refuses
    case failed => exact fun hrefuses => absurd hrefuses h.not_refuses
    case waits =>
      intro due' h'
      rw [← h.unique h']
      exact hu.waits_or_cancelled hs hc.dated
    case works => exact hworks
    case manual => exact hmanual
  | @refuses i f h hf hfailure hhist hreturned =>
    constructor
    case asked => exact .inr (.inl h)
    case passes => exact iff_of_false (by simp [hhist]) fun hclears => hclears.not_refuses h
    case fails => exact iff_of_true ⟨f, hfailure, by rw [hf]; rfl⟩ h
    case failed => exact fun _ => ⟨i, f, hf, hfailure, hhist, hreturned⟩
    case waits => exact fun due hawaits => absurd h hawaits.not_refuses
    case works => exact hworks
    case manual => exact hmanual
  | clears h hhist =>
    constructor
    case asked => exact .inl h
    case passes => exact iff_of_true hhist h
    case fails =>
      refine iff_of_false ?_ h.not_refuses
      rintro ⟨f, hf, hkind⟩
      exact kind_ne hcourse hhist hf hkind
    case failed => exact fun hrefuses => absurd hrefuses h.not_refuses
    case waits => exact fun due hawaits => absurd h hawaits.not_clears
    case works => exact hworks
    case manual => exact hmanual

/-- **A start gets past `installing` exactly if its environment is there.** Whatever the system
does, a check and making sure come to what `Provisioned` says; to make sure is to check and then to
run the installer if need be; and whatever happens to a session while the system changes as it
likes, the answers that provisioning has given decide where the session stands. -/
theorem provisioning_gate (sh : Shell σ) :
    (∀ p root target s sink, Provision.Provisioned sh p root target s sink) ∧
    (∀ st world sink,
      (Provision.ensure sh st.provision st.server.root st.server.envPath world sink).1 = true ↔
        Ensured sh st [⟨.checking, world, sink⟩] ∨
        Ensured sh st [⟨.checking, world, sink⟩,
          ⟨.ensuring, (Inquiry.ask sh st ⟨.checking, world, sink⟩).2.1, sink⟩]) ∧
    ∀ s₀ world events, Fresh s₀ → Fair sh (start s₀ world) events →
      Gated sh s₀.settings ((start s₀ world).run sh events) := by
  refine ⟨fun p root target s sink => Provision.provisioned sh p root target s sink,
    ensured_iff sh, ?_⟩
  intro s₀ world events hfresh hfair
  have horigin := origin_run hfresh hfair
  have hgated := (standing_run hfresh hfair).gated (course_run hfresh hfair)
    (prompt_run hfresh hfair) (by rw [horigin]; exact installers_run hfresh hfair)
  rwa [horigin] at hgated

/-- The package is there or not. The listing has a byte in it that is no character, and the
installer ends well. -/
def wayward : Shell Bool where
  isFile there _ := (true, there)
  list there _ _ :=
    let out := if there then [255, 121, 97, 114, 97, 108, 115, 10] else [112, 105, 112]
    (some (.ofCode 0, out), there)
  findRunner there := (.ok "/bin/sh", there)
  install _ _ _ _ _ := (.ok { exit := .ok (.ofCode 0) }, true)

/-- A start finds nothing, and the installer is run. -/
def furnished : List (Event Bool) :=
  [.meet (.move .start agreeing), .meet (.move (.grant 0) agreeing), .answer 0 agreeing]

/-- The listing shows the package then, but not if it has gone meanwhile. -/
theorem provisioning_gate_wayward :
    Fresh {} ∧ Fair wayward (start {} false) (furnished ++ [.answer 0 agreeing, .answer 0 agreeing]) ∧
      Fair wayward (start {} false)
        (furnished ++ [.drift false, .answer 0 agreeing, .answer 0 agreeing]) ∧
      installers ((start {} false).run wayward furnished).calls =
        [.ok { exit := .ok (.ofCode 0) }] ∧
      .installed ∈ ((start {} false).run wayward
        (furnished ++ [.answer 0 agreeing, .answer 0 agreeing])).session.history ∧
      ((start {} false).run wayward
        (furnished ++ [.drift false, .answer 0 agreeing, .answer 0 agreeing])).session.history =
          [.uninstalled, .installing, .failed] := by
  have hgood : Fair wayward (start {} false)
      (furnished ++ [.answer 0 agreeing, .answer 0 agreeing]) := by
    refine ⟨?_, ?_, ?_, ?_, ?_, trivial⟩ <;> rintro h ⟨⟩ <;> trivial
  have hbad : Fair wayward (start {} false)
      (furnished ++ [.drift false, .answer 0 agreeing, .answer 0 agreeing]) := by
    refine ⟨?_, ?_, ?_, ?_, ?_, ?_, trivial⟩ <;> rintro h ⟨⟩ <;> trivial
  have hensured : Ensured wayward {}
      [⟨.checking, false, {}⟩, ⟨.ensuring, false, {}⟩] :=
    ⟨_, rfl, .inr ⟨_, rfl, rfl, rfl, rfl⟩⟩
  have hclears : Clears wayward {} ((start {} false).run wayward
      (furnished ++ [.answer 0 agreeing, .answer 0 agreeing])).taken :=
    ⟨[⟨.checking, false, {}⟩, ⟨.ensuring, false, {}⟩], _, rfl, rfl, hensured, rfl⟩
  have hrefuses : Refuses wayward {} ((start {} false).run wayward
      (furnished ++ [.drift false, .answer 0 agreeing, .answer 0 agreeing])).taken :=
    ⟨[⟨.checking, false, {}⟩, ⟨.ensuring, false, {}⟩], _, rfl, nofun, hensured, rfl⟩
  obtain ⟨_, _, -, -, hfailed, -⟩ :=
    ((provisioning_gate wayward).2.2 {} false _ rfl hbad).failed hrefuses
  exact ⟨rfl, hgood, hbad, rfl,
    ((provisioning_gate wayward).2.2 {} false _ rfl hgood).passes.2 hclears, hfailed⟩

end Site

end Sidecar
