/-
# Before the verdict on an environment

A start asks whether the environment is there (`Question`). If the installer
may be run, it first asks for a listing and, if that does not show the package,
for the installer; in the end it asks for a listing in any case. Until the
answers decide, the session has come no further than `installing`, unless it
is being disposed of. No move of the session changes that but an answer, and
no start waits for another answer than the one that is due (`Undecided`).

Whatever a move does without an answer is to begin the start, or to lead the
session aside, to its end by `stopping` and `stopped` (`Aside`). An answer to a
start that was not disposed of lets it ask the next question, lets it leave
`installing` for `installed`, or makes it fail right there (`step_answer`). In a
session that was disposed of nobody begins to ask (`unasking_step`).

Key definitions: `Session.Question`, `Session.Aside`, `Session.Undecided`.
Key theorems: `Session.Undecided.step`, `Session.step_answer`,
`Session.unasking_step`.
-/
import Sidecar.Proofs.Attribution
import Sidecar.Proofs.Signals

namespace Sidecar

namespace Stage

/-- A stage that needs no answer about the environment. -/
def isAside : Stage → Bool
  | uninstalled | installing | stopping | stopped => true
  | _ => false

variable {a b : Stage} {way : List Stage}

/-- No way leads to the first stage. -/
theorem Path.of_uninstalled (h : Path a way .uninstalled) : a = .uninstalled := by
  induction way generalizing a with
  | nil => exact h
  | cons x rest ih =>
    obtain ⟨hallows, hrest⟩ := h
    rw [ih hrest] at hallows
    simp [allows] at hallows

/-- A way comes by `installing` at its beginning only. -/
theorem Path.installing_first {rest : List Stage} (h : Path a (way ++ .installing :: rest) b) :
    way = [] ∧ a = .uninstalled := by
  induction way generalizing a with
  | nil =>
    have hfirst : a.isTerminal = false ∧ a = .uninstalled := by simpa [allows] using h.1
    exact ⟨rfl, hfirst.2⟩
  | cons x way ih =>
    obtain ⟨hallows, hrest⟩ := h
    rw [(ih hrest).2] at hallows
    simp [allows] at hallows

/-- There is one way to `installing`. -/
theorem Path.of_installing (h : Path a way .installing) :
    (way = [] ∧ a = .installing) ∨ (way = [.installing] ∧ a = .uninstalled) := by
  obtain ⟨before, hbefore⟩ := h.last
  cases before with
  | nil =>
    obtain ⟨rfl, rfl⟩ := List.cons.inj hbefore
    exact .inl ⟨rfl, rfl⟩
  | cons x before =>
    obtain ⟨rfl, rfl⟩ := List.cons.inj hbefore
    obtain ⟨rfl, ha⟩ := h.installing_first
    exact .inr ⟨rfl, ha⟩

end Stage

namespace Session

/-- What a start asks about its environment. -/
inductive Question where
  /-- Whether the package is listed, before the installer is thought of. -/
  | checking
  /-- To run the installer. -/
  | ensuring
  /-- Whether the package is listed in the end. -/
  | listing
  deriving DecidableEq

/-- What follows from an answer. -/
inductive Upshot where
  | ask (next : Question)
  | pass
  | fail
  deriving DecidableEq

namespace Question

/-- Where a start waits for the answer. -/
def point : Question → Point
  | checking => .checking
  | ensuring => .ensuring
  | listing => .listing

/-- The move with which a start gets the answer. -/
def answer (i : Nat) (ok : Bool) : Question → Move
  | checking => .checked i ok
  | ensuring => .ensured i ok
  | listing => .listed i ok

/-- What a start asks first. -/
def first (st : Settings) : Question := if st.provision.autoInstall then checking else listing

/-- The installer is asked for only if a check has found nothing, and the last word is with a
listing. -/
def upshot : Question → Bool → Upshot
  | checking, true => .ask listing
  | checking, false => .ask ensuring
  | ensuring, true => .ask listing
  | ensuring, false => .fail
  | listing, true => .pass
  | listing, false => .fail

theorem point_injective {d d' : Question} (h : d.point = d'.point) : d = d' := by
  cases d <;> cases d' <;> first | rfl | cases h

theorem holds_point (d : Question) : d.point.holds = true := by cases d <;> rfl

theorem fits_point {s : Session} {d : Question} : d.point.Fits s ↔ s.stage = .installing ∧ s.Bare := by
  cases d <;> rfl

end Question

/-- The question whose answer a task waits for. -/
def Point.question? : Point → Option Question
  | .checking => some .checking
  | .ensuring => some .ensuring
  | .listing => some .listing
  | _ => none

/-- A start waits for an answer about the environment. -/
def Point.asks (p : Point) : Bool := p.question?.isSome

variable {s t s' : Session} {i j : Nat} {p q : Point} {d due : Question} {held : List Nat}
  {a : Answers} {m : Move} {own : List Entry}

theorem Point.question?_eq_some : p.question? = some d ↔ p = d.point := by
  constructor
  · intro h
    cases p <;> cases h <;> rfl
  · rintro rfl
    cases d <;> rfl

theorem Question.point_ne (hp : p.asks = false) : d.point ≠ p := by
  rintro rfl
  cases d <;> cases hp

/-- Nobody begins to ask. -/
def Unasking (s s' : Session) : Prop :=
  ∀ (j : Nat) (d : Question), s'.tasks[j]? = some d.point → s.tasks[j]? = some d.point

theorem Unasking.trans (h : Unasking s t) (h' : Unasking t s') : Unasking s s' :=
  fun j d hd => h j d (h' j d hd)

theorem unasking_goTo (s : Session) (i : Nat) (hp : p.asks = false) : Unasking s (s.goTo i p) := by
  intro j d hd
  rcases goTo_cases hd with ⟨-, hd⟩ | ⟨-, hd⟩
  · exact absurd hd (Question.point_ne hp)
  · exact hd

/-- A part of a move leads to the end of the session at most, and lets nobody ask. -/
structure Aside (s s' : Session) : Prop where
  history : ∃ way, s'.history = s.history ++ way ∧ ∀ st ∈ way, st = .stopping ∨ st = .stopped
  stage : s'.stage = s.stage ∨ s'.stage = .stopping ∨ s'.stage = .stopped
  points : Unasking s s'

theorem Aside.trans (h : Aside s t) (h' : Aside t s') : Aside s s' where
  history := by
    obtain ⟨way, hhist, hway⟩ := h.history
    obtain ⟨way', hhist', hway'⟩ := h'.history
    refine ⟨way ++ way', by rw [hhist', hhist, List.append_assoc], fun st hst => ?_⟩
    rcases List.mem_append.1 hst with hst | hst
    · exact hway st hst
    · exact hway' st hst
  stage := by
    rcases h'.stage with hsame | hend
    · rw [hsame]
      exact h.stage
    · exact .inr hend
  points := h.points.trans h'.points

theorem Aside.frame (history : s'.history = s.history) (stage : s'.stage = s.stage)
    (tasks : s'.tasks = s.tasks) : Aside s s' :=
  ⟨⟨[], by simp [history], by simp⟩, .inl stage, fun j d hd => by rwa [← tasks]⟩

theorem Aside.refl (s : Session) : Aside s s := .frame rfl rfl rfl

theorem aside_goTo (s : Session) (i : Nat) (hp : p.asks = false) : Aside s (s.goTo i p) :=
  ⟨⟨[], by simp [goTo], by simp⟩, .inl rfl, unasking_goTo s i hp⟩

theorem aside_unlock (s : Session) : Aside s s.unlock := .frame rfl rfl rfl

theorem aside_moveTo (s : Session) {next : Stage} (hn : next = .stopping ∨ next = .stopped) :
    Aside s (s.moveTo next) := by
  unfold moveTo
  split
  · exact ⟨⟨[next], rfl, by simpa using hn⟩, .inr hn, fun _ _ hd => hd⟩
  · exact .refl s

theorem aside_call (s : Session) (c : Bool) (hp : p.asks = false) :
    Aside s { s with cancelled := c, tasks := s.tasks ++ [p] } := by
  refine ⟨⟨[], by simp, by simp⟩, .inl rfl, fun j d hd => ?_⟩
  rcases of_getElem?_concat hd with ⟨-, hd⟩ | hd
  · exact absurd hd (Question.point_ne hp)
  · exact hd

theorem aside_abortWatcher (s : Session) : Aside s s.abortWatcher := by
  unfold abortWatcher
  split
  · exact aside_goTo s _ rfl
  · exact .refl s

theorem aside_releaseEndpoint (s : Session) : Aside s s.releaseEndpoint := by
  unfold releaseEndpoint
  split <;> exact .frame rfl rfl rfl

theorem aside_releaseProcess (s : Session) : Aside s s.releaseProcess.1 := by
  unfold releaseProcess
  split
  · exact .frame rfl rfl rfl
  · exact aside_releaseEndpoint s

theorem aside_release (s : Session) (abort : Bool) : Aside s (s.release abort).1 := by
  unfold release
  have habort : Aside s (if abort then s.abortWatcher else s) := by
    cases abort with
    | false => exact .refl s
    | true => exact aside_abortWatcher s
  refine habort.trans ?_
  generalize (if abort then s.abortWatcher else s) = t
  dsimp only
  split
  · exact .frame rfl rfl rfl
  · refine Aside.trans ?_ (aside_releaseProcess _)
    exact .frame rfl rfl rfl

theorem aside_releaseOn (s : Session) (r : Releasing) : Aside s (s.releaseOn r).1 := by
  cases r with
  | closing => exact aside_releaseProcess s
  | terminating => exact aside_releaseEndpoint s

theorem aside_startReturns (s : Session) (i : Nat) (e : Option StartError) :
    Aside s (s.startReturns i e) :=
  (aside_goTo s i rfl).trans (aside_unlock _)

theorem aside_disposingOn {x : Session × Option Releasing} (h : Aside s x.1) (last : Bool) :
    Aside s (disposingOn i last x) := by
  obtain ⟨t, r⟩ := x
  cases r with
  | some r => exact h.trans (aside_goTo t i rfl)
  | none =>
    refine h.trans (Aside.trans ?_ ((aside_goTo _ i rfl).trans (aside_unlock _)))
    cases last with
    | false => exact .refl t
    | true => exact (aside_moveTo t (.inr rfl)).trans (.frame rfl rfl rfl)

theorem aside_beginDispose (s : Session) : Aside s (s.beginDispose i) := by
  unfold beginDispose
  split
  · exact aside_disposingOn (aside_release s true) false
  · have hmove : Aside s (s.moveTo .stopping) := aside_moveTo s (.inl rfl)
    dsimp only
    split
    · exact hmove.trans (aside_goTo _ i rfl)
    · exact aside_disposingOn (hmove.trans (aside_release _ true)) true

/-- Whoever watches a session that nobody has got going finds it disposed of. -/
theorem Sound.aside_lose (h : Sound held s) (hw : s.Watched) (hstage : s.stage.isAside = true)
    (hp : s.tasks[i]? = some p) (hwatches : p.watches = true) (f : Failure) :
    Aside s (s.lose i f) := by
  have hlate := hw i (h.watch i p hp hwatches)
  have hstanding := h.standing
  have hcancelled : s.cancelled = true := by
    unfold Standing at hstanding
    cases hs : s.stage <;> simp_all [Stage.isAside, Stage.isLate]
  unfold Session.lose
  rw [if_pos hcancelled]
  exact aside_goTo s i rfl

/-- An answer about the environment. -/
def Move.isAnswer : Move → Bool
  | .checked .. | .ensured .. | .listed .. => true
  | _ => false

/-- **Without an answer, a session whose environment is not decided on is led aside**, unless a
start begins. -/
theorem Sound.aside_step (h : Sound held s) (hw : s.Watched) (hstage : s.stage.isAside = true)
    (hm : m.isAnswer = false) :
    Aside s (s.step a m) ∨ ∃ i, s.tasks[i]? = some .startWaiting ∧ s.stage = .uninstalled ∧
      s.step a m = { s with holder := some i }.beginStart i := by
  cases m with
  | start => exact .inl (aside_call s _ rfl)
  | dispose => exact .inl (aside_call s _ rfl)
  | takeEvents => exact .inl (.frame rfl rfl rfl)
  | exits | ends =>
    rw [Session.step]
    split <;> exact .inl (.frame rfl rfl rfl)
  | checked | ensured | listed => cases hm
  | grant i =>
    rw [Session.step]
    have hg := granted s i
    generalize s.grant i = s' at hg ⊢
    have hheld : Aside s { s with holder := some i } := .frame rfl rfl rfl
    cases hg with
    | idle => exact .inl (.refl s)
    | refused => exact .inl (aside_goTo s i rfl)
    | start _ hp hfirst => exact .inr ⟨i, hp, hfirst, rfl⟩
    | dispose => exact .inl (hheld.trans (aside_beginDispose _))
    | watch _ hp =>
      have hfailed : s.stage = .failed := h.fits i _ hp
      rw [hfailed] at hstage
      cases hstage
  | bound i ready =>
    rw [Session.step]
    split
    · next hp => rw [(h.fits i _ hp).1] at hstage; cases hstage
    · exact .inl (.refl s)
  | connected i result =>
    rw [Session.step]
    split
    · next hp => rw [(h.fits i _ hp).1] at hstage; cases hstage
    · exact .inl (.refl s)
  | cancel i =>
    rw [Session.step]
    split
    · exact .inl (.refl s)
    · split
      on_goal 6 => exact .inl (.refl s)
      all_goals exact .inl (aside_startReturns s i _)
  | shaken i =>
    rw [Session.step]
    split
    · exact .inl (aside_disposingOn (aside_release s true) true)
    · exact .inl (.refl s)
  | released i =>
    rw [Session.step]
    split
    · next hp => rw [(h.fits i _ hp).1] at hstage; cases hstage
    · exact .inl (aside_disposingOn (aside_releaseOn s _) _)
    · next hp => rw [(h.fits i _ hp).1] at hstage; cases hstage
    · exact .inl (.refl s)
  | seeExit i =>
    rw [Session.step]
    split
    · next hp _ => exact .inl (h.aside_lose hw hstage hp rfl _)
    · exact .inl (.refl s)
  | seeEnd i =>
    rw [Session.step]
    split
    · exact .inl (aside_goTo s i rfl)
    · exact .inl (.refl s)
  | linger i =>
    rw [Session.step]
    split
    · next hp => exact .inl (h.aside_lose hw hstage hp rfl _)
    · exact .inl (.refl s)

/-! ### Asking -/

/-- Whoever asks finds the session in `installing`, and nothing there. -/
theorem Sound.of_asks (h : Sound held s) (hp : s.tasks[i]? = some d.point) :
    s.stage = .installing ∧ s.Bare :=
  Question.fits_point.1 (h.fits i _ hp)

theorem step_of_asks (hp : s.tasks[i]? = some d.point) (hlock : s.holder = some i)
    (hcalm : s.cancelled = false) (hm : m.isAnswer = false) (hi : m.task? = some i) :
    s.step a m = s := by
  cases m <;> cases hi
  case grant => simp [step, grant, hlock]
  case checked => cases hm
  case ensured => cases hm
  case listed => cases hm
  case cancel => simp [step, hcalm]
  all_goals
    rw [step, hp]
    cases d <;> rfl

/-- Whoever asks goes on asking until there is an answer, unless the session is disposed of. -/
theorem Sound.asks_step (h : Sound held s) (hp : s.tasks[i]? = some d.point)
    (hm : m.isAnswer = false) (hcalm : s.cancelled = false) :
    (s.step a m).tasks[i]? = some d.point := by
  by_cases hi : m.task? = some i
  · have hlock := h.lock i _ hp d.holds_point
    rwa [step_of_asks hp hlock hcalm hm hi]
  · have hlt := lt_length_of_getElem? hp
    have hnot : s.resources.watcher ≠ some i := by
      apply h.not_watcher hp <;> cases d <;> rfl
    obtain ⟨task, hne, heff⟩ := exists_effect_ne a hlt hi
    rcases heff.tasks i hlt hne with hsame | ⟨hwatcher, -⟩
    · exact hsame.trans hp
    · exact absurd hwatcher hnot

/-! ### Undecided sessions -/

/-- Nothing has been decided on the environment; the next answer comes to a start at `due`. -/
structure Undecided (s : Session) (due : Question) : Prop where
  stages : ∀ st ∈ s.history, st.isAside = true
  points : ∀ (i : Nat) (d : Question), s.tasks[i]? = some d.point → d = due
  waits : s.stage = .installing → s.cancelled = true ∨ ∃ i : Nat, s.tasks[i]? = some due.point

theorem Undecided.isAside (hu : Undecided s due) (hd : s.Dated) : s.stage.isAside = true := by
  obtain ⟨before, hbefore⟩ := hd
  exact hu.stages _ (by simp [hbefore])

/-- The start still waits, or the session was disposed of. -/
theorem Undecided.waits_or_cancelled (hu : Undecided s due) (hs : Sound held s) (hd : s.Dated) :
    s.stage = .uninstalled ∨ (s.stage = .installing ∧ ∃ i : Nat, s.tasks[i]? = some due.point) ∨
      s.cancelled = true := by
  have haside := hu.isAside hd
  have hstanding := hs.standing
  unfold Session.Standing at hstanding
  cases hstage : s.stage with
  | uninstalled => exact .inl rfl
  | installing =>
    rcases hu.waits hstage with hc | hwaits
    · exact .inr (.inr hc)
    · exact .inr (.inl ⟨rfl, hwaits⟩)
  | stopping | stopped =>
    rw [hstage] at hstanding
    exact .inr (.inr hstanding)
  | _ => rw [hstage] at haside; cases haside

theorem Undecided.aside (hu : Undecided s due) (h : Aside s s')
    (hwaits : s.stage = .installing →
      s'.cancelled = true ∨ ∃ i : Nat, s'.tasks[i]? = some due.point) :
    Undecided s' due where
  stages st hst := by
    obtain ⟨way, hhist, hway⟩ := h.history
    rw [hhist] at hst
    rcases List.mem_append.1 hst with hst | hst
    · exact hu.stages st hst
    · rcases hway st hst with rfl | rfl <;> rfl
  points i d hd := hu.points i d (h.points i d hd)
  waits hstage := by
    rcases h.stage with hsame | hend | hend
    · exact hwaits (hsame ▸ hstage)
    · rw [hend] at hstage; cases hstage
    · rw [hend] at hstage; cases hstage

/-- A start that finds the session disposed of returns. -/
theorem Undecided.withdraws (hu : Undecided s due) (hc : s.cancelled = true)
    (e : Option StartError) : Undecided (s.startReturns i e) due :=
  hu.aside (aside_startReturns s i e) fun _ => .inl hc

/-- A start begins to ask. -/
theorem Sound.undecided_beginStart (h : Sound held s) (hu : Undecided s due)
    (hp : s.tasks[i]? = some .startWaiting) (hstage : s.stage = .uninstalled) :
    Undecided ({ s with holder := some i }.beginStart i) (.first s.settings) := by
  have hi := lt_length_of_getElem? hp
  have hallows : s.stage.allows .installing = true := by rw [hstage]; rfl
  -- nobody asks in the first stage
  have hnobody : ∀ (j : Nat) (d : Question), s.tasks[j]? ≠ some d.point := by
    intro j d hd
    rw [(h.of_asks hd).1] at hstage
    cases hstage
  have hbegin : { s with holder := some i }.beginStart i =
      { s with
        holder := some i, stage := .installing, history := s.history ++ [Stage.installing] }.await i
          (Question.first s.settings).point := by
    unfold beginStart advance Session.moveTo Question.first
    rw [if_neg (by simp [hstage]), if_pos hallows, if_pos hallows, apply_ite Question.point]
    rfl
  have hstages : ∀ st ∈ s.history ++ [Stage.installing], st.isAside = true := by
    intro st hst
    rcases List.mem_append.1 hst with hst | hst
    · exact hu.stages st hst
    · rw [List.mem_singleton.1 hst]; rfl
  rw [hbegin]
  unfold await
  split
  · next hc =>
    refine ⟨hstages, fun j d hd => ?_, fun _ => .inl hc⟩
    exact absurd ((aside_startReturns _ i _).points j d hd) (hnobody j d)
  · refine ⟨hstages, fun j d hd => ?_, fun _ => .inr ⟨i, goTo_self hi⟩⟩
    rcases goTo_cases hd with ⟨-, hd⟩ | ⟨-, hd⟩
    · exact Question.point_injective hd
    · exact absurd hd (hnobody j d)

/-- **No move but an answer decides on the environment.** -/
theorem Undecided.step (hu : Undecided s due) (h : Sound held s) (hd : s.Dated) (hw : s.Watched)
    (hfirst : s.stage = .uninstalled → due = .first s.settings) (hm : m.isAnswer = false) :
    Undecided (s.step a m) due := by
  rcases h.aside_step (a := a) hw (hu.isAside hd) hm with haside | ⟨i, hp, hstage, hbegin⟩
  · apply hu.aside haside
    intro hstage
    rcases hu.waits hstage with hc | ⟨i, hi⟩
    · exact .inl (h.cancelled_stays hc)
    · by_cases hc : s.cancelled = true
      · exact .inl (h.cancelled_stays hc)
      · exact .inr ⟨i, h.asks_step hi hm (Bool.eq_false_iff.2 hc)⟩
  · rw [hbegin, hfirst hstage]
    exact h.undecided_beginStart hu hp hstage

/-- **What an answer does** is what follows from it, unless the session was disposed of. -/
theorem step_answer (hp : s.tasks[i]? = some d.point) (ok : Bool) :
    s.step a (d.answer i ok) =
      if s.cancelled then s.startReturns i (some .cancelled)
      else
        match d.upshot ok with
        | .ask next => s.goTo i next.point
        | .pass => s.launch i a
        | .fail => s.startFails i s.provisioningFailure := by
  cases d <;> cases ok <;>
    simp only [Question.answer, step, hp, Question.point, resume, await, Question.upshot] <;>
    cases hc : s.cancelled <;> simp

/-- A start asks the next question. -/
theorem Sound.undecided_ask (h : Sound held s) (hu : Undecided s due)
    (hp : s.tasks[i]? = some d.point) (next : Question) :
    Undecided (s.goTo i next.point) next := by
  have hi := lt_length_of_getElem? hp
  refine ⟨hu.stages, fun j d' hd' => ?_, fun _ => .inr ⟨i, goTo_self hi⟩⟩
  rcases goTo_cases hd' with ⟨-, hd'⟩ | ⟨hne, hd'⟩
  · exact Question.point_injective hd'
  · have hj := h.lock j _ hd' d'.holds_point
    rw [h.lock i _ hp d.holds_point, Option.some.injEq] at hj
    exact absurd hj.symm hne

/-- A start that leaves `installing` by failing leaves nothing to wait for: it returns at once. -/
theorem startFails_installing (hc : Chronicle s own) (hp : s.tasks[i]? = some p)
    (hstage : s.stage = .installing) (hbare : s.Bare) (f : Failure) :
    (s.startFails i f).failure = some f ∧
      (s.startFails i f).history = [.uninstalled, .installing, .failed] ∧
      (s.startFails i f).tasks[i]? = some (.started (some (.failed f))) := by
  have hterm : s.stage.isTerminal = false := by rw [hstage]; rfl
  obtain ⟨hfailure, hhist⟩ := startFails_record (i := i) hterm f
  refine ⟨hfailure, ?_, ?_⟩
  · obtain ⟨way, hway, hpath⟩ := hc.path
    rw [hstage] at hpath
    rcases hpath.of_installing with ⟨-, hne⟩ | ⟨rfl, -⟩
    · cases hne
    · rw [hhist, hway]
      rfl
  · have hallows : s.stage.allows .failed = true := by rw [hstage]; rfl
    have hfail : s.fail f = { s with
        stage := .failed, history := s.history ++ [.failed], failure := some f,
        sink := f.report s.sink } := by
      unfold Session.fail Session.moveTo
      rw [if_pos hallows, if_pos hallows]
    have hbare' : (s.fail f).Bare := by
      rw [hfail]
      exact ⟨hbare.resources, hbare.handle, hbare.client⟩
    have hi : i < (s.fail f).tasks.length := by
      rw [hfail]
      exact lt_length_of_getElem? hp
    rw [startFails, release_bare hbare']
    exact goTo_self hi

/-- A start whose environment is there leaves `installing` for `installed`. -/
theorem installed_mem_launch (hstage : s.stage = .installing) :
    .installed ∈ (s.launch i a).history := by
  have hallows : s.stage.allows .installed = true := by rw [hstage]; rfl
  obtain ⟨go, hlaunch, hgo⟩ := launch_eq s i a
  obtain ⟨way, hway, -⟩ := (hgo (s.moveTo .installed)).path
  have hmove : (s.moveTo .installed).history = s.history ++ [.installed] := by
    unfold moveTo
    rw [if_pos hallows]
  rw [hlaunch, advance, if_pos hallows, hway, hmove]
  simp

/-! ### Sessions that were disposed of -/

theorem unasking_failingOn {x : Session × Option Releasing} (h : Unasking s x.1) (f : Failure) :
    Unasking s (failingOn i f x) := by
  obtain ⟨t, r⟩ := x
  cases r with
  | some r => exact h.trans (unasking_goTo t i rfl)
  | none => exact h.trans (aside_startReturns t i _).points

theorem unasking_watchOn {x : Session × Option Releasing} (h : Unasking s x.1) :
    Unasking s (watchOn i x) := by
  obtain ⟨t, r⟩ := x
  cases r with
  | some r => exact h.trans (unasking_goTo t i rfl)
  | none => exact h.trans (unasking_goTo t i rfl)

theorem unasking_lose (hc : s.cancelled = true) (f : Failure) : Unasking s (s.lose i f) := by
  unfold lose
  rw [if_pos hc]
  exact unasking_goTo s i rfl

/-- A start that comes too late does not even ask. -/
theorem unasking_beginStart (hc : s.cancelled = true) : Unasking s (s.beginStart i) := by
  unfold beginStart
  split
  · exact (aside_startReturns s i _).points
  · unfold advance
    split
    · have hmove : (s.moveTo .installing).tasks = s.tasks ∧
          (s.moveTo .installing).cancelled = s.cancelled := by
        unfold Session.moveTo
        split <;> exact ⟨rfl, rfl⟩
      dsimp only [await]
      rw [if_pos (hmove.2.trans hc)]
      refine Unasking.trans ?_ (aside_startReturns _ i _).points
      exact fun j d hd => by rwa [← hmove.1]
    · exact (aside_startReturns s i _).points

/-- **Once a session was disposed of, nobody begins to ask**, neither for a listing nor for the
installer. -/
theorem unasking_step (hc : s.cancelled = true) (a : Answers) (m : Move) :
    Unasking s (s.step a m) := by
  have hidle : Unasking s s := fun _ _ hd => hd
  cases m with
  | start => exact (aside_call s _ rfl).points
  | dispose => exact (aside_call s _ rfl).points
  | takeEvents => exact hidle
  | exits | ends =>
    rw [step]
    split <;> exact hidle
  | grant i =>
    rw [step]
    have hg := granted s i
    generalize s.grant i = s' at hg ⊢
    cases hg with
    | idle => exact hidle
    | refused => exact unasking_goTo s i rfl
    | start => exact unasking_beginStart (s := { s with holder := some i }) hc
    | dispose => exact (aside_beginDispose (i := i) { s with holder := some i }).points
    | watch => exact unasking_watchOn (aside_release { s with
        holder := some i, resources := { s.resources with watcher := none } } true).points
  | checked i | ensured i | listed i | bound i | connected i =>
    rw [step]
    split
    · rw [resume, if_pos hc]
      exact (aside_startReturns s i _).points
    · exact hidle
  | cancel i =>
    rw [step]
    split
    · exact hidle
    · split
      on_goal 6 => exact hidle
      all_goals exact (aside_startReturns s i _).points
  | shaken i =>
    rw [step]
    split
    · exact (aside_disposingOn (aside_release s true) true).points
    · exact hidle
  | released i =>
    rw [step]
    split
    · exact unasking_failingOn (aside_releaseOn s _).points _
    · exact (aside_disposingOn (aside_releaseOn s _) _).points
    · exact unasking_watchOn (aside_releaseOn s _).points
    · exact hidle
  | seeExit i =>
    rw [step]
    split
    · exact unasking_lose hc _
    · exact hidle
  | seeEnd i =>
    rw [step]
    split
    · exact unasking_goTo s i rfl
    · exact hidle
  | linger i =>
    rw [step]
    split
    · exact unasking_lose hc _
    · exact hidle

end Session

end Sidecar
