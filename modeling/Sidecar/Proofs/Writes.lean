/-
# A move is its writes in a row

The moves of a session are what its tasks do from one point where they wait to
the next, and its threads take each of them apart into single writes. If
nobody comes between the writes of a move, they do what the move does
(`run_ofMove`). So nothing is lost or added by looking at the writes, and what
holds after each of them holds after each move.

There is one lemma for each part of a move, by the part's own cases. Where a
part goes on with what is left to do, so does its thread, and the lemma says
with what and from which session.

Key theorem: `Session.Thread.run_ofMove`.
-/
import Sidecar.Session.Thread

namespace Sidecar.Session.Thread

variable {s : Session} {task : Nat} {a : Answers}

@[simp] theorem run_done (s : Session) : done.run s = s := rfl

@[simp] theorem run_act (f : Session → Session) (next : Session → Thread) (s : Session) :
    (act f next).run s = (next s).run (f s) := rfl

@[simp] theorem run_look (next : Session → Thread) (s : Session) :
    (look next).run s = (next s).run s := rfl

@[simp] theorem run_write (f : Session → Session) (next : Thread) (s : Session) :
    (write f next).run s = next.run (f s) := rfl

/-- A move of stage changes nothing else. -/
theorem moveTo_frame {α : Type} (field : Session → α)
    (h : ∀ stage history, field { s with stage, history } = field s) (next : Stage) :
    field (s.moveTo next) = field s := by
  unfold moveTo
  split
  · exact h _ _
  · rfl

theorem run_fail (f : Failure) (next : Bool → Thread) :
    (fail f next).run s = (next (s.stage.allows .failed)).run (s.fail f) := by
  have hsink : (s.moveTo .failed).sink = s.sink := moveTo_frame sink (fun _ _ => rfl) _
  unfold fail Session.fail
  rw [run_act]
  cases h : s.stage.allows .failed with
  | true => simp [hsink]
  | false => simp [moveTo, h]

theorem run_releaseEndpoint (next : Thread) :
    (releaseEndpoint next).run s = next.run s.releaseEndpoint := by
  unfold releaseEndpoint Session.releaseEndpoint
  rw [run_act]
  cases h : s.resources.endpoint with
  | some e => rfl
  | none =>
    dsimp only
    rw [← h]

theorem run_releaseProcess (next : Option Releasing → Thread) :
    (releaseProcess next).run s = (next s.releaseProcess.2).run s.releaseProcess.1 := by
  unfold releaseProcess Session.releaseProcess
  rw [run_act]
  cases h : s.resources.process with
  | some pid => rfl
  | none =>
    dsimp only
    rw [run_releaseEndpoint, ← h]

theorem run_releaseOn (next : Option Releasing → Thread) (r : Releasing) :
    (releaseOn next r).run s = (next (s.releaseOn r).2).run (s.releaseOn r).1 := by
  cases r with
  | closing => exact run_releaseProcess next
  | terminating => exact run_releaseEndpoint (next none)

theorem run_hide (next : Option Releasing → Thread) {t : Session}
    (ht : t = { s with client := false, handle := none }) :
    (hide next).run s =
      if t.resources.client then
        (next (some .closing)).run { t with resources := { t.resources with client := false } }
      else (next t.releaseProcess.2).run t.releaseProcess.1 := by
  subst ht
  unfold hide
  simp only [run_write, run_act]
  cases h : s.resources.client with
  | true => rfl
  | false =>
    have hsame : { s.resources with client := false } = s.resources := by rw [← h]
    rw [hsame]
    exact run_releaseProcess next

theorem run_release (abort : Bool) (next : Option Releasing → Thread) :
    (release abort next).run s = (next (s.release abort).2).run (s.release abort).1 := by
  unfold release Session.release
  rw [run_act]
  dsimp only
  have hsplit : ∀ (t t' : Session) (x : Session × Option Releasing), 
      (if t.resources.client then (next (some .closing)).run t' else (next x.2).run x.1) =
        (next (if t.resources.client then (t', some .closing) else x).2).run
          (if t.resources.client then (t', some .closing) else x).1 := by
    intro t t' x
    split <;> rfl
  cases abort with
  | false =>
    rw [run_hide next rfl]
    exact hsplit ..
  | true =>
    cases h : s.resources.watcher with
    | none =>
      dsimp only
      rw [run_hide next rfl, if_pos rfl, abortWatcher, h]
      exact hsplit ..
    | some i =>
      dsimp only
      rw [run_write, run_hide next rfl, if_pos rfl, abortWatcher, h]
      exact hsplit ..

theorem run_advance (next : Stage) (go : Thread) (f : Session → Session)
    (h : go.run (s.moveTo next) = f (s.moveTo next)) :
    (advance task next go).run s = s.advance task next f := by
  unfold advance Session.advance
  rw [run_act]
  split
  · exact h
  · next hrefused =>
    rw [moveTo, if_neg hrefused]
    rfl

theorem run_unlessCancelled (go : Thread) (f : Session → Session) (h : go.run s = f s) :
    (unlessCancelled task go).run s = s.resume task f := by
  unfold unlessCancelled resume
  rw [run_look]
  split
  · rfl
  · exact h

@[simp] theorem run_await (p : Point) : (await task p).run s = s.await task p :=
  run_unlessCancelled _ (·.goTo task p) rfl

theorem run_failingOn (f : Failure) (x : Session × Option Releasing) :
    (failingOn task f x.2).run x.1 = Session.failingOn task f x := by
  obtain ⟨t, r⟩ := x
  cases r <;> rfl

@[simp] theorem run_startFails (f : Failure) : (startFails task f).run s = s.startFails task f := by
  rw [startFails, run_fail, run_release, run_failingOn]
  rfl

theorem run_beginStart : (beginStart task).run s = s.beginStart task := by
  have hsettings : (s.moveTo .installing).settings = s.settings :=
    moveTo_frame settings (fun _ _ => rfl) _
  unfold beginStart Session.beginStart
  rw [run_look]
  split
  · rfl
  · refine run_advance _ _ _ ?_
    rw [run_await, hsettings]

theorem run_spawn (e : Endpoint) : (spawn task a e).run s = s.spawn task a e := by
  have hlaunch : ∀ resources, { s with resources }.launchFor e = s.launchFor e := fun _ => rfl
  unfold spawn Session.spawn
  rw [run_write, run_look]
  dsimp only
  rw [hlaunch]
  cases a.spawn (s.launchFor e) with
  | error e => exact run_startFails _
  | ok pid => exact run_advance _ _ (·.await task .binding) (run_await _)

theorem run_launch : (launch task a).run s = s.launch task a := by
  unfold launch Session.launch
  refine run_advance _ _ _ (run_advance _ _ _ ?_)
  generalize (s.moveTo .installed).moveTo .launching = t
  rw [run_act]
  cases h : t.registry.allocate t.settings.transport a.freshPath a.freePort with
  | error e =>
    rw [lease, h]
    exact run_startFails _
  | ok x =>
    obtain ⟨e, registry⟩ := x
    rw [lease, h]
    dsimp only
    split
    · exact run_startFails _
    · exact run_spawn e

theorem run_activate : (activate task).run s = s.activate task := by
  unfold activate Session.activate
  rw [run_look]
  cases s.resources.process with
  | none => rfl
  | some pid =>
    cases s.resources.endpoint with
    | none => rfl
    | some e =>
      dsimp only
      rw [run_write, run_write, run_write, run_write]
      refine run_advance _ _ (fun s => { s with
        resources := { s.resources with watcher := some s.tasks.length }
        tasks := s.tasks ++ [Point.watching]
        sink := s.sink.add .info (runningText pid e) }.startReturns task none) ?_
      rfl

theorem run_bound (ready : Bool) : (bound task ready).run s = s.bound task ready := by
  unfold bound Session.bound
  rw [run_look]
  cases s.resources.endpoint with
  | none => rfl
  | some e =>
    cases ready with
    | false => exact run_startFails _
    | true =>
      simp only [Bool.not_true, Bool.false_eq_true, if_false]
      refine run_advance _ _ _ ?_
      rw [run_look]
      cases e with
      | stdio =>
        cases (s.moveTo .connecting).exit with
        | some exit => exact run_startFails _
        | none => exact run_activate
      | _ => exact run_await _

theorem run_disposingOn (last : Bool) (x : Session × Option Releasing) :
    (disposingOn task last x.2).run x.1 = Session.disposingOn task last x := by
  obtain ⟨t, r⟩ := x
  cases r with
  | some r => rfl
  | none => cases last <;> rfl

theorem run_beginDispose : (beginDispose task).run s = s.beginDispose task := by
  have hclient : (s.moveTo .stopping).resources = s.resources :=
    moveTo_frame resources (fun _ _ => rfl) _
  unfold beginDispose Session.beginDispose
  rw [run_look]
  split
  · rw [run_release, run_disposingOn]
  · dsimp only
    rw [run_write, run_look, hclient]
    split
    · rfl
    · rw [run_release, run_disposingOn]

theorem run_watchOn (x : Session × Option Releasing) :
    (watchOn task x.2).run x.1 = Session.watchOn task x := by
  obtain ⟨t, r⟩ := x
  cases r <;> rfl

/-- One that was not told to stop goes where it goes. -/
theorem settle_of_ne {p q : Point} (hp : s.tasks[task]? = some p) (hne : p ≠ .watched false) :
    s.settle task q = s.goTo task q := by
  rw [settle, hp]
  exact if_neg fun h => hne (Option.some.inj h)

theorem run_lose (f : Failure) {p : Point} (hp : s.tasks[task]? = some p)
    (hne : p ≠ .watched false) : (lose task f).run s = s.lose task f := by
  have htasks : (s.fail f).tasks = s.tasks := by
    unfold Session.fail
    split
    · exact moveTo_frame tasks (fun _ _ => rfl) _
    · rfl
  unfold lose Session.lose
  rw [run_look]
  split
  · exact settle_of_ne hp hne
  · rw [run_fail, run_write, run_done, settle_of_ne (htasks ▸ hp) hne]
    split
    · rfl
    · next h => rw [Session.fail, if_neg h]

theorem run_grant : (grant task).run s = s.grant task := by
  unfold grant Session.grant hold
  rw [run_act]
  cases s.holder with
  | some i => rfl
  | none =>
    cases s.tasks[task]? with
    | none => rfl
    | some p =>
      cases p with
      | startWaiting => exact run_beginStart
      | disposeWaiting => exact run_beginDispose
      | watchWaiting =>
        dsimp only
        rw [run_release, run_watchOn]
        rfl
      | _ => rfl

/-- **A move is its writes in a row.** -/
theorem run_ofMove (s : Session) (a : Answers) (m : Move) : (ofMove a m).run s = s.step a m := by
  cases m with
  | start | dispose | exits | ends | takeEvents => rfl
  | grant task => exact run_grant
  | cancel task =>
    rw [ofMove, run_look, step]
    cases s.cancelled with
    | false => rfl
    | true =>
      cases s.tasks[task]? with
      | none => rfl
      | some p => cases p <;> rfl
  | seeExit task =>
    rw [ofMove, run_look, step]
    cases hp : s.tasks[task]? with
    | none => rfl
    | some p =>
      cases s.exit with
      | none => cases p <;> rfl
      | some e =>
        cases p with
        | watching => exact run_lose _ hp nofun
        | _ => rfl
  | seeEnd task =>
    rw [ofMove, run_look, step]
    cases hp : s.tasks[task]? with
    | none => rfl
    | some p =>
      cases s.ended with
      | none => cases p <;> rfl
      | some reason =>
        cases p with
        | watching => exact settle_of_ne hp nofun
        | _ => rfl
  | checked task found =>
    rw [ofMove, run_look, step]
    cases s.tasks[task]? with
    | none => rfl
    | some p =>
      cases p with
      | checking =>
        refine run_unlessCancelled _ _ ?_
        cases found with
        | true => exact run_await _
        | false => rfl
      | _ => rfl
  | ensured task ok =>
    rw [ofMove, run_look, step]
    cases s.tasks[task]? with
    | none => rfl
    | some p =>
      cases p with
      | ensuring =>
        refine run_unlessCancelled _ _ ?_
        cases ok with
        | true => exact run_await _
        | false => exact run_startFails _
      | _ => rfl
  | listed task ok =>
    rw [ofMove, run_look, step]
    cases s.tasks[task]? with
    | none => rfl
    | some p =>
      cases p with
      | listing =>
        refine run_unlessCancelled _ _ ?_
        cases ok with
        | true => exact run_launch
        | false => exact run_startFails _
      | _ => rfl
  | bound task ready =>
    rw [ofMove, run_look, step]
    cases s.tasks[task]? with
    | none => rfl
    | some p =>
      cases p with
      | binding => exact run_unlessCancelled _ _ (run_bound ready)
      | _ => rfl
  | connected task result =>
    rw [ofMove, run_look, step]
    cases s.tasks[task]? with
    | none => rfl
    | some p =>
      cases p with
      | connecting =>
        refine run_unlessCancelled _ _ ?_
        cases result with
        | ok _ => exact run_activate
        | error e => exact run_startFails _
      | _ => rfl
  | shaken task =>
    rw [ofMove, run_look, step]
    cases s.tasks[task]? with
    | none => rfl
    | some p =>
      cases p with
      | handshaking =>
        dsimp only
        rw [run_release, run_disposingOn]
      | _ => rfl
  | released task =>
    rw [ofMove, run_look, step]
    cases s.tasks[task]? with
    | none => rfl
    | some p =>
      cases p with
      | failing f r =>
        dsimp only
        rw [run_releaseOn, run_failingOn]
      | disposing last r =>
        dsimp only
        rw [run_releaseOn, run_disposingOn]
      | watchReleasing r =>
        dsimp only
        rw [run_releaseOn, run_watchOn]
      | _ => rfl
  | linger task =>
    rw [ofMove, run_look, step]
    cases hp : s.tasks[task]? with
    | none => rfl
    | some p =>
      cases p with
      | lingering reason => exact run_lose _ hp nofun
      | _ => rfl

end Sidecar.Session.Thread
