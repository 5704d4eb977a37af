/-
# The moves of a conversation

Each part of a conversation keeps what holds at every time, and either does
nothing, for a reason, or leaves less to do (`Dialogue.Joint.step`).

The writer moves a frame from the queue into the pipe. The stand-in takes the
frame in front for the word it says and adds a note, or goes. The reader takes
the note in front: a reply finds the one call that is under way, a greeting
makes an entry, a complaint becomes an event. The owner goes on with its call
or ends its chore, and then the client is as the script has it
(`Dialogue.Joint.finish`).

Key theorems: `Dialogue.Joint.advances_server`, `Dialogue.Joint.advances_reader`,
`Dialogue.Joint.proceed`, `Dialogue.Joint.step`.
-/
import Sidecar.Proofs.Dialogue

namespace Sidecar.Dialogue

variable {c₀ : Client} {script : List Chore} {s : Dialogue} {vs : List Json} {ws : List Word}
  {ds : List Note} {ns : List Note}

theorem takeFrame?_eq (c : Client) (hw : c.writing = true) : c.takeFrame? =
    match c.queue with
    | [] => none
    | frame :: rest => some (frame, { c with queue := rest }) := by
  unfold Client.takeFrame?
  cases c.queue with
  | nil => rfl
  | cons frame rest => exact if_pos hw

theorem Joint.advances_writer (h : Joint c₀ script s) (n : ℕ) :
    Advances c₀ script s .writer (s.step .writer n) := by
  obtain ⟨hscript, vs, ws, ds, hw, hl⟩ := h
  have same : Joint c₀ script s := ⟨hscript, vs, ws, ds, hw, hl⟩
  rw [step, takeFrame?_eq s.client hw.writing]
  cases hq : s.client.queue with
  | nil => exact ⟨same, .inl ⟨rfl, .inl hq⟩⟩
  | cons frame rest =>
    dsimp only
    split
    · next hput =>
      have hmoved : vs ++ [frame] ++ rest = vs ++ s.client.queue := by rw [hq]; simp
      obtain ⟨fs, hfs, hserve⟩ := hw.served
      refine ⟨⟨hscript, vs ++ [frame], ws, ds, ?_,
        hl.elsewhere rest (s.up.begin frame) s.down s.server s.serving s.answered⟩, .inr ?_⟩
      · exact { hw with
          up := hw.up.begin (List.isEmpty_iff.1 hput) hw.unshut frame
          words := hmoved.symm ▸ hw.words
          served := ⟨fs, hmoved.symm ▸ hfs, hserve⟩ }
      · exact measure_lt_iff.2 (.inr ⟨rfl, .inl (by simp [hq])⟩)
    · next hput => exact ⟨same, .inl ⟨rfl, .inr fun he => hput (by simp [he])⟩⟩

/-! ### The stand-in -/

/-- What the stand-in does about a word other than the last. -/
theorem serve_of_word {v : Json} {w : Word} (h : Says v w) (hw : w ≠ .leave) :
    s.serve v.reread = { s with
      server := { compileOnSave := w.switch s.server.compileOnSave }
      down := (w.note? s.server.compileOnSave).elim s.down fun d => s.down.begin d.frame
      answered := s.answered ++ (w.note? s.server.compileOnSave).toList.map Note.frame } := by
  have hreaction : w.reaction s.server.compileOnSave =
      (w.note? s.server.compileOnSave).elim .silence fun d => .answer d.frame := by
    cases w with
    | leave => exact absurd rfl hw
    | _ => rfl
  unfold serve
  simp only [h s.server, hreaction]
  cases w.note? s.server.compileOnSave <;> simp

theorem serve_of_leave {v : Json} (h : Says v .leave) : s.serve v.reread = s.hangUp := by
  unfold serve
  simp only [h s.server, Word.reaction]

/-- What the stand-in has written after one more word. -/
theorem serve_concat_of_word {v : Json} {w : Word} (h : Says v w) {fs out : List Json}
    {server : StandIn} (hserve : StandIn.serve {} (fs.map Json.reread) = (out, false))
    (hafter : StandIn.after {} (fs.map Json.reread) = server) :
    StandIn.serve {} ((fs ++ [v]).map Json.reread) =
      (out ++ (w.note? server.compileOnSave).toList.map Note.frame, decide (w = .leave)) ∧
    StandIn.after {} ((fs ++ [v]).map Json.reread) =
      { compileOnSave := w.switch server.compileOnSave } := by
  have hconcat := StandIn.serve_concat hserve v.reread
  rw [hafter, h server] at hconcat
  rw [List.map_append, List.map_singleton, hconcat]
  constructor
  · cases w with
    | save uri => cases server.compileOnSave <;> simp [Word.reaction, Word.note?]
    | _ => simp [Word.reaction, Word.note?]
  · rw [StandIn.after] at hafter ⊢
    rw [List.foldl_append, hafter, List.foldl_cons, List.foldl_nil, h server]

/-- The last word is the last one only. -/
theorem Wiring.parting_cons {w : Word} (h : Wiring s vs (w :: ws) ds) :
    w = .leave ∧ ws = [] ∧ s.todo = [] ∨ w ≠ .leave ∧ ∃ ws', Word.leave ∉ ws' ∧
      ws = ws' ++ if s.serving && s.todo.isEmpty then [.leave] else [] := by
  obtain ⟨ws', hleave, hws⟩ := h.parting
  cases ws' with
  | nil =>
    rw [List.nil_append] at hws
    split at hws
    · next hlast =>
      rw [Bool.and_eq_true, List.isEmpty_iff] at hlast
      exact .inl ⟨(List.cons.inj hws).1, (List.cons.inj hws).2, hlast.2⟩
    · cases hws
  | cons w' ws' =>
    rw [List.cons_append] at hws
    obtain ⟨rfl, rfl⟩ := List.cons.inj hws
    rw [List.mem_cons, not_or] at hleave
    exact .inr ⟨Ne.symm hleave.1, ws', hleave.2, rfl⟩

/-- The stand-in has heard a word and is still there. -/
theorem Wiring.after_word {v : Json} {w : Word} {rest : List UInt8}
    (h : Wiring s (v :: vs) (w :: ws) ds) (hserving : s.serving = true) (hput : s.down.unput = [])
    (hrest : s.up.arrived = Frame.encode v ++ rest) (hw : w ≠ .leave)
    (hparting : ∃ ws', Word.leave ∉ ws' ∧
      ws = ws' ++ if s.serving && s.todo.isEmpty then [.leave] else []) :
    Wiring ({ s with up := { s.up with arrived := rest } }.serve v.reread) vs ws
      (ds ++ (w.note? s.server.compileOnSave).toList) := by
  obtain ⟨hsaid, hwords⟩ := List.forall₂_cons.1 h.words
  obtain ⟨fs, hfs, hserve, hafter⟩ := h.served
  rw [hserving] at hserve
  obtain ⟨hserve', hafter'⟩ := serve_concat_of_word hsaid hserve hafter
  rw [serve_of_word hsaid hw]
  refine { h with
    up := h.up.take hrest
    down := ?_
    shut := ?_
    words := hwords
    parting := hparting
    gone := fun hs => ?_
    flag := h.flag
    served := ⟨fs ++ [v], by simp [hfs], ?_, hafter'⟩
    notes := fun d hd => ?_
    finished := fun hr => ?_ }
  · cases w.note? s.server.compileOnSave with
    | none => simpa using h.down
    | some d =>
      rw [Option.toList_some, List.map_append]
      exact h.down.begin hput (by rw [h.shut, hserving]; rfl) d.frame
  · cases w.note? s.server.compileOnSave <;> exact h.shut
  · rw [hserving] at hs
    cases hs
  · simpa [hserving, hw] using hserve'
  · rcases List.mem_append.1 hd with hd | hd
    · exact List.mem_append_left _ (h.notes d hd)
    · exact List.mem_append_right _ (List.mem_map_of_mem hd)
  · rw [(h.finished hr).2] at hserving
    cases hserving

/-- The stand-in was told to exit. -/
theorem Wiring.after_leave {v : Json} {rest : List UInt8} (h : Wiring s (v :: vs) [.leave] ds)
    (hserving : s.serving = true) (hput : s.down.unput = [])
    (hrest : s.up.arrived = Frame.encode v ++ rest) (htodo : s.todo = []) :
    Wiring ({ s with up := { s.up with arrived := rest } }.serve v.reread) vs [] ds := by
  obtain ⟨hsaid, hwords⟩ := List.forall₂_cons.1 h.words
  obtain ⟨fs, hfs, hserve, hafter⟩ := h.served
  rw [hserving] at hserve
  obtain ⟨hserve', hafter'⟩ := serve_concat_of_word hsaid hserve hafter
  have hclosed := h.down.close
  rw [hput, List.append_nil] at hclosed
  have hfs' : s.accepted = fs ++ [v] ++ (vs ++ s.client.queue) := by simp [hfs]
  have hout : StandIn.serve {} ((fs ++ [v]).map Json.reread) = (s.answered, true) := by
    simpa [Word.note?] using hserve'
  rw [serve_of_leave hsaid]
  exact { h with
    up := h.up.take hrest
    down := hclosed
    shut := rfl
    words := hwords
    parting := ⟨[], by simp, rfl⟩
    gone := fun _ => ⟨htodo, rfl⟩
    flag := h.flag
    served := ⟨fs ++ [v], hfs', hout, hafter'⟩
    finished := fun hr => ⟨(h.finished hr).1, rfl⟩ }

theorem Joint.serve (h : s.done ++ s.todo = script) {v : Json} {rest : List UInt8}
    (hw : Wiring s (v :: vs) ws ds) (hl : Ledger c₀ s (ds ++ Word.notes s.server.compileOnSave ws))
    (hserving : s.serving = true) (hput : s.down.unput = [])
    (hrest : s.up.arrived = Frame.encode v ++ rest) :
    Joint c₀ script ({ s with up := { s.up with arrived := rest } }.serve v.reread) := by
  obtain ⟨w, ws, rfl, hsaid⟩ : ∃ w ws', ws = w :: ws' ∧ Says v w := by
    cases hw.words with
    | cons hsaid => exact ⟨_, _, rfl, hsaid⟩
  rcases hw.parting_cons with ⟨rfl, rfl, htodo⟩ | ⟨hleave, hparting⟩
  · have hw' := hw.after_leave hserving hput hrest htodo
    rw [serve_of_leave hsaid] at hw' ⊢
    exact ⟨h, vs, [], ds, hw', hl.elsewhere s.client.queue _ _ s.server _ s.answered⟩
  · have hw' := hw.after_word hserving hput hrest hleave hparting
    rw [serve_of_word hsaid hleave] at hw' ⊢
    refine ⟨h, vs, ws, _, hw', ?_⟩
    rw [Word.notes, ← List.append_assoc] at hl
    exact hl.elsewhere s.client.queue _ _ _ s.serving _

/-- Serving a frame leaves less to do, for the pipe to the stand-in is shorter by that frame. -/
theorem measure_serve {up : Frame.Pipe} (hup : up.weight < s.up.weight) (frame : Json) :
    ({ s with up }.serve frame).measure < s.measure := by
  unfold serve
  dsimp only
  split
  · exact measure_lt_of_up rfl rfl (Nat.add_lt_add_right hup _)
  · exact measure_lt_of_up rfl rfl (Nat.add_lt_add_right hup _)
  · exact measure_lt_of_up rfl rfl (Nat.add_lt_add_of_lt_of_le hup (Nat.zero_le _))

theorem Joint.advances_server (h : Joint c₀ script s) (hf : Feasible c₀ script) (n : ℕ) :
    Advances c₀ script s .server (s.step .server n) := by
  obtain ⟨hscript, vs, ws, ds, hw, hl⟩ := id h
  rw [step]
  by_cases hready : (s.serving && s.down.unput.isEmpty) = true
  · rw [if_pos hready]
    rw [Bool.and_eq_true, List.isEmpty_iff] at hready
    -- the client keeps its end open, so that a read neither comes to an end nor fails
    have hended : s.up.ended = false := Bool.eq_false_iff.2 fun he => by
      have hshut := (hw.up.ended he).1
      rw [hw.unshut] at hshut
      cases hshut
    have hr := hw.up.reading (hw.legible_up hl hscript hf)
    unfold attend
    cases hread : s.up.read with
    | awaiting => exact ⟨h, .inl ⟨rfl, .inr (.inr hread)⟩⟩
    | failed e rest =>
      rw [hread, hended] at hr
      cases hr with
      | cut _ hend => cases hend
    | ended =>
      rw [hread, hended] at hr
      cases hr with
      | ended hend => cases hend
    | done frame rest =>
      rw [hread] at hr
      cases hr with
      | @done v vs _ hrest =>
        exact ⟨Joint.serve hscript hw hl hready.1 hready.2 hrest,
          .inr (measure_serve (Frame.Pipe.weight_take hrest) _)⟩
  · rw [if_neg hready]
    refine ⟨h, .inl ⟨rfl, ?_⟩⟩
    by_cases hserving : s.serving = true
    · exact .inr (.inl fun hput => hready (by simp [hserving, hput]))
    · exact .inl (Bool.eq_false_iff.2 hserving)

/-! ### The reader -/

theorem adopt_of_queue_eq {c : Client} (h : c.queue = s.client.queue) :
    s.adopt c = { s with client := c } := by
  simp [adopt, h]

/-- A reply that is due finds its call. -/
theorem Attends.deliver {p c : Client} {todo : List Chore} {current : Option Nat} {id : Nat}
    {method : String} {due : List (Nat × String)} {extra : List Json}
    (h : Attends p c todo current ((id, method) :: due) extra) (hnext : p.nextId < UInt64.size) :
    id < UInt64.size ∧ due = [] ∧ ∃ x, c.calls = [x] ∧
      c.deliver id (StandIn.reply (.nat id) method) =
        { c with
          pending := [], calls := [{ x with slot := .filled (StandIn.reply (.nat id) method) }] } ∧
      Attends p { c with
        pending := [], calls := [{ x with slot := .filled (StandIn.reply (.nat id) method) }] }
        todo current [] extra := by
  generalize hdue : (id, method) :: due = due' at h
  cases h with
  | idle => cases hdue
  | @busy x d rest params sequel _ _ htodo hact hcalls hid hframe hnext' hphase =>
    generalize hpending : c.pending = pending at hphase
    cases hphase with
    | numbered | registered | answered | settled => cases hdue
    | unanswered hp hs =>
      cases hdue
      exact ⟨hid ▸ hnext, rfl, x, hcalls, deliver_singleton hcalls hp hpending _,
        .busy (x := { x with slot := .filled (StandIn.reply (.nat x.id) x.method) }) htodo hact rfl
          hid hframe hnext' (.answered hp rfl)⟩

/-- The client has read the note in front. -/
theorem Wiring.after_note {d : Note} {rest : List UInt8} (h : Wiring s vs ws (d :: ds))
    (hrest : s.down.arrived = Frame.encode d.frame ++ rest) {c : Client}
    (hqueue : c.queue = s.client.queue) (hwriting : c.writing = s.client.writing)
    (hreading : c.reading = true) :
    Wiring { s with client := c, down := { s.down with arrived := rest } } vs ws ds :=
  { h with
    down := h.down.take hrest
    words := hqueue ▸ h.words
    writing := hwriting.trans h.writing
    served := hqueue ▸ h.served
    notes := fun d' hd' => h.notes d' (List.mem_cons_of_mem _ hd')
    finished := fun hr => by
      rw [hreading] at hr
      cases hr }

theorem dispatch_reply {c : Client} {id : Nat} (hid : id < UInt64.size) (method : String) :
    c.dispatch (StandIn.reply (.nat id) method) = c.deliver id (StandIn.reply (.nat id) method) :=
  Client.dispatch_response c (Client.responds_reply hid method)

/-- What the client makes of the note in front, if there is room for an event. -/
theorem Ledger.after_note {d : Note} (h : Ledger c₀ s (d :: ns))
    (hreading : s.client.reading = true)
    (hroom : s.client.events.length < Client.eventCapacity) (down : Frame.Pipe) :
    d.frame.reread = d.frame ∧ ∃ c, s.client.dispatch d.frame = c ∧ c.queue = s.client.queue ∧
      c.writing = s.client.writing ∧ c.reading = true ∧
      c.calls.map (index ·.progress) = s.client.calls.map (index ·.progress) ∧
      Ledger c₀ { s with client := c, down } ns := by
  obtain ⟨extra, hattends, haccepted⟩ := h.owner
  obtain ⟨k, hentries, hcount⟩ := h.greetings
  have hevents := h.events
  cases d with
  | reply id method =>
    obtain ⟨hid, hdue, x, hcalls, hdeliver, hattends'⟩ := hattends.deliver h.nextId
    refine ⟨Note.reread_frame fun id' method' he => by cases he; exact hid, _,
      (dispatch_reply hid method).trans hdeliver, rfl, rfl, hreading, by simp [hcalls], ?_⟩
    exact { h with
      owner := ⟨extra, hdue ▸ hattends', haccepted⟩
      events := hevents
      greetings := ⟨k, hentries, by simpa using hcount⟩ }
  | greeting =>
    refine ⟨Note.reread_frame (by simp), _, Client.dispatch_greeting _, rfl, rfl, hreading, rfl, ?_⟩
    refine { h with
      owner := ⟨extra, hattends.congr rfl rfl rfl, haccepted⟩
      events := hevents
      greetings := ⟨k + 1, ?_, ?_⟩ }
    · simp [Client.say, hentries, greeted, List.replicate_succ']
    · rw [List.count_cons_self] at hcount
      exact (by omega : k + 1 + ns.count .greeting = s.done.countP Chore.isIntroduction)
  | complaint uri =>
    have hoffer : s.client.offer (.diagnostics uri [Client.syntaxError]) =
        { s.client with events := s.client.events ++ [.diagnostics uri [Client.syntaxError]] } :=
      if_pos hroom
    refine ⟨Note.reread_frame (by simp), _, (Client.dispatch_complaint _ uri).trans hoffer, rfl,
      rfl, hreading, rfl, ?_⟩
    exact { h with
      owner := ⟨extra, hattends.congr rfl rfl rfl, haccepted⟩
      events := by simpa [Note.event?] using hevents
      greetings := ⟨k, hentries, by simpa using hcount⟩ }

/-- The client has come to the end of what the stand-in has written. -/
theorem endReading_idle {c : Client} (hcalls : c.calls = []) (hpending : c.pending = [])
    (hroom : c.events.length < Client.eventCapacity) : c.endReading .closed =
      { c with
        reading := false, closed := some .closed, events := c.events ++ [.closed .closed] } := by
  have hrelease : c.release = c := by
    cases c
    simp_all [Client.release]
  rw [Client.endReading, hrelease]
  exact if_pos hroom

theorem Attends.calls_nil {p c : Client} {current : Option Nat} {due : List (Nat × String)}
    {extra : List Json} (h : Attends p c [] current due extra) : c.calls = [] ∧ c.pending = [] := by
  cases h with
  | idle hcalls hpending => exact ⟨hcalls, hpending⟩
  | busy htodo => cases htodo

theorem Joint.after_end (h : s.done ++ s.todo = script) (hw : Wiring s vs ws [])
    (hl : Ledger c₀ s (Word.notes s.server.compileOnSave ws)) (hserving : s.serving = false)
    (hreading : s.client.reading = true) (hroom : s.client.events.length < Client.eventCapacity) :
    Advances c₀ script s .reader (s.adopt (s.client.step (.endReading .closed))) := by
  obtain ⟨htodo, rfl⟩ := hw.gone hserving
  obtain ⟨extra, hattends, haccepted⟩ := hl.owner
  have hevents := hl.events
  obtain ⟨hcalls, hpending⟩ := (htodo ▸ hattends).calls_nil
  -- the owner is done, so that no call is left to be let go
  have hend := endReading_idle hcalls hpending hroom
  have hqueue : (s.client.endReading .closed).queue = s.client.queue := by rw [hend]
  rw [Client.step, if_pos hreading, adopt_of_queue_eq hqueue, hend]
  refine ⟨⟨h, vs, [], [], ?_, ?_⟩, .inr (measure_lt_of_down rfl rfl rfl ?_)⟩
  · exact { hw with finished := fun _ => ⟨rfl, hserving⟩ }
  · refine { hl with owner := ⟨extra, hattends.congr rfl rfl rfl, haccepted⟩, events := ?_ }
    simp only [Word.notes, List.filterMap_nil, List.append_nil, hreading,
      ↓reduceIte] at hevents
    simp [Word.notes, ← hevents]
  · simp [hreading]

theorem Joint.advances_reader (h : Joint c₀ script s) (hf : Feasible c₀ script)
    (hroom : s.client.events.length < Client.eventCapacity) (n : ℕ) :
    Advances c₀ script s .reader (s.step .reader n) := by
  obtain ⟨hscript, vs, ws, ds, hw, hl⟩ := id h
  rw [step]
  by_cases hreading : s.client.reading = true
  swap
  · rw [if_neg hreading]
    exact ⟨h, .inl ⟨rfl, .inl (Bool.eq_false_iff.2 hreading)⟩⟩
  rw [if_pos hreading]
  have hlegible := hw.legible_down hl hscript hf
  have hr := hw.down.reading hlegible
  unfold hear
  cases hread : s.down.read with
  | awaiting => exact ⟨h, .inl ⟨rfl, .inr hread⟩⟩
  | failed e rest => exact absurd hread (hw.down.read_ne_failed hlegible e rest)
  | ended =>
    obtain ⟨hnil, hended⟩ := hw.down.eq_nil_of_ended hlegible hread
    obtain rfl := List.map_eq_nil_iff.1 hnil
    have hserving : s.serving = false := by
      have hshut := hw.shut
      rw [(hw.down.ended hended).1] at hshut
      simpa using hshut.symm
    exact Joint.after_end hscript hw hl hserving hreading hroom
  | done frame rest =>
    rw [hread] at hr
    generalize hmap : ds.map Note.frame = frames at hr
    cases hr with
    | @done v _ _ hrest =>
      obtain ⟨d, ds, rfl, rfl, -⟩ := List.map_eq_cons_iff.1 hmap
      obtain ⟨hsame, c, hdispatch, hqueue, hwriting, hreading', hcalls, hl'⟩ :=
        Ledger.after_note hl hreading hroom { s.down with arrived := rest }
      have harrive : s.client.step (.arrive d.frame.reread) = c := by
        rw [Client.step, if_pos hreading, hsame, hdispatch]
      dsimp only
      rw [harrive,
        adopt_of_queue_eq (s := { s with down := { s.down with arrived := rest } }) hqueue]
      refine ⟨⟨hscript, vs, ws, ds, hw.after_note hrest hqueue hwriting hreading', hl'⟩,
        .inr (measure_lt_of_down ?_ (congrArg List.length hqueue) rfl ?_)⟩
      · simp only [rank, hcalls]
      · simp only [hreading', hreading]
        exact Nat.add_lt_add_right (Frame.Pipe.weight_take hrest) _

theorem Joint.advances_listener (h : Joint c₀ script s) (n : ℕ) :
    Advances c₀ script s .listener (s.step .listener n) := by
  obtain ⟨hscript, vs, ws, ds, hw, hl⟩ := h
  obtain ⟨extra, hattends, haccepted⟩ := hl.owner
  refine ⟨⟨hscript, vs, ws, ds, ?_, ?_⟩, ?_⟩
  · exact { hw with }
  · refine { hl with owner := ⟨extra, hattends.congr rfl rfl rfl, haccepted⟩, events := ?_ }
    have htaken : s.seen ++ s.client.events.take 1 ++ s.client.events.drop 1 =
        s.seen ++ s.client.events := by
      rw [List.append_assoc, List.take_append_drop]
    exact (congrArg (· ++ _) htaken).trans hl.events
  · by_cases hnil : s.client.events = []
    · refine .inl ⟨?_, hnil⟩
      have hclient : { s.client with events := [] } = s.client := by rw [← hnil]
      simp only [step, Client.step, hnil, List.drop_nil, List.take_nil, List.append_nil, hclient]
    · refine .inr (measure_lt_iff.2 (.inr ⟨rfl, .inr ⟨rfl, .inr ⟨rfl, .inr ⟨rfl, ?_⟩⟩⟩⟩))
      have hpos := List.length_pos_iff.2 hnil
      simp only [step, Client.step, List.length_drop]
      omega

/-! ### The owner -/

theorem adopt_of_queue_append {c : Client} {fs : List Json} (h : c.queue = s.client.queue ++ fs) :
    s.adopt c = { s with client := c, accepted := s.accepted ++ fs } := by
  simp [adopt, h]

/-- The stand-in stays as long as the owner has something to do. -/
theorem Wiring.serving_of_todo (h : Wiring s vs ws ds) (htodo : s.todo ≠ []) :
    s.serving = true := by
  by_contra hs
  exact htodo (h.gone (Bool.eq_false_iff.2 hs)).1

theorem Wiring.reading_of_todo (h : Wiring s vs ws ds) (htodo : s.todo ≠ []) :
    s.client.reading = true := by
  by_contra hr
  exact htodo (h.gone (h.finished (Bool.eq_false_iff.2 hr)).2).1

/-- The owner has handed over some frames; if it has nothing more to do, the last of them tells the
stand-in to exit. -/
theorem Wiring.extend (h : Wiring s vs ws ds) (htodo : s.todo ≠ []) {c : Client} {fs : List Json}
    {us : List Word} (hqueue : c.queue = s.client.queue ++ fs) (hwriting : c.writing = true)
    (hreading : c.reading = s.client.reading) (hsaid : List.Forall₂ Says fs us)
    {todo done : List Chore} (hlast : todo ≠ [] ∧ .leave ∉ us ∨ todo = [] ∧ us = [.leave])
    (hflag : us.foldl Word.switch (s.done.foldl Chore.switch false) = done.foldl Chore.switch false)
    (current : Option Nat) (results : List (Except ClientError Json)) :
    Wiring { s with client := c, accepted := s.accepted ++ fs, todo, done, current, results }
      vs (ws ++ us) ds := by
  have hserving := h.serving_of_todo htodo
  obtain ⟨ws', hleave, hws⟩ := h.parting
  rw [if_neg (by simp [htodo]), List.append_nil] at hws
  subst hws
  obtain ⟨fs', hfs, hserve⟩ := h.served
  refine { h with
    words := ?_
    parting := ?_
    gone := fun hs => ?_
    writing := hwriting
    flag := ?_
    served := ⟨fs', ?_, hserve⟩
    finished := fun hr => h.finished (hreading ▸ hr) }
  · rw [hqueue, ← List.append_assoc]
    exact List.rel_append h.words hsaid
  · rcases hlast with ⟨hne, hno⟩ | ⟨rfl, rfl⟩
    · exact ⟨ws ++ us, by simp [hleave, hno], by simp [hne]⟩
    · exact ⟨ws, hleave, by simp [hserving]⟩
  · rw [hserving] at hs
    cases hs
  · rw [List.foldl_append, h.flag]
    exact hflag
  · simp [hfs, hqueue]

/-- The words of the request that a move hands over, if any. -/
def asking (ask : Option (Nat × String)) : List Word := ask.toList.map fun r => .ask r.1 r.2

theorem notes_asking (on : Bool) (ask : Option (Nat × String)) :
    (Word.notes on (asking ask)).filterMap Note.due? = ask.toList ∧
    (Word.notes on (asking ask)).filterMap Note.event? = [] ∧
    (Word.notes on (asking ask)).count .greeting = 0 := by
  cases ask <;> simp [asking, Word.notes, Word.note?, Note.due?, Note.event?]

/-- The owner has made a move that does not end its chore. -/
theorem Joint.within (hscript : s.done ++ s.todo = script) (hw : Wiring s vs ws ds)
    (hl : Ledger c₀ s (ds ++ Word.notes s.server.compileOnSave ws)) (htodo : s.todo ≠ [])
    {calls : List Client.Call} {pending : List Nat} {nextId : Nat} {current : Option Nat}
    {fs extra : List Json} {ask : Option (Nat × String)} {due : List (Nat × String)}
    (hdue : (ds ++ Word.notes s.server.compileOnSave ws).filterMap Note.due? = due)
    (hsaid : List.Forall₂ Says fs (asking ask)) (hmethods : ∀ v ∈ fs, CallsMethod v)
    (hattends : Attends (plan c₀ s)
      { s.client with calls, pending, nextId, queue := s.client.queue ++ fs } s.todo current
      (due ++ ask.toList) extra)
    (haccepted : s.accepted ++ fs = (plan c₀ s).queue ++ extra) :
    Joint c₀ script { s with
      client := { s.client with calls, pending, nextId, queue := s.client.queue ++ fs }
      accepted := s.accepted ++ fs
      current } := by
  obtain ⟨k, hentries, hcount⟩ := hl.greetings
  obtain ⟨hdue', hevent', hcount'⟩ := notes_asking (ws.foldl Word.switch s.server.compileOnSave) ask
  refine ⟨hscript, vs, ws ++ asking ask, ds, ?_, ?_⟩
  · refine hw.extend (c := { s.client with calls, pending, nextId, queue := s.client.queue ++ fs })
      htodo rfl hw.writing rfl hsaid (.inl ⟨htodo, by simp [asking]⟩) ?_ _ _
    cases ask <;> rfl
  · rw [Word.notes_append, ← List.append_assoc]
    refine { hl with
      owner := ⟨extra, ?_, haccepted⟩
      methods := ?_
      events := ?_
      greetings := ⟨k, hentries, ?_⟩ }
    · rw [List.filterMap_append, hdue, hdue']
      exact hattends
    · intro v hv
      exact (List.mem_append.1 hv).elim (hl.methods v) (hmethods v)
    · rw [List.filterMap_append, hevent', List.append_nil]
      exact hl.events
    · rw [List.count_append, hcount', Nat.add_zero]
      exact hcount

/-- The same where no frame is handed over. -/
theorem Joint.silently (hscript : s.done ++ s.todo = script) (hw : Wiring s vs ws ds)
    (hl : Ledger c₀ s (ds ++ Word.notes s.server.compileOnSave ws)) (htodo : s.todo ≠ [])
    {calls : List Client.Call} {pending : List Nat} {nextId : Nat} {current : Option Nat}
    {extra : List Json} {due : List (Nat × String)}
    (hdue : (ds ++ Word.notes s.server.compileOnSave ws).filterMap Note.due? = due)
    (hattends :
      Attends (plan c₀ s) { s.client with calls, pending, nextId } s.todo current due extra)
    (haccepted : s.accepted = (plan c₀ s).queue ++ extra) :
    Joint c₀ script { s with client := { s.client with calls, pending, nextId }, current } := by
  have hsaid : List.Forall₂ Says [] (asking none) := .nil
  have hattends' : Attends (plan c₀ s)
      { s.client with calls, pending, nextId, queue := s.client.queue ++ [] } s.todo current
      (due ++ (none : Option (Nat × String)).toList) extra := by
    rw [Option.toList_none, List.append_nil, List.append_nil]
    exact hattends
  have hjoint := Joint.within hscript hw hl htodo hdue hsaid (by simp) hattends'
    (by simpa using haccepted)
  simpa using hjoint

/-- The shutdown is the last chore, and the only one that tells the stand-in to exit. -/
theorem Feasible.last_words (hf : Feasible c₀ script) {done rest : List Chore} {d : Chore}
    (hscript : done ++ d :: rest = script) :
    rest ≠ [] ∧ .leave ∉ d.words ∨ rest = [] ∧ d.words = [.leave] := by
  obtain ⟨chores, hchores, hno⟩ := hf.last
  rw [← hscript] at hchores
  rw [Chore.leave_mem_words]
  rcases List.eq_nil_or_concat rest with rfl | ⟨rest', d', rfl⟩
  · obtain ⟨-, hd⟩ := List.append_inj' hchores rfl
    obtain ⟨rfl, -⟩ := List.cons.inj hd
    exact .inr ⟨rfl, rfl⟩
  · refine .inl ⟨by simp, fun hd => hno ?_⟩
    have hfront : (done ++ d :: rest') ++ [d'] = chores ++ [.shutdown] := by simpa using hchores
    rw [← (List.append_inj' hfront rfl).1, hd]
    simp

/-- The owner has ended its chore, and the client is as planned. -/
theorem Joint.finish (hscript : s.done ++ s.todo = script) (hf : Feasible c₀ script)
    (hw : Wiring s vs ws ds) (hl : Ledger c₀ s (ds ++ Word.notes s.server.compileOnSave ws))
    {d : Chore} {rest : List Chore} (htodo : s.todo = d :: rest)
    (hdue : (ds ++ Word.notes s.server.compileOnSave ws).filterMap Note.due? = [])
    {c p : Client} (hp : Chore.perform (plan c₀ s) d = p) {fs : List Json}
    (hqueue : c.queue = s.client.queue ++ fs) (hsaid : List.Forall₂ Says fs d.words)
    (hmethods : ∀ v ∈ fs, CallsMethod v) (haccepted : s.accepted ++ fs = p.queue)
    (hwriting : c.writing = true ∧ p.writing = true) (hreading : c.reading = s.client.reading)
    (hlanguage : c.language = p.language) (hversions : c.versions = p.versions)
    (hnext : c.nextId = p.nextId ∧ p.nextId < UInt64.size)
    (hcalls : c.calls = [] ∧ c.pending = []) (hevents : c.events = s.client.events)
    (hsink : c.sink = s.client.sink) (results : List (Except ClientError Json))
    (hresults : results = s.results ++ d.answer?.toList) :
    Joint c₀ script { s with
      client := c, accepted := s.accepted ++ fs, todo := rest, done := s.done ++ [d],
      current := none, results } := by
  have hplan : (s.done ++ [d]).foldl Chore.perform c₀ = p := by
    rw [List.foldl_append, ← hp]
    rfl
  have hflag : d.words.foldl Word.switch (s.done.foldl Chore.switch false) =
      (s.done ++ [d]).foldl Chore.switch false := by
    rw [Chore.switch_words, List.foldl_append]
    rfl
  obtain ⟨k, hentries, hcount⟩ := hl.greetings
  have hevents' := hl.events
  have hne : s.todo ≠ [] := by simp [htodo]
  have hopen := hw.reading_of_todo hne
  have hlast := hf.last_words (htodo ▸ hscript)
  refine ⟨by simpa [htodo] using hscript, vs, ws ++ d.words, ds, ?_, ?_⟩
  · exact hw.extend hne hqueue hwriting.1 hreading hsaid hlast hflag _ _
  · rw [Word.notes_append, ← List.append_assoc]
    refine {
      language := hlanguage.trans (congrArg Client.language hplan.symm)
      versions := hversions.trans (congrArg Client.versions hplan.symm)
      writing := (congrArg Client.writing hplan).trans hwriting.2
      nextId := (congrArg Client.nextId hplan).trans_lt hnext.2
      owner := ⟨[], ?_, ?_⟩
      methods := fun v hv => (List.mem_append.1 hv).elim (hl.methods v) (hmethods v)
      results := ?_
      events := ?_
      greetings := ⟨k, hsink ▸ hentries, ?_⟩ }
    · rw [List.filterMap_append, hdue, Chore.due_words]
      exact .idle hcalls.1 hcalls.2 (hnext.1.trans (congrArg Client.nextId hplan.symm))
    · rw [plan, hplan, List.append_nil]
      exact haccepted
    · rw [hresults, hl.results, List.filterMap_append]
      cases hanswer : d.answer? <;> simp [hanswer]
    · simp only [hevents, hreading, hopen, ↓reduceIte, List.append_nil, List.filterMap_append,
        Chore.complaints_append, List.map_append, Chore.events_words] at hevents' ⊢
      rw [← hevents', hw.flag]
      simp only [List.append_assoc]
    · rw [List.count_append, Chore.greetings_words, ← Nat.add_assoc, hcount]
      exact List.countP_append.symm

/-- A request that was answered gives its result, and the frames that follow it are handed over. -/
theorem conclude_verdict {d : Chore} {method : String} {params : Option Json} {sequel : Sequel}
    (hact : d.act = .ask method params sequel) {c : Client} (hw : c.writing = true) :
    ∃ answer, d.answer? = some answer ∧
      Conversation.conclude c sequel (Client.verdict method) =
        (answer, { c with queue := c.queue ++ Chore.sequelFrames sequel }) ∧
      List.Forall₂ Says (Chore.sequelFrames sequel) d.words ∧
      ∀ v ∈ Chore.sequelFrames sequel, CallsMethod v := by
  cases d <;> cases hact
  case introduce processId root =>
    refine ⟨_, rfl, ?_, .cons (says_initialized _) .nil,
      List.forall_mem_singleton.2 (callsMethod_notification _ _)⟩
    simp [Conversation.conclude, Client.verdict, Client.notify_of_writing hw, Chore.sequelFrames]
  case request =>
    refine ⟨_, rfl, ?_, .nil, by simp [Chore.sequelFrames]⟩
    rw [Chore.sequelFrames, List.append_nil]
    cases Client.verdict method <;> rfl
  case execute command arguments =>
    refine ⟨_, rfl, ?_, .nil, by simp [Chore.sequelFrames]⟩
    rw [Chore.sequelFrames, List.append_nil]
    rfl
  case shutdown =>
    refine ⟨_, rfl, ?_, .cons (says_exit _) .nil,
      List.forall_mem_singleton.2 (callsMethod_notification _ _)⟩
    simp [Conversation.conclude, Client.verdict, Client.notify_of_writing hw, Chore.sequelFrames]

/-- A move of the owner: at most one frame is handed over, and less is left for the owner to do. -/
structure Moves (c₀ : Client) (script : List Chore) (s s' : Dialogue) : Prop where
  joint : Joint c₀ script s'
  queue : s'.client.queue.length ≤ s.client.queue.length + 1
  rank : s'.rank < s.rank

theorem Joint.tell (hscript : s.done ++ s.todo = script) (hf : Feasible c₀ script)
    (hw : Wiring s vs ws ds) (hl : Ledger c₀ s (ds ++ Word.notes s.server.compileOnSave ws))
    {d : Chore} {rest : List Chore} (htodo : s.todo = d :: rest) {m : Client.Move}
    (hact : d.act = .tell m)
    (hdue : (ds ++ Word.notes s.server.compileOnSave ws).filterMap Note.due? = [])
    (hcalls : s.client.calls = [] ∧ s.client.pending = [])
    (hnext : s.client.nextId = (plan c₀ s).nextId) (haccepted : s.accepted = (plan c₀ s).queue) :
    Moves c₀ script s ((s.adopt (s.client.step m)).tick) := by
  obtain ⟨versions, frame, hc, hp, hsaid, hmethod⟩ :=
    Chore.tell_eq hact hw.writing hl.writing hl.language hl.versions
  have hperform : Chore.perform (plan c₀ s) d =
      { plan c₀ s with versions, queue := (plan c₀ s).queue ++ [frame] } := by
    rw [Chore.perform, hact]
    exact hp
  have hanswer : d.answer? = none := by cases d <;> cases hact <;> rfl
  have hqueue : (s.client.step m).queue = s.client.queue ++ [frame] := by rw [hc]
  rw [adopt_of_queue_append hqueue, hc]
  have hjoint := Joint.finish hscript hf hw hl htodo hdue hperform
    (c := { s.client with versions, queue := s.client.queue ++ [frame] }) rfl hsaid
    (List.forall_mem_singleton.2 hmethod) (by rw [haccepted]) ⟨hw.writing, hl.writing⟩ rfl
    hl.language rfl ⟨hnext, hl.nextId⟩ hcalls rfl rfl s.results (by simp [hanswer])
  refine ⟨?_, by simp [tick], ?_⟩
  · simpa only [tick, htodo, List.drop_one, List.tail_cons, List.take_one, List.head?_cons,
      Option.toList_some] using hjoint
  · simp [rank, tick, htodo, hcalls.1]

theorem pursue_singleton {x : Client.Call} (hcurrent : s.current = some x.id)
    (hcalls : s.client.calls = [x]) (method : String) (params : Option Json) (sequel : Sequel) :
    s.pursue method params sequel =
      match x.progress with
      | .numbered => s.adopt (s.client.register x.id)
      | .registered => s.adopt (s.client.submit x.id)
      | .waiting => s.adopt (s.client.collect x.id)
      | .leaving _ => s.adopt (s.client.withdraw x.id)
      | .done outcome =>
        { (s.adopt ((Conversation.conclude s.client sequel outcome).2.abandon x.id)).tick with
          results := s.results ++ [(Conversation.conclude s.client sequel outcome).1] } := by
  simp only [pursue, hcurrent, call?_singleton hcalls, Option.map_some]
  cases x.progress <;> rfl

/-- Less is left to do once a call has come further. -/
theorem rank_lt {s' : Dialogue} (i : ℕ) (htodo : s.todo ≠ []) (hsame : s'.todo = s.todo)
    (hbefore : (s.client.calls.map (index ·.progress)).sum = i) (hi : i < 4)
    (hafter : (s'.client.calls.map (index ·.progress)).sum = i + 1) : s'.rank < s.rank := by
  have hpos := List.length_pos_iff.2 htodo
  rw [rank, rank, hsame, hbefore, hafter]
  omega

/-- The owner makes a request. -/
theorem Joint.call (hscript : s.done ++ s.todo = script) (hw : Wiring s vs ws ds)
    (hl : Ledger c₀ s (ds ++ Word.notes s.server.compileOnSave ws)) {d : Chore} {rest : List Chore}
    (htodo : s.todo = d :: rest) {method : String} {params : Option Json} {sequel : Sequel}
    (hact : d.act = .ask method params sequel)
    (hdue : (ds ++ Word.notes s.server.compileOnSave ws).filterMap Note.due? = [])
    (hcalls : s.client.calls = []) (hpending : s.client.pending = [])
    (hnext : s.client.nextId = (plan c₀ s).nextId) (haccepted : s.accepted = (plan c₀ s).queue) :
    Moves c₀ script s
      { s.adopt (s.client.step (.call method params)) with current := some s.client.nextId } := by
  have hne : s.todo ≠ [] := by simp [htodo]
  have hjoint := Joint.silently hscript hw hl hne hdue
    (.busy (x := {
        id := s.client.nextId, method, frame := Message.request s.client.nextId method params })
      htodo hact rfl hnext rfl rfl (.numbered rfl rfl)) (by simpa using haccepted)
  have hqueue : (s.client.step (.call method params)).queue = s.client.queue := rfl
  rw [adopt_of_queue_eq hqueue]
  refine ⟨?_, by simp [Client.step, Client.call], ?_⟩
  · simpa [Client.step, Client.call, hcalls, hpending, hnext] using hjoint
  · exact rank_lt 0 hne rfl (by simp [hcalls]) (by decide)
      (by simp [Client.step, Client.call, hcalls, index])

/-- The owner goes on with its request, or waits for the reply. -/
theorem Joint.pursue (hscript : s.done ++ s.todo = script) (hf : Feasible c₀ script)
    (hw : Wiring s vs ws ds) (hl : Ledger c₀ s (ds ++ Word.notes s.server.compileOnSave ws))
    {d : Chore} {rest : List Chore} (htodo : s.todo = d :: rest) {x : Client.Call}
    {params : Option Json} {sequel : Sequel} (hact : d.act = .ask x.method params sequel)
    (hcurrent : s.current = some x.id) (hcalls : s.client.calls = [x])
    (hid : x.id = (plan c₀ s).nextId)
    (hframe : x.frame = Message.request x.id x.method params)
    (hnext : s.client.nextId = ((plan c₀ s).nextId + 1) % UInt64.size)
    {pending : List Nat} {due : List (Nat × String)} {extra : List Json}
    (hpending : s.client.pending = pending) (hphase : Phase x pending due extra)
    (hdue : (ds ++ Word.notes s.server.compileOnSave ws).filterMap Note.due? = due)
    (haccepted : s.accepted = (plan c₀ s).queue ++ extra) :
    s.pursue x.method params sequel = s ∧ x.progress = .waiting ∧ x.slot = .empty ∨
      Moves c₀ script s (s.pursue x.method params sequel) := by
  have hne : s.todo ≠ [] := by simp [htodo]
  rw [pursue_singleton hcurrent hcalls]
  cases hphase with
  | numbered hp hs =>
    right
    have hregister := register_singleton hcalls hp
    have hqueue : (s.client.register x.id).queue = s.client.queue := by rw [hregister]
    have hjoint := Joint.silently hscript hw hl hne hdue
      (.busy (x := { x with progress := .registered }) htodo hact rfl hid hframe hnext
        (.registered rfl hs)) haccepted
    simp only [hp]
    rw [adopt_of_queue_eq hqueue, hregister]
    refine ⟨?_, by simp, ?_⟩
    · simpa [hpending, hcurrent] using hjoint
    · exact rank_lt 1 hne rfl (by simp [hcalls, hp, index]) (by decide) (by simp [index])
  | registered hp hs =>
    right
    have hsubmit := submit_singleton hcalls hp hw.writing
    have hqueue : (s.client.submit x.id).queue = s.client.queue ++ [x.frame] := by rw [hsubmit]
    have hsaid : List.Forall₂ Says [x.frame] (asking (some (x.id, x.method))) := by
      rw [hframe]
      exact .cons (says_request _ _ _) .nil
    have hjoint := Joint.within hscript hw hl hne hdue hsaid
      (List.forall_mem_singleton.2 (hframe ▸ callsMethod_request _ _ _))
      (.busy (x := { x with progress := .waiting }) htodo hact rfl hid hframe hnext
        (.unanswered rfl hs)) (by rw [haccepted, List.append_nil])
    simp only [hp]
    rw [adopt_of_queue_append hqueue, hsubmit]
    refine ⟨?_, by simp, ?_⟩
    · simpa [hpending, hcurrent] using hjoint
    · exact rank_lt 2 hne rfl (by simp [hcalls, hp, index]) (by decide) (by simp [index])
  | unanswered hp hs =>
    left
    simp only [hp]
    rw [collect_empty hcalls hp hs, adopt_of_queue_eq rfl]
    exact ⟨rfl, trivial, hs⟩
  | answered hp hs =>
    right
    have hcollect := collect_filled hcalls hp hs
    rw [Client.outcomeOf_reply] at hcollect
    have hqueue : (s.client.collect x.id).queue = s.client.queue := by rw [hcollect]
    have hjoint := Joint.silently hscript hw hl hne hdue
      (.busy (x := { x with progress := .done (Client.verdict x.method) }) htodo hact rfl hid hframe
        hnext (.settled rfl)) haccepted
    simp only [hp]
    rw [adopt_of_queue_eq hqueue, hcollect]
    refine ⟨?_, by simp, ?_⟩
    · simpa [hpending, hcurrent] using hjoint
    · exact rank_lt 3 hne rfl (by simp [hcalls, hp, index]) (by decide) (by simp [index])
  | settled hp =>
    right
    obtain ⟨answer, hanswer, hconclude, hsaid, hmethods⟩ := conclude_verdict hact hw.writing
    have hperform : Chore.perform (plan c₀ s) d = { plan c₀ s with
        nextId := ((plan c₀ s).nextId + 1) % UInt64.size
        queue := (plan c₀ s).queue ++ x.frame :: Chore.sequelFrames sequel } := by
      rw [Chore.perform, hact, hframe, hid]
    have hjoint := Joint.finish hscript hf hw hl htodo hdue hperform
      (c := { s.client with calls := [], queue := s.client.queue ++ Chore.sequelFrames sequel }) rfl
      hsaid hmethods (by simp [haccepted]) ⟨hw.writing, hl.writing⟩ rfl hl.language hl.versions
      ⟨hnext, Nat.mod_lt _ (by decide)⟩ ⟨rfl, hpending⟩ rfl rfl (s.results ++ [answer])
      (by simp [hanswer])
    have habandon : ({ s.client with queue := s.client.queue ++ Chore.sequelFrames sequel } :
        Client).abandon x.id =
          { s.client with calls := [], queue := s.client.queue ++ Chore.sequelFrames sequel } := by
      simp [Client.abandon, hcalls]
    simp only [hp, hconclude, habandon]
    rw [adopt_of_queue_append rfl]
    refine ⟨?_, ?_, ?_⟩
    · simpa [tick, htodo] using hjoint
    · have hshort : (Chore.sequelFrames sequel).length ≤ 1 := by cases sequel <;> decide
      simp only [tick, List.length_append]
      omega
    · simp only [rank, tick, htodo, hcalls]
      simp [hp, index]
      omega

/-- **A move of the owner** does nothing while the reply is awaited, and else leaves it less to
do. -/
theorem Joint.proceed (h : Joint c₀ script s) (hf : Feasible c₀ script) (htodo : s.todo ≠ []) :
    s.proceed = s ∧ (∃ x ∈ s.client.calls, x.progress = .waiting ∧ x.slot = .empty) ∨
      Moves c₀ script s s.proceed := by
  obtain ⟨hscript, vs, ws, ds, hw, hl⟩ := h
  obtain ⟨extra, hattends, haccepted⟩ := hl.owner
  generalize hcurrent : s.current = current at hattends
  generalize hdue : (ds ++ Word.notes s.server.compileOnSave ws).filterMap Note.due? = due
    at hattends
  obtain ⟨d, rest, htodo'⟩ := List.exists_cons_of_ne_nil htodo
  unfold Dialogue.proceed
  cases hattends with
  | idle hcalls hpending hnext =>
    right
    rw [List.append_nil] at haccepted
    rw [htodo']
    cases hact : d.act with
    | tell m =>
      simp only [List.head?_cons, Option.map_some, hact]
      exact Joint.tell hscript hf hw hl htodo' hact hdue ⟨hcalls, hpending⟩ hnext haccepted
    | ask method params sequel =>
      simp only [List.head?_cons, Option.map_some, hact, Dialogue.pursue, hcurrent]
      exact Joint.call hscript hw hl htodo' hact hdue hcalls hpending hnext haccepted
  | @busy x d' rest' params sequel _ _ htodo'' hact hcalls hid hframe hnext hphase =>
    rw [htodo'']
    simp only [List.head?_cons, Option.map_some, hact]
    exact (Joint.pursue hscript hf hw hl htodo'' hact hcurrent hcalls hid hframe hnext rfl hphase
      hdue haccepted).imp_left fun hwait => ⟨hwait.1, x, by simp [hcalls], hwait.2⟩

theorem Joint.advances_owner (h : Joint c₀ script s) (hf : Feasible c₀ script) (n : ℕ) :
    Advances c₀ script s .owner (s.step .owner n) := by
  rw [step]
  by_cases htodo : s.todo = []
  · have hproceed : s.proceed = s := by simp [Dialogue.proceed, htodo]
    rw [hproceed, ite_self]
    exact ⟨h, .inl ⟨rfl, .inl htodo⟩⟩
  rcases h.proceed hf htodo with ⟨hsame, hwait⟩ | hmoves
  · rw [hsame, ite_self]
    exact ⟨h, .inl ⟨rfl, .inr (.inr hwait)⟩⟩
  · split
    · next hfull =>
      -- the one frame of a move always fits into an empty queue
      refine ⟨h, .inl ⟨rfl, .inr (.inl fun hnil => ?_)⟩⟩
      have hone := hmoves.queue
      rw [hnil, List.length_nil] at hone
      exact absurd (hfull.trans_le hone) (by decide)
    · exact ⟨hmoves.joint, .inr (measure_lt_iff.2 (.inl hmoves.rank))⟩

/-- **Every part keeps what holds at every time**, and does nothing, for a reason, or leaves less to
do. -/
theorem Joint.step (h : Joint c₀ script s) (hf : Feasible c₀ script) (part : Part) (n : ℕ)
    (hroom : part = .reader → s.client.events.length < Client.eventCapacity) :
    Advances c₀ script s part (s.step part n) := by
  cases part with
  | owner => exact h.advances_owner hf n
  | writer => exact h.advances_writer n
  | putUp => exact h.advances_putUp n
  | carryUp => exact h.advances_carryUp n
  | server => exact h.advances_server hf n
  | putDown => exact h.advances_putDown n
  | carryDown => exact h.advances_carryDown n
  | notice => exact h.advances_notice n
  | reader => exact h.advances_reader hf (hroom rfl) n
  | listener => exact h.advances_listener n

end Sidecar.Dialogue
