/-
# Positions as the user sees them

A server counts lines and characters from zero, and the user sees them counted
from one. Between the two a position is a number in a frame, a number of 32
bits in a diagnostic, and a number again in the text for the user.

A frame may tell any number. What is accepted are the numbers of 32 bits, all of
them (`Tells.admitted_iff`), and what the user sees is one more, as long as that
fits 32 bits too. So the last line and the last character are accepted but have
no text (`display?_eq`); every other diagnostic shows the numbers that the
server has told, each with one added (`Incoming.displayed_of_depicts`).

Key definitions: `Incoming.Tells`, `Incoming.Displayed`.
Key theorems: `Diagnostic.display?_eq`, `Incoming.Tells.admitted_iff`,
`Client.mem_events_of_mem`, `Client.positions_shown`.
-/
import Sidecar.Proofs.EventStream

namespace Sidecar

namespace Diagnostic

/-- What the user is to see of a diagnostic at a line and a character that count from zero. -/
def textAt (line character : Nat) (severity : Severity) (source message : String) : String :=
  s!"{line + 1}:{character + 1}: {severity.label}: [{source}] {message}"

/-- A diagnostic has its text exactly if both numbers fit 32 bits when one is added. -/
theorem display?_eq (d : Diagnostic) : d.display? =
    if d.line.toNat + 1 < 2 ^ 32 ∧ d.col.toNat + 1 < 2 ^ 32 then
      some (textAt d.line.toNat d.col.toNat d.severity d.source d.message)
    else none := by
  have hsum (n : UInt32) : oneBased? n = if n.toNat + 1 < 2 ^ 32 then some (n.toNat + 1) else none :=
    rfl
  rw [display?, hsum, hsum]
  by_cases hline : d.line.toNat + 1 < 2 ^ 32
  · by_cases hcol : d.col.toNat + 1 < 2 ^ 32
    · rw [if_pos hline, if_pos hcol, if_pos ⟨hline, hcol⟩]
      rfl
    · have hnot : ¬ (d.line.toNat + 1 < 2 ^ 32 ∧ d.col.toNat + 1 < 2 ^ 32) := fun h => hcol h.2
      rw [if_pos hline, if_neg hcol, if_neg hnot]
      rfl
  · have hnot : ¬ (d.line.toNat + 1 < 2 ^ 32 ∧ d.col.toNat + 1 < 2 ^ 32) := fun h => hline h.1
    rw [if_neg hline, if_neg hnot]
    rfl

end Diagnostic

/-! ### What a server tells -/

namespace Incoming

variable {v : Json} {names : List String} {name : String} {line character : Nat}
  {severity : Severity} {source message : String}

/-- What a server tells in one of its diagnostics: a place, in numbers from zero on without a
bound, and what there is to say about it. -/
structure Tells (v : Json) (line character : Nat) (severity : Severity) (source message : String) :
    Prop where
  place : ∃ range start, HasField diagnosticFields "range" v (some range) ∧
    HasField ["start"] "start" range (some start) ∧
    HasField ["line", "character"] "line" start (some (Json.nat line)) ∧
    HasField ["line", "character"] "character" start (some (Json.nat character))
  severity : ∃ x, HasField diagnosticFields "severity" v x ∧ Graded x severity
  source : ∃ x, HasField diagnosticFields "source" v x ∧ Sourced x source
  message : HasField diagnosticFields "message" v (some (.str message))

theorem HasField.unique {x y : Option Json} (h : HasField names name v x)
    (h' : HasField names name v y) : x = y := by
  cases h with
  | member ms => exact hasField_obj.1 h'
  | item xs _ => exact (hasField_arr.1 h').2

theorem nat_inj {m n : Nat} (h : some (Json.nat m) = some (Json.nat n)) : m = n := by
  simpa [Json.nat] using h

/-- A diagnostic is depicted by what tells its numbers. -/
theorem Depicts.tells {d : Diagnostic} (h : Depicts v d) :
    Tells v d.line.toNat d.col.toNat d.severity d.source d.message := by
  obtain ⟨range, hrange, start, hstart, hline, hcol⟩ := h.range
  exact ⟨⟨range, start, hrange, hstart, hline, hcol⟩, h.severity, h.source, h.message⟩

/-- There is only one place that is told. -/
theorem Tells.place_unique {line' character' : Nat} {severity' : Severity}
    {source' message' : String} (h : Tells v line character severity source message)
    (h' : Tells v line' character' severity' source' message') :
    line = line' ∧ character = character' := by
  obtain ⟨range, start, hrange, hstart, hline, hcharacter⟩ := h.place
  obtain ⟨range', start', hrange', hstart', hline', hcharacter'⟩ := h'.place
  cases hrange.unique hrange'
  cases hstart.unique hstart'
  exact ⟨nat_inj (hline.unique hline'), nat_inj (hcharacter.unique hcharacter')⟩

/-- **What is admitted has 32 bits**, and whatever has 32 bits is admitted. -/
theorem Tells.admitted_iff (h : Tells v line character severity source message) :
    (diagnostic? v).isSome = true ↔ line < 2 ^ 32 ∧ character < 2 ^ 32 := by
  constructor
  · intro hsome
    obtain ⟨d, hd⟩ := Option.isSome_iff_exists.1 hsome
    obtain ⟨rfl, rfl⟩ := h.place_unique (diagnostic?_eq_some_iff.1 hd).tells
    exact ⟨d.line.toNat_lt, d.col.toNat_lt⟩
  · rintro ⟨hline, hcharacter⟩
    obtain ⟨range, start, hrange, hstart, hatLine, hatCharacter⟩ := h.place
    have hread : diagnostic? v = some
        ⟨severity, message, UInt32.ofNat line, UInt32.ofNat character, source⟩ := by
      refine diagnostic?_eq_some_iff.2 ⟨⟨range, hrange, start, hstart, ?_, ?_⟩, h.severity, h.source,
        h.message⟩
      · rwa [UInt32.toNat_ofNat_of_lt' hline]
      · rwa [UInt32.toNat_ofNat_of_lt' hcharacter]
    rw [hread]
    rfl

/-- What becomes of a diagnostic that was told: both numbers have 32 bits, and the text shows each
with one added, if that has 32 bits as well. Otherwise there is no text. -/
def Displayed (v : Json) (d : Diagnostic) : Prop :=
  ∃ line character severity source message, Tells v line character severity source message ∧
    line < 2 ^ 32 ∧ character < 2 ^ 32 ∧
    d.display? = if line + 1 < 2 ^ 32 ∧ character + 1 < 2 ^ 32 then
        some (Diagnostic.textAt line character severity source message)
      else none

theorem displayed_of_depicts {d : Diagnostic} (h : Depicts v d) : Displayed v d :=
  ⟨_, _, _, _, _, h.tells, d.line.toNat_lt, d.col.toNat_lt, d.display?_eq⟩

end Incoming

/-! ### From the frame to the one who takes the event -/

namespace Client

variable {c c₀ : Client} {m : Move} {moves : List Move} {e : ServerEvent}

/-- A move adds nothing to the queue of events but the end of reading and diagnostics that arrive. -/
theorem mem_events_step (he : e ∈ (c.step m).events) :
    e ∈ c.events ∨ (∃ reason, e = .closed reason) ∨ Brings c m e := by
  by_cases hm : m = .shut
  · subst hm
    exact .inl he
  cases passage_step c hm with
  | accepted e' haccepts _ hevents =>
    rw [hevents, List.mem_append, List.mem_singleton] at he
    rcases he with he | rfl
    · exact .inl he
    · exact .inr (.inr haccepts.1)
  | ended reason _ _ hevents =>
    rw [hevents, List.mem_append] at he
    rcases he with he | he
    · exact .inl he
    · split_ifs at he with hroom
      · exact .inr (.inl ⟨reason, List.mem_singleton.1 he⟩)
      · cases he
  | quiet _ _ hevents =>
    left
    rw [← hevents]
    exact List.mem_append_right _ he

/-- Whoever gets diagnostics from a client gets what a frame has brought. -/
theorem mem_events_of_mem (he : e ∈ c₀.received moves ++ (c₀.run moves).events) :
    e ∈ c₀.events ∨ (∃ reason, e = .closed reason) ∨
      ∃ f uri ds, .arrive f ∈ moves ∧ Entails f (.event uri ds) ∧ e = .diagnostics uri ds := by
  induction moves generalizing c₀ with
  | nil => exact .inl he
  | cons m moves ih =>
    rw [received, List.append_assoc, List.mem_append] at he
    rcases he with he | he
    · left
      cases m with
      | takeEvent => exact List.mem_of_mem_head? (Option.mem_toList.1 he)
      | _ => cases he
    · rcases ih he with he | hclosed | ⟨f, uri, ds, hf, hentails⟩
      · rcases mem_events_step he with he | hclosed | ⟨-, f, uri, ds, rfl, hentails⟩
        · exact .inl he
        · exact .inr (.inl hclosed)
        · exact .inr (.inr ⟨f, uri, ds, List.mem_cons_self, hentails⟩)
      · exact .inr (.inl hclosed)
      · exact .inr (.inr ⟨f, uri, ds, List.mem_cons_of_mem _ hf, hentails⟩)

/-- **Positions are shown as they were told, with one added, unless the sum does not fit.** Whatever
diagnostics are read from the parameters of a frame, item by item they show the numbers of the item
with one added, if both sums have 32 bits, and have no text otherwise. Whoever takes diagnostics from
a client that had no events at first gets what was read from a frame. And what is read are the numbers
of 32 bits, all of them. -/
theorem positions_shown (uri : String) (ds : List Diagnostic) :
    (∀ params, Incoming.diagnostics? params = some (uri, ds) → ∃ items,
      Incoming.HasField ["uri", "diagnostics"] "diagnostics" params (some (.arr items)) ∧
        List.Forall₂ Incoming.Displayed items ds) ∧
    (∀ (c₀ : Client) (moves : List Move), c₀.events = [] →
      .diagnostics uri ds ∈ c₀.received moves ++ (c₀.run moves).events →
        ∃ f params, .arrive f ∈ moves ∧ f.get? "id" = none ∧
          f.get? "method" = some (.str "textDocument/publishDiagnostics") ∧
          f.get? "params" = some params ∧ Incoming.diagnostics? params = some (uri, ds)) ∧
    ∀ v line character severity source message,
      Incoming.Tells v line character severity source message →
        ((Incoming.diagnostic? v).isSome = true ↔ line < 2 ^ 32 ∧ character < 2 ^ 32) := by
  refine ⟨fun params h => ?_, fun c₀ moves hnone he => ?_,
    fun v line character severity source message h => h.admitted_iff⟩
  · obtain ⟨-, items, hitems, hdepict⟩ := Incoming.diagnostics?_eq_some_iff.1 h
    exact ⟨items, hitems, hdepict.imp fun _ _ => Incoming.displayed_of_depicts⟩
  · rcases mem_events_of_mem he with he | ⟨reason, he⟩ | ⟨f, uri', ds', hf, hentails, he⟩
    · rw [hnone] at he
      cases he
    · cases he
    · cases he
      cases hentails with
      | event params _ _ hid hmethod hparams hpublishes =>
        exact ⟨f, params, hf, hid, hmethod, hparams,
          Incoming.diagnostics?_eq_some_iff.2 hpublishes⟩

/-- A message about the start of a line. -/
def remark (line : Nat) : Json :=
  .obj [("message", .str "m"),
    ("range", .obj [("start", .obj [("character", .nat 0), ("line", .nat line)])])]

theorem tells_remark (line : Nat) : Incoming.Tells (remark line) line 0 .warning "yara" "m" where
  place := ⟨_, _, .member _, .member _, .member _, .member _⟩
  severity := ⟨none, .member _, .absent⟩
  source := ⟨none, .member _, .absent⟩
  message := .member _

/-- Messages about the last two lines that can be told. -/
def lastRemarks : Json :=
  .obj [("diagnostics", .arr [remark 4294967294, remark 4294967295]), ("uri", .str "file:///a")]

/-- The frame that brings them. -/
def lastFrame : Json :=
  .obj [("method", .str "textDocument/publishDiagnostics"), ("params", lastRemarks)]

/-- What they become. -/
def lastLines : List Diagnostic :=
  [⟨.warning, "m", 4294967294, 0, "yara"⟩, ⟨.warning, "m", 4294967295, 0, "yara"⟩]

theorem positions_shown_lastLines :
    (∃ items, Incoming.HasField ["uri", "diagnostics"] "diagnostics" lastRemarks
        (some (.arr items)) ∧ List.Forall₂ Incoming.Displayed items lastLines) ∧
    (∃ f params : Json, Move.arrive f ∈ [Move.arrive lastFrame, .takeEvent] ∧
      f.get? "id" = none ∧ f.get? "method" = some (.str "textDocument/publishDiagnostics") ∧
      f.get? "params" = some params ∧
      Incoming.diagnostics? params = some ("file:///a", lastLines)) ∧
    (Incoming.diagnostic? (remark 4294967295)).isSome = true ∧
    (Incoming.diagnostic? (remark 4294967296)).isSome = false := by
  obtain ⟨haccepted, htaken, hadmitted⟩ := positions_shown "file:///a" lastLines
  refine ⟨haccepted lastRemarks (by decide +kernel),
    htaken {} [.arrive lastFrame, .takeEvent] rfl (by decide +kernel),
    (hadmitted _ _ _ _ _ _ (tells_remark _)).2 (by decide), ?_⟩
  have hlarge := mt (hadmitted _ _ _ _ _ _ (tells_remark 4294967296)).1 (by decide)
  exact Bool.eq_false_iff.2 hlarge

/-- The last line is accepted from a server, and cannot be shown. -/
theorem last_line_not_shown :
    (step {} (.arrive lastFrame)).events = [.diagnostics "file:///a" lastLines] ∧
    lastLines.map Diagnostic.display? = [some "4294967295:1: warning: [yara] m", none] ∧
    Diagnostic.textAt 4294967295 0 .warning "yara" "m" = "4294967296:1: warning: [yara] m" := by
  decide +kernel

end Client

end Sidecar
