/-
# Forwarded output

The output of the server and that of the installer are cut into the same
lines, and nothing of the stream is lost by that (`flatten_lines`). Every line
of the server that is not blank is told, whatever bytes it has (`drain_eq`)
and in whatever pieces they come (`Child.reported_eq`). The installer's lines
are told the same way, but only as far as they are text: the first line that
is not text ends the reading (`forwardLines_eq`). So both are told the same
exactly if the whole stream is text (`forward_eq_drain_iff`), and one bad byte
of an installer silences all that it prints after it (`garbled_output_lost`).

Key definitions: `Output.IsText`, `Output.Begun`, `Child.reported`,
`Output.Forwarded`.
Key theorems: `Output.forwardLines_eq`, `Child.reported_eq`,
`Output.output_forwarded`.
-/
import Mathlib.Tactic.Common
import Sidecar.Host.Child
import Sidecar.Proofs.Decoding
import Sidecar.Proofs.Header
import Sidecar.Provision.Basic

namespace Sidecar

namespace Text

theorem trimEndChars_eq_nil {cs : List Char} : trimEndChars cs = [] ↔ ∀ c ∈ cs, isBlank c = true := by
  simp [trimEndChars]

theorem trimEndChars_append_blank {cs bs : List Char} (h : ∀ c ∈ bs, isBlank c = true) :
    trimEndChars (cs ++ bs) = trimEndChars cs := by
  rw [trimEndChars, trimEndChars, List.reverse_append, List.dropWhile_append_of_pos (by simpa using h)]

end Text

namespace Output

variable {bs l r : List UInt8} {cs : List Char}

/-- The bytes are those of a text. -/
def IsText (bs : List UInt8) : Prop := ∃ cs, bs = Utf8.encode cs

theorem IsText.append (hl : IsText l) (hr : IsText r) : IsText (l ++ r) := by
  obtain ⟨cs, rfl⟩ := hl
  obtain ⟨ds, rfl⟩ := hr
  exact ⟨cs ++ ds, by simp⟩

theorem encodeChar_ne_nil (c : Char) : Utf8.encodeChar c ≠ [] := by
  obtain ⟨b, t, h, -⟩ := Utf8.encodeChar_lead c
  simp [h]

/-- What is left of a text without a byte of ASCII at its end is text. -/
theorem IsText.of_concat {b : UInt8} (hb : b.toNat < 0x80) (h : IsText (l ++ [b])) : IsText l := by
  obtain ⟨cs, hcs⟩ := h
  rcases List.eq_nil_or_concat cs with rfl | ⟨front, c, rfl⟩
  · simp at hcs
  · rw [List.concat_eq_append, Utf8.encode_append, Utf8.encode_cons, Utf8.encode_nil,
      List.append_nil] at hcs
    have hlast : (Utf8.encode front ++ Utf8.encodeChar c).getLast? = some b := by
      rw [← hcs]
      simp
    rw [List.getLast?_append_of_ne_nil _ (encodeChar_ne_nil c)] at hlast
    rcases Utf8.mem_encodeChar (List.mem_of_getLast? hlast) with ⟨hc, -⟩ | ⟨-, hge⟩
    · rw [Utf8.encodeChar_one hc] at hcs
      exact ⟨front, (List.append_inj' hcs rfl).1⟩
    · omega

/-! ### Lines -/

theorem flatten_linesFrom (line bs : List UInt8) :
    (linesFrom line bs).flatten = line.reverse ++ bs := by
  induction bs generalizing line with
  | nil =>
    unfold linesFrom
    split <;> simp_all
  | cons b bs ih =>
    unfold linesFrom
    split
    · simp [ih]
    · simp [ih]

/-- Nothing is lost when a stream is cut into lines. -/
theorem flatten_lines (bs : List UInt8) : (lines bs).flatten = bs := flatten_linesFrom [] bs

/-- The lines are cut behind every newline and nowhere else. -/
structure Cut (ls : List (List UInt8)) : Prop where
  inner : ∀ l ∈ ls, l ≠ [] ∧ newline ∉ l.dropLast
  ends : ∀ l ∈ ls.dropLast, l.getLast? = some newline

theorem Cut.cons {ls : List (List UInt8)} (h : Cut ls) (hl : newline ∉ l) :
    Cut ((l ++ [newline]) :: ls) where
  inner := by
    simp only [List.forall_mem_cons]
    exact ⟨by simpa using hl, h.inner⟩
  ends := by
    cases ls with
    | nil => simp
    | cons x ls =>
      rw [List.dropLast_cons_cons]
      simp only [List.forall_mem_cons]
      exact ⟨by simp, h.ends⟩

theorem cut_linesFrom {line : List UInt8} (hline : newline ∉ line) (bs : List UInt8) :
    Cut (linesFrom line bs) := by
  induction bs generalizing line with
  | nil =>
    unfold linesFrom
    split
    · exact ⟨by simp, by simp⟩
    · next hne =>
      have htail : newline ∉ line.tail := fun h => hline (List.mem_of_mem_tail h)
      exact ⟨by simpa using ⟨by simpa using hne, htail⟩, by simp⟩
  | cons b bs ih =>
    unfold linesFrom
    split
    · next hb =>
      obtain rfl := eq_of_beq hb
      have hrest : Cut (linesFrom [] bs) := ih (by simp)
      simpa using hrest.cons (l := line.reverse) (by simpa using hline)
    · next hb =>
      have hb' : newline ≠ b := fun h => hb (by simp [h])
      exact ih (by simp [hb', hline])

theorem cut_lines (bs : List UInt8) : Cut (lines bs) := cut_linesFrom (by simp) bs

theorem linesFrom_append {front : List UInt8} (h : newline ∉ front) (line rest : List UInt8) :
    linesFrom line (front ++ rest) = linesFrom (front.reverse ++ line) rest := by
  induction front generalizing line with
  | nil => rfl
  | cons b front ih =>
    have hb : (b == newline) = false := by
      rw [beq_eq_false_iff_ne]
      exact fun hb => h (by simp [hb])
    have hfront : newline ∉ front := fun hf => h (List.mem_cons_of_mem _ hf)
    rw [List.cons_append, linesFrom, hb]
    simp [ih hfront]

theorem newline_mem_encodeChar {c : Char} (h : newline ∈ Utf8.encodeChar c) : c = '\n' := by
  rcases Utf8.mem_encodeChar h with ⟨-, hc⟩ | ⟨-, hge⟩
  · have hten : c.toNat = '\n'.toNat := hc.symm
    exact Char.toNat_inj.mp hten
  · exact absurd hge (by decide)

theorem isText_linesFrom (front cs : List Char) :
    ∀ l ∈ linesFrom (Utf8.encode front).reverse (Utf8.encode cs), IsText l := by
  induction cs generalizing front with
  | nil =>
    have hone : ∀ l ∈ linesFrom (Utf8.encode front).reverse [], l = Utf8.encode front := by
      unfold linesFrom
      split <;> simp
    exact fun l hl => ⟨front, hone l hl⟩
  | cons c cs ih =>
    rw [Utf8.encode_cons]
    by_cases hc : newline ∈ Utf8.encodeChar c
    · obtain rfl := newline_mem_encodeChar hc
      have hfeed : linesFrom (Utf8.encode front).reverse (Utf8.encodeChar '\n' ++ Utf8.encode cs) =
          Utf8.encode (front ++ ['\n']) :: linesFrom [] (Utf8.encode cs) := by
        rw [show Utf8.encodeChar '\n' = [newline] from rfl, List.singleton_append, linesFrom]
        simp [newline, Utf8.encodeChar_one]
      rw [hfeed, List.forall_mem_cons]
      exact ⟨⟨front ++ ['\n'], rfl⟩, ih []⟩
    · have hconcat : Utf8.encode front ++ Utf8.encodeChar c = Utf8.encode (front ++ [c]) := by simp
      rw [linesFrom_append hc, ← List.reverse_append, hconcat]
      exact ih (front ++ [c])

/-- A stream is text exactly if all its lines are. -/
theorem isText_iff_lines : IsText bs ↔ ∀ l ∈ lines bs, IsText l := by
  constructor
  · rintro ⟨cs, rfl⟩
    exact isText_linesFrom [] cs
  · intro h
    have hflatten : ∀ ls : List (List UInt8), (∀ l ∈ ls, IsText l) → IsText ls.flatten := by
      intro ls hls
      induction ls with
      | nil => exact ⟨[], rfl⟩
      | cons l ls ih =>
        rw [List.forall_mem_cons] at hls
        exact hls.1.append (ih hls.2)
    have htext := hflatten (lines bs) h
    rwa [flatten_lines] at htext

/-- What is cut from the end of a line: nothing, a line feed, or a carriage return with it. -/
theorem exists_eq_chomp (l : List UInt8) : ∃ ts : List Char,
    (ts = [] ∨ ts = ['\n'] ∨ ts = ['\r', '\n']) ∧ l = chomp l ++ Utf8.encode ts := by
  unfold chomp
  split
  · next r h =>
    refine ⟨['\r', '\n'], by simp, ?_⟩
    rw [← List.reverse_reverse l, h]
    simp [Utf8.encodeChar_one]
  · next r _ h =>
    refine ⟨['\n'], by simp, ?_⟩
    rw [← List.reverse_reverse l, h]
    simp [Utf8.encodeChar_one]
  · exact ⟨[], by simp, by simp⟩

theorem isText_chomp (l : List UInt8) : IsText (chomp l) ↔ IsText l := by
  obtain ⟨ts, hts, hl⟩ := exists_eq_chomp l
  constructor
  · intro h
    rw [hl]
    exact h.append ⟨ts, rfl⟩
  · intro h
    rw [hl] at h
    rcases hts with rfl | rfl | rfl
    · simpa using h
    · exact h.of_concat (by decide)
    · have hfeed : IsText (chomp l ++ [13] ++ [10]) := by simpa [Utf8.encodeChar_one] using h
      exact (hfeed.of_concat (by decide)).of_concat (by decide)

theorem toString?_encode (cs : List Char) :
    Utf8.toString? (Utf8.encode cs) = some (String.ofList cs) := by
  simp [Utf8.toString?, Utf8.decode?, Utf8.decode_encode, Except.toOption]

theorem toString?_eq_none (h : ¬ IsText l) : Utf8.toString? l = none := by
  cases hdecode : Utf8.decode l with
  | ok cs => exact absurd ⟨cs, Utf8.decode_eq_ok_iff.mp hdecode⟩ h
  | error e => simp [Utf8.toString?, Utf8.decode?, hdecode, Except.toOption]

/-- What the server's line is shown as, with everything at its end. -/
def shown (l : List UInt8) : String := String.ofList (Utf8.lossy l)

/-- Whether there is anything to be seen. -/
def isSeen (s : String) : Bool := s.toList.any fun c => !Text.isBlank c

theorem isEmpty_ofList (cs : List Char) : (String.ofList cs).isEmpty = cs.isEmpty := by
  cases cs with
  | nil => rfl
  | cons c cs =>
    rw [List.isEmpty_cons, ← Bool.not_eq_true, String.isEmpty_iff]
    exact fun h => by simpa using congrArg String.toList h

theorem isSeen_eq_false {s : String} : isSeen s = false ↔ ∀ c ∈ s.toList, Text.isBlank c = true := by
  simp [isSeen]

theorem trimEnd_isEmpty (s : String) : (Text.trimEnd s).isEmpty = !isSeen s := by
  rw [Text.trimEnd, isEmpty_ofList, Bool.eq_iff_iff, Bool.not_eq_true', isSeen_eq_false,
    List.isEmpty_iff, Text.trimEndChars_eq_nil]

theorem trim_isEmpty (s : String) : (Text.trim s).isEmpty = !isSeen s := by
  rw [Text.trim, isEmpty_ofList, Bool.eq_iff_iff, Bool.not_eq_true', isSeen_eq_false,
    List.isEmpty_iff, Text.trimChars_eq_nil]

theorem serverText?_eq (l : List UInt8) :
    serverText? l = if isSeen (shown l) then some (Text.trimEnd (shown l)) else none := by
  unfold serverText? shown
  simp only [trimEnd_isEmpty]
  split <;> simp_all

/-- A line of the installer that is text is told as it would be for the server. -/
theorem forwardLines_text (h : IsText l) (rest : List (List UInt8)) :
    forwardLines (l :: rest) = (serverText? l).toList ++ forwardLines rest := by
  obtain ⟨ts, hts, hl⟩ := exists_eq_chomp l
  obtain ⟨cs, hcs⟩ := (isText_chomp l).mpr h
  have hblank : ∀ c ∈ ts, Text.isBlank c = true := by
    rcases hts with rfl | rfl | rfl <;> simp [Text.isBlank]
  have hshown : shown l = String.ofList (cs ++ ts) := by
    rw [shown, hl, hcs, ← Utf8.encode_append, Utf8.lossy_encode]
  have hseen : isSeen (shown l) = isSeen (String.ofList cs) := by
    have hend : ts.any (!Text.isBlank ·) = false := by simpa using hblank
    simp [hshown, isSeen, hend]
  have htrim : Text.trimEnd (shown l) = Text.trimEnd (String.ofList cs) := by
    simp [hshown, Text.trimEnd, Text.trimEndChars_append_blank hblank]
  rw [serverText?_eq, hseen, htrim, forwardLines, hcs, toString?_encode]
  simp only [trim_isEmpty]
  cases isSeen (String.ofList cs) <;> simp

/-- One that is no text ends the reading. -/
theorem forwardLines_other (h : ¬ IsText l) (rest : List (List UInt8)) :
    forwardLines (l :: rest) = [] := by
  rw [forwardLines, toString?_eq_none (by rwa [isText_chomp])]

/-- For the server it is told, since something of it can be seen. -/
theorem exists_serverText? (h : ¬ IsText l) : ∃ t, serverText? l = some t := by
  have hmem : '�' ∈ Utf8.lossy l := Utf8.replacement_mem_lossy fun cs hcs => h ⟨cs, hcs⟩
  have hseen : isSeen (shown l) = true := by
    simp only [isSeen, shown, String.toList_ofList, List.any_eq_true]
    exact ⟨'�', hmem, by decide⟩
  exact ⟨_, by rw [serverText?_eq, if_pos hseen]⟩

/-! ### The whole output -/

/-- The installer's lines are told like the server's, as far as they are text. -/
theorem forwardLines_eq (ls : List (List UInt8)) : ∃ front back, ls = front ++ back ∧
    (∀ l ∈ front, IsText l) ∧ (∀ l ∈ back.head?, ¬ IsText l) ∧
    forwardLines ls = front.filterMap serverText? := by
  induction ls with
  | nil => exact ⟨[], [], rfl, by simp, by simp, rfl⟩
  | cons l ls ih =>
    by_cases hl : IsText l
    · obtain ⟨front, back, rfl, hfront, hback, htold⟩ := ih
      refine ⟨l :: front, back, rfl, by simpa [hl] using hfront, hback, ?_⟩
      rw [forwardLines_text hl, htold, List.filterMap_cons]
      cases serverText? l <;> rfl
    · exact ⟨[], l :: ls, rfl, by simp, by simpa using hl, forwardLines_other hl ls⟩

theorem forward_eq_drain_iff : forward bs = drain bs ↔ IsText bs := by
  obtain ⟨front, back, hlines, hfront, hback, htold⟩ := forwardLines_eq (lines bs)
  rw [isText_iff_lines, forward, drain, htold, hlines, List.filterMap_append, List.self_eq_append_right]
  cases back with
  | nil => simpa using hfront
  | cons l ls =>
    have hl : ¬ IsText l := by simpa using hback
    obtain ⟨t, ht⟩ := exists_serverText? hl
    have hnot : ¬ ∀ k ∈ front ++ l :: ls, IsText k := fun h => hl (h l (by simp))
    simp [ht, hnot, -List.mem_append]

/-- Every line of the server that can be seen is told, in order, without what is blank at its end. -/
theorem drain_eq (bs : List UInt8) :
    drain bs = (((lines bs).map shown).filter isSeen).map Text.trimEnd := by
  unfold drain
  induction lines bs with
  | nil => rfl
  | cons l ls ih =>
    rw [List.filterMap_cons, serverText?_eq, List.map_cons, List.filter_cons, ih]
    cases isSeen (shown l) <;> simp

/-! ### Output that comes in pieces -/

theorem lines_of_not_mem (h : newline ∉ bs) : lines bs = if bs.isEmpty then [] else [bs] := by
  have hfeed := linesFrom_append h [] []
  rw [List.append_nil, List.append_nil] at hfeed
  rw [lines, hfeed, linesFrom]
  simp

theorem lines_line_append (h : newline ∉ l) (bs : List UInt8) :
    lines ((l ++ [newline]) ++ bs) = (l ++ [newline]) :: lines bs := by
  rw [lines, List.append_assoc, linesFrom_append h, List.singleton_append, linesFrom]
  simp [lines]

/-- Whole lines in front of a stream are its first lines. -/
theorem lines_flatten_append {ls : List (List UInt8)}
    (h : ∀ l ∈ ls, ∃ front, newline ∉ front ∧ l = front ++ [newline]) (bs : List UInt8) :
    lines (ls.flatten ++ bs) = ls ++ lines bs := by
  induction ls with
  | nil => rfl
  | cons l ls ih =>
    rw [List.forall_mem_cons] at h
    obtain ⟨⟨front, hfront, rfl⟩, hls⟩ := h
    rw [List.flatten_cons, List.append_assoc, lines_line_append hfront, ih hls, List.cons_append]

/-- What is read of a stream so far: whole lines, and a begun one. -/
structure Begun (bs : List UInt8) (read : List (List UInt8) × List UInt8) : Prop where
  all : read.1.flatten ++ read.2 = bs
  whole : ∀ l ∈ read.1, ∃ front, newline ∉ front ∧ l = front ++ [newline]
  begun : newline ∉ read.2

theorem Begun.lines_append {read : List (List UInt8) × List UInt8} (h : Begun bs read)
    (more : List UInt8) : lines (bs ++ more) = read.1 ++ lines (read.2 ++ more) := by
  rw [← h.all, List.append_assoc, lines_flatten_append h.whole]

theorem Cut.whole_of_getLast? {ls : List (List UInt8)} (h : Cut ls) (hl : l ∈ ls)
    (hlast : l.getLast? = some newline) : ∃ front, newline ∉ front ∧ l = front ++ [newline] :=
  ⟨l.dropLast, (h.inner l hl).2, (List.dropLast_append_getLast? newline hlast).symm⟩

theorem begun_wholeLines (bs : List UInt8) : Begun bs (Child.wholeLines bs) := by
  have hcut := cut_lines bs
  have hflat := flatten_lines bs
  rw [Child.wholeLines]
  rcases List.eq_nil_or_concat (lines bs) with hnil | ⟨front, last, hconcat⟩
  · rw [hnil] at hflat
    rw [hnil]
    exact ⟨hflat, by simp, by simp⟩
  · rw [List.concat_eq_append] at hconcat
    have hfront : ∀ l ∈ front, ∃ f, newline ∉ f ∧ l = f ++ [newline] := fun l hl =>
      hcut.whole_of_getLast? (by simp [hconcat, hl]) (hcut.ends l (by simpa [hconcat] using hl))
    have hlast : last ∈ lines bs := by simp [hconcat]
    rw [hconcat, List.flatten_concat] at hflat
    simp only [hconcat, List.reverse_append, List.reverse_cons, List.reverse_nil, List.nil_append,
      List.singleton_append, List.reverse_reverse]
    split
    · next hend =>
      refine ⟨by simpa using hflat, ?_, by simp⟩
      have hwhole := hcut.whole_of_getLast? hlast (eq_of_beq hend)
      intro l hl
      rcases List.mem_append.mp hl with hl | hl
      · exact hfront l hl
      · rwa [List.mem_singleton.mp hl]
    · next hend =>
      refine ⟨hflat, hfront, fun hmem => ?_⟩
      obtain ⟨hne, hinner⟩ := hcut.inner last hlast
      rw [← List.dropLast_append_getLast hne, List.mem_append, List.mem_singleton] at hmem
      rcases hmem with hmem | hmem
      · exact hinner hmem
      · exact hend (by simp [List.getLast?_eq_getLast_of_ne_nil hne, ← hmem])

theorem told_append (ls ms : List (List UInt8)) :
    Child.told (ls ++ ms) = Child.told ls ++ Child.told ms :=
  List.filterMap_append ..

theorem told_eq (bs : List UInt8) :
    Child.told (lines bs) = (drain bs).map (Entry.mk .info) :=
  (List.map_filterMap ..).symm

end Output

namespace Child

open Output

/-- The begun line of a stream. -/
def begun (c : Child) : Stream → List UInt8
  | .out => c.begunOut
  | .err => c.begunErr

/-- The program runs, one of its streams is read, and the other has no begun line. -/
structure Reads (c : Child) (stream : Stream) : Prop where
  running : c.isRunning = true
  read : stream = .out → c.piped = false
  begun : newline ∉ c.begun stream
  other : ∀ s ≠ stream, c.begun s = []

/-- All that the output channel is told while the program prints piece after piece and ends. -/
def reported (c : Child) (stream : Stream) (e : Exit) : List (List UInt8) → List Entry
  | [] => (c.finish e).2
  | piece :: rest => (c.print stream piece).2 ++ (c.print stream piece).1.reported stream e rest

theorem finish_told {c : Child} {stream : Stream} (h : c.Reads stream) (e : Exit) :
    (c.finish e).2 = told (lines (c.begun stream)) := by
  rw [lines_of_not_mem h.begun, finish, h.running]
  cases stream with
  | out =>
    have herr : c.begunErr = [] := h.other .err (by decide)
    by_cases hout : c.begunOut = [] <;> simp [begun, herr, hout]
  | err =>
    have hout : c.begunOut = [] := h.other .out (by decide)
    by_cases herr : c.begunErr = [] <;> simp [begun, hout, herr]

theorem print_told {c : Child} {stream : Stream} (h : c.Reads stream) (piece : List UInt8) :
    (c.print stream piece).2 = told (wholeLines (c.begun stream ++ piece)).1 ∧
    (c.print stream piece).1.begun stream = (wholeLines (c.begun stream ++ piece)).2 ∧
    (c.print stream piece).1.Reads stream := by
  have hline := (begun_wholeLines (c.begun stream ++ piece)).begun
  cases stream with
  | out =>
    have hpiped := h.read rfl
    simp only [print, hpiped]
    refine ⟨rfl, rfl, h.running, fun _ => rfl, hline, fun s hs => ?_⟩
    cases s with
    | out => exact absurd rfl hs
    | err => exact h.other .err hs
  | err =>
    refine ⟨rfl, rfl, h.running, by simp, hline, fun s hs => ?_⟩
    cases s with
    | out => exact h.other .out hs
    | err => exact absurd rfl hs

/-- It makes no difference in what pieces the output comes. -/
theorem reported_eq {c : Child} {stream : Stream} (h : c.Reads stream) (e : Exit)
    (pieces : List (List UInt8)) :
    c.reported stream e pieces = told (lines (c.begun stream ++ pieces.flatten)) := by
  induction pieces generalizing c with
  | nil => rw [reported, finish_told h, List.flatten_nil, List.append_nil]
  | cons piece rest ih =>
    obtain ⟨htold, hbegun, hreads⟩ := print_told h piece
    have hread := begun_wholeLines (c.begun stream ++ piece)
    rw [reported, htold, ih hreads, hbegun, ← told_append, ← hread.lines_append, List.flatten_cons,
      List.append_assoc]

end Child

namespace Output

/-- What becomes of a stream of bytes that the server or the installer prints. -/
structure Forwarded (bs : List UInt8) : Prop where
  /-- The stream is cut into lines, and nothing of it is lost. -/
  whole : (lines bs).flatten = bs
  cut : Cut (lines bs)
  /-- Every line of the server that can be seen is told, in order. -/
  drained : drain bs = (((lines bs).map shown).filter isSeen).map Text.trimEnd
  server : ∀ (c : Child) stream e pieces, c.Reads stream → c.begun stream ++ pieces.flatten = bs →
    c.reported stream e pieces = (drain bs).map (Entry.mk .info)
  /-- The installer's lines are told the same way up to the first one that is no text. -/
  forwarded : ∃ front back, lines bs = front ++ back ∧ (∀ l ∈ front, IsText l) ∧
    (∀ l ∈ back.head?, ¬ IsText l) ∧ forward bs = front.filterMap serverText?
  installer : ∀ sink, (Provision.tell sink (forward bs)).entries =
    sink.entries ++ (forward bs).map (Entry.mk .info)
  /-- So it makes no difference who prints the stream exactly if it is text. -/
  same : forward bs = drain bs ↔ IsText bs

/-- **Output is forwarded as far as it can be read.** -/
theorem output_forwarded (bs : List UInt8) : Forwarded bs where
  whole := flatten_lines bs
  cut := cut_lines bs
  drained := drain_eq bs
  server c stream e pieces hreads hall := by rw [Child.reported_eq hreads, hall, told_eq]
  forwarded := forwardLines_eq (lines bs)
  installer sink := Provision.entries_tell sink (forward bs)
  same := forward_eq_drain_iff

/-- An installer that prints a byte that is no text, and then that all is well. -/
theorem garbled_output_lost : forward [0xFF, 10, 111, 107, 10] = [] ∧
    drain [0xFF, 10, 111, 107, 10] = ["�", "ok"] := by
  decide

end Output

end Sidecar
