/-
# Header lines

What a header line says is settled by its text. A line that is not blank and
whose name, in front of the first colon, is `Content-Length` in any letter
case gives a length; every other line that is not blank gives nothing; a
blank one ends the headers (`headerLine_lineBytes`, `headerLine_blank`). The
reader trims the whole line before it looks for the colon, and that makes no
difference, because a colon is no blank (`splitFirst_trimChars`).

So a block of header lines is taken line by line, and the length that was
given last counts (`headers_lines`).

Key definitions: `Frame.lineBytes`, `Frame.lengthText?`, `Frame.lengths`,
`Frame.HeaderText`.
Key theorems: `Frame.headerLine_lineBytes`, `Frame.headers_lines`,
`Frame.headers_blank`.
-/
import Mathlib.Data.List.DropRight
import Mathlib.Tactic.Common
import Sidecar.Frame.Reader
import Sidecar.Proofs.Utf8

namespace Sidecar.Text

theorem dropWhile_stop {α : Type} {p : α → Bool} {x : α} (hx : p x = false) (l r : List α) :
    (l ++ x :: r).dropWhile p = l.dropWhile p ++ x :: r := by
  induction l with
  | nil => simp [hx]
  | cons a l ih =>
    by_cases ha : p a = true
    · simp [ha, ih]
    · simp [ha]

theorem trimStartChars_stop {c : Char} (hc : isBlank c = false) (l r : List Char) :
    trimStartChars (l ++ c :: r) = trimStartChars l ++ c :: r := dropWhile_stop hc l r

theorem trimEndChars_stop {c : Char} (hc : isBlank c = false) (l r : List Char) :
    trimEndChars (l ++ c :: r) = l ++ c :: trimEndChars r := by
  have h : (l ++ c :: r).reverse = r.reverse ++ c :: l.reverse := by simp
  rw [trimEndChars, h, dropWhile_stop hc]
  simp [trimEndChars]

/-- Trimming leaves nothing exactly of blanks. -/
theorem trimChars_eq_nil {cs : List Char} : trimChars cs = [] ↔ ∀ c ∈ cs, isBlank c = true := by
  refine ⟨fun h => ?_, fun h => ?_⟩
  · by_contra hne
    push Not at hne
    obtain ⟨c, hc, hb⟩ := hne
    obtain ⟨l, r, rfl⟩ := List.append_of_mem hc
    have hb' : isBlank c = false := by simpa using hb
    rw [trimChars, trimStartChars_stop hb', trimEndChars_stop hb'] at h
    simp at h
  · have h0 : trimStartChars cs = [] := List.dropWhile_eq_nil_iff.mpr h
    rw [trimChars, h0]
    rfl

/-- Blanks at the end make no difference. -/
theorem trimChars_append_blank {cs bs : List Char} (h : ∀ c ∈ bs, isBlank c = true) :
    trimChars (cs ++ bs) = trimChars cs := by
  by_cases hcs : ∀ c ∈ cs, isBlank c = true
  · have hall : ∀ c ∈ cs ++ bs, isBlank c = true := by
      intro c hc
      rcases List.mem_append.mp hc with hc | hc
      · exact hcs c hc
      · exact h c hc
    rw [trimChars_eq_nil.mpr hall, trimChars_eq_nil.mpr hcs]
  · push Not at hcs
    obtain ⟨c, hc, hb⟩ := hcs
    obtain ⟨l, r, rfl⟩ := List.append_of_mem hc
    have hb' : isBlank c = false := by simpa using hb
    have hr : trimEndChars (r ++ bs) = trimEndChars r := by
      rw [trimEndChars, trimEndChars, List.reverse_append,
        List.dropWhile_append_of_pos (by simpa using h)]
    rw [trimChars, trimChars, List.append_assoc, List.cons_append, trimStartChars_stop hb',
      trimStartChars_stop hb', trimEndChars_stop hb', trimEndChars_stop hb', hr]

theorem trimChars_trimStartChars (cs : List Char) : trimChars (trimStartChars cs) = trimChars cs := by
  rw [trimChars, trimStartChars, trimStartChars, List.dropWhile_idempotent]
  rfl

theorem trimChars_trimEndChars (cs : List Char) : trimChars (trimEndChars cs) = trimChars cs := by
  have hsplit : cs = trimEndChars cs ++ (cs.reverse.takeWhile isBlank).reverse := by
    rw [trimEndChars, ← List.reverse_append, List.takeWhile_append_dropWhile, List.reverse_reverse]
  have hblank : ∀ c ∈ (cs.reverse.takeWhile isBlank).reverse, isBlank c = true := by
    intro c hc
    exact List.mem_takeWhile_imp (List.mem_reverse.mp hc)
  calc trimChars (trimEndChars cs)
      = trimChars (trimEndChars cs ++ (cs.reverse.takeWhile isBlank).reverse) :=
        (trimChars_append_blank hblank).symm
    _ = trimChars cs := by rw [← hsplit]

/-- A text without blanks is left alone, whatever blanks stand around it. -/
theorem trimChars_between {cs as bs : List Char} (hcs : ∀ c ∈ cs, isBlank c = false)
    (has : ∀ c ∈ as, isBlank c = true) (hbs : ∀ c ∈ bs, isBlank c = true) :
    trimChars (as ++ (cs ++ bs)) = cs := by
  rw [← List.append_assoc, trimChars_append_blank hbs, trimChars, trimStartChars,
    List.dropWhile_append_of_pos has]
  have h1 : cs.dropWhile isBlank = cs := by
    cases cs with
    | nil => rfl
    | cons c cs => simp [hcs c List.mem_cons_self]
  have h2 : cs.reverse.dropWhile isBlank = cs.reverse := by
    cases h : cs.reverse with
    | nil => rfl
    | cons c rs =>
      have hc : c ∈ cs := by rw [← List.mem_reverse, h]; exact List.mem_cons_self
      simp [hcs c hc]
  rw [h1, trimEndChars, h2, List.reverse_reverse]

/-! ### Splitting -/

theorem splitFirst_append {sep : Char} {name value : List Char} (h : sep ∉ name) :
    splitFirst sep (name ++ sep :: value) = some (name, value) := by
  have hne : ∀ c ∈ name, (c != sep) = true := fun c hc => by
    simp only [bne_iff_ne, ne_eq]
    exact fun he => h (he ▸ hc)
  rw [splitFirst, List.dropWhile_append_of_pos hne, List.takeWhile_append_of_pos hne]
  simp

theorem splitFirst_none {sep : Char} {cs : List Char} (h : sep ∉ cs) : splitFirst sep cs = none := by
  have hne : ∀ c ∈ cs, (c != sep) = true := fun c hc => by
    simp only [bne_iff_ne, ne_eq]
    exact fun he => h (he ▸ hc)
  rw [splitFirst, List.dropWhile_eq_nil_iff.mpr hne]

end Sidecar.Text

namespace Sidecar.Frame

/-- The bytes of a line: its text and a line feed. -/
def lineBytes (cs : List Char) : List UInt8 := Utf8.encode cs ++ [0x0A]

/-- What a line that names the length of the body gives for it: the name stands in front of the
first colon, in any letter case, and blanks around it and around the value do not count. -/
def lengthText? (cs : List Char) : Option (List Char) :=
  match Text.splitFirst ':' cs with
  | some (name, value) =>
    if Text.sameLetters (Text.trimChars name) "Content-Length".toList then
      some (Text.trimChars value)
    else none
  | none => none

theorem lineBytes_eq (cs : List Char) : lineBytes cs = Utf8.encode (cs ++ ['\n']) := by
  rw [Utf8.encode_append]
  rfl

theorem decode_lineBytes (cs : List Char) : Utf8.decode (lineBytes cs) = .ok (cs ++ ['\n']) := by
  rw [lineBytes_eq, Utf8.decode_encode]

theorem trimChars_feed (cs : List Char) : Text.trimChars (cs ++ ['\n']) = Text.trimChars cs :=
  Text.trimChars_append_blank (List.forall_mem_singleton.2 (by decide))

/-- Trimming the line first does not change what stands on either side of its colon. -/
theorem splitFirst_trimChars (cs : List Char) :
    (Text.splitFirst ':' (Text.trimChars cs)).map
        (fun p => (Text.trimChars p.1, Text.trimChars p.2)) =
      (Text.splitFirst ':' cs).map fun p => (Text.trimChars p.1, Text.trimChars p.2) := by
  have hcolon : Text.isBlank ':' = false := by decide
  by_cases h : ':' ∈ cs
  · obtain ⟨name, value, rfl, hname⟩ := List.eq_append_cons_of_mem h
    have hname' : ':' ∉ Text.trimStartChars name := fun hm =>
      hname ((List.dropWhile_sublist _).subset hm)
    rw [Text.splitFirst_append hname, Text.trimChars, Text.trimStartChars_stop hcolon,
      Text.trimEndChars_stop hcolon, Text.splitFirst_append hname']
    simp only [Option.map_some, Text.trimChars_trimStartChars, Text.trimChars_trimEndChars]
  · have h' : ':' ∉ Text.trimChars cs := by
      intro hm
      have h1 := (List.dropWhile_sublist _).subset (List.mem_reverse.mp hm)
      exact h ((List.dropWhile_sublist _).subset (List.mem_reverse.mp h1))
    rw [Text.splitFirst_none h, Text.splitFirst_none h']

/-- A line that is not blank says a length if it names one, and nothing otherwise. -/
theorem headerLine_lineBytes {cs : List Char} (h : ∃ c ∈ cs, Text.isBlank c = false) :
    headerLine (lineBytes cs) =
      match lengthText? cs with
      | none => .other
      | some text =>
        match length? text with
        | some n => .length n
        | none => .bad (.invalidLength (String.ofList text)) := by
  have hne : (Text.trimChars cs).isEmpty = false := by
    rw [List.isEmpty_eq_false_iff, ne_eq, Text.trimChars_eq_nil]
    obtain ⟨c, hc, hb⟩ := h
    exact fun hall => by simp [hall c hc] at hb
  have hsplit := splitFirst_trimChars cs
  rw [headerLine, decode_lineBytes]
  simp only [trimChars_feed, hne, Bool.false_eq_true, ↓reduceIte, lengthText?]
  cases h1 : Text.splitFirst ':' (Text.trimChars cs) with
  | none =>
    rw [h1, Option.map_none] at hsplit
    rw [Option.map_eq_none_iff.mp hsplit.symm]
  | some p =>
    cases h2 : Text.splitFirst ':' cs with
    | none => rw [h1, h2] at hsplit; simp at hsplit
    | some q =>
      rw [h1, h2] at hsplit
      simp only [Option.map_some, Option.some.injEq, Prod.mk.injEq] at hsplit
      simp only [hsplit.1, hsplit.2]
      split_ifs <;> rfl

/-- A line of blanks ends the headers. -/
theorem headerLine_blank {cs : List Char} (h : ∀ c ∈ cs, Text.isBlank c = true) :
    headerLine (lineBytes cs) = .blank := by
  rw [headerLine, decode_lineBytes]
  simp only [trimChars_feed, Text.trimChars_eq_nil.mpr h, List.isEmpty_nil, ↓reduceIte]

/-! ### Lines of a stream -/

theorem feed_not_mem_encode {cs : List Char} (h : '\n' ∉ cs) : (0x0A : UInt8) ∉ Utf8.encode cs := by
  intro hm
  obtain ⟨c, hc, hn⟩ := Utf8.exists_of_mem_encode hm (by decide)
  have : c = '\n' := by rw [← Char.ofNat_toNat c, hn]; rfl
  exact h (this ▸ hc)

/-- A line feed ends the line in front, and the rest is kept. -/
theorem nextLine_lineBytes (ended : Bool) {cs : List Char} (h : '\n' ∉ cs) (rest : List UInt8) :
    nextLine ended (lineBytes cs ++ rest) = .line (lineBytes cs) rest := by
  have hne : ∀ b ∈ Utf8.encode cs, (b != 0x0A) = true := fun b hb => by
    simp only [bne_iff_ne, ne_eq]
    exact fun he => feed_not_mem_encode h (he ▸ hb)
  have hline : line? (lineBytes cs ++ rest) = some (lineBytes cs, rest) := by
    rw [line?, lineBytes, List.append_assoc, List.dropWhile_append_of_pos hne,
      List.takeWhile_append_of_pos hne]
    simp
  rw [nextLine, hline]

/-- The lengths that header lines give, in order. -/
def lengths (ls : List (List Char)) : List Nat := ls.filterMap fun l => (lengthText? l).bind length?

/-- A header line as it may stand in front of a body: one line, not blank, and a number that fits
64 bits if it names a length. -/
def HeaderText (l : List Char) : Prop :=
  '\n' ∉ l ∧ (∃ c ∈ l, Text.isBlank c = false) ∧
    ∀ text ∈ lengthText? l, (length? text).isSome = true

instance (l : List Char) : Decidable (HeaderText l) :=
  decidable_of_iff ('\n' ∉ l ∧ l.any (fun c => !Text.isBlank c) = true ∧
    (lengthText? l).all (fun text => (length? text).isSome) = true)
    (by cases h : lengthText? l <;> simp [HeaderText, h])

/-- Header lines are taken one by one, and the length seen last counts. -/
theorem headers_lines (ended : Bool) (rest : List UInt8) (fuel : Nat) :
    ∀ (ls : List (List Char)) (first : Bool) (found : Option Nat), (∀ l ∈ ls, HeaderText l) →
      headers ended (fuel + ls.length) first found (ls.flatMap lineBytes ++ rest) =
        headers ended fuel (first && ls.isEmpty) ((lengths ls).getLast?.or found) rest
  | [], first, found, _ => by simp [lengths]
  | l :: ls, first, found, h => by
    obtain ⟨hfeed, hblank, hlen⟩ := h l List.mem_cons_self
    have ih := headers_lines ended rest fuel ls false
    have hls : ∀ x ∈ ls, HeaderText x := fun x hx => h x (List.mem_cons_of_mem _ hx)
    have hsay := headerLine_lineBytes hblank
    rw [List.flatMap_cons, List.append_assoc, List.length_cons, ← Nat.add_assoc, headers,
      nextLine_lineBytes ended hfeed]
    simp only [List.isEmpty_cons, Bool.and_false]
    cases ht : lengthText? l with
    | none =>
      have hl : lengths (l :: ls) = lengths ls := by simp [lengths, ht]
      rw [ht] at hsay
      rw [hsay, hl]
      exact ih found hls
    | some text =>
      obtain ⟨n, hn⟩ := Option.isSome_iff_exists.mp (hlen text ht)
      have hl : lengths (l :: ls) = n :: lengths ls := by simp [lengths, ht, hn]
      rw [ht] at hsay
      simp only [hn] at hsay
      rw [hsay, hl, List.getLast?_cons]
      refine (ih (some n) hls).trans ?_
      cases (lengths ls).getLast? <;> rfl

/-- Behind the blank line the body begins, if its length is known and not too large. -/
theorem headers_blank (ended first : Bool) (fuel n : Nat) {blank : List Char} (hfeed : '\n' ∉ blank)
    (hblank : ∀ c ∈ blank, Text.isBlank c = true) (rest : List UInt8) :
    headers ended (fuel + 1) first (some n) (lineBytes blank ++ rest) =
      if maxBody < n then .failed (.tooLarge n) rest else .done n rest := by
  rw [headers, nextLine_lineBytes ended hfeed]
  simp only [headerLine_blank hblank]

end Sidecar.Frame
