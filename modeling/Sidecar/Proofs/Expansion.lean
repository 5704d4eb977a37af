/-
# What a reference stands for

A text is ordinary text up to its first reference, then the reference, then
the rest, which is a text again; or it has no reference at all, because no
opening has a closing brace behind it (`reference_induction`). Expansion
follows this: in front of the reference nothing changes, the reference gives
the value of its name, and only the rest is looked at again; a text without a
reference stays as it is. These two laws determine expansion, since every text
is of one of the two forms (`Expansion.unique`).

The same text can be scanned by places in its bytes. Taking a part of the
bytes is refused if it would cut a character in two. The scan takes its parts
only in front of and behind whole characters: an opening and a closing brace
are ASCII characters, whose bytes occur nowhere else. So no part is refused,
the scan comes to its end, and the text is the same (`scan_eq`).

Key definitions: `Config.Closed`, `Config.Expansion`, `Config.scan`.
Key theorems: `Config.reference_induction`, `Config.scan_eq`,
`Config.expansion_determined`.
-/
import Mathlib.Tactic.Common
import Sidecar.Config.Expansion
import Sidecar.Proofs.Utf8

namespace Sidecar

/-- What a reference to a name stands for: nothing if the name is empty or unset. -/
def Environment.meaning (env : Environment) (name : String) : String :=
  if name = "" then "" else (env.get? name).getD ""

theorem Environment.value_eq (env : Environment) (name : List Char) :
    env.value name = (env.meaning (String.ofList name)).toList := by
  unfold value meaning
  cases name with
  | nil => simp
  | cons c r => simp

namespace Config

/-- What begins a reference. -/
def opening : List Char := ['$', '\x7b']

/-- What ends a reference. -/
def closing : Char := '\x7d'

/-- There is a reference: an opening with a closing brace somewhere behind it. -/
def Closed (s : List Char) : Prop := ∃ p n r, s = p ++ opening ++ n ++ closing :: r

variable {value : List Char → List Char} {p n r s acc name : List Char} {c : Char}

theorem Closed.cons (h : Closed s) (c : Char) : Closed (c :: s) := by
  obtain ⟨p, n, r, rfl⟩ := h
  exact ⟨c :: p, n, r, rfl⟩

/-- An opening in front is closed by any closing brace behind it. -/
theorem closed_opening : Closed ('$' :: '\x7b' :: s) ↔ closing ∈ s := by
  constructor
  · rintro ⟨p, n, r, h⟩
    -- the closing brace is not among the first two characters
    have hs : s = (p ++ opening ++ n ++ closing :: r).drop 2 := by rw [← h]; rfl
    have hlen : 2 ≤ (p ++ opening ++ n).length := by simp [opening]; omega
    rw [hs, List.drop_append_of_le_length hlen]
    simp
  · intro h
    obtain ⟨n, r, rfl⟩ := List.append_of_mem h
    exact ⟨[], n, r, rfl⟩

/-- Where no opening stands in front, the reference is further behind. -/
theorem Closed.tail (h : Closed (c :: s)) (hp : ¬ opening <+: c :: s) : Closed s := by
  obtain ⟨p, n, r, hs⟩ := h
  cases p with
  | nil =>
    refine absurd ?_ hp
    rw [hs]
    exact ⟨n ++ closing :: r, by simp⟩
  | cons d p =>
    obtain ⟨rfl, rfl⟩ := List.cons.inj hs
    exact ⟨p, n, r, rfl⟩

/-- Every text with a reference has a first one. -/
theorem Closed.first (h : Closed s) :
    ∃ p n r, ¬ opening <:+: p ∧ closing ∉ n ∧ s = p ++ opening ++ n ++ closing :: r := by
  induction s with
  | nil =>
    obtain ⟨p, n, r, hs⟩ := h
    simp at hs
  | cons c s ih =>
    by_cases hp : opening <+: c :: s
    · obtain ⟨t, ht⟩ := hp
      have hmem : closing ∈ t := by
        rw [← ht] at h
        exact closed_opening.1 h
      obtain ⟨n, r, rfl, hn⟩ := List.eq_append_cons_of_mem hmem
      exact ⟨[], n, r, by simp [opening], hn, by rw [← ht]; simp⟩
    · obtain ⟨p, n, r, hplain, hn, rfl⟩ := ih (h.tail hp)
      refine ⟨c :: p, n, r, ?_, hn, by simp⟩
      intro hin
      rcases List.infix_cons_iff.1 hin with hpre | hin
      · refine hp (hpre.trans ?_)
        exact ⟨opening ++ n ++ closing :: r, by simp⟩
      · exact hplain hin

/-- **A text has no reference, or is ordinary text, a reference and a text again.** -/
theorem reference_induction {P : List Char → Prop} (plain : ∀ s, ¬ Closed s → P s)
    (reference : ∀ p n r, ¬ opening <:+: p → closing ∉ n → P r →
      P (p ++ opening ++ n ++ closing :: r)) (s : List Char) : P s := by
  induction h : s.length using Nat.strongRecOn generalizing s with
  | ind len ih =>
    by_cases hs : Closed s
    · obtain ⟨p, n, r, hp, hn, rfl⟩ := hs.first
      refine reference p n r hp hn (ih r.length ?_ r rfl)
      rw [← h]
      simp
      omega
    · exact plain s hs

/-- No opening begins in a text without one, even if another opening follows. -/
theorem not_opening_of_plain (h : ¬ opening <:+: c :: p) :
    ¬ opening <+: c :: (p ++ opening ++ r) := by
  intro hpre
  obtain ⟨hc, hrest⟩ := List.cons_prefix_cons.1 hpre
  cases p with
  | nil => simp [opening] at hrest
  | cons d p =>
    have hd : '\x7b' = d := (List.cons_prefix_cons.1 hrest).1
    rw [← hc, ← hd] at h
    exact h ⟨[], p, rfl⟩

/-! ### The scan, character by character -/

/-- Only a dollar sign can begin a reference. -/
theorem expandOnto_of_ne (hc : c ≠ '$') :
    expandOnto value none acc (c :: r) = expandOnto value none (c :: acc) r := by
  rw [expandOnto.eq_def]
  simp [hc]

/-- What has been written already stays in front. -/
theorem expandOnto_append (value : List Char → List Char) (name : Option (List Char))
    (acc cs front : List Char) :
    expandOnto value name (acc ++ front) cs = front.reverse ++ expandOnto value name acc cs := by
  fun_induction expandOnto value name acc cs with
  | case1 acc => simp [expandOnto]
  | case2 acc name => simp [expandOnto]
  | case3 acc name c r hc ih => rw [expandOnto, if_pos hc, ← ih, List.append_assoc]
  | case4 acc name c r hc ih => rw [expandOnto, if_neg hc, ih]
  | case5 acc c hc => simp [expandOnto]
  | case6 acc c hc d r hd ih => simp only [expandOnto, hc, hd, ↓reduceIte, ih]
  | case7 acc c hc d r hd ih =>
    simp only [expandOnto, hc, hd, ↓reduceIte, ← ih, List.cons_append]
    rfl
  | case8 acc c r hc ih =>
    have hne : c ≠ '$' := by simpa using hc
    rw [expandOnto_of_ne hne, ← ih, List.cons_append]

theorem expandOnto_none (value : List Char → List Char) (acc cs : List Char) :
    expandOnto value none acc cs = acc.reverse ++ expandChars value cs :=
  expandOnto_append value none [] cs acc

/-- A character where no reference opens is copied. -/
theorem expandOnto_cons (h : ¬ opening <+: c :: r) :
    expandOnto value none acc (c :: r) = expandOnto value none (c :: acc) r := by
  by_cases hc : c = '$'
  · subst hc
    cases r with
    | nil => rfl
    | cons d r =>
      have hd : d ≠ '\x7b' := by
        rintro rfl
        exact h ⟨r, rfl⟩
      simp [expandOnto, hd]
  · exact expandOnto_of_ne hc

/-- A name is taken up to the closing brace. -/
theorem expandOnto_name (hn : closing ∉ n) :
    expandOnto value (some name) acc (n ++ closing :: r) =
      expandOnto value none ((value (name.reverse ++ n)).reverse ++ acc) r := by
  induction n generalizing name with
  | nil => simp [expandOnto, closing]
  | cons d n ih =>
    obtain ⟨hd, hn⟩ := List.ne_and_not_mem_of_not_mem_cons hn
    have hd : (d == '\x7d') = false := by simpa [closing] using Ne.symm hd
    rw [List.cons_append, expandOnto, if_neg (by simp [hd]), ih hn]
    simp

/-- A name that never ends is ordinary text, and so is its opening. -/
theorem expandOnto_unclosed (hs : closing ∉ s) :
    expandOnto value (some name) acc s = acc.reverse ++ opening ++ name.reverse ++ s := by
  induction s generalizing name with
  | nil => simp [expandOnto, opening]
  | cons d s ih =>
    obtain ⟨hd, hs⟩ := List.ne_and_not_mem_of_not_mem_cons hs
    have hd : (d == '\x7d') = false := by simpa [closing] using Ne.symm hd
    rw [expandOnto, if_neg (by simp [hd]), ih hs]
    simp

theorem expandChars_opening (value : List Char → List Char) (s : List Char) :
    expandChars value (opening ++ s) = expandOnto value (some []) [] s := by
  simp [expandChars, opening, expandOnto]

theorem expandChars_cons (h : ¬ opening <+: c :: r) :
    expandChars value (c :: r) = c :: expandChars value r := by
  rw [expandChars, expandOnto_cons h, expandOnto_none]
  rfl

/-- A reference in front gives its value, and the rest is a text of its own. -/
theorem expandChars_reference (hn : closing ∉ n) :
    expandChars value (opening ++ n ++ closing :: r) = value n ++ expandChars value r := by
  rw [List.append_assoc, expandChars_opening, expandOnto_name hn, expandOnto_none]
  simp

/-- Ordinary text in front of a reference stays. -/
theorem expandChars_plain (hp : ¬ opening <:+: p) :
    expandChars value (p ++ opening ++ r) = p ++ expandChars value (opening ++ r) := by
  induction p with
  | nil => rfl
  | cons c p ih =>
    have hrest : ¬ opening <:+: p := fun hin => hp (List.infix_cons hin)
    rw [List.cons_append, List.cons_append, expandChars_cons (not_opening_of_plain hp), ih hrest]
    rfl

/-- Up to the first reference and behind it. -/
theorem expandChars_first (hp : ¬ opening <:+: p) (hn : closing ∉ n) :
    expandChars value (p ++ opening ++ n ++ closing :: r) =
      p ++ value n ++ expandChars value r := by
  calc expandChars value (p ++ opening ++ n ++ closing :: r)
      = expandChars value (p ++ opening ++ (n ++ closing :: r)) := by rw [List.append_assoc _ n]
    _ = p ++ expandChars value (opening ++ n ++ closing :: r) := by
      rw [expandChars_plain hp, List.append_assoc opening]
    _ = p ++ value n ++ expandChars value r := by
      rw [expandChars_reference hn, List.append_assoc]

/-- A text without a reference stays as it is. -/
theorem expandChars_of_not_closed (hs : ¬ Closed s) : expandChars value s = s := by
  induction s with
  | nil => rfl
  | cons c s ih =>
    by_cases hp : opening <+: c :: s
    · obtain ⟨t, ht⟩ := hp
      rw [← ht] at hs ⊢
      have ht : closing ∉ t := fun hmem => hs (closed_opening.2 hmem)
      rw [expandChars_opening, expandOnto_unclosed ht]
      simp
    · rw [expandChars_cons hp, ih fun h => hs (h.cons c)]

/-- A character with no reference at its place is copied, also if it is a part of an opening. -/
theorem expandChars_char (h : ∀ t, c :: r = opening ++ t → closing ∉ t) :
    expandChars value (c :: r) = c :: expandChars value r := by
  by_cases hp : opening <+: c :: r
  · obtain ⟨t, ht⟩ := hp
    have hclosed : ¬ Closed (c :: r) := by
      rw [← ht]
      exact fun hc => h t ht.symm (closed_opening.1 hc)
    rw [expandChars_of_not_closed hclosed, expandChars_of_not_closed fun hr => hclosed (hr.cons c)]
  · exact expandChars_cons hp

/-! ### The scan, by places in the bytes -/

/-- Whether a place in the bytes of a text lies between two characters. -/
def isBoundary (bs : List UInt8) (i : Nat) : Bool :=
  match bs[i]? with
  | some b => !Utf8.isTail b
  | none => i == bs.length

/-- The bytes from one place to another, refused where a character would be cut in two. -/
def slice? (bs : List UInt8) (i j : Nat) : Option (List UInt8) :=
  if i ≤ j && isBoundary bs i && isBoundary bs j then some ((bs.take j).drop i) else none

/-- The name of the reference that begins at a place, and the place behind it; `some none` if none
begins there. -/
def referenceAt? (bs : List UInt8) (i : Nat) : Option (Option (List Char × Nat)) := do
  let rest ← slice? bs i bs.length
  if (Utf8.encode opening).isPrefixOf rest then
    let behind ← slice? bs (i + 2) bs.length
    match behind.idxOf? 0x7D with
    | some k =>
      let name ← Utf8.decode? (← slice? bs (i + 2) (i + 2 + k))
      return some (name, i + 2 + k + 1)
    | none => return none
  else return none

/-- The character that begins at a place. -/
def charAt? (bs : List UInt8) (i : Nat) : Option Char := do
  let rest ← slice? bs i bs.length
  let lead ← rest.head?
  match ← Utf8.decode? (rest.take (Utf8.width lead)) with
  | [c] => some c
  | _ => none

theorem lt_of_referenceAt? {bs : List UInt8} {i next : Nat} {name : List Char}
    (h : referenceAt? bs i = some (some (name, next))) : i < next := by
  simp only [referenceAt?, Option.bind_eq_bind, Option.bind_eq_some_iff] at h
  obtain ⟨rest, -, h⟩ := h
  split at h
  · obtain ⟨behind, -, h⟩ := Option.bind_eq_some_iff.1 h
    split at h
    · next k _ =>
      simp only [Option.bind_eq_some_iff, Option.pure_def, Option.some.injEq, Prod.mk.injEq] at h
      obtain ⟨_, -, _, -, -, hnext⟩ := h
      omega
    · cases h
  · cases h

/-- Goes through the bytes from a place on; `out` holds the text so far. -/
def scanFrom (value : List Char → List Char) (bs : List UInt8) (i : Nat) (out : List Char) :
    Option (List Char) :=
  if _ : i < bs.length then
    match _ : referenceAt? bs i with
    | none => none
    | some (some (name, next)) => scanFrom value bs next (out ++ value name)
    | some none =>
      match charAt? bs i with
      | none => none
      | some c => scanFrom value bs (i + (Utf8.encodeChar c).length) (out ++ [c])
  else some out
termination_by bs.length - i
decreasing_by
  · have := lt_of_referenceAt? ‹referenceAt? bs i = _›
    omega
  · obtain ⟨b, t, hc, -, -⟩ := Utf8.encodeChar_lead c
    rw [hc, List.length_cons]
    omega

/-- The text with the values of its references in their place, by places in its bytes; nothing if a
character would have to be cut in two. -/
def scan (value : List Char → List Char) (bs : List UInt8) : Option (List Char) :=
  scanFrom value bs 0 []

/-- Behind every character a part may begin or end. -/
theorem isBoundary_encode (p r : List Char) :
    isBoundary (Utf8.encode (p ++ r)) (Utf8.encode p).length = true := by
  rw [Utf8.encode_append, isBoundary]
  cases r with
  | nil => simp
  | cons c r =>
    obtain ⟨b, t, hc, hb, -⟩ := Utf8.encodeChar_lead c
    simp [hc, hb]

/-- A part between characters is never refused. -/
theorem slice?_encode (p m r : List Char) :
    slice? (Utf8.encode (p ++ m ++ r)) (Utf8.encode p).length (Utf8.encode (p ++ m)).length =
      some (Utf8.encode m) := by
  have hle : (Utf8.encode p).length ≤ (Utf8.encode (p ++ m)).length := by simp
  have hi : isBoundary (Utf8.encode (p ++ m ++ r)) (Utf8.encode p).length = true := by
    rw [List.append_assoc]
    exact isBoundary_encode p (m ++ r)
  have hj := isBoundary_encode (p ++ m) r
  rw [slice?, if_pos (by rw [decide_eq_true hle, hi, hj]; rfl), Utf8.encode_append (p ++ m) r,
    List.take_left, Utf8.encode_append, List.drop_left]

/-- Nor is what is left. -/
theorem slice?_rest (p r : List Char) :
    slice? (Utf8.encode (p ++ r)) (Utf8.encode p).length (Utf8.encode (p ++ r)).length =
      some (Utf8.encode r) := by
  simpa using slice?_encode p r []

/-- A byte below 0x80 in front is the character with that code. -/
theorem of_encode_cons {b : UInt8} {t : List UInt8} (h : Utf8.encode s = b :: t)
    (hb : b.toNat < 0x80) : ∃ c r, s = c :: r ∧ c.toNat = b.toNat ∧ Utf8.encode r = t := by
  cases s with
  | nil => simp at h
  | cons c r =>
    obtain ⟨b', t', hc, -, -⟩ := Utf8.encodeChar_lead c
    rw [Utf8.encode_cons, hc, List.cons_append, List.cons.injEq] at h
    obtain ⟨rfl, ht⟩ := h
    have hmem : b' ∈ Utf8.encodeChar c := by simp [hc]
    rcases Utf8.mem_encodeChar hmem with ⟨hle, he⟩ | ⟨-, hge⟩
    · rw [Utf8.encodeChar_one hle, List.cons.injEq] at hc
      rw [← hc.2, List.nil_append] at ht
      exact ⟨c, r, rfl, he.symm, ht⟩
    · omega

theorem encode_opening : Utf8.encode opening = [0x24, 0x7B] := by decide

/-- The bytes show an opening exactly where the text has one. -/
theorem opening_prefix_encode : Utf8.encode opening <+: Utf8.encode s ↔ opening <+: s := by
  constructor
  · rintro ⟨t, ht⟩
    rw [encode_opening] at ht
    obtain ⟨c, r, rfl, hc, hr⟩ := of_encode_cons ht.symm (by decide)
    obtain ⟨d, r, rfl, hd, -⟩ := of_encode_cons hr (by decide)
    obtain rfl : c = '$' := Char.toNat_inj.1 hc
    obtain rfl : d = '\x7b' := Char.toNat_inj.1 hd
    exact ⟨r, rfl⟩
  · rintro ⟨t, rfl⟩
    rw [Utf8.encode_append]
    exact List.prefix_append _ _

theorem closing_not_mem_encode (h : closing ∉ s) : (0x7D : UInt8) ∉ Utf8.encode s := by
  intro hmem
  obtain ⟨c, hc, hcode⟩ := Utf8.exists_of_mem_encode hmem (by decide)
  obtain rfl : c = closing := Char.toNat_inj.1 hcode
  exact h hc

theorem idxOf?_closing (hn : closing ∉ n) :
    (Utf8.encode (n ++ closing :: r)).idxOf? 0x7D = some (Utf8.encode n).length := by
  have hclosing : Utf8.encodeChar closing = [0x7D] := by decide
  have hnone : (Utf8.encode n).findIdx? (· == 0x7D) = none := by
    rw [List.findIdx?_eq_none_iff]
    intro b hb
    simpa using ne_of_mem_of_not_mem hb (closing_not_mem_encode hn)
  rw [Utf8.encode_append, Utf8.encode_cons, hclosing, List.idxOf?, List.findIdx?_append, hnone]
  simp [List.findIdx?_cons]

/-- The bytes have a reference where the text has one. -/
theorem referenceAt?_reference (hn : closing ∉ n) :
    referenceAt? (Utf8.encode (p ++ opening ++ n ++ closing :: r)) (Utf8.encode p).length =
      some (some (n, (Utf8.encode (p ++ opening ++ n ++ [closing])).length)) := by
  have hrest := slice?_rest p (opening ++ n ++ closing :: r)
  have hopen : (Utf8.encode opening).isPrefixOf (Utf8.encode (opening ++ n ++ closing :: r)) =
      true := by
    rw [List.isPrefixOf_iff_prefix, opening_prefix_encode]
    exact ⟨n ++ closing :: r, by simp⟩
  have hbehind := slice?_rest (p ++ opening) (n ++ closing :: r)
  have hname := slice?_encode (p ++ opening) n (closing :: r)
  have hdecode : Utf8.decode? (Utf8.encode n) = some n := by
    rw [Utf8.decode?, Utf8.decode_encode]
    rfl
  have hopened : (Utf8.encode p).length + 2 = (Utf8.encode (p ++ opening)).length := by
    simp [encode_opening]
  have hnamed : (Utf8.encode (p ++ opening)).length + (Utf8.encode n).length =
      (Utf8.encode (p ++ opening ++ n)).length := by
    rw [Utf8.encode_append (p ++ opening), List.length_append]
  have hclosed : (Utf8.encode (p ++ opening ++ n)).length + 1 =
      (Utf8.encode (p ++ opening ++ n ++ [closing])).length := by
    rw [Utf8.encode_append (p ++ opening ++ n), List.length_append]
    rfl
  rw [← List.append_assoc, ← List.append_assoc] at hrest
  rw [← List.append_assoc] at hbehind
  simp only [referenceAt?, Option.bind_eq_bind, hrest, Option.bind_some, hopen, ↓reduceIte, hopened,
    hbehind, idxOf?_closing hn, hnamed, hname, hdecode, hclosed, Option.pure_def]

/-- And none where it has none. -/
theorem referenceAt?_none (h : ∀ t, s = opening ++ t → closing ∉ t) :
    referenceAt? (Utf8.encode (p ++ s)) (Utf8.encode p).length = some none := by
  simp only [referenceAt?, Option.bind_eq_bind, slice?_rest, Option.bind_some]
  split
  · next hopen =>
    rw [List.isPrefixOf_iff_prefix, opening_prefix_encode] at hopen
    obtain ⟨t, rfl⟩ := hopen
    have hopened : (Utf8.encode p).length + 2 = (Utf8.encode (p ++ opening)).length := by
      simp [encode_opening]
    have hnone : (Utf8.encode t).idxOf? 0x7D = none := by
      rw [List.idxOf?_eq_none_iff]
      exact closing_not_mem_encode (h t rfl)
    rw [← List.append_assoc, hopened, slice?_rest]
    simp [hnone]
  · rfl

theorem charAt?_encode (p : List Char) (c : Char) (r : List Char) :
    charAt? (Utf8.encode (p ++ c :: r)) (Utf8.encode p).length = some c := by
  obtain ⟨b, t, hc, -, hwidth⟩ := Utf8.encodeChar_lead c
  have hhead : (Utf8.encode (c :: r)).head? = some b := by simp [hc]
  have htake : (Utf8.encode (c :: r)).take (Utf8.width b) = Utf8.encode [c] := by
    have hlen : Utf8.width b = (Utf8.encodeChar c).length := by rw [hwidth, hc]; rfl
    simp [hlen]
  have hdecode : Utf8.decode? (Utf8.encode [c]) = some [c] := by
    rw [Utf8.decode?, Utf8.decode_encode]
    rfl
  simp only [charAt?, slice?_rest, Option.bind_eq_bind, Option.bind_some, hhead, htake, hdecode]

/-- One step of the scan at a reference. -/
theorem scanFrom_reference (hn : closing ∉ n) (out : List Char) :
    scanFrom value (Utf8.encode (p ++ opening ++ n ++ closing :: r)) (Utf8.encode p).length out =
      scanFrom value (Utf8.encode (p ++ opening ++ n ++ closing :: r))
        (Utf8.encode (p ++ opening ++ n ++ [closing])).length (out ++ value n) := by
  have hlt : (Utf8.encode p).length <
      (Utf8.encode (p ++ opening ++ n ++ closing :: r)).length := by
    simp [encode_opening]
  rw [scanFrom, dif_pos hlt]
  split
  · next h => rw [referenceAt?_reference hn] at h; cases h
  · next name next h =>
    rw [referenceAt?_reference hn] at h
    cases h
    rfl
  · next h => rw [referenceAt?_reference hn] at h; cases h

/-- One step of the scan at any other character. -/
theorem scanFrom_char (h : ∀ t, c :: r = opening ++ t → closing ∉ t) (out : List Char) :
    scanFrom value (Utf8.encode (p ++ c :: r)) (Utf8.encode p).length out =
      scanFrom value (Utf8.encode (p ++ c :: r)) (Utf8.encode (p ++ [c])).length (out ++ [c]) := by
  have hlt : (Utf8.encode p).length < (Utf8.encode (p ++ c :: r)).length := by
    obtain ⟨b, t, hc, -, -⟩ := Utf8.encodeChar_lead c
    simp [hc]
  have hnext : (Utf8.encode p).length + (Utf8.encodeChar c).length =
      (Utf8.encode (p ++ [c])).length := by simp
  rw [scanFrom, dif_pos hlt]
  split
  · next h' => rw [referenceAt?_none h] at h'; cases h'
  · next h' => rw [referenceAt?_none h] at h'; cases h'
  · rw [charAt?_encode]
    dsimp only
    rw [hnext]

/-- **The scan of the bytes comes to its end, cuts no character, and gives the same text.** -/
theorem scanFrom_eq (value : List Char → List Char) (p s out : List Char) :
    scanFrom value (Utf8.encode (p ++ s)) (Utf8.encode p).length out =
      some (out ++ expandChars value s) := by
  induction h : s.length using Nat.strongRecOn generalizing p s out with
  | ind len ih =>
    subst h
    cases s with
    | nil =>
      rw [scanFrom, dif_neg (by simp)]
      simp [expandChars, expandOnto]
    | cons c s =>
      by_cases href : ∃ t, c :: s = opening ++ t ∧ closing ∈ t
      · obtain ⟨t, ht, hmem⟩ := href
        obtain ⟨n, r, rfl, hn⟩ := List.eq_append_cons_of_mem hmem
        have hshort : r.length < (c :: s).length := by
          rw [ht]
          simp
          omega
        have hrest := ih r.length hshort (p ++ opening ++ n ++ [closing]) r (out ++ value n) rfl
        rw [List.append_assoc (p ++ opening ++ n), List.singleton_append] at hrest
        rw [ht, ← List.append_assoc opening, expandChars_reference hn, ← List.append_assoc p,
          ← List.append_assoc p, scanFrom_reference hn, hrest, List.append_assoc]
      · have hnone : ∀ t, c :: s = opening ++ t → closing ∉ t := fun t ht hmem => href ⟨t, ht, hmem⟩
        have hrest := ih s.length (by simp) (p ++ [c]) s (out ++ [c]) rfl
        rw [List.append_assoc, List.singleton_append] at hrest
        rw [scanFrom_char hnone, hrest, expandChars_char hnone, List.append_assoc,
          List.singleton_append]

theorem scan_eq (value : List Char → List Char) (s : List Char) :
    scan value (Utf8.encode s) = some (expandChars value s) := scanFrom_eq value [] s []

/-- What expansion has to do: ordinary text in front of a reference stays, the reference gives what
its name stands for, and only what follows is looked at again; a text without a reference stays. -/
structure Expansion (env : Environment) (f : String → String) : Prop where
  reference : ∀ p n r : String, ¬ opening <:+: p.toList → closing ∉ n.toList →
    f (p ++ "$\x7b" ++ n ++ "\x7d" ++ r) = p ++ env.meaning n ++ f r
  plain : ∀ s : String, ¬ Closed s.toList → f s = s

theorem toList_reference (p n r : String) : (p ++ "$\x7b" ++ n ++ "\x7d" ++ r).toList =
    p.toList ++ opening ++ n.toList ++ closing :: r.toList := by
  simp [opening, closing]

theorem expand_of_not_closed {env : Environment} {s : String} (h : ¬ Closed s.toList) :
    expand env s = s := by
  rw [expand, expandChars_of_not_closed h, String.ofList_toList]

theorem expansion_expand (env : Environment) : Expansion env (expand env) where
  reference p n r hp hn := by
    apply String.toList_inj.1
    rw [expand, toList_reference, expandChars_first hp hn, env.value_eq]
    simp [expand]
  plain _ hs := expand_of_not_closed hs

/-- Nothing else satisfies the laws. -/
theorem Expansion.unique {env : Environment} {f g : String → String} (hf : Expansion env f)
    (hg : Expansion env g) : f = g := by
  funext s
  suffices h : ∀ cs : List Char, f (String.ofList cs) = g (String.ofList cs) by
    simpa using h s.toList
  intro cs
  induction cs using reference_induction with
  | plain cs hcs => rw [hf.plain _ (by simpa using hcs), hg.plain _ (by simpa using hcs)]
  | reference p n r hp hn ih =>
    have htext : String.ofList (p ++ opening ++ n ++ closing :: r) =
        String.ofList p ++ "$\x7b" ++ String.ofList n ++ "\x7d" ++ String.ofList r := by
      apply String.toList_inj.1
      rw [toList_reference]
      simp
    have hp' : ¬ opening <:+: (String.ofList p).toList := by simpa using hp
    have hn' : closing ∉ (String.ofList n).toList := by simpa using hn
    rw [htext, hf.reference _ _ _ hp' hn', hg.reference _ _ _ hp' hn', ih]

/-- **Expansion is what the two laws say.** Going through the bytes of a text by places comes to an
end, never cuts a character in two and gives the expanded text; expansion satisfies both laws, and
nothing else does. -/
theorem expansion_determined (env : Environment) :
    (∀ s : String, scan env.value (Utf8.ofString s) = some (expand env s).toList) ∧
      Expansion env (expand env) ∧ ∀ f, Expansion env f → f = expand env := by
  refine ⟨fun s => ?_, expansion_expand env, fun f hf => hf.unique (expansion_expand env)⟩
  rw [Utf8.ofString, scan_eq, expand, String.toList_ofList]

/-- A value is not expanded again, and an opening that is never closed stays. -/
example : expand [("BIN", "/opt/$\x7bHOME\x7d"), ("HOME", "/h")]
    "$\x7bBIN\x7d/ls$\x7bUNSET\x7d$\x7b" = "/opt/$\x7bHOME\x7d/ls$\x7b" := by cbv

end Config

end Sidecar
