/-
# Strings and numbers in JSON text

Reading what was printed, for the parts of a value that are not containers.

A character of a string is printed as itself, as a short escape or as four
hexadecimal digits; whichever it is, reading adds its bytes and nothing else
(`stringRest_escapeChar`), so a string is read up to its closing quote
(`stringRest_quoted`). A whole number is printed in decimal digits, and all
of them are taken in as long as it fits 64 bits (`absorb_digits`,
`unsignedNumber_toDigits`); it ends in front of whatever may stand behind a
value, `Delimited`.

Key definitions: `Json.quoted`, `Json.Delimited`.
Key theorems: `Json.stringRest_quoted`, `Json.unsignedNumber_toDigits`.
-/
import Mathlib.Algebra.Ring.Int.Defs
import Mathlib.Algebra.Ring.Nat
import Mathlib.Tactic.Common
import Sidecar.Json.Parser
import Sidecar.Json.Printer
import Sidecar.Proofs.Utf8

namespace Sidecar.Json

theorem toNat_code {c : Char} (h : c.toNat ≤ 0x7F) : (code c).toNat = c.toNat :=
  Utf8.toNat_ofNat_byte (by omega)

theorem code_inj {c d : Char} (hc : c.toNat ≤ 0x7F) (hd : d.toNat ≤ 0x7F) (h : code c = code d) :
    c = d := by
  have hn : c.toNat = d.toNat := by rw [← toNat_code hc, h, toNat_code hd]
  rw [← Char.ofNat_toNat c, hn, Char.ofNat_toNat]

theorem encode_ascii_code {cs : List Char} (h : ∀ c ∈ cs, c.toNat ≤ 0x7F) :
    Utf8.encode cs = cs.map code := Utf8.encode_ascii cs h

/-- An ASCII byte stands in the bytes of no other character. -/
theorem eq_of_code_mem {c d : Char} (hd : d.toNat ≤ 0x7F) (h : code d ∈ Utf8.encodeChar c) :
    c = d := by
  have hn : c.toNat = d.toNat := by
    rcases Utf8.mem_encodeChar h with ⟨-, he⟩ | ⟨-, he⟩ <;> rw [toNat_code hd] at he <;> omega
  rw [← Char.ofNat_toNat c, hn, Char.ofNat_toNat]

/-! ### Strings -/

theorem stringRest_plain (acc r : List UInt8) : ∀ bs : List UInt8,
    (∀ b ∈ bs, b ≠ code '"' ∧ b ≠ code '\\' ∧ ¬ b < 0x20) →
      stringRest acc (bs ++ r) = stringRest (bs.reverse ++ acc) r := by
  intro bs
  induction bs generalizing acc with
  | nil => intro _; rfl
  | cons b bs ih =>
    intro h
    obtain ⟨h1, h2, h3⟩ := h b List.mem_cons_self
    rw [List.cons_append, stringRest.eq_def]
    simp only [beq_iff_eq, h1, h2, h3, ↓reduceIte]
    rw [ih (b :: acc) fun x hx => h x (List.mem_cons_of_mem _ hx)]
    simp

theorem stringRest_short (acc r : List UInt8) {e b : UInt8} (hu : e ≠ code 'u')
    (h : shortEscape? e = some b) :
    stringRest acc (code '\\' :: e :: r) = stringRest (b :: acc) r := by
  rw [stringRest.eq_def]
  have hq : code '\\' ≠ code '"' := by decide
  simp only [beq_iff_eq, hq, hu, h, ↓reduceIte]

theorem hex4?_hexDigit : ∀ n < 0x20, hex4? (code '0') (code '0')
    (code (Text.hexDigit (n / 16))) (code (Text.hexDigit (n % 16))) = some n := by
  decide

theorem stringRest_unicode (acc r : List UInt8) {n : Nat} (h : n < 0x20) :
    stringRest acc (code '\\' :: code 'u' :: code '0' :: code '0' ::
      code (Text.hexDigit (n / 16)) :: code (Text.hexDigit (n % 16)) :: r) =
      stringRest (pushChar n acc) r := by
  rw [stringRest.eq_def]
  have hq : code '\\' ≠ code '"' := by decide
  have h1 : ¬ (0xDC00 ≤ n) := by omega
  have h2 : ¬ (0xD800 ≤ n) := by omega
  simp only [beq_iff_eq, hq, hex4?_hexDigit n h, h1, h2, decide_false, Bool.false_and, ↓reduceIte,
    Bool.false_eq_true]

theorem hexDigit_ascii : ∀ n < 16, (Text.hexDigit n).toNat ≤ 0x7F := by decide

/-- Reading one escaped character adds its bytes. -/
theorem stringRest_escapeChar (acc r : List UInt8) (c : Char) :
    stringRest acc (Utf8.encode (escapeChar c) ++ r) =
      stringRest ((Utf8.encodeChar c).reverse ++ acc) r := by
  unfold escapeChar
  split_ifs with h1 h2 h3 h4 h5 h6 h7 h8
  · rw [beq_iff_eq.mp h1]
    exact stringRest_short acc r (by decide) (by decide)
  · rw [beq_iff_eq.mp h2]
    exact stringRest_short acc r (by decide) (by decide)
  · rw [Utf8.encode_cons, Utf8.encode_nil, List.append_nil]
    apply stringRest_plain
    intro b hb
    refine ⟨?_, ?_, ?_⟩
    · rintro rfl
      exact h1 (beq_iff_eq.mpr (eq_of_code_mem (by decide) hb))
    · rintro rfl
      exact h2 (beq_iff_eq.mpr (eq_of_code_mem (by decide) hb))
    · have := Utf8.mem_encodeChar hb
      rw [UInt8.lt_iff_toNat_lt]
      show ¬ b.toNat < 0x20
      omega
  · rw [beq_iff_eq.mp h4]
    exact stringRest_short acc r (by decide) (by decide)
  · rw [beq_iff_eq.mp h5]
    exact stringRest_short acc r (by decide) (by decide)
  · rw [beq_iff_eq.mp h6]
    exact stringRest_short acc r (by decide) (by decide)
  · have hc : c = Char.ofNat 8 := by rw [← beq_iff_eq.mp h7, Char.ofNat_toNat]
    rw [hc]
    exact stringRest_short acc r (by decide) (by decide)
  · have hc : c = Char.ofNat 12 := by rw [← beq_iff_eq.mp h8, Char.ofNat_toNat]
    rw [hc]
    exact stringRest_short acc r (by decide) (by decide)
  · have hn : c.toNat < 0x20 := by omega
    have := stringRest_unicode acc r hn
    rw [pushChar, Char.ofNat_toNat, List.reverseAux_eq] at this
    rw [← this, encode_ascii_code]
    · rfl
    · have e1 := hexDigit_ascii (c.toNat / 16) (by omega)
      have e2 := hexDigit_ascii (c.toNat % 16) (by omega)
      simp [e1, e2]

/-- The bytes of a string between its quotes. -/
def quoted (s : String) : List UInt8 := Utf8.encode (s.toList.flatMap escapeChar)

/-- A string is read up to its closing quote. -/
theorem stringRest_quoted (s : String) (r : List UInt8) :
    stringRest [] (quoted s ++ code '"' :: r) = .ok (s, r) := by
  have hread : ∀ (cs : List Char) (acc : List UInt8),
      stringRest acc (Utf8.encode (cs.flatMap escapeChar) ++ code '"' :: r) =
        stringRest ((Utf8.encode cs).reverse ++ acc) (code '"' :: r) := by
    intro cs
    induction cs with
    | nil => intro acc; rfl
    | cons c cs ih =>
      intro acc
      rw [List.flatMap_cons, Utf8.encode_append, List.append_assoc, stringRest_escapeChar, ih]
      simp
  rw [quoted, hread, stringRest.eq_def]
  simp [Utf8.decode_encode]

/-! ### Numbers -/

theorem toNat_le_of_isDigit {c : Char} (h : c.isDigit = true) : 48 ≤ c.toNat ∧ c.toNat ≤ 57 := by
  simp only [Char.isDigit, ge_iff_le, Bool.and_eq_true, decide_eq_true_eq, UInt32.le_iff_toNat_le] at h
  exact h

theorem isDigitByte_code {c : Char} (h : c.isDigit = true) :
    isDigitByte (code c) = true ∧ digitValue (code c) = c.toNat - 48 := by
  obtain ⟨h1, h2⟩ := toNat_le_of_isDigit h
  have hc : (code c).toNat = c.toNat := toNat_code (by omega)
  refine ⟨?_, by rw [digitValue, hc]⟩
  simp only [isDigitByte, Bool.and_eq_true, decide_eq_true_eq, UInt8.le_iff_toNat_le, hc]
  exact ⟨h1, h2⟩

theorem le_ofDigitChars (n : Nat) : ∀ ds : List Char, n ≤ Nat.ofDigitChars 10 ds n := by
  intro ds
  induction ds generalizing n with
  | nil => simp
  | cons d ds ih =>
    rw [Nat.ofDigitChars_cons]
    exact Nat.le_trans (by omega) (ih _)

/-- Digits that stay within the bound are all taken in. -/
theorem absorb_digits (most : Nat) (r : List UInt8) (hr : startsWithDigit r = false) :
    ∀ (ds : List Char) (n k : Nat), (∀ c ∈ ds, c.isDigit = true) →
      Nat.ofDigitChars 10 ds n ≤ most →
      absorb most n k (ds.map code ++ r) = (Nat.ofDigitChars 10 ds n, k + ds.length, r)
  | [], n, k, _, _ => by
    cases r with
    | nil => rfl
    | cons b r =>
      have hb : isDigitByte b = false := hr
      simp [absorb, hb]
  | d :: ds, n, k, hd, hn => by
    obtain ⟨h1, h2⟩ := isDigitByte_code (hd d List.mem_cons_self)
    have hds : ∀ c ∈ ds, c.isDigit = true := fun c hc => hd c (List.mem_cons_of_mem _ hc)
    rw [Nat.ofDigitChars_cons, Nat.mul_comm] at hn ⊢
    have hle : n * 10 + digitValue (code d) ≤ most := by
      rw [h2]
      exact Nat.le_trans (le_ofDigitChars _ ds) hn
    rw [List.map_cons, List.cons_append, absorb, h1]
    simp only [hle, decide_true, Bool.and_self, ↓reduceIte]
    rw [h2]
    have := absorb_digits most r hr ds (n * 10 + (d.toNat - 48)) (k + 1) hds hn
    refine this.trans ?_
    simp only [List.length_cons, Prod.mk.injEq, and_true]
    exact ⟨rfl, by omega⟩

/-- What may stand behind a value: nothing, a comma, or the end of the container it is in. -/
def Delimited : List UInt8 → Prop
  | [] => True
  | b :: _ => b = code ',' ∨ b = code ']' ∨ b = code '\x7d'

theorem Delimited.startsWithDigit {r : List UInt8} (h : Delimited r) : startsWithDigit r = false := by
  cases r with
  | nil => rfl
  | cons b r => rcases h with rfl | rfl | rfl <;> rfl

theorem skipDigits_of_startsWithDigit {r : List UInt8} (h : startsWithDigit r = false) (k : Nat) :
    skipDigits k r = (k, r) := by
  cases r with
  | nil => rfl
  | cons b r =>
    have hb : isDigitByte b = false := h
    simp [skipDigits, hb]

/-- A number ends in front of whatever may stand behind a value. -/
theorem numberRest_delimited (negative : Bool) (n : Nat) {r : List UInt8} (h : Delimited r) :
    numberRest negative n 0 r = .ok (wholeOf negative n, r) := by
  cases r with
  | nil => rfl
  | cons b r => rcases h with rfl | rfl | rfl <;> rfl

theorem toDigits_isDigit {n : Nat} {c : Char} (h : c ∈ Nat.toDigits 10 n) : c.isDigit = true :=
  Nat.isDigit_of_mem_toDigits (by omega) (by omega) h

/-- The first digit of a number is not zero, unless the number is. -/
theorem toDigits_head : ∀ n : Nat, 0 < n → ∃ d ds, Nat.toDigits 10 n = d :: ds ∧ d ≠ '0' := by
  intro n
  induction n using Nat.strongRecOn with
  | ind n ih =>
    intro hn
    by_cases h : n < 10
    · refine ⟨n.digitChar, [], Nat.toDigits_of_lt_base h, ?_⟩
      simp only [ne_eq, Nat.digitChar_eq_zero]
      omega
    · obtain ⟨d, ds, he, hd⟩ := ih (n / 10) (by omega) (by omega)
      refine ⟨d, ds ++ [(n % 10).digitChar], ?_, hd⟩
      rw [Nat.toDigits_of_base_le (by omega) (by omega), he, List.cons_append]

theorem unsignedNumber_toDigits (negative : Bool) {n : Nat} (hn : n < 2 ^ 64) {r : List UInt8}
    (hr : Delimited r) :
    unsignedNumber negative ((Nat.toDigits 10 n).map code ++ r) = .ok (wholeOf negative n, r) := by
  rcases Nat.eq_zero_or_pos n with rfl | hpos
  · rw [Nat.toDigits_zero, List.map_singleton, List.singleton_append, unsignedNumber]
    simp only [beq_self_eq_true, ↓reduceIte, hr.startsWithDigit, Bool.false_eq_true]
    exact numberRest_delimited negative 0 hr
  · obtain ⟨d, ds, he, hd⟩ := toDigits_head n hpos
    have hdig : ∀ c ∈ d :: ds, c.isDigit = true := fun c hc => toDigits_isDigit (he ▸ hc)
    obtain ⟨h1, h2⟩ := isDigitByte_code (hdig d List.mem_cons_self)
    have hval : Nat.ofDigitChars 10 ds (digitValue (code d)) = n := by
      have := Nat.ofDigitChars_ten_toDigits (n := n)
      rw [he, Nat.ofDigitChars_cons] at this
      rw [h2, ← this]
      simp
    have hne : code d ≠ code '0' := by
      have := (toNat_le_of_isDigit (hdig d List.mem_cons_self)).2
      exact fun h => hd (code_inj (by omega) (by decide) h)
    rw [he, List.map_cons, List.cons_append, unsignedNumber]
    simp only [beq_iff_eq, hne, h1, ↓reduceIte]
    rw [absorb_digits _ r hr.startsWithDigit ds _ 0 (fun c hc => hdig c (List.mem_cons_of_mem _ hc))
      (by rw [hval]; omega), hval]
    simp only
    rw [skipDigits_of_startsWithDigit hr.startsWithDigit]
    exact numberRest_delimited negative n hr

/-- The digits of a number begin with a digit. -/
theorem digits_head (n : Nat) : ∃ c cs, Nat.toDigits 10 n = c :: cs ∧ c.isDigit = true := by
  cases h : Nat.toDigits 10 n with
  | nil => exact absurd h Nat.toDigits_ne_nil
  | cons c cs => exact ⟨c, cs, rfl, toDigits_isDigit (h ▸ List.mem_cons_self)⟩

/-- A number that fits 64 bits is read as it was. -/
theorem wholeOf_natAbs {i : Int} (hlo : -2 ^ 63 ≤ i) : wholeOf (decide (i < 0)) i.natAbs = .int i := by
  by_cases hi : i < 0
  · have h0 : (i.natAbs == 0 || decide (0x8000000000000000 < i.natAbs)) = false := by
      simp only [Bool.or_eq_false_iff, beq_eq_false_iff_ne, ne_eq, decide_eq_false_iff_not]
      omega
    rw [wholeOf, h0]
    simp only [hi, decide_true, Bool.not_true, Bool.false_eq_true, ↓reduceIte, Number.int.injEq]
    omega
  · simp only [wholeOf, hi, decide_false, Bool.not_false, ↓reduceIte, Number.int.injEq]
    omega

end Sidecar.Json
