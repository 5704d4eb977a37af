/-
# Decoding gives back what was encoded

Strict decoding of the bytes of a text is that text (`decode_encode`). The
decoder takes the bytes of one character as one piece (`foldl_encodeChar`):
the four widths are told apart by the first byte, and the second byte is
where overlong forms, surrogates and code points beyond the last plane would
show.

The other half is what bytes a character can have: an ASCII character is its
own byte, and every byte of any other character is at least 0x80
(`mem_encodeChar`). So a byte below 0x80, such as a line feed or a quote,
stands in the bytes of a text exactly where that character stands in it.

Key theorems: `Utf8.foldl_encodeChar`, `Utf8.decode_encode`,
`Utf8.mem_encodeChar`, `Utf8.encodeChar_lead`.
-/
import Mathlib.Tactic.Common
import Sidecar.Text.Utf8

namespace Sidecar.Utf8

section Pieces

variable {σ : Type} {f : σ → Piece → σ} {s : σ} {a b c d : UInt8} {r : List UInt8}

theorem foldl_one (h : width a = 1) :
    foldl f s (a :: r) = foldl f (f s (.char (Char.ofNat a.toNat) 1)) r := by
  rw [foldl.eq_def]
  simp only [h]

theorem foldl_two (h : width a = 2) (hb : isSecond a b = true) :
    foldl f s (a :: b :: r) =
      foldl f (f s (.char (Char.ofNat (a.toNat % 32 * 64 + payload b)) 2)) r := by
  rw [foldl.eq_def]
  simp only [h, hb, ↓reduceIte]

theorem foldl_three (h : width a = 3) (hb : isSecond a b = true) (hc : isTail c = true) :
    foldl f s (a :: b :: c :: r) = foldl f (f s (.char
      (Char.ofNat (a.toNat % 16 * 4096 + payload b * 64 + payload c)) 3)) r := by
  rw [foldl.eq_def]
  simp only [h, hb, hc, ↓reduceIte]

theorem foldl_four (h : width a = 4) (hb : isSecond a b = true) (hc : isTail c = true)
    (hd : isTail d = true) :
    foldl f s (a :: b :: c :: d :: r) = foldl f (f s (.char (Char.ofNat
      (a.toNat % 8 * 262144 + payload b * 4096 + payload c * 64 + payload d)) 4)) r := by
  rw [foldl.eq_def]
  simp only [h, hb, hc, hd, ↓reduceIte]

theorem isTail_iff : isTail b = true ↔ 0x80 ≤ b.toNat ∧ b.toNat ≤ 0xBF := by
  simp [isTail, UInt8.le_iff_toNat_le]

theorem width_eq : width a =
    if a.toNat < 0x80 then 1 else if a.toNat < 0xC2 then 0 else if a.toNat < 0xE0 then 2
    else if a.toNat < 0xF0 then 3 else if a.toNat < 0xF5 then 4 else 0 := by
  simp only [width, UInt8.lt_iff_toNat_lt]
  rfl

theorem isSecond_iff : isSecond a b = true ↔
    (if a.toNat = 0xE0 then 0xA0 ≤ b.toNat ∧ b.toNat ≤ 0xBF
    else if a.toNat = 0xED then 0x80 ≤ b.toNat ∧ b.toNat ≤ 0x9F
    else if a.toNat = 0xF0 then 0x90 ≤ b.toNat ∧ b.toNat ≤ 0xBF
    else if a.toNat = 0xF4 then 0x80 ≤ b.toNat ∧ b.toNat ≤ 0x8F
    else 0x80 ≤ b.toNat ∧ b.toNat ≤ 0xBF) := by
  simp only [isSecond, isTail, beq_iff_eq, ← UInt8.toNat_inj, UInt8.le_iff_toNat_le]
  repeat' split
  all_goals simp_all

end Pieces

theorem toNat_ofNat_byte {n : Nat} (h : n < 256) : (UInt8.ofNat n).toNat = n := by
  simp [Nat.mod_eq_of_lt h]

/-- No surrogates, and nothing beyond the last plane. -/
theorem codePoint_range (c : Char) :
    c.toNat < 0xD800 ∨ 0xDFFF < c.toNat ∧ c.toNat < 0x110000 := c.valid

theorem encodeChar_one {c : Char} (h : c.toNat ≤ 0x7F) : encodeChar c = [UInt8.ofNat c.toNat] := by
  simp only [encodeChar, String.utf8EncodeChar, Char.toNat_val]
  exact if_pos h

theorem encodeChar_two {c : Char} (h : 0x7F < c.toNat) (h' : c.toNat ≤ 0x7FF) :
    encodeChar c = [UInt8.ofNat (c.toNat / 64 % 32 + 0xC0), UInt8.ofNat (c.toNat % 64 + 0x80)] := by
  simp only [encodeChar, String.utf8EncodeChar, Char.toNat_val]
  rw [if_neg (Nat.not_le.mpr h), if_pos h']

theorem encodeChar_three {c : Char} (h : 0x7FF < c.toNat) (h' : c.toNat ≤ 0xFFFF) :
    encodeChar c = [UInt8.ofNat (c.toNat / 4096 % 16 + 0xE0),
      UInt8.ofNat (c.toNat / 64 % 64 + 0x80), UInt8.ofNat (c.toNat % 64 + 0x80)] := by
  have h1 : 0x7F < c.toNat := by omega
  simp only [encodeChar, String.utf8EncodeChar, Char.toNat_val]
  rw [if_neg (Nat.not_le.mpr h1), if_neg (Nat.not_le.mpr h), if_pos h']

theorem encodeChar_four {c : Char} (h : 0xFFFF < c.toNat) :
    encodeChar c = [UInt8.ofNat (c.toNat / 262144 % 8 + 0xF0),
      UInt8.ofNat (c.toNat / 4096 % 64 + 0x80), UInt8.ofNat (c.toNat / 64 % 64 + 0x80),
      UInt8.ofNat (c.toNat % 64 + 0x80)] := by
  have h1 : 0x7F < c.toNat := by omega
  have h2 : 0x7FF < c.toNat := by omega
  simp only [encodeChar, String.utf8EncodeChar, Char.toNat_val]
  rw [if_neg (Nat.not_le.mpr h1), if_neg (Nat.not_le.mpr h2), if_neg (Nat.not_le.mpr h)]

/-- A byte of a character is the character itself, or lies outside ASCII. -/
theorem mem_encodeChar {c : Char} {b : UInt8} (h : b ∈ encodeChar c) :
    (c.toNat ≤ 0x7F ∧ b.toNat = c.toNat) ∨ (0x7F < c.toNat ∧ 0x80 ≤ b.toNat) := by
  have hv := codePoint_range c
  by_cases h1 : c.toNat ≤ 0x7F
  · rw [encodeChar_one h1, List.mem_singleton] at h
    rw [h, toNat_ofNat_byte (by omega)]
    exact Or.inl ⟨h1, rfl⟩
  refine Or.inr ⟨by omega, ?_⟩
  by_cases h2 : c.toNat ≤ 0x7FF
  · rw [encodeChar_two (by omega) h2] at h
    simp only [List.mem_cons, List.not_mem_nil, or_false] at h
    rcases h with rfl | rfl <;> rw [toNat_ofNat_byte] <;> omega
  by_cases h3 : c.toNat ≤ 0xFFFF
  · rw [encodeChar_three (by omega) h3] at h
    simp only [List.mem_cons, List.not_mem_nil, or_false] at h
    rcases h with rfl | rfl | rfl <;> rw [toNat_ofNat_byte] <;> omega
  · rw [encodeChar_four (by omega)] at h
    simp only [List.mem_cons, List.not_mem_nil, or_false] at h
    rcases h with rfl | rfl | rfl | rfl <;> rw [toNat_ofNat_byte] <;> omega

/-- The first byte of a character continues none, and tells how many bytes there are. -/
theorem encodeChar_lead (c : Char) :
    ∃ b t, encodeChar c = b :: t ∧ isTail b = false ∧ width b = t.length + 1 := by
  have hv := codePoint_range c
  by_cases h1 : c.toNat ≤ 0x7F
  · have hb := toNat_ofNat_byte (n := c.toNat) (by omega)
    refine ⟨_, _, encodeChar_one h1, ?_, ?_⟩
    · rw [← Bool.not_eq_true, isTail_iff, hb]; omega
    · rw [width_eq, hb, if_pos (by omega)]; rfl
  by_cases h2 : c.toNat ≤ 0x7FF
  · have hb := toNat_ofNat_byte (n := c.toNat / 64 % 32 + 0xC0) (by omega)
    refine ⟨_, _, encodeChar_two (by omega) h2, ?_, ?_⟩
    · rw [← Bool.not_eq_true, isTail_iff, hb]; omega
    · rw [width_eq, hb]; grind
  by_cases h3 : c.toNat ≤ 0xFFFF
  · have hb := toNat_ofNat_byte (n := c.toNat / 4096 % 16 + 0xE0) (by omega)
    refine ⟨_, _, encodeChar_three (by omega) h3, ?_, ?_⟩
    · rw [← Bool.not_eq_true, isTail_iff, hb]; omega
    · rw [width_eq, hb]; grind
  · have hb := toNat_ofNat_byte (n := c.toNat / 262144 % 8 + 0xF0) (by omega)
    refine ⟨_, _, encodeChar_four (by omega), ?_, ?_⟩
    · rw [← Bool.not_eq_true, isTail_iff, hb]; omega
    · rw [width_eq, hb]; grind
/-! ### A character is one piece -/

/-- The decoder takes the bytes of a character as one piece, that character. -/
theorem foldl_encodeChar {σ : Type} (f : σ → Piece → σ) (s : σ) (c : Char) (r : List UInt8) :
    ∃ w, foldl f s (encodeChar c ++ r) = foldl f (f s (.char c w)) r := by
  have hv := codePoint_range c
  by_cases h1 : c.toNat ≤ 0x7F
  · have ha := toNat_ofNat_byte (n := c.toNat) (by omega)
    refine ⟨1, ?_⟩
    rw [encodeChar_one h1, List.singleton_append, foldl_one, ha, Char.ofNat_toNat]
    rw [width_eq, ha, if_pos (by omega)]
  by_cases h2 : c.toNat ≤ 0x7FF
  · have ha := toNat_ofNat_byte (n := c.toNat / 64 % 32 + 0xC0) (by omega)
    have hb := toNat_ofNat_byte (n := c.toNat % 64 + 0x80) (by omega)
    have hn : (c.toNat / 64 % 32 + 0xC0) % 32 * 64 + (c.toNat % 64 + 0x80) % 64 = c.toNat := by omega
    refine ⟨2, ?_⟩
    rw [encodeChar_two (by omega) h2, List.cons_append, List.singleton_append, foldl_two, payload,
      ha, hb, hn, Char.ofNat_toNat]
    · rw [width_eq, ha]; grind
    · rw [isSecond_iff, ha, hb]; grind
  by_cases h3 : c.toNat ≤ 0xFFFF
  · have ha := toNat_ofNat_byte (n := c.toNat / 4096 % 16 + 0xE0) (by omega)
    have hb := toNat_ofNat_byte (n := c.toNat / 64 % 64 + 0x80) (by omega)
    have hc := toNat_ofNat_byte (n := c.toNat % 64 + 0x80) (by omega)
    have hn : (c.toNat / 4096 % 16 + 0xE0) % 16 * 4096 + (c.toNat / 64 % 64 + 0x80) % 64 * 64 +
        (c.toNat % 64 + 0x80) % 64 = c.toNat := by omega
    refine ⟨3, ?_⟩
    rw [encodeChar_three (by omega) h3, List.cons_append, List.cons_append, List.singleton_append,
      foldl_three, payload, payload, ha, hb, hc, hn, Char.ofNat_toNat]
    · rw [width_eq, ha]; grind
    · -- after 0xE0 nothing overlong, after 0xED no surrogate
      rw [isSecond_iff, ha, hb]
      split_ifs <;> omega
    · rw [isTail_iff, hc]; omega
  · have ha := toNat_ofNat_byte (n := c.toNat / 262144 % 8 + 0xF0) (by omega)
    have hb := toNat_ofNat_byte (n := c.toNat / 4096 % 64 + 0x80) (by omega)
    have hc := toNat_ofNat_byte (n := c.toNat / 64 % 64 + 0x80) (by omega)
    have hd := toNat_ofNat_byte (n := c.toNat % 64 + 0x80) (by omega)
    have hn : (c.toNat / 262144 % 8 + 0xF0) % 8 * 262144 + (c.toNat / 4096 % 64 + 0x80) % 64 * 4096 +
        (c.toNat / 64 % 64 + 0x80) % 64 * 64 + (c.toNat % 64 + 0x80) % 64 = c.toNat := by omega
    refine ⟨4, ?_⟩
    rw [encodeChar_four (by omega), List.cons_append, List.cons_append, List.cons_append,
      List.singleton_append, foldl_four, payload, payload, payload, ha, hb, hc, hd, hn,
      Char.ofNat_toNat]
    · rw [width_eq, ha]; grind
    · rw [isSecond_iff, ha, hb]; grind
    · rw [isTail_iff, hc]; omega
    · rw [isTail_iff, hd]; omega

@[simp] theorem encode_nil : encode [] = [] := rfl

@[simp] theorem encode_cons (c : Char) (cs : List Char) :
    encode (c :: cs) = encodeChar c ++ encode cs := rfl

@[simp] theorem encode_append (cs ds : List Char) : encode (cs ++ ds) = encode cs ++ encode ds :=
  List.flatMap_append

/-- An ASCII text has one byte a character. -/
theorem encode_ascii : ∀ cs : List Char, (∀ c ∈ cs, c.toNat ≤ 0x7F) →
    encode cs = cs.map fun c => UInt8.ofNat c.toNat
  | [], _ => rfl
  | c :: cs, h => by
    rw [encode_cons, encodeChar_one (h c List.mem_cons_self),
      encode_ascii cs fun x hx => h x (List.mem_cons_of_mem _ hx)]
    rfl

/-- A byte below 0x80 comes from the character with that code. -/
theorem exists_of_mem_encode {cs : List Char} {b : UInt8} (h : b ∈ encode cs) (hb : b.toNat < 0x80) :
    ∃ c ∈ cs, c.toNat = b.toNat := by
  obtain ⟨c, hc, hbc⟩ := List.mem_flatMap.mp h
  rcases mem_encodeChar hbc with ⟨-, he⟩ | ⟨-, hge⟩
  · exact ⟨c, hc, he.symm⟩
  · omega

/-- A decoder without a fault takes in the whole text. -/
theorem add_encode (cs : List Char) (p : Progress) (h : p.fault = none) :
    (foldl Progress.add p (encode cs)).fault = none ∧
      (foldl Progress.add p (encode cs)).chars = cs.reverse ++ p.chars := by
  induction cs generalizing p with
  | nil => exact ⟨h, rfl⟩
  | cons c cs ih =>
    obtain ⟨w, hw⟩ := foldl_encodeChar Progress.add p c (encode cs)
    have hadd : p.add (.char c w) = { p with chars := c :: p.chars, bytes := p.bytes + w } := by
      simp only [Progress.add, h]
    rw [encode_cons, hw, hadd]
    have := ih { p with chars := c :: p.chars, bytes := p.bytes + w } h
    simpa using this

/-- **Decoding gives back the text that was encoded.** -/
theorem decode_encode (cs : List Char) : decode (encode cs) = .ok cs := by
  obtain ⟨hf, hc⟩ := add_encode cs {} rfl
  simp only [decode, hf, hc]
  simp

end Sidecar.Utf8
