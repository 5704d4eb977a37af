/-
# Strict and lossy decoding

Both decoders fold over the same pieces of a byte sequence (`exists_pieces`).
If every piece is a character, the bytes are those of the text, and so strict
decoding accepts the bytes of texts and no others (`decode_eq_ok_iff`). Lossy
decoding then gives the same text (`lossy_encode`); of any other bytes it
leaves a replacement character to be seen (`replacement_mem_lossy`).

Key theorems: `Utf8.exists_pieces`, `Utf8.decode_eq_ok_iff`,
`Utf8.replacement_mem_lossy`.
-/
import Mathlib.Tactic.Common
import Sidecar.Proofs.Utf8

namespace Sidecar.Utf8

variable {a b c d : UInt8} {bs : List UInt8} {cs : List Char}

theorem toNat_char {n : Nat} (h : n < 0xD800 ∨ 0xDFFF < n ∧ n < 0x110000) :
    (Char.ofNat n).toNat = n := by
  have hvalid : n.isValidChar := h
  have hofNat : Char.ofNat n = Char.ofNatAux n hvalid := dif_pos hvalid
  rw [hofNat]
  rfl

theorem eq_ofNat_byte {n : Nat} (h : b.toNat = n) : UInt8.ofNat n = b := by
  rw [← h, UInt8.ofNat_toNat]

theorem width_one (h : width a = 1) : a.toNat < 0x80 := by
  rw [width_eq] at h
  grind

theorem width_two (h : width a = 2) : 0xC2 ≤ a.toNat ∧ a.toNat < 0xE0 := by
  rw [width_eq] at h
  grind

theorem width_three (h : width a = 3) : 0xE0 ≤ a.toNat ∧ a.toNat < 0xF0 := by
  rw [width_eq] at h
  grind

theorem width_four (h : width a = 4) : 0xF0 ≤ a.toNat ∧ a.toNat < 0xF5 := by
  rw [width_eq] at h
  grind

theorem isSecond_isTail (h : isSecond a b = true) : 0x80 ≤ b.toNat ∧ b.toNat ≤ 0xBF := by
  rw [isSecond_iff] at h
  split_ifs at h <;> omega

theorem encodeChar_of_one (h : width a = 1) : encodeChar (Char.ofNat a.toNat) = [a] := by
  have ha := width_one h
  have hn := toNat_char (n := a.toNat) (by omega)
  rw [encodeChar_one (by omega), hn, UInt8.ofNat_toNat]

theorem encodeChar_of_two (h : width a = 2) (hb : isSecond a b = true) :
    encodeChar (Char.ofNat (a.toNat % 32 * 64 + payload b)) = [a, b] := by
  have ha := width_two h
  have hb := isSecond_isTail hb
  unfold payload
  have hn := toNat_char (n := a.toNat % 32 * 64 + b.toNat % 64) (by omega)
  rw [encodeChar_two (by omega) (by omega), hn, eq_ofNat_byte (b := a) (by omega),
    eq_ofNat_byte (b := b) (by omega)]

theorem encodeChar_of_three (h : width a = 3) (hb : isSecond a b = true) (hc : isTail c = true) :
    encodeChar (Char.ofNat (a.toNat % 16 * 4096 + payload b * 64 + payload c)) = [a, b, c] := by
  have ha := width_three h
  have htail := isSecond_isTail hb
  have hc := isTail_iff.mp hc
  rw [isSecond_iff] at hb
  unfold payload
  -- the second byte rules out overlong forms and surrogates
  have hrange : 0x7FF < a.toNat % 16 * 4096 + b.toNat % 64 * 64 + c.toNat % 64 ∧
      (a.toNat % 16 * 4096 + b.toNat % 64 * 64 + c.toNat % 64 < 0xD800 ∨
        0xDFFF < a.toNat % 16 * 4096 + b.toNat % 64 * 64 + c.toNat % 64) := by
    split_ifs at hb <;> omega
  have hn := toNat_char (n := a.toNat % 16 * 4096 + b.toNat % 64 * 64 + c.toNat % 64) (by omega)
  rw [encodeChar_three (by omega) (by omega), hn, eq_ofNat_byte (b := a) (by omega),
    eq_ofNat_byte (b := b) (by omega), eq_ofNat_byte (b := c) (by omega)]

theorem encodeChar_of_four (h : width a = 4) (hb : isSecond a b = true) (hc : isTail c = true)
    (hd : isTail d = true) :
    encodeChar (Char.ofNat (a.toNat % 8 * 262144 + payload b * 4096 + payload c * 64 + payload d)) =
      [a, b, c, d] := by
  have ha := width_four h
  have htail := isSecond_isTail hb
  have hc := isTail_iff.mp hc
  have hd := isTail_iff.mp hd
  rw [isSecond_iff] at hb
  unfold payload
  have hrange : 0xFFFF < a.toNat % 8 * 262144 + b.toNat % 64 * 4096 + c.toNat % 64 * 64 + d.toNat % 64 ∧
      a.toNat % 8 * 262144 + b.toNat % 64 * 4096 + c.toNat % 64 * 64 + d.toNat % 64 < 0x110000 := by
    split_ifs at hb <;> omega
  have hn := toNat_char
    (n := a.toNat % 8 * 262144 + b.toNat % 64 * 4096 + c.toNat % 64 * 64 + d.toNat % 64) (by omega)
  rw [encodeChar_four (by omega), hn, eq_ofNat_byte (b := a) (by omega),
    eq_ofNat_byte (b := b) (by omega), eq_ofNat_byte (b := c) (by omega),
    eq_ofNat_byte (b := d) (by omega)]

/-- The character that a piece is, if it is one. -/
def Piece.char? : Piece → Option Char
  | .char c _ => some c
  | _ => none

/-- `xs` are the pieces of the bytes: whatever is folded over the bytes is folded over them, and if
all of them are characters, the bytes are those of the characters. -/
structure Pieces (bs : List UInt8) (xs : List Piece) : Prop where
  fold : ∀ {σ : Type} (f : σ → Piece → σ) (s : σ), foldl f s bs = xs.foldl f s
  text : ∀ cs, xs.map Piece.char? = cs.map some → bs = encode cs

theorem Pieces.char {xs : List Piece} {front rest : List UInt8} {x : Char} {w : Nat}
    (h : Pieces rest xs) (hx : encodeChar x = front)
    (hfold : ∀ {σ : Type} (f : σ → Piece → σ) (s : σ),
      foldl f s (front ++ rest) = foldl f (f s (.char x w)) rest) :
    Pieces (front ++ rest) (.char x w :: xs) where
  fold f s := by rw [hfold, h.fold, List.foldl_cons]
  text cs hcs := by
    cases cs with
    | nil => simp at hcs
    | cons c cs =>
      obtain ⟨rfl, htail⟩ : x = c ∧ xs.map Piece.char? = cs.map some := by
        simpa [Piece.char?] using hcs
      rw [encode_cons, hx, h.text cs htail]

theorem Pieces.other {xs : List Piece} {bs rest : List UInt8} (h : Pieces rest xs) (x : Piece)
    (hx : x.char? = none)
    (hfold : ∀ {σ : Type} (f : σ → Piece → σ) (s : σ), foldl f s bs = foldl f (f s x) rest) :
    Pieces bs (x :: xs) where
  fold f s := by rw [hfold, h.fold, List.foldl_cons]
  text cs hcs := by
    cases cs with
    | nil => simp at hcs
    | cons c cs => simp [hx] at hcs

theorem pieces_nil : Pieces [] [] where
  fold f s := rfl
  text cs hcs := by
    cases cs with
    | nil => rfl
    | cons c cs => simp at hcs

theorem pieces_cut {bs : List UInt8}
    (hfold : ∀ {σ : Type} (f : σ → Piece → σ) (s : σ), foldl f s bs = f s .cut) :
    Pieces bs [.cut] :=
  pieces_nil.other .cut rfl hfold

/-- Every byte sequence has pieces. -/
theorem exists_pieces (bs : List UInt8) : ∃ xs, Pieces bs xs := by
  induction (), bs using foldl.induct (f := fun _ _ => ()) with
  | case1 => exact ⟨_, pieces_nil⟩
  | case2 _ a r h ih =>
    obtain ⟨xs, hxs⟩ := ih
    exact ⟨_, hxs.char (encodeChar_of_one h) fun f s => foldl_one h⟩
  | case3 _ a h => exact ⟨_, pieces_cut fun f s => by rw [foldl.eq_def]; simp only [h]⟩
  | case4 _ a h b r hb ih =>
    obtain ⟨xs, hxs⟩ := ih
    exact ⟨_, hxs.char (encodeChar_of_two h hb) fun f s => foldl_two h hb⟩
  | case5 _ a h b r hb ih =>
    obtain ⟨xs, hxs⟩ := ih
    refine ⟨_, hxs.other (.broken 1) rfl fun f s => ?_⟩
    rw [foldl.eq_def]
    simp only [h, hb, Bool.false_eq_true, ↓reduceIte]
  | case6 _ a h => exact ⟨_, pieces_cut fun f s => by rw [foldl.eq_def]; simp only [h]⟩
  | case7 _ a h b hb =>
    exact ⟨_, pieces_cut fun f s => by rw [foldl.eq_def]; simp only [h, hb, ↓reduceIte]⟩
  | case8 _ a h b hb c r hc ih =>
    obtain ⟨xs, hxs⟩ := ih
    exact ⟨_, hxs.char (encodeChar_of_three h hb hc) fun f s => foldl_three h hb hc⟩
  | case9 _ a h b hb c r hc ih =>
    obtain ⟨xs, hxs⟩ := ih
    refine ⟨_, hxs.other (.broken 2) rfl fun f s => ?_⟩
    rw [foldl.eq_def]
    simp only [h, hb, hc, Bool.false_eq_true, ↓reduceIte]
  | case10 _ a h b r hb ih =>
    obtain ⟨xs, hxs⟩ := ih
    refine ⟨_, hxs.other (.broken 1) rfl fun f s => ?_⟩
    rw [foldl.eq_def]
    simp only [h, hb, Bool.false_eq_true, ↓reduceIte]
  | case11 _ a h => exact ⟨_, pieces_cut fun f s => by rw [foldl.eq_def]; simp only [h]⟩
  | case12 _ a h b hb =>
    exact ⟨_, pieces_cut fun f s => by rw [foldl.eq_def]; simp only [h, hb, ↓reduceIte]⟩
  | case13 _ a h b hb c hc =>
    exact ⟨_, pieces_cut fun f s => by rw [foldl.eq_def]; simp only [h, hb, hc, ↓reduceIte]⟩
  | case14 _ a h b hb c hc d r hd ih =>
    obtain ⟨xs, hxs⟩ := ih
    exact ⟨_, hxs.char (encodeChar_of_four h hb hc hd) fun f s => foldl_four h hb hc hd⟩
  | case15 _ a h b hb c hc d r hd ih =>
    obtain ⟨xs, hxs⟩ := ih
    refine ⟨_, hxs.other (.broken 3) rfl fun f s => ?_⟩
    rw [foldl.eq_def]
    simp only [h, hb, hc, hd, Bool.false_eq_true, ↓reduceIte]
  | case16 _ a h b hb c r hc ih =>
    obtain ⟨xs, hxs⟩ := ih
    refine ⟨_, hxs.other (.broken 2) rfl fun f s => ?_⟩
    rw [foldl.eq_def]
    simp only [h, hb, hc, Bool.false_eq_true, ↓reduceIte]
  | case17 _ a h b r hb ih =>
    obtain ⟨xs, hxs⟩ := ih
    refine ⟨_, hxs.other (.broken 1) rfl fun f s => ?_⟩
    rw [foldl.eq_def]
    simp only [h, hb, Bool.false_eq_true, ↓reduceIte]
  | case18 _ a r h1 h2 h3 h4 ih =>
    obtain ⟨xs, hxs⟩ := ih
    refine ⟨_, hxs.other (.broken 1) rfl fun f s => ?_⟩
    rw [foldl.eq_def]
    split <;> simp_all

/-! ### Strict decoding -/

theorem fault_of_fault {xs : List Piece} {p : Progress} {e : Fault} (hp : p.fault = some e) :
    (xs.foldl Progress.add p).fault = some e := by
  induction xs with
  | nil => exact hp
  | cons x xs ih =>
    have hadd : p.add x = p := by simp [Progress.add, hp]
    rw [List.foldl_cons, hadd, ih]

/-- A decoder takes in pieces that are characters, and has a fault after any other. -/
theorem add_pieces (xs : List Piece) {p : Progress} (hp : p.fault = none) :
    (∃ cs : List Char, xs.map Piece.char? = cs.map some ∧ (xs.foldl Progress.add p).fault = none ∧
      (xs.foldl Progress.add p).chars = cs.reverse ++ p.chars) ∨
    ((xs.foldl Progress.add p).fault ≠ none ∧ ∃ x ∈ xs, x.char? = none) := by
  induction xs generalizing p with
  | nil => exact .inl ⟨[], rfl, hp, rfl⟩
  | cons x xs ih =>
    cases x with
    | char c w =>
      have hadd : p.add (.char c w) = { p with chars := c :: p.chars, bytes := p.bytes + w } := by
        simp [Progress.add, hp]
      rw [List.foldl_cons, hadd]
      rcases ih (p := { p with chars := c :: p.chars, bytes := p.bytes + w }) hp with
        ⟨cs, hcs, hfault, hchars⟩ | ⟨hfault, x, hx, hnone⟩
      · exact .inl ⟨c :: cs, by simp [Piece.char?, hcs], hfault, by simp [hchars]⟩
      · exact .inr ⟨hfault, x, List.mem_cons_of_mem _ hx, hnone⟩
    | broken n =>
      have hadd : (p.add (.broken n)).fault = some ⟨p.bytes, some n⟩ := by simp [Progress.add, hp]
      rw [List.foldl_cons, fault_of_fault hadd]
      exact .inr ⟨by simp, _, List.mem_cons_self, rfl⟩
    | cut =>
      have hadd : (p.add .cut).fault = some ⟨p.bytes, none⟩ := by simp [Progress.add, hp]
      rw [List.foldl_cons, fault_of_fault hadd]
      exact .inr ⟨by simp, _, List.mem_cons_self, rfl⟩

/-- The bytes are those of a text, or some piece of them is no character. -/
theorem decode_cases (bs : List UInt8) :
    (∃ cs, decode bs = .ok cs ∧ bs = encode cs) ∨
    (∃ e, decode bs = .error e) ∧ ∃ xs, Pieces bs xs ∧ ∃ x ∈ xs, x.char? = none := by
  obtain ⟨xs, hxs⟩ := exists_pieces bs
  unfold decode
  rw [hxs.fold]
  rcases add_pieces xs (p := {}) rfl with ⟨cs, hcs, hfault, hchars⟩ | ⟨hfault, hother⟩
  · refine .inl ⟨cs, ?_, hxs.text cs hcs⟩
    simp [hfault, hchars]
  · obtain ⟨e, he⟩ := Option.ne_none_iff_exists'.mp hfault
    exact .inr ⟨⟨e, by simp [he]⟩, xs, hxs, hother⟩

/-- **Strict decoding accepts the bytes of texts and nothing else.** -/
theorem decode_eq_ok_iff : decode bs = .ok cs ↔ bs = encode cs := by
  refine ⟨fun h => ?_, fun h => by rw [h, decode_encode]⟩
  rcases decode_cases bs with ⟨cs', hcs', hbs⟩ | ⟨⟨e, he⟩, -⟩
  · rw [h] at hcs'
    cases hcs'
    exact hbs
  · rw [h] at he
    cases he

/-! ### Lossy decoding -/

/-- What a piece is shown as. -/
def Piece.shown (x : Piece) : Char := x.char?.getD '�'

theorem lossy_eq (bs : List UInt8) : lossy bs = (foldl (fun acc x => x.shown :: acc) [] bs).reverse := by
  unfold lossy
  congr 2
  funext acc x
  cases x <;> rfl

/-- A text is shown as it is. -/
theorem lossy_encode (cs : List Char) : lossy (encode cs) = cs := by
  have hfold : ∀ acc, foldl (fun acc x => x.shown :: acc) acc (encode cs) = cs.reverse ++ acc := by
    induction cs with
    | nil => exact fun _ => rfl
    | cons c cs ih =>
      intro acc
      obtain ⟨w, hw⟩ := foldl_encodeChar (fun acc x => x.shown :: acc) acc c (encode cs)
      rw [encode_cons, hw, ih]
      simp [Piece.shown, Piece.char?]
  rw [lossy_eq, hfold]
  simp

theorem lossy_pieces {xs : List Piece} (hxs : Pieces bs xs) : lossy bs = xs.map Piece.shown := by
  rw [lossy_eq, hxs.fold, ← List.foldr_reverse]
  simp

/-- Bytes that are no text leave a replacement character. -/
theorem replacement_mem_lossy (h : ∀ cs, bs ≠ encode cs) : '�' ∈ lossy bs := by
  rcases decode_cases bs with ⟨cs, -, hbs⟩ | ⟨-, xs, hxs, x, hx, hnone⟩
  · exact absurd hbs (h cs)
  · rw [lossy_pieces hxs]
    exact List.mem_map.mpr ⟨x, hx, by rw [Piece.shown, hnone]; rfl⟩

end Sidecar.Utf8
