/-
# Frames on a stream

A read takes exactly the bytes of the frame in front (`read_framed`): its
header lines, its blank line, and as many bytes of body as the last length
says. It does so whether or not the body is JSON text, so a stream of frames
is read frame by frame (`readAll_framed`), and nothing that stands in a body
or in another header moves the place where the next frame begins.

A written frame is one of these (`written`, `bytes_written`). So values that
are within the limits of the reader, `Readable`, come back as they were
(`items_written`), and what is beyond them is refused (`read_tooLarge`,
`read_tooDeep`). A frame that is cut off gives one error and leaves nothing
behind, wherever the cut is (`read_cut`).

Key definitions: `Frame.Framed`, `Frame.Framed.item`, `Frame.Readable`.
Key theorems: `Frame.read_framed`, `Frame.written_frames_read_back`,
`Frame.framed_stream_aligned`, `Frame.cut_stream_not_misread`.
-/
import Sidecar.Frame.Writer
import Sidecar.Proofs.Header
import Sidecar.Proofs.JsonText

namespace Sidecar.Frame

/-- A frame as any peer may write it: header lines of which the last that names the length of the
body gives it, a blank line, and a body of any bytes. -/
structure Framed where
  lines : List (List Char)
  blank : List Char
  body : List UInt8
  headerTexts : ∀ l ∈ lines, HeaderText l
  lastLength : (lengths lines).getLast? = some body.length
  fits : body.length ≤ maxBody
  oneLine : '\n' ∉ blank
  onlyBlanks : ∀ c ∈ blank, Text.isBlank c = true

namespace Framed

/-- The bytes of a frame. -/
def bytes (f : Framed) : List UInt8 := f.lines.flatMap lineBytes ++ (lineBytes f.blank ++ f.body)

/-- What reading the frame gives: the value of its body, or what is wrong with it. -/
def item (f : Framed) : Item :=
  match Json.parse f.body with
  | .ok v => .frame v
  | .error e => .error (.notJson e)

/-- Whether the body is no JSON text. -/
def isBad (f : Framed) : Bool :=
  match Json.parse f.body with
  | .ok _ => false
  | .error _ => true

theorem length_lines (f : Framed) : f.lines.length + 1 + f.body.length ≤ f.bytes.length := by
  have h : ∀ ls : List (List Char), ls.length ≤ (ls.flatMap lineBytes).length := by
    intro ls
    induction ls with
    | nil => exact Nat.le_refl _
    | cons l ls ih =>
      simp only [List.flatMap_cons, List.length_append, List.length_cons, lineBytes] at *
      omega
  have := h f.lines
  simp only [bytes, List.length_append, lineBytes, List.length_singleton] at *
  omega

end Framed

/-- A body whose bytes have arrived is taken, and nothing behind it. -/
theorem body_append (ended : Bool) (bs rest : List UInt8) :
    body ended bs.length (bs ++ rest) =
      match Json.parse bs with
      | .ok v => .done v rest
      | .error e => .failed (.notJson e) rest := by
  cases h : Json.parse bs <;>
    simp only [body, List.take_left', List.drop_left', Nat.lt_irrefl, ↓reduceIte, h]

/-- A read takes exactly the bytes of the frame in front, whatever its body is. -/
theorem read_framed (ended : Bool) (f : Framed) (rest : List UInt8) :
    read ended (f.bytes ++ rest) =
      match Json.parse f.body with
      | .ok v => .done v rest
      | .error e => .failed (.notJson e) rest := by
  have hlen := f.length_lines
  obtain ⟨fuel, hfuel⟩ : ∃ k, (f.bytes ++ rest).length + 1 = k + 1 + f.lines.length :=
    ⟨(f.bytes ++ rest).length - f.lines.length, by simp only [List.length_append]; omega⟩
  have hbytes : f.bytes ++ rest =
      f.lines.flatMap lineBytes ++ (lineBytes f.blank ++ (f.body ++ rest)) := by
    simp only [Framed.bytes, List.append_assoc]
  have hheaders : headers ended ((f.bytes ++ rest).length + 1) true none (f.bytes ++ rest) =
      .done f.body.length (f.body ++ rest) := by
    rw [hfuel, hbytes, headers_lines ended _ _ _ _ _ f.headerTexts, f.lastLength, Option.some_or,
      headers_blank ended _ _ _ f.oneLine f.onlyBlanks, if_neg (Nat.not_lt.mpr f.fits)]
  rw [read, hheaders]
  exact body_append ended f.body rest

/-! ### Streams of frames -/

/-- **A frame is read without touching the next.** As long as the reader puts up with the bodies
that are no JSON text, each frame gives its item, and reading goes on behind it. -/
theorem readAll_framed (tail : List UInt8) (fuel : Nat) :
    ∀ (fs : List Framed) (errors : Nat), fs.countP Framed.isBad ≤ errors - 1 →
      readAll (fuel + fs.length) errors (fs.flatMap Framed.bytes ++ tail) =
        fs.map Framed.item ++ readAll fuel (errors - fs.countP Framed.isBad) tail
  | [], errors, _ => by simp
  | f :: fs, errors, h => by
    have hread := read_framed true f (fs.flatMap Framed.bytes ++ tail)
    rw [List.flatMap_cons, List.append_assoc, List.length_cons, ← Nat.add_assoc, readAll, hread]
    cases hp : Json.parse f.body with
    | ok v =>
      have hbad : f.isBad = false := by simp only [Framed.isBad, hp]
      have hitem : f.item = .frame v := by simp only [Framed.item, hp]
      rw [List.countP_cons_of_neg (by simp [hbad])] at h ⊢
      simp only [readAll_framed tail fuel fs errors h, List.map_cons, hitem, List.cons_append]
    | error e =>
      have hbad : f.isBad = true := by simp only [Framed.isBad, hp]
      have hitem : f.item = .error (.notJson e) := by simp only [Framed.item, hp]
      rw [List.countP_cons_of_pos (by simp [hbad])] at h ⊢
      have ih := readAll_framed tail fuel fs (errors - 1) (by omega)
      simp only [show ¬ errors ≤ 1 by omega, ↓reduceIte, ih, List.map_cons, hitem, List.cons_append]
      rw [show errors - 1 - fs.countP Framed.isBad = errors - (fs.countP Framed.isBad + 1) by omega]

theorem length_le_length_bytes : ∀ fs : List Framed, fs.length ≤ (fs.flatMap Framed.bytes).length
  | [] => Nat.le_refl _
  | f :: fs => by
    have h1 := f.length_lines
    have h2 := length_le_length_bytes fs
    simp only [List.flatMap_cons, List.length_append, List.length_cons]
    omega

/-- A stream of frames, as far as it goes, and then whatever the tail gives. -/
theorem items_framed (tail : List UInt8) (fs : List Framed) (errors : Nat)
    (h : fs.countP Framed.isBad ≤ errors - 1) :
    ∃ fuel, tail.length < fuel ∧ items errors (fs.flatMap Framed.bytes ++ tail) =
      fs.map Framed.item ++ readAll fuel (errors - fs.countP Framed.isBad) tail := by
  have hlen := length_le_length_bytes fs
  refine ⟨(fs.flatMap Framed.bytes ++ tail).length + 1 - fs.length, ?_, ?_⟩
  · simp only [List.length_append]
    omega
  · rw [← readAll_framed tail _ fs errors h, items]
    congr 1
    simp only [List.length_append]
    omega

/-- Where nothing is left, the stream has ended. -/
theorem readAll_nil (fuel errors : Nat) : readAll (fuel + 1) errors [] = [.ended] := rfl

/-- A stream of frames and nothing else. -/
theorem items_framed_end (fs : List Framed) (errors : Nat)
    (h : fs.countP Framed.isBad ≤ errors - 1) :
    items errors (fs.flatMap Framed.bytes) = fs.map Framed.item ++ [.ended] := by
  obtain ⟨fuel, hf, hitems⟩ := items_framed [] fs errors h
  obtain ⟨fuel, rfl⟩ : ∃ k, fuel = k + 1 := ⟨fuel - 1, by omega⟩
  rwa [List.append_nil, readAll_nil] at hitems

/-- The header line of a written frame whose body has `n` bytes, without its line feed. -/
def headerText (n : Nat) : List Char := "Content-Length: ".toList ++ (Nat.toDigits 10 n ++ ['\r'])

theorem header_eq (n : Nat) : header n = lineBytes (headerText n) ++ lineBytes ['\r'] := by
  have hend : Utf8.encode ['\r', '\n', '\r', '\n'] =
      Utf8.encode ['\r'] ++ ([0x0A] ++ (Utf8.encode ['\r'] ++ [0x0A])) := by decide
  unfold header headerText lineBytes
  simp only [Utf8.encode_append, List.append_assoc, hend]

theorem isDigit_text {c : Char} (h : c.isDigit = true) :
    Text.isDigit c = true ∧ Text.isBlank c = false ∧ c ≠ '+' ∧ c ≠ '\n' := by
  have hr := Json.toNat_le_of_isDigit h
  refine ⟨h, ?_, ?_, ?_⟩
  · simp only [Text.isBlank]
    grind
  · rintro rfl
    exact absurd hr (by decide)
  · rintro rfl
    exact absurd hr (by decide)

theorem digitsValue_toDigits (n : Nat) : Text.digitsValue (Nat.toDigits 10 n) = n := by
  have h : ∀ (cs : List Char) (m : Nat),
      cs.foldl (fun n c => n * 10 + (c.toNat - '0'.toNat)) m = Nat.ofDigitChars 10 cs m := by
    intro cs
    induction cs with
    | nil => simp
    | cons c cs ih =>
      intro m
      rw [List.foldl_cons, ih, Nat.ofDigitChars_cons, Nat.mul_comm]
  rw [Text.digitsValue, h, Nat.ofDigitChars_ten_toDigits]

/-- A length in decimal digits is read back if it fits 64 bits. -/
theorem length?_toDigits {n : Nat} (h : n < 2 ^ 64) : length? (Nat.toDigits 10 n) = some n := by
  have hd : ∀ c ∈ Nat.toDigits 10 n, c.isDigit = true := fun c hc => Json.toDigits_isDigit hc
  have hall : (Nat.toDigits 10 n).all Text.isDigit = true :=
    List.all_eq_true.mpr fun c hc => (isDigit_text (hd c hc)).1
  have hv := digitsValue_toDigits n
  cases he : Nat.toDigits 10 n with
  | nil => exact absurd he Nat.toDigits_ne_nil
  | cons c cs =>
    rw [he] at hd hall hv
    have hplus := (isDigit_text (hd c List.mem_cons_self)).2.2.1
    have hfits : n < UInt64.size := h
    unfold length?
    split
    rename_i r heq
    · simp only [List.cons.injEq] at heq
      exact absurd heq.1 hplus
    · simp only [hall, List.isEmpty_cons, Bool.not_true, Bool.or_self, Bool.false_eq_true, ↓reduceIte,
        hv, hfits]

theorem lengthText?_headerText (n : Nat) : lengthText? (headerText n) = some (Nat.toDigits 10 n) := by
  have hsplit : headerText n =
      "Content-Length".toList ++ ':' :: ([' '] ++ (Nat.toDigits 10 n ++ ['\r'])) := rfl
  have hname : Text.sameLetters (Text.trimChars "Content-Length".toList) "Content-Length".toList = true := by
    decide
  have htrim : Text.trimChars ([' '] ++ (Nat.toDigits 10 n ++ ['\r'])) = Nat.toDigits 10 n :=
    Text.trimChars_between (fun c hc => (isDigit_text (Json.toDigits_isDigit hc)).2.1)
      (List.forall_mem_singleton.2 (by decide)) (List.forall_mem_singleton.2 (by decide))
  rw [lengthText?, hsplit, Text.splitFirst_append (by decide)]
  simp only [hname, ↓reduceIte, htrim]

theorem headerText_ok {n : Nat} (h : n < 2 ^ 64) : HeaderText (headerText n) := by
  have hC : 'C' ∈ headerText n := by
    unfold headerText
    exact List.mem_append_left _ (by decide)
  refine ⟨?_, ⟨'C', hC, by decide⟩, ?_⟩
  · intro hm
    unfold headerText at hm
    simp only [List.mem_append] at hm
    rcases hm with hm | hm | hm
    · exact absurd hm (by decide)
    · exact (isDigit_text (Json.toDigits_isDigit hm)).2.2.2 rfl
    · exact absurd hm (by decide)
  · intro text ht
    rw [lengthText?_headerText, Option.mem_some_iff] at ht
    rw [← ht, length?_toDigits h]
    rfl

theorem lengths_headerText {n : Nat} (h : n < 2 ^ 64) : lengths [headerText n] = [n] := by
  simp [lengths, lengthText?_headerText, length?_toDigits h]

theorem lt_of_le_maxBody {n : Nat} (h : n ≤ maxBody) : n < 2 ^ 64 := by
  simp only [maxBody] at h
  omega

/-- A written frame is one that any peer may write. -/
def written (v : Json) (h : v.encode.length ≤ maxBody) : Framed where
  lines := [headerText v.encode.length]
  blank := ['\r']
  body := v.encode
  headerTexts := by
    intro l hl
    rw [List.mem_singleton.mp hl]
    exact headerText_ok (lt_of_le_maxBody h)
  lastLength := by
    rw [lengths_headerText (lt_of_le_maxBody h)]
    rfl
  fits := h
  oneLine := by decide
  onlyBlanks := List.forall_mem_singleton.2 (by decide)

theorem encode_eq (v : Json) :
    encode v = lineBytes (headerText v.encode.length) ++ (lineBytes ['\r'] ++ v.encode) := by
  rw [encode, header_eq, List.append_assoc]

theorem bytes_written (v : Json) (h : v.encode.length ≤ maxBody) : (written v h).bytes = encode v := by
  rw [encode_eq]
  simp [written, Framed.bytes]

/-- The headers of a written frame, up to where the body begins. -/
theorem headers_written {ended : Bool} {n : Nat} (h : n < 2 ^ 64) (fuel : Nat) (rest : List UInt8) :
    headers ended (fuel + 1) true none (lineBytes (headerText n) ++ rest) =
      headers ended fuel false (some n) rest := by
  have hl : ∀ l ∈ [headerText n], HeaderText l := by
    intro l hl
    rw [List.mem_singleton.mp hl]
    exact headerText_ok h
  have := headers_lines ended rest fuel [headerText n] true none hl
  rw [lengths_headerText h] at this
  simpa using this

/-- A frame that is too large is found out at its headers, and its body is left where it was. -/
theorem read_tooLarge {v : Json} (hlarge : maxBody < v.encode.length) (hmem : v.encode.length < 2 ^ 64) :
    read true (encode v) = .failed (.tooLarge v.encode.length) v.encode := by
  obtain ⟨fuel, hfuel⟩ : ∃ k, (encode v).length + 1 = k + 1 + 1 :=
    ⟨(encode v).length - 1, by rw [encode_eq]; simp [lineBytes]; omega⟩
  have hheaders : headers true ((encode v).length + 1) true none (encode v) =
      .failed (.tooLarge v.encode.length) v.encode := by
    rw [hfuel, encode_eq, headers_written hmem, headers_blank true _ _ _ (by decide)
      (List.forall_mem_singleton.2 (by decide)), if_pos hlarge]
  rw [read, hheaders]

namespace Buffer

theorem write_fits {b : Buffer} {v : Json} (h : b.bytes.length + (encode v).length ≤ b.capacity) :
    b.write v = (.ok (), { b with bytes := b.bytes ++ encode v }) := by
  have hlen : (encode v).length = (header v.encode.length).length + v.encode.length := by
    rw [encode, List.length_append]
  have h1 : ¬ b.room < (header v.encode.length).length := by
    rw [room]
    omega
  have htake : (header v.encode.length).take b.room = header v.encode.length :=
    List.take_of_length_le (Nat.not_lt.mp h1)
  have hroom : (b.add (header v.encode.length)).room =
      b.capacity - (b.bytes.length + (header v.encode.length).length) := by
    simp only [add, room] at htake ⊢
    rw [htake, List.length_append]
  have h2 : ¬ (b.add (header v.encode.length)).room < v.encode.length := by
    rw [hroom]
    omega
  have hbody : v.encode.take (b.add (header v.encode.length)).room = v.encode :=
    List.take_of_length_le (Nat.not_lt.mp h2)
  simp only [write, h1, h2, ↓reduceIte]
  simp only [add, room] at htake hbody ⊢
  simp only [htake] at hbody ⊢
  rw [hbody, encode, List.append_assoc]

/-- **A buffer with room takes the bytes of the frames, one after another.** -/
theorem writeAll_fits : ∀ (vs : List Json) (b : Buffer),
    b.bytes.length + (vs.flatMap encode).length ≤ b.capacity →
      b.writeAll vs = (vs.map fun _ => .ok (), { b with bytes := b.bytes ++ vs.flatMap encode })
  | [], b, _ => by simp [writeAll]
  | v :: vs, b, h => by
    rw [List.flatMap_cons, List.length_append] at h
    have hv := write_fits (by omega : b.bytes.length + (encode v).length ≤ b.capacity)
    have hvs := writeAll_fits vs { b with bytes := b.bytes ++ encode v } (by
      simp only [List.length_append]
      omega)
    simp only [writeAll, hv, hvs, List.map_cons, List.flatMap_cons, List.append_assoc]

end Buffer

/-- A value that is read back: whole numbers, not too large and not too deep. -/
structure Readable (v : Json) : Prop where
  integral : v.Integral
  small : v.encode.length ≤ maxBody
  shallow : v.depth ≤ Json.maxDepth

theorem item_written {v : Json} (h : Readable v) :
    (written v h.small).item = .frame v ∧ (written v h.small).isBad = false := by
  have hp : Json.parse (written v h.small).body = .ok v := Json.parse_encode h.integral h.shallow
  simp only [Framed.item, Framed.isBad, hp, and_self]

/-- Written frames as frames of a peer, with what reading them gives. -/
theorem exists_framed : ∀ vs : List Json, (∀ v ∈ vs, Readable v) →
    ∃ fs : List Framed, fs.flatMap Framed.bytes = vs.flatMap encode ∧
      fs.map Framed.item = vs.map .frame ∧ fs.countP Framed.isBad = 0
  | [], _ => ⟨[], rfl, rfl, rfl⟩
  | v :: vs, h => by
    have hv := h v List.mem_cons_self
    obtain ⟨fs, hb, hi, hc⟩ := exists_framed vs fun x hx => h x (List.mem_cons_of_mem _ hx)
    obtain ⟨hitem, hbad⟩ := item_written hv
    refine ⟨written v hv.small :: fs, ?_, ?_, ?_⟩
    · rw [List.flatMap_cons, List.flatMap_cons, hb, bytes_written]
    · rw [List.map_cons, List.map_cons, hi, hitem]
    · rw [List.countP_cons_of_neg (by simp [hbad]), hc]

/-- Written frames are read back, and then comes what the tail gives. -/
theorem items_written (tail : List UInt8) (errors : Nat) {vs : List Json} (h : ∀ v ∈ vs, Readable v) :
    ∃ fuel, tail.length < fuel ∧
      items errors (vs.flatMap encode ++ tail) = vs.map .frame ++ readAll fuel errors tail := by
  obtain ⟨fs, hb, hi, hc⟩ := exists_framed vs h
  obtain ⟨fuel, hf, hitems⟩ := items_framed tail fs errors (by omega)
  rw [hb, hi, hc] at hitems
  exact ⟨fuel, hf, hitems⟩

theorem items_written_end (errors : Nat) {vs : List Json} (h : ∀ v ∈ vs, Readable v) :
    items errors (vs.flatMap encode) = vs.map .frame ++ [.ended] := by
  obtain ⟨fs, hb, hi, hc⟩ := exists_framed vs h
  rw [← hb, ← hi]
  exact items_framed_end fs errors (by omega)

theorem read_tooDeep {v : Json} (hi : v.Integral) (hsmall : v.encode.length ≤ maxBody)
    (hdeep : Json.maxDepth < v.depth) :
    ∃ fault, read true (encode v) = .failed (.notJson fault) [] ∧ fault.flaw = .tooDeep := by
  obtain ⟨fault, hp, hflaw⟩ := Json.parse_encode_deep hi hdeep
  have hread := read_framed true (written v hsmall) []
  have hbody : Json.parse (written v hsmall).body = .error fault := hp
  rw [bytes_written, List.append_nil, hbody] at hread
  exact ⟨fault, hread, hflaw⟩

/-- **What was written is read back, up to the limits of the reader.** Values within the limits come
back in order, and then the clean end. A value whose text is too large is refused with the length of
that text (which fits 64 bits, as everything in memory does), and one that nests too deep is refused
as no JSON. -/
theorem written_frames_read_back :
    (∀ (vs : List Json) (capacity errors : Nat), (∀ v ∈ vs, Readable v) →
      (vs.flatMap encode).length ≤ capacity →
      ∃ b : Buffer, Buffer.writeAll { capacity := capacity } vs = (vs.map fun _ => .ok (), b) ∧
        items errors b.bytes = vs.map .frame ++ [.ended]) ∧
    (∀ (v : Json) (capacity : Nat), v.Integral → (encode v).length ≤ capacity →
      ∃ b : Buffer, Buffer.write { capacity := capacity } v = (.ok (), b) ∧
        (maxBody < v.encode.length → v.encode.length < 2 ^ 64 →
          read true b.bytes = .failed (.tooLarge v.encode.length) v.encode) ∧
        (v.encode.length ≤ maxBody → Json.maxDepth < v.depth →
          ∃ fault, read true b.bytes = .failed (.notJson fault) [] ∧ fault.flaw = .tooDeep)) := by
  refine ⟨fun vs capacity errors h hc => ?_, fun v capacity hi hc => ?_⟩
  · refine ⟨_, Buffer.writeAll_fits vs { capacity := capacity } (by simpa using hc), ?_⟩
    simpa using items_written_end errors h
  · refine ⟨_, Buffer.write_fits (b := { capacity := capacity }) (by simpa using hc), ?_, ?_⟩
    · intro hlarge hmem
      simpa using read_tooLarge hlarge hmem
    · intro hsmall hdeep
      simpa using read_tooDeep hi hsmall hdeep

/-- Arrays in arrays, `n` deep. -/
def nested : Nat → Json
  | 0 => .null
  | n + 1 => .arr [nested n]

theorem nested_integral : ∀ n, (nested n).Integral
  | 0 => .null
  | n + 1 => .arr fun _ hx => List.mem_singleton.mp hx ▸ nested_integral n

theorem nested_depth : ∀ n, (nested n).depth = n
  | 0 => rfl
  | n + 1 => by simp [nested, Json.depth, Json.itemsDepth, nested_depth n]

theorem nested_length : ∀ n, (nested n).encode.length = 2 * n + 4
  | 0 => rfl
  | n + 1 => by
    rw [nested, Json.encode_arr]
    simp only [List.length_cons, List.length_append, nested_length n, Json.itemsText]
    simp
    omega

/-- A string of `n` letters. -/
def letters (n : Nat) : Json := .str (String.ofList (List.replicate n 'a'))

theorem letters_length (n : Nat) : (letters n).encode.length = n + 2 := by
  have hq : Json.quoted (String.ofList (List.replicate n 'a')) = List.replicate n (Json.code 'a') := by
    have hesc : Json.escapeChar 'a' = ['a'] := by decide
    rw [Json.quoted, String.toList_ofList]
    induction n with
    | zero => rfl
    | succ n ih =>
      rw [List.replicate_succ, List.flatMap_cons, hesc, List.singleton_append, Utf8.encode_cons, ih]
      rfl
  rw [letters, Json.encode_str, hq]
  simp

/-- A message with escapes, text outside ASCII and the outermost numbers. -/
def message : Json :=
  .obj [("id", .int (2 ^ 64 - 1)), ("text", .str "a\"\\\n\x01é😀"), ("z", .arr [.int (-2 ^ 63), .obj []])]

theorem message_readable : Readable message where
  integral := by
    refine .obj (by decide) ?_
    simp only [List.mem_cons, List.not_mem_nil, or_false, forall_eq_or_imp, forall_eq]
    refine ⟨.int (by decide) (by decide), .str _, .arr ?_⟩
    simp only [List.mem_cons, List.not_mem_nil, or_false, forall_eq_or_imp, forall_eq]
    exact ⟨.int (by decide) (by decide), .obj List.Pairwise.nil (by simp)⟩
  small := by decide
  shallow := by decide

theorem written_frames_read_back_message :
    (∃ b : Buffer, Buffer.writeAll { capacity := 256 } [message, .null, message] =
        ([.ok (), .ok (), .ok ()], b) ∧
      items 1 b.bytes = [.frame message, .frame .null, .frame message, .ended]) ∧
    (∃ b : Buffer, Buffer.write { capacity := (encode (letters maxBody)).length } (letters maxBody) =
        (.ok (), b) ∧
      read true b.bytes = .failed (.tooLarge (maxBody + 2)) (letters maxBody).encode) ∧
    (∃ b : Buffer, Buffer.write { capacity := (encode (nested 128)).length } (nested 128) =
        (.ok (), b) ∧
      ∃ fault, read true b.bytes = .failed (.notJson fault) [] ∧ fault.flaw = .tooDeep) := by
  obtain ⟨hlist, hone⟩ := written_frames_read_back
  refine ⟨hlist [message, .null, message] 256 1 ?_ (by decide +kernel), ?_, ?_⟩
  · simp only [List.mem_cons, List.not_mem_nil, or_false, forall_eq_or_imp, forall_eq]
    exact ⟨message_readable, ⟨.null, by decide, by decide⟩, message_readable⟩
  · have hlen := letters_length maxBody
    obtain ⟨b, hb, hlarge, -⟩ := hone (letters maxBody) _ (.str _) (Nat.le_refl _)
    rw [hlen] at hlarge
    exact ⟨b, hb, hlarge (by decide) (by decide)⟩
  · have hlen := nested_length 128
    obtain ⟨b, hb, -, hdeep⟩ := hone (nested 128) _ (nested_integral 128) (Nat.le_refl _)
    exact ⟨b, hb, hdeep (by rw [hlen]; decide) (by rw [nested_depth]; decide)⟩

/-- **No frame shifts the next.** Whatever other headers there are, in whatever order, how often the
length is given and whatever the bodies hold, each frame gives its own item, and then comes the
clean end. -/
theorem framed_stream_aligned (fs : List Framed) (errors : Nat) (h : fs.length < errors) :
    items errors (fs.flatMap Framed.bytes) = fs.map Framed.item ++ [.ended] := by
  have hle : fs.countP Framed.isBad ≤ fs.length := List.countP_le_length
  exact items_framed_end fs errors (by omega)

/-- Lengths in other letters and given twice, other headers, and a body that looks like headers. -/
def looseFrame : Framed where
  lines := ["X-Note: Content-Length: 9".toList, "content-LENGTH: 77\r".toList,
    "no colon".toList, " Content-Length\t:\u2003+4 \r".toList]
  blank := "\u00a0\r".toList
  body := Utf8.encode "a:\n\n".toList
  headerTexts := by decide +kernel
  lastLength := by decide +kernel
  fits := by decide +kernel
  oneLine := by decide +kernel
  onlyBlanks := List.all_eq_true.1 (by decide +kernel)

theorem framed_stream_aligned_loose :
    ∃ e, items 3 (looseFrame.bytes ++ (written .null (by decide)).bytes) =
      [.error (.notJson e), .frame .null, .ended] := by
  have h := framed_stream_aligned [looseFrame, written .null (by decide)] 3 (by decide)
  obtain ⟨e, he⟩ : ∃ e, looseFrame.item = .error (.notJson e) := ⟨_, rfl⟩
  have hnull : (written .null (by decide)).item = .frame .null := rfl
  refine ⟨e, ?_⟩
  simpa [he, hnull] using h

/-! ### Streams that are cut off -/

theorem line?_eq_none {bs : List UInt8} (h : (0x0A : UInt8) ∉ bs) : line? bs = none := by
  have hall : ∀ b ∈ bs, (b != 0x0A) = true := fun b hb => by
    simp only [bne_iff_ne, ne_eq]
    exact fun he => h (he ▸ hb)
  rw [line?, List.dropWhile_eq_nil_iff.mpr hall]

theorem nextLine_cut {bs : List UInt8} (hne : bs ≠ []) (h : (0x0A : UInt8) ∉ bs) :
    nextLine true bs = .line bs [] := by
  rw [nextLine, line?_eq_none h]
  simp [hne]

/-- A first header line without its line feed gives no length to go on with. -/
theorem headers_cut {bs : List UInt8} (hne : bs ≠ []) (h : (0x0A : UInt8) ∉ bs) (fuel : Nat) :
    ∃ e, headers true (fuel + 2) true none bs = .failed e [] := by
  rw [headers, nextLine_cut hne h]
  dsimp only
  cases headerLine bs with
  | blank => exact ⟨_, rfl⟩
  | length n => exact ⟨_, rfl⟩
  | other => exact ⟨_, rfl⟩
  | bad e => exact ⟨_, rfl⟩

theorem body_cut {n : Nat} {bs : List UInt8} (h : bs.length < n) :
    body true n bs = .failed (.stream "reading frame body: early eof") [] := by
  have htake : (bs.take n).length < n := by
    rw [List.length_take]
    omega
  simp only [body, htake, ↓reduceIte]

/-- Behind its first header line a frame can be cut off in front of the blank line, inside it, where
a lone carriage return already counts as blank, or in the body. -/
theorem read_cut_behind {n : Nat} (hn : n ≤ maxBody) (hpos : 0 < n) {bs : List UInt8}
    (hbs : bs.length = n) {k : Nat} (hk : k < 2 + n) :
    ∃ e, read true (lineBytes (headerText n) ++ (lineBytes ['\r'] ++ bs).take k) = .failed e [] := by
  obtain ⟨fuel, hfuel⟩ : ∃ j, (lineBytes (headerText n) ++ (lineBytes ['\r'] ++ bs).take k).length + 1 =
      j + 1 + 1 :=
    ⟨(lineBytes (headerText n) ++ (lineBytes ['\r'] ++ bs).take k).length - 1, by
      simp only [List.length_append, lineBytes, List.length_singleton]
      omega⟩
  rw [read, hfuel, headers_written (lt_of_le_maxBody hn)]
  rcases k with _ | _ | k
  · exact ⟨_, rfl⟩
  · have htake : (lineBytes ['\r'] ++ bs).take 1 = [0x0D] := rfl
    have hblank : headerLine [0x0D] = .blank := rfl
    rw [Nat.zero_add, htake, headers, nextLine_cut (by simp) (by decide)]
    simp only [hblank, Nat.not_lt.mpr hn, ↓reduceIte]
    exact ⟨_, body_cut (by simpa using hpos)⟩
  · have htake : (lineBytes ['\r'] ++ bs).take (k + 1 + 1) = lineBytes ['\r'] ++ bs.take k := rfl
    rw [htake, headers_blank true _ _ _ (by decide) (List.forall_mem_singleton.2 (by decide)),
      if_neg (Nat.not_lt.mpr hn)]
    refine ⟨_, body_cut ?_⟩
    rw [List.length_take]
    omega

theorem length_encode (v : Json) : (encode v).length =
    (Utf8.encode (headerText v.encode.length)).length + 1 + (2 + v.encode.length) := by
  rw [encode_eq]
  simp only [List.length_append, lineBytes, List.length_singleton]
  rfl

/-- **A frame that is cut off gives an error and leaves nothing.** -/
theorem read_cut {v : Json} (hsmall : v.encode.length ≤ maxBody) (hpos : 0 < v.encode.length) {m : Nat}
    (hm : 0 < m) (hlt : m < (encode v).length) :
    ∃ e, read true ((encode v).take m) = .failed e [] := by
  have hlen := length_encode v
  by_cases hline : m ≤ (Utf8.encode (headerText v.encode.length)).length
  · -- the cut is in the first line, so that the rest is one line without its line feed
    have htake : (encode v).take m = (Utf8.encode (headerText v.encode.length)).take m := by
      rw [encode_eq, lineBytes, List.append_assoc, List.take_append_of_le_length hline]
    have hne : (encode v).take m ≠ [] := by
      rw [ne_eq, List.take_eq_nil_iff]
      rintro (h | h)
      · omega
      · rw [h] at hlt
        simp at hlt
    have hfeed : (0x0A : UInt8) ∉ (encode v).take m := by
      rw [htake]
      exact fun h => feed_not_mem_encode (headerText_ok (lt_of_le_maxBody hsmall)).1 (List.mem_of_mem_take h)
    obtain ⟨fuel, hfuel⟩ : ∃ j, ((encode v).take m).length + 1 = j + 2 :=
      ⟨m - 1, by rw [List.length_take]; omega⟩
    obtain ⟨e, he⟩ := headers_cut hne hfeed fuel
    exact ⟨e, by rw [read, hfuel, he]⟩
  · obtain ⟨k, rfl⟩ : ∃ k, m = (lineBytes (headerText v.encode.length)).length + k :=
      ⟨m - (lineBytes (headerText v.encode.length)).length, by
        simp only [lineBytes, List.length_append, List.length_singleton]
        omega⟩
    have htake : (encode v).take ((lineBytes (headerText v.encode.length)).length + k) =
        lineBytes (headerText v.encode.length) ++ (lineBytes ['\r'] ++ v.encode).take k := by
      rw [encode_eq, List.take_length_add_append]
    rw [htake]
    refine read_cut_behind hsmall hpos rfl ?_
    simp only [lineBytes, List.length_append, List.length_singleton] at hlt hlen
    omega

/-- The frames that lie in the first `n` bytes, and those that do not. -/
theorem exists_front : ∀ (vs : List Json) (n : Nat), ∃ front rest, vs = front ++ rest ∧
    (front.flatMap encode).length ≤ n ∧
    ∀ v ∈ rest.head?, n < (front.flatMap encode).length + (encode v).length
  | [], n => ⟨[], [], rfl, Nat.zero_le _, by simp⟩
  | v :: vs, n => by
    by_cases h : (encode v).length ≤ n
    · obtain ⟨front, rest, rfl, hle, hlt⟩ := exists_front vs (n - (encode v).length)
      refine ⟨v :: front, rest, rfl, ?_, ?_⟩
      · rw [List.flatMap_cons, List.length_append]
        omega
      · intro w hw
        have := hlt w hw
        rw [List.flatMap_cons, List.length_append]
        omega
    · exact ⟨[], v :: vs, rfl, Nat.zero_le _, by simpa using Nat.not_le.mp h⟩

/-- **A stream that is cut off is never misread.** The frames that lie in front of the cut are read;
then the stream has ended if the cut is where a frame ends, and otherwise there is one error before
the end. -/
theorem cut_stream_not_misread (vs : List Json) (hvs : ∀ v ∈ vs, Readable v) (n : Nat)
    (hn : n ≤ (vs.flatMap encode).length) (errors : Nat) (herr : 1 < errors) :
    ∃ front rest, vs = front ++ rest ∧ (front.flatMap encode).length ≤ n ∧
      (∀ v ∈ rest.head?, n < (front.flatMap encode).length + (encode v).length) ∧
      (n = (front.flatMap encode).length →
        items errors ((vs.flatMap encode).take n) = front.map .frame ++ [.ended]) ∧
      (n ≠ (front.flatMap encode).length → ∃ e,
        items errors ((vs.flatMap encode).take n) = front.map .frame ++ [.error e, .ended]) := by
  obtain ⟨front, rest, rfl, hle, hlt⟩ := exists_front vs n
  have hfront : ∀ v ∈ front, Readable v := fun v hv => hvs v (List.mem_append_left _ hv)
  refine ⟨front, rest, rfl, hle, hlt, ?_, ?_⟩
  · rintro rfl
    rw [List.flatMap_append, List.take_left' rfl, items_written_end errors hfront]
  · intro hne
    cases rest with
    | nil =>
      rw [List.append_nil] at hn
      omega
    | cons v rest =>
      have hv : Readable v := hvs v (List.mem_append_right _ List.mem_cons_self)
      have hlt' := hlt v rfl
      obtain ⟨m, rfl⟩ : ∃ m, n = (front.flatMap encode).length + m :=
        ⟨n - (front.flatMap encode).length, by omega⟩
      have htake : ((front ++ v :: rest).flatMap encode).take ((front.flatMap encode).length + m) =
          front.flatMap encode ++ (encode v).take m := by
        rw [List.flatMap_append, List.take_length_add_append, List.flatMap_cons,
          List.take_append_of_le_length (by omega)]
      have hpos : 0 < v.encode.length := by
        obtain ⟨b, t, hb, -⟩ := hv.integral.starts
        simp [hb]
      obtain ⟨e, he⟩ := read_cut hv.small hpos (by omega : 0 < m) (by omega)
      obtain ⟨fuel, hf, hitems⟩ := items_written ((encode v).take m) errors hfront
      have hlen : 1 ≤ ((encode v).take m).length := by
        rw [List.length_take]
        omega
      obtain ⟨fuel, rfl⟩ : ∃ k, fuel = k + 1 + 1 := ⟨fuel - 2, by omega⟩
      refine ⟨e, ?_⟩
      rw [htake, hitems, readAll, he]
      simp only [show ¬ errors ≤ 1 by omega, ↓reduceIte, readAll_nil]

theorem cut_stream_not_misread_message :
    ∃ e, items 2 (([.null, message].flatMap encode).take 60) = [.frame .null, .error e, .ended] := by
  have hvs : ∀ v ∈ [.null, message], Readable v := by
    simp only [List.mem_cons, List.not_mem_nil, or_false, forall_eq_or_imp, forall_eq]
    exact ⟨⟨.null, by decide, by decide⟩, message_readable⟩
  obtain ⟨front, rest, heq, hle, hlt, -, herr⟩ :=
    cut_stream_not_misread [.null, message] hvs 60 (by decide +kernel) 2 (by decide)
  -- the first frame lies in front of the cut, and the second does not
  rcases front with _ | ⟨a, _ | ⟨b, front⟩⟩
  · rw [List.nil_append] at heq
    subst heq
    exact absurd (hlt .null rfl) (by decide +kernel)
  · simp only [List.cons_append, List.nil_append, List.cons.injEq] at heq
    obtain ⟨rfl, -⟩ := heq
    exact herr (by decide +kernel)
  · simp only [List.cons_append, List.cons.injEq] at heq
    obtain ⟨rfl, rfl, -⟩ := heq
    rw [List.flatMap_cons, List.flatMap_cons, ← List.append_assoc, List.length_append] at hle
    have hlong : 60 < (encode .null ++ encode message).length := by decide +kernel
    omega

end Sidecar.Frame
