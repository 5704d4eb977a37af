/-
# Frames and a buffer that fills up

A frame is two writes, its headers and its body, and a buffer of bounded size
may fill up anywhere in either of them. Wherever that is, the buffer holds the
first bytes of the frames as they lie one behind the other (`Holds`), so the
room it has left depends on how long they are together, and on nothing else.
What a write returns depends on that room alone (`Judged`); a write that fails
leaves no room, and without room no header fits.

Key definitions: `Frame.Buffer.Holds`, `Frame.Buffer.Judged`, `Frame.Buffer.FillsUp`.
Key theorems: `Frame.Buffer.Holds.write`, `Frame.Buffer.judged_write`,
`Frame.Buffer.buffer_keeps_prefix`.
-/
import Mathlib.Tactic.Common
import Sidecar.Frame.Writer

namespace Sidecar.Frame

theorem length_encode_eq (v : Json) :
    (encode v).length = (header v.encode.length).length + v.encode.length := by
  rw [encode, List.length_append]

theorem length_header_pos (n : Nat) : 0 < (header n).length := by
  have hne : ("Content-Length: ".toList ++ Nat.toDigits 10 n ++ ['\r', '\n', '\r', '\n']) ≠ [] := by
    simp
  obtain ⟨c, cs, hcs⟩ := List.exists_cons_of_ne_nil hne
  have hc : 0 < (Utf8.encodeChar c).length := by
    rw [Utf8.encodeChar, String.length_utf8EncodeChar]
    exact c.utf8Size_pos
  rw [header, hcs, Utf8.encode, List.flatMap_cons, List.length_append]
  omega

namespace Buffer

variable {b : Buffer} {stream bs : List UInt8} {v : Json} {vs : List Json}

/-- The headers of a frame did not fit. -/
def headerFault : Error := .stream "writing frame header: write zero"

/-- The body of a frame did not fit. -/
def bodyFault : Error := .stream "writing frame body: write zero"

/-- The buffer holds what fits of all that was to be written. -/
def Holds (b : Buffer) (stream : List UInt8) : Prop := b.bytes = stream.take b.capacity

theorem Holds.room_eq (h : Holds b stream) : b.room = b.capacity - stream.length := by
  have hlen : b.bytes.length = min b.capacity stream.length := by rw [h, List.length_take]
  rw [room, hlen]
  omega

theorem Holds.add (h : Holds b stream) (bs : List UInt8) : Holds (b.add bs) (stream ++ bs) := by
  show b.bytes ++ bs.take b.room = (stream ++ bs).take b.capacity
  rw [h.room_eq, h, List.take_append]

/-- What is behind bytes that did not all fit makes no difference. -/
theorem Holds.overrun (h : Holds b stream) (hfull : b.capacity ≤ stream.length)
    (more : List UInt8) : Holds b (stream ++ more) := by
  show b.bytes = (stream ++ more).take b.capacity
  rw [h, List.take_append_of_le_length hfull]

theorem capacity_write (b : Buffer) (v : Json) : (b.write v).2.capacity = b.capacity := by
  unfold write
  dsimp only
  split_ifs <;> rfl

/-- **Whether or not a frame fits, the buffer holds what fits of it.** -/
theorem Holds.write (h : Holds b stream) (v : Json) :
    Holds (b.write v).2 (stream ++ encode v) := by
  have hhead := h.add (header v.encode.length)
  have hsplit : stream ++ encode v = (stream ++ header v.encode.length) ++ v.encode := by
    rw [encode, List.append_assoc]
  have hboth := hhead.add v.encode
  rw [← hsplit] at hboth
  unfold Buffer.write
  dsimp only
  by_cases hroom : b.room < (header v.encode.length).length
  · -- the body is not even begun, and there is no room for it
    rw [if_pos hroom, hsplit]
    have hlong : b.capacity ≤ (stream ++ header v.encode.length).length := by
      rw [h.room_eq] at hroom
      rw [List.length_append]
      omega
    exact hhead.overrun hlong v.encode
  · rw [if_neg hroom]
    split_ifs <;> exact hboth

theorem writeAll_cons (b : Buffer) (v : Json) (vs : List Json) :
    b.writeAll (v :: vs) =
      ((b.write v).1 :: ((b.write v).2.writeAll vs).1, ((b.write v).2.writeAll vs).2) :=
  rfl

theorem Holds.writeAll (h : Holds b stream) (vs : List Json) :
    Holds (b.writeAll vs).2 (stream ++ vs.flatMap encode) := by
  induction vs generalizing b stream with
  | nil => simpa [Buffer.writeAll] using h
  | cons v vs ih =>
    have hrest := ih (h.write v)
    rwa [List.append_assoc, ← List.flatMap_cons] at hrest

theorem capacity_writeAll (vs : List Json) (b : Buffer) :
    (b.writeAll vs).2.capacity = b.capacity := by
  induction vs generalizing b with
  | nil => rfl
  | cons v vs ih =>
    have hrest := ih (b.write v).2
    rwa [capacity_write] at hrest

/-! ### What a write returns -/

/-- What is returned for a frame that finds so much room. -/
structure Judged (room : Nat) (v : Json) (r : Except Error Unit) : Prop where
  ok : r = .ok () ↔ (encode v).length ≤ room
  header : r = .error headerFault ↔ room < (header v.encode.length).length
  body : r = .error bodyFault ↔
    (Frame.header v.encode.length).length ≤ room ∧ room < (encode v).length

theorem room_add (hfits : bs.length ≤ b.room) : (b.add bs).room = b.room - bs.length := by
  simp only [add, room] at hfits ⊢
  rw [List.length_append, List.take_of_length_le hfits]
  omega

/-- **A write is judged by the room it finds.** -/
theorem judged_write (b : Buffer) (v : Json) : Judged b.room v (b.write v).1 := by
  have hlen := length_encode_eq v
  have hne : headerFault ≠ bodyFault := by simp [headerFault, bodyFault]
  unfold write
  dsimp only
  by_cases hhead : b.room < (header v.encode.length).length
  · rw [if_pos hhead]
    have hlong : ¬ (encode v).length ≤ b.room := by omega
    exact ⟨by simp [hlong], by simp [hhead, headerFault],
      ⟨fun he => absurd (Except.error.inj he) hne, fun hfit => absurd hhead (by omega)⟩⟩
  · have hfits : (header v.encode.length).length ≤ b.room := Nat.not_lt.1 hhead
    have hleft := room_add hfits
    rw [if_neg hhead]
    by_cases hbody : (b.add (header v.encode.length)).room < v.encode.length
    · rw [if_pos hbody]
      have hlong : b.room < (encode v).length := by omega
      exact ⟨by simp [Nat.not_le.2 hlong],
        ⟨fun he => absurd (Except.error.inj he).symm hne, fun hshort => absurd hshort hhead⟩,
        by simp [hfits, hlong, bodyFault]⟩
    · rw [if_neg hbody]
      have hshort : (encode v).length ≤ b.room := by omega
      exact ⟨by simp [hshort], by simp [hhead], by simp [Nat.not_lt.2 hshort]⟩

theorem room_of_write_failed (hholds : Holds b stream) (hfailed : (b.write v).1 ≠ .ok ()) :
    (b.write v).2.room = 0 := by
  have hlong : ¬ (encode v).length ≤ b.room := fun hfits => hfailed ((judged_write b v).ok.2 hfits)
  have hlater := (hholds.write v).room_eq
  rw [hholds.room_eq] at hlong
  rw [hlater, capacity_write, List.length_append]
  omega

theorem add_of_full (hfull : b.room = 0) (bs : List UInt8) : b.add bs = b := by
  rw [add, hfull, List.take_zero, List.append_nil]

/-- Nothing is written into a full buffer. -/
theorem write_of_full (hfull : b.room = 0) (v : Json) : b.write v = (.error headerFault, b) := by
  have hhead : b.room < (header v.encode.length).length := by
    rw [hfull]
    exact length_header_pos _
  unfold write
  dsimp only
  rw [if_pos hhead, add_of_full hfull]
  rfl

theorem writeAll_of_full (hfull : b.room = 0) (vs : List Json) :
    b.writeAll vs = (vs.map fun _ => .error headerFault, b) := by
  induction vs with
  | nil => rfl
  | cons v vs ih =>
    rw [writeAll_cons, write_of_full hfull, ih]
    rfl

/-! ### Frames in turn -/

theorem writeAll_append (b : Buffer) (vs ws : List Json) :
    b.writeAll (vs ++ ws) = ((b.writeAll vs).1 ++ ((b.writeAll vs).2.writeAll ws).1,
      ((b.writeAll vs).2.writeAll ws).2) := by
  induction vs generalizing b with
  | nil => rfl
  | cons v vs ih =>
    rw [List.cons_append, writeAll_cons, writeAll_cons, ih]
    rfl

theorem length_writeAll (vs : List Json) (b : Buffer) : (b.writeAll vs).1.length = vs.length := by
  induction vs generalizing b with
  | nil => rfl
  | cons v vs ih => exact congrArg (· + 1) (ih _)

/-- What is returned for a frame, behind the frames before it. -/
theorem getElem?_writeAll (vs : List Json) (b : Buffer) (k : Nat) :
    (b.writeAll vs).1[k]? = vs[k]?.map fun v => ((b.writeAll (vs.take k)).2.write v).1 := by
  induction vs generalizing b k with
  | nil => rfl
  | cons v vs ih =>
    cases k with
    | zero => rfl
    | succ k => exact ih (b.write v).2 k

theorem writeAll_take_succ {k : Nat} (hv : vs[k]? = some v) (b : Buffer) :
    (b.writeAll (vs.take (k + 1))).2 = ((b.writeAll (vs.take k)).2.write v).2 := by
  have htake : vs.take (k + 1) = vs.take k ++ [v] := by
    rw [List.take_add_one, hv, Option.toList_some]
  rw [htake, writeAll_append]
  rfl

/-- What was written into an empty buffer of `c` bytes. -/
def filled (c : Nat) (vs : List Json) : Buffer := (writeAll { capacity := c } vs).2

/-- What the writes into an empty buffer of `c` bytes have returned. -/
def outcomes (c : Nat) (vs : List Json) : List (Except Error Unit) :=
  (writeAll { capacity := c } vs).1

theorem holds_filled (c : Nat) (vs : List Json) : Holds (filled c vs) (vs.flatMap encode) := by
  have hempty : Holds { capacity := c } [] := by simp [Holds]
  exact hempty.writeAll vs

theorem capacity_filled (c : Nat) (vs : List Json) : (filled c vs).capacity = c :=
  capacity_writeAll vs _

theorem outcome_eq {c k : Nat} (hv : vs[k]? = some v) :
    (outcomes c vs)[k]? = some ((filled c (vs.take k)).write v).1 := by
  rw [outcomes, getElem?_writeAll, hv]
  rfl

/-- A write succeeds exactly if all frames up to this one fit. -/
theorem outcome_ok_iff {c k : Nat} (hv : vs[k]? = some v) :
    ((filled c (vs.take k)).write v).1 = .ok () ↔
      ((vs.take (k + 1)).flatMap encode).length ≤ c := by
  have hroom := (holds_filled c (vs.take k)).room_eq
  have hlen : ((vs.take (k + 1)).flatMap encode).length =
      ((vs.take k).flatMap encode).length + (encode v).length := by
    rw [List.take_add_one, hv, Option.toList_some, List.flatMap_append, List.length_append,
      List.flatMap_singleton]
  have hpos : 0 < (encode v).length := by
    rw [length_encode_eq]
    exact Nat.add_pos_left (length_header_pos _) _
  rw [capacity_filled] at hroom
  rw [(judged_write _ v).ok, hroom, hlen]
  omega

/-- Behind a write that has failed, every write fails at once and adds nothing. -/
theorem outcome_after_failure {c j k : Nat} {r r' : Except Error Unit} (hjk : j < k)
    (hr : (outcomes c vs)[j]? = some r) (hfailed : r ≠ .ok ())
    (hr' : (outcomes c vs)[k]? = some r') :
    r' = .error headerFault ∧ filled c (vs.take (k + 1)) = filled c (vs.take (j + 1)) := by
  have hlen : (outcomes c vs).length = vs.length := length_writeAll vs _
  have hklt : k < vs.length := hlen ▸ (List.getElem?_eq_some_iff.1 hr').1
  have hj : vs[j]? = some (vs[j]) := List.getElem?_eq_getElem (by omega)
  have hk : vs[k]? = some (vs[k]) := List.getElem?_eq_getElem hklt
  rw [outcome_eq hj] at hr
  rw [outcome_eq hk] at hr'
  cases hr
  cases hr'
  have hfull : (filled c (vs.take (j + 1))).room = 0 := by
    rw [filled, writeAll_take_succ hj]
    exact room_of_write_failed (holds_filled c _) hfailed
  -- what lies between the two frames is written into a full buffer
  have hbetween : ∀ n, j < n → filled c (vs.take n) = filled c (vs.take (j + 1)) := by
    intro n hn
    obtain ⟨d, rfl⟩ : ∃ d, n = j + 1 + d := ⟨n - (j + 1), by omega⟩
    rw [List.take_add, filled, writeAll_append]
    show ((filled c (vs.take (j + 1))).writeAll _).2 = _
    rw [writeAll_of_full hfull]
  refine ⟨?_, hbetween (k + 1) (by omega)⟩
  rw [hbetween k hjk, write_of_full hfull]

/-- What becomes of frames that are written in turn into an empty buffer of `c` bytes. -/
structure FillsUp (c : Nat) (vs : List Json) : Prop where
  /-- The buffer holds the first bytes of the frames. -/
  bytes : (filled c vs).bytes = (vs.flatMap encode).take (min c (vs.flatMap encode).length)
  answered : (outcomes c vs).length = vs.length
  /-- A write succeeds if the frames so far fit, and else it tells which part does not fit in what
  was left. -/
  judged : ∀ (k : Nat) (v : Json) (r : Except Error Unit), vs[k]? = some v →
    (outcomes c vs)[k]? = some r →
      (r = .ok () ↔ ((vs.take (k + 1)).flatMap encode).length ≤ c) ∧
        Judged (filled c (vs.take k)).room v r
  /-- One failure is the end of it. -/
  spent : ∀ (j k : Nat) (r r' : Except Error Unit), j < k → (outcomes c vs)[j]? = some r →
    r ≠ .ok () → (outcomes c vs)[k]? = some r' →
      r' = .error headerFault ∧ filled c (vs.take (k + 1)) = filled c (vs.take (j + 1))

/-- **A buffer of bounded size keeps the first bytes of the frames**, whatever the frames and
wherever it fills up. -/
theorem buffer_keeps_prefix (c : Nat) (vs : List Json) : FillsUp c vs where
  bytes := by
    have hbytes : (filled c vs).bytes = (vs.flatMap encode).take (filled c vs).capacity :=
      holds_filled c vs
    rw [hbytes, capacity_filled, ← List.take_eq_take_min]
  answered := length_writeAll vs _
  judged k v r hv hr := by
    rw [outcome_eq hv] at hr
    cases hr
    exact ⟨outcome_ok_iff hv, judged_write _ v⟩
  spent j k r r' := outcome_after_failure

/-- The buffer is full with the header of the second frame. -/
example : outcomes 46 [.null, .null, .null] =
    [.ok (), .error bodyFault, .error headerFault] := by decide

end Buffer

end Sidecar.Frame
