/-
# A pipe for frames

One side writes frames and the other reads them. Between them lie the bytes of
the frame that is being written, the bytes under way and the bytes that have
arrived, and each read works on what has arrived so far. A frame of which only
a part has arrived is waited with (`read_awaiting`), or is an error if nothing
more will come, so a read takes the frame in front as a whole or nothing
(`reading`).

What the writer has written and the reader has not read lies in the pipe, in
order (`Pipe.Carries`). All that either side does keeps this, whatever the
pieces are in which the bytes travel.

Key definitions: `Frame.Legible`, `Frame.Reading`, `Frame.Pipe`, `Frame.Pipe.Carries`.
Key theorems: `Frame.read_encode`, `Frame.reading`, `Frame.Pipe.Carries.reading`.
-/
import Sidecar.Proofs.Framing

namespace Sidecar.Frame

/-- A value that is read back, apart from floating point numbers: not too large and not too deep. -/
structure Legible (v : Json) : Prop where
  printable : v.Printable
  small : v.encode.length ≤ maxBody
  shallow : v.depth ≤ Json.maxDepth

instance : DecidablePred Legible := fun v =>
  decidable_of_iff (v.Printable ∧ v.encode.length ≤ maxBody ∧ v.depth ≤ Json.maxDepth)
    ⟨fun h => ⟨h.1, h.2.1, h.2.2⟩, fun h => ⟨h.printable, h.small, h.shallow⟩⟩

theorem Readable.legible {v : Json} (h : Readable v) : Legible v :=
  ⟨h.integral.printable, h.small, h.shallow⟩

theorem Legible.pos {v : Json} (h : Legible v) : 0 < v.encode.length := by
  obtain ⟨b, t, hb, -⟩ := h.printable.starts
  simp [hb]

theorem read_encode (ended : Bool) {v : Json} (h : Legible v) (rest : List UInt8) :
    read ended (encode v ++ rest) = .done v.reread rest := by
  have hp : Json.parse (written v h.small).body = .ok v.reread :=
    Json.parse_encode_reread h.printable h.shallow
  have hread := read_framed ended (written v h.small) rest
  rwa [bytes_written, hp] at hread

theorem nextLine_awaiting {bs : List UInt8} (h : (0x0A : UInt8) ∉ bs) :
    nextLine false bs = .awaiting := by
  rw [nextLine, line?_eq_none h]
  rfl

theorem headers_awaiting {bs : List UInt8} (h : (0x0A : UInt8) ∉ bs) (fuel : Nat) (first : Bool)
    (found : Option Nat) : headers false (fuel + 1) first found bs = .awaiting := by
  rw [headers, nextLine_awaiting h]

theorem body_awaiting {n : Nat} {bs : List UInt8} (h : bs.length < n) :
    body false n bs = .awaiting := by
  have htake : (bs.take n).length < n := by
    rw [List.length_take]
    omega
  simp only [body, htake, ↓reduceIte, Bool.false_eq_true]

/-- Behind its first header line there may be too little of a frame as well. -/
theorem read_awaiting_behind {n : Nat} (hn : n ≤ maxBody) {bs : List UInt8} (hbs : bs.length = n)
    {k : Nat} (hk : k < 2 + n) :
    read false (lineBytes (headerText n) ++ (lineBytes ['\r'] ++ bs).take k) = .awaiting := by
  obtain ⟨fuel, hfuel⟩ : ∃ j, (lineBytes (headerText n) ++ (lineBytes ['\r'] ++ bs).take k).length + 1 =
      j + 1 + 1 :=
    ⟨(lineBytes (headerText n) ++ (lineBytes ['\r'] ++ bs).take k).length - 1, by
      simp only [List.length_append, lineBytes, List.length_singleton]
      omega⟩
  rw [read, hfuel, headers_written (lt_of_le_maxBody hn)]
  rcases k with _ | _ | k
  · rw [List.take_zero, headers_awaiting (by simp)]
  · have htake : (lineBytes ['\r'] ++ bs).take 1 = [0x0D] := rfl
    rw [Nat.zero_add, htake, headers_awaiting (by decide)]
  · have htake : (lineBytes ['\r'] ++ bs).take (k + 1 + 1) = lineBytes ['\r'] ++ bs.take k := rfl
    rw [htake, headers_blank false _ _ _ (by decide) (List.forall_mem_singleton.2 (by decide)),
      if_neg (Nat.not_lt.mpr hn)]
    refine body_awaiting ?_
    rw [List.length_take]
    omega

/-- **A part of a frame is waited with.** -/
theorem read_awaiting {v : Json} (hsmall : v.encode.length ≤ maxBody) {m : Nat}
    (hlt : m < (encode v).length) : read false ((encode v).take m) = .awaiting := by
  have hlen := length_encode v
  by_cases hline : m ≤ (Utf8.encode (headerText v.encode.length)).length
  · have htake : (encode v).take m = (Utf8.encode (headerText v.encode.length)).take m := by
      rw [encode_eq, lineBytes, List.append_assoc, List.take_append_of_le_length hline]
    have hfeed : (0x0A : UInt8) ∉ (encode v).take m := by
      rw [htake]
      exact fun h => feed_not_mem_encode (headerText_ok (lt_of_le_maxBody hsmall)).1
        (List.mem_of_mem_take h)
    rw [read, headers_awaiting hfeed]
  · obtain ⟨k, rfl⟩ : ∃ k, m = (lineBytes (headerText v.encode.length)).length + k :=
      ⟨m - (lineBytes (headerText v.encode.length)).length, by
        simp only [lineBytes, List.length_append, List.length_singleton]
        omega⟩
    have htake : (encode v).take ((lineBytes (headerText v.encode.length)).length + k) =
        lineBytes (headerText v.encode.length) ++ (lineBytes ['\r'] ++ v.encode).take k := by
      rw [encode_eq, List.take_length_add_append]
    rw [htake]
    refine read_awaiting_behind hsmall rfl ?_
    simp only [lineBytes, List.length_append, List.length_singleton] at hlt hlen
    omega

/-- What a read can come to if the bytes that have arrived are the first of some frames. -/
inductive Reading (ended : Bool) (bs : List UInt8) : List Json → Outcome Json → Prop where
  | done {v : Json} {vs : List Json} {rest : List UInt8} (h : bs = encode v ++ rest) :
      Reading ended bs (v :: vs) (.done v.reread rest)
  | awaiting {vs : List Json} (hend : ended = false)
      (h : ∀ v ∈ vs.head?, bs.length < (encode v).length) : Reading ended bs vs .awaiting
  | ended {vs : List Json} (hend : ended = true) (h : bs = []) : Reading ended bs vs .ended
  | cut {vs : List Json} (e : Error) (hend : ended = true) (hne : bs ≠ [])
      (h : ∀ v ∈ vs.head?, bs.length < (encode v).length) : Reading ended bs vs (.failed e [])

theorem reading_nil (ended : Bool) (vs : List Json) : Reading ended [] vs (read ended []) := by
  cases ended with
  | true => exact .ended rfl rfl
  | false => 
    refine .awaiting rfl fun v _ => ?_
    rw [length_encode]
    simp

theorem reading (ended : Bool) {bs : List UInt8} {vs : List Json} (hvs : ∀ v ∈ vs, Legible v)
    (h : bs <+: vs.flatMap encode) : Reading ended bs vs (read ended bs) := by
  by_cases hne : bs = []
  · subst hne
    exact reading_nil ended vs
  cases vs with
  | nil => exact absurd (List.prefix_nil.1 h) hne
  | cons v vs =>
    have hv := hvs v List.mem_cons_self
    rw [List.flatMap_cons] at h
    by_cases hlt : bs.length < (encode v).length
    · -- the first frame has not arrived as a whole
      have htake : bs = (encode v).take bs.length :=
        List.prefix_iff_eq_take.1
          (List.prefix_of_prefix_length_le h (List.prefix_append _ _) hlt.le)
      have hshort : ∀ w ∈ (v :: vs).head?, bs.length < (encode w).length := by simpa using hlt
      cases ended with
      | false =>
        rw [htake, read_awaiting hv.small hlt, ← htake]
        exact .awaiting rfl hshort
      | true =>
        obtain ⟨e, he⟩ := read_cut hv.small hv.pos (List.length_pos_iff.2 hne) hlt
        rw [htake, he, ← htake]
        exact .cut e rfl hne hshort
    · obtain ⟨rest, rfl⟩ := List.prefix_of_prefix_length_le (List.prefix_append _ _) h
        (Nat.not_lt.1 hlt)
      rw [read_encode ended hv]
      exact .done rfl

/-! ### The pipe -/

/-- What lies between one who writes frames and one who reads them. -/
structure Pipe where
  /-- The part of the frame being written that is still to be put on the wire. -/
  unput : List UInt8 := []
  wire : List UInt8 := []
  /-- Bytes that have arrived and were not read. -/
  arrived : List UInt8 := []
  /-- Whether the writer has closed its end. -/
  shut : Bool := false
  /-- Whether the reader has noticed that nothing more will come. -/
  ended : Bool := false

namespace Pipe

/-- The writer begins with a frame. -/
def begin (p : Pipe) (v : Json) : Pipe := { p with unput := encode v }

/-- At most `n + 1` bytes are put on the wire. -/
def put (p : Pipe) (n : Nat) : Pipe :=
  { p with wire := p.wire ++ p.unput.take (n + 1), unput := p.unput.drop (n + 1) }

/-- The writer gives up the frame it has begun. -/
def giveUp (p : Pipe) : Pipe := { p with unput := [] }

/-- The writer closes its end. -/
def close (p : Pipe) : Pipe := { p with unput := [], shut := true }

/-- At most `n + 1` bytes arrive. -/
def carry (p : Pipe) (n : Nat) : Pipe :=
  { p with arrived := p.arrived ++ p.wire.take (n + 1), wire := p.wire.drop (n + 1) }

/-- The reader notices the end once all has arrived. -/
def notice (p : Pipe) : Pipe := { p with ended := p.ended || (p.shut && p.wire.isEmpty) }

/-- What a read on the bytes that have arrived comes to. -/
def read (p : Pipe) : Outcome Json := Frame.read p.ended p.arrived

/-- The bytes of the frames lie in the pipe, all but the `lost` ones, which were given up. -/
structure Carries (p : Pipe) (vs : List Json) (lost : List UInt8) : Prop where
  bytes : p.arrived ++ (p.wire ++ (p.unput ++ lost)) = vs.flatMap encode
  shut : p.shut = true → p.unput = []
  ended : p.ended = true → p.shut = true ∧ p.wire = []

variable {p : Pipe} {vs : List Json} {lost : List UInt8}

theorem carries_empty : Carries {} [] [] := ⟨rfl, fun _ => rfl, nofun⟩

theorem Carries.begin (h : p.Carries vs []) (hput : p.unput = []) (hshut : p.shut = false)
    (v : Json) : (p.begin v).Carries (vs ++ [v]) [] := by
  refine ⟨?_, fun hs => ?_, h.ended⟩
  · have hb := h.bytes
    simp only [hput, List.append_nil] at hb
    simp [Pipe.begin, ← hb]
  · exact absurd hs (by simp [Pipe.begin, hshut])

theorem Carries.put (h : p.Carries vs lost) (n : Nat) : (p.put n).Carries vs lost := by
  refine ⟨?_, fun hs => ?_, fun he => ?_⟩
  · simp only [Pipe.put, List.append_assoc]
    rw [← List.append_assoc (p.unput.take _), List.take_append_drop]
    exact h.bytes
  · simp [Pipe.put, h.shut hs]
  · obtain ⟨hs, hw⟩ := h.ended he
    exact ⟨hs, by simp [Pipe.put, hw, h.shut hs]⟩

theorem Carries.giveUp (h : p.Carries vs lost) : p.giveUp.Carries vs (p.unput ++ lost) :=
  ⟨by simpa [Pipe.giveUp] using h.bytes, fun _ => rfl, h.ended⟩

theorem Carries.close (h : p.Carries vs lost) : p.close.Carries vs (p.unput ++ lost) :=
  ⟨by simpa [Pipe.close] using h.bytes, fun _ => rfl, fun he => ⟨rfl, (h.ended he).2⟩⟩

theorem Carries.carry (h : p.Carries vs lost) (n : Nat) : (p.carry n).Carries vs lost := by
  refine ⟨?_, h.shut, fun he => ?_⟩
  · simp only [Pipe.carry, List.append_assoc]
    rw [← List.append_assoc (p.wire.take _), List.take_append_drop]
    exact h.bytes
  · obtain ⟨hs, hw⟩ := h.ended he
    exact ⟨hs, by simp [Pipe.carry, hw]⟩

theorem Carries.notice (h : p.Carries vs lost) : p.notice.Carries vs lost := by
  refine ⟨h.bytes, h.shut, fun he => ?_⟩
  simp only [Pipe.notice, Bool.or_eq_true, Bool.and_eq_true, List.isEmpty_iff] at he
  exact he.elim h.ended id

theorem Carries.reading (h : p.Carries vs lost) (hvs : ∀ v ∈ vs, Legible v) :
    Reading p.ended p.arrived vs p.read :=
  Frame.reading p.ended hvs ⟨_, h.bytes⟩

/-- A frame that was read is no longer in the pipe. -/
theorem Carries.take {v : Json} {rest : List UInt8} (h : p.Carries (v :: vs) lost)
    (hrest : p.arrived = encode v ++ rest) : { p with arrived := rest }.Carries vs lost := by
  refine ⟨?_, h.shut, h.ended⟩
  have hb := h.bytes
  rw [hrest, List.flatMap_cons, List.append_assoc] at hb
  exact List.append_cancel_left hb

/-- Where the end was noticed, nothing is under way. -/
theorem Carries.arrived_eq (h : p.Carries vs []) (he : p.ended = true) :
    p.arrived = vs.flatMap encode := by
  obtain ⟨hs, hw⟩ := h.ended he
  simpa [hw, h.shut hs] using h.bytes

/-- A pipe that lost nothing never cuts a frame off. -/
theorem Carries.read_ne_failed (h : p.Carries vs []) (hvs : ∀ v ∈ vs, Legible v) (e : Error)
    (rest : List UInt8) : p.read ≠ .failed e rest := by
  intro hread
  have hr := h.reading hvs
  rw [hread] at hr
  cases hr with
  | cut _ hend hne hlt =>
    rw [h.arrived_eq hend] at hne hlt
    cases vs with
    | nil => exact hne rfl
    | cons v vs =>
      have := hlt v rfl
      rw [List.flatMap_cons, List.length_append] at this
      omega

/-- Nothing is left once the end is read from a pipe that lost nothing. -/
theorem Carries.eq_nil_of_ended (h : p.Carries vs []) (hvs : ∀ v ∈ vs, Legible v)
    (hread : p.read = .ended) : vs = [] ∧ p.ended = true := by
  have hr := h.reading hvs
  rw [hread] at hr
  cases hr with
  | ended hend hnil =>
    have harr := h.arrived_eq hend
    refine ⟨?_, hend⟩
    cases vs with
    | nil => rfl
    | cons v vs =>
      have hlen := congrArg List.length (hnil.symm.trans harr)
      rw [List.flatMap_cons, List.length_append, length_encode] at hlen
      simp at hlen
      omega

/-- Where nothing is under way and a read still waits, nothing is left. -/
theorem Carries.eq_nil_of_awaiting (h : p.Carries vs []) (hvs : ∀ v ∈ vs, Legible v)
    (hput : p.unput = []) (hwire : p.wire = []) (hread : p.read = .awaiting) :
    vs = [] ∧ p.ended = false := by
  have hr := h.reading hvs
  have hbytes := h.bytes
  rw [hread] at hr
  cases hr with
  | awaiting hend hlt =>
    refine ⟨?_, hend⟩
    cases vs with
    | nil => rfl
    | cons v vs =>
      have hlen := congrArg List.length hbytes
      have hshort := hlt v rfl
      simp only [hput, hwire, List.append_nil, List.flatMap_cons, List.length_append] at hlen
      omega

/-! ### What is left to do -/

/-- How much is left to do with what lies in a pipe: a byte has up to three ways to go, and the end
is to be noticed. -/
def weight (p : Pipe) : Nat :=
  3 * p.unput.length + 2 * p.wire.length + p.arrived.length + (!p.ended).toNat

theorem put_eq_or_lt (p : Pipe) (n : Nat) : p.put n = p ∨ (p.put n).weight < p.weight := by
  by_cases h : p.unput = []
  · left
    cases p
    simp_all [put]
  · right
    have hpos := List.length_pos_iff.2 h
    simp only [weight, put, List.length_append, List.length_take, List.length_drop]
    omega

theorem carry_eq_or_lt (p : Pipe) (n : Nat) : p.carry n = p ∨ (p.carry n).weight < p.weight := by
  by_cases h : p.wire = []
  · left
    cases p
    simp_all [carry]
  · right
    have hpos := List.length_pos_iff.2 h
    simp only [weight, carry, List.length_append, List.length_take, List.length_drop]
    omega

theorem notice_eq_or_lt (p : Pipe) : p.notice = p ∨ p.notice.weight < p.weight := by
  cases he : p.ended with
  | true =>
    left
    cases p
    simp_all [notice]
  | false =>
    by_cases hend : p.shut && p.wire.isEmpty
    · right
      simp [weight, notice, he, hend]
    · left
      cases p
      simp_all [notice]

theorem weight_take {p : Pipe} {v : Json} {rest : List UInt8} (h : p.arrived = encode v ++ rest) :
    { p with arrived := rest }.weight < p.weight := by
  have hpos := length_encode v
  simp only [weight, h, List.length_append]
  omega

theorem eq_nil_of_put {p : Pipe} {n : Nat} (h : p.put n = p) : p.unput = [] := by
  have hlen := congrArg (fun q => q.unput.length) h
  simp only [put, List.length_drop] at hlen
  exact List.length_eq_zero_iff.1 (by omega)

theorem eq_nil_of_carry {p : Pipe} {n : Nat} (h : p.carry n = p) : p.wire = [] := by
  have hlen := congrArg (fun q => q.wire.length) h
  simp only [carry, List.length_drop] at hlen
  exact List.length_eq_zero_iff.1 (by omega)

theorem ended_of_notice {p : Pipe} (h : p.notice = p) (hshut : p.shut = true)
    (hwire : p.wire = []) : p.ended = true := by
  rw [← h]
  simp [notice, hshut, hwire]

end Pipe

end Sidecar.Frame
