/-
# Reading goes on

A read that returns anything but the clean end has taken at least one byte.
The headers of a frame begin with a line and no line is empty, so wherever an
error is found, something lies in front of it. The clean end comes where
nothing is left, and only there. Whatever a read comes to, it leaves the bytes
behind those it has taken, as they are (`leaves_read`).

A read that does not wait for more comes to the same whatever comes behind
(`read_before`). So one who reads on through all errors while the bytes arrive,
in whatever pieces, makes the same calls as if all of them were there
(`Caller.calling`). Each call takes the next piece of the stream and the pieces
make up the stream, so that after at most one call more than it has bytes the
clean end is reached.

Key definitions: `Frame.Leaves`, `Frame.Returned`, `Frame.Caller`, `Frame.Proceeds`.
Key theorems: `Frame.leaves_read`, `Frame.read_before`, `Frame.Caller.calling`,
`Frame.Caller.Reads.step`, `Frame.reading_progresses`.
-/
import Sidecar.Proofs.Pipe
import Sidecar.Proofs.Schedule

namespace Sidecar.Frame

variable {ended : Bool} {bs rest l taken more : List UInt8}

/-- The line in front goes up to the first line feed. -/
theorem line?_eq_some_iff : line? bs = some (l, rest) ↔
    ∃ text, (0x0A : UInt8) ∉ text ∧ l = text ++ [0x0A] ∧ bs = l ++ rest := by
  constructor
  · intro h
    unfold line? at h
    split at h
    · cases h
    · next b tail hdrop =>
      cases h
      have hfeed : b = 0x0A := by
        have hhead := List.head_dropWhile_not (· != 0x0A) (l := bs) (by simp [hdrop])
        simpa [hdrop] using hhead
      refine ⟨bs.takeWhile (· != 0x0A), fun hmem => ?_, by rw [hfeed], ?_⟩
      · simpa using List.mem_takeWhile_imp hmem
      · rw [List.append_assoc, List.singleton_append, ← hdrop, List.takeWhile_append_dropWhile]
  · rintro ⟨text, htext, rfl, rfl⟩
    have hne : ∀ b ∈ text, (b != 0x0A) = true := fun b hb => by
      simp only [bne_iff_ne, ne_eq]
      exact fun he => htext (he ▸ hb)
    rw [line?, List.append_assoc, List.dropWhile_append_of_pos hne,
      List.takeWhile_append_of_pos hne]
    simp

/-- What the line in front can be: it is never empty, and there is none only at the end. -/
inductive LineAhead (ended : Bool) (bs : List UInt8) : NextLine → Prop where
  | line {l rest : List UInt8} (hne : l ≠ []) (h : bs = l ++ rest) :
      LineAhead ended bs (.line l rest)
  | none (hend : ended = true) (h : bs = []) : LineAhead ended bs .none
  | awaiting (hend : ended = false) : LineAhead ended bs .awaiting

theorem lineAhead (ended : Bool) (bs : List UInt8) : LineAhead ended bs (nextLine ended bs) := by
  unfold nextLine
  cases hline : line? bs with
  | some p =>
    obtain ⟨text, -, hl, hbs⟩ := line?_eq_some_iff.1 hline
    exact .line (by simp [hl]) hbs
  | none =>
    cases ended with
    | false => exact .awaiting rfl
    | true =>
      cases bs with
      | nil => exact .none rfl rfl
      | cons b bs => exact .line (by simp) (by simp)

/-- A line that has arrived stays the line in front. -/
theorem nextLine_before (h : nextLine false bs = .line l rest) (more : List UInt8) :
    nextLine ended (bs ++ more) = .line l (rest ++ more) := by
  unfold nextLine at h
  cases hline : line? bs with
  | none => simp [hline] at h
  | some p =>
    obtain ⟨text, htext, hl, hbs⟩ := line?_eq_some_iff.1 hline
    have hmore : line? (bs ++ more) = some (p.1, p.2 ++ more) :=
      line?_eq_some_iff.2 ⟨text, htext, hl, by rw [hbs, List.append_assoc]⟩
    simp only [hline, NextLine.line.injEq] at h
    rw [nextLine, hmore, h.1, h.2]

/-! ### What a read leaves -/

theorem length_lt_of_taken (hne : taken ≠ []) (h : bs = taken ++ rest) :
    rest.length < bs.length := by
  have htaken : 0 < taken.length := List.length_pos_iff.2 hne
  rw [h, List.length_append]
  omega

/-- What a read can come to: it has taken something and leaves what lies behind, it finds the end
where nothing is left, or it waits as long as more can come. -/
inductive Leaves {α : Type} (ended : Bool) (bs : List UInt8) : Outcome α → Prop where
  | done {a : α} {rest : List UInt8} (taken : List UInt8) (hne : taken ≠ [])
      (h : bs = taken ++ rest) : Leaves ended bs (.done a rest)
  | failed {e : Error} {rest : List UInt8} (taken : List UInt8) (hne : taken ≠ [])
      (h : bs = taken ++ rest) : Leaves ended bs (.failed e rest)
  | ended (hend : ended = true) (h : bs = []) : Leaves ended bs .ended
  | awaiting (hend : ended = false) : Leaves ended bs .awaiting

/-- The headers that are still to be read, behind the lines `taken`. -/
theorem leaves_headers {fuel : Nat} (found : Option Nat) (hfuel : bs.length < fuel)
    (taken : List UInt8) :
    Leaves ended (taken ++ bs) (headers ended fuel taken.isEmpty found bs) := by
  -- `taken` grows line by line, so that the first line is the one with nothing taken before it
  induction fuel generalizing taken found bs with
  | zero => omega
  | succ fuel ih =>
    have hahead := lineAhead ended bs
    rw [headers]
    generalize nextLine ended bs = next at hahead ⊢
    cases hahead with
    | awaiting hend => exact .awaiting hend
    | none hend hbs =>
      cases taken with
      | nil => exact .ended hend hbs
      | cons b taken => exact .failed (b :: taken) (by simp) (by rw [hbs])
    | @line l rest hne hbs =>
      have hlt : rest.length < bs.length := length_lt_of_taken hne hbs
      have hrest : rest.length < fuel := by omega
      have hsplit : taken ++ bs = taken ++ l ++ rest := by rw [hbs, List.append_assoc]
      have hsome : taken ++ l ≠ [] := by simp [hne]
      have hlater : (taken ++ l).isEmpty = false := List.isEmpty_eq_false_iff.2 hsome
      have hon := fun found => ih found hrest (taken ++ l)
      rw [hlater, ← hsplit] at hon
      dsimp only
      cases headerLine l with
      | bad e => exact .failed (taken ++ l) hsome hsplit
      | length n => exact hon (some n)
      | other => exact hon found
      | blank =>
        cases found with
        | none => exact .failed (taken ++ l) hsome hsplit
        | some n =>
          by_cases hlarge : maxBody < n
          · simp only [hlarge, ↓reduceIte]
            exact .failed (taken ++ l) hsome hsplit
          · simp only [hlarge, ↓reduceIte]
            exact .done (taken ++ l) hsome hsplit

/-- A body behind its headers. -/
theorem leaves_body (n : Nat) (hne : taken ≠ []) :
    Leaves ended (taken ++ bs) (body ended n bs) := by
  have hsome (front : List UInt8) : taken ++ front ≠ [] := by simp [hne]
  have hsplit : taken ++ bs = taken ++ bs.take n ++ bs.drop n := by
    rw [List.append_assoc, List.take_append_drop]
  unfold body
  by_cases hshort : (bs.take n).length < n
  · simp only [hshort, ↓reduceIte]
    cases ended with
    | false => exact .awaiting rfl
    | true => exact .failed (taken ++ bs) (hsome bs) (List.append_nil _).symm
  · simp only [hshort, ↓reduceIte]
    cases Json.parse (bs.take n) with
    | ok v => exact .done (taken ++ bs.take n) (hsome _) hsplit
    | error e => exact .failed (taken ++ bs.take n) (hsome _) hsplit

/-- **A read takes something, or there is nothing.** -/
theorem leaves_read (ended : Bool) (bs : List UInt8) : Leaves ended bs (read ended bs) := by
  have hheaders : Leaves ended bs (headers ended (bs.length + 1) true none bs) :=
    leaves_headers none (Nat.lt_succ_self _) []
  unfold read
  generalize headers ended (bs.length + 1) true none bs = outcome at hheaders ⊢
  cases hheaders with
  | @done n rest taken hne h =>
    rw [h]
    exact leaves_body n hne
  | failed taken hne h => exact .failed taken hne h
  | ended hend h => exact .ended hend h
  | awaiting hend => exact .awaiting hend

/-- An outcome with more bytes behind those that are left. -/
def Outcome.before {α : Type} (more : List UInt8) : Outcome α → Outcome α
  | .done a rest => .done a (rest ++ more)
  | .failed e rest => .failed e (rest ++ more)
  | .ended => .ended
  | .awaiting => .awaiting

theorem headers_before {fuel fuel' : Nat} {first : Bool} {found : Option Nat}
    (hfuel : bs.length < fuel) (hle : fuel ≤ fuel')
    (hset : headers false fuel first found bs ≠ .awaiting) (more : List UInt8) :
    headers ended fuel' first found (bs ++ more) =
      (headers false fuel first found bs).before more := by
  induction fuel generalizing fuel' first found bs with
  | zero => omega
  | succ fuel ih =>
    obtain ⟨fuel', rfl⟩ : ∃ k, fuel' = k + 1 := ⟨fuel' - 1, by omega⟩
    have hahead := lineAhead false bs
    rw [headers] at hset ⊢
    rw [headers]
    generalize hnext : nextLine false bs = next at hahead hset ⊢
    cases hahead with
    | awaiting => exact absurd rfl hset
    | none hend => cases hend
    | @line l rest hne hbs =>
      have hlt : rest.length < bs.length := length_lt_of_taken hne hbs
      have hrest : rest.length < fuel := by omega
      rw [nextLine_before hnext more]
      dsimp only at hset ⊢
      generalize headerLine l = said at hset ⊢
      cases said with
      | bad e => rfl
      | length n => exact ih hrest (by omega) hset
      | other => exact ih hrest (by omega) hset
      | blank =>
        cases found with
        | none => rfl
        | some n =>
          by_cases hlarge : maxBody < n <;> simp only [hlarge, ↓reduceIte, Outcome.before]

theorem body_before {n : Nat} (hset : body false n bs ≠ .awaiting) (more : List UInt8) :
    body ended n (bs ++ more) = (body false n bs).before more := by
  have hlen : n ≤ bs.length := by
    by_contra hshort
    exact hset (body_awaiting (Nat.not_le.1 hshort))
  have htake : (bs ++ more).take n = bs.take n := List.take_append_of_le_length hlen
  have hdrop : (bs ++ more).drop n = bs.drop n ++ more := List.drop_append_of_le_length hlen
  have hfull : ¬ (bs.take n).length < n := by
    rw [List.length_take]
    omega
  unfold body
  simp only [htake, hdrop, hfull, ↓reduceIte]
  cases Json.parse (bs.take n) <;> rfl

/-- **What a read comes to does not depend on what comes behind**, once it waits no longer. -/
theorem read_before (hset : read false bs ≠ .awaiting) (more : List UInt8) :
    read ended (bs ++ more) = (read false bs).before more := by
  have hle : bs.length + 1 ≤ (bs ++ more).length + 1 := by
    rw [List.length_append]
    omega
  have hheaders : headers false (bs.length + 1) true none bs ≠ .awaiting := by
    intro hwait
    exact hset (by rw [read, hwait])
  have hsame : headers ended ((bs ++ more).length + 1) true none (bs ++ more) = _ :=
    headers_before (Nat.lt_succ_self bs.length) hle hheaders more
  rw [read] at hset
  rw [read, read, hsame]
  cases hread : headers false (bs.length + 1) true none bs with
  | done n rest =>
    rw [hread] at hset
    exact body_before hset more
  | failed e rest => rfl
  | ended => rfl
  | awaiting => rfl

/-! ### Calls -/

/-- A call that has returned, with the bytes that it took. -/
structure Call where
  item : Item
  taken : List UInt8

/-- The outcome of a read that returns an item and leaves `rest`. -/
def Item.leaving (rest : List UInt8) : Item → Outcome Json
  | .frame v => .done v rest
  | .error e => .failed e rest
  | .ended => .ended

/-- A call on what is left of a stream. -/
structure Returned (bs : List UInt8) (call : Call) : Prop where
  /-- It takes bytes from the front. -/
  front : call.taken <+: bs
  /-- It is what reading comes to, and leaves the bytes behind those it took. -/
  outcome : read true bs = call.item.leaving (bs.drop call.taken.length)
  /-- Whatever it returns but the clean end, it took something. -/
  progress : call.item ≠ .ended → call.taken ≠ []
  /-- The clean end comes exactly where nothing was left. -/
  clean : call.item = .ended ↔ bs = []

theorem returned_of_read {item : Item} (h : read true (taken ++ rest) = item.leaving rest) :
    Returned (taken ++ rest) ⟨item, taken⟩ := by
  have hleaves := leaves_read true (taken ++ rest)
  rw [h] at hleaves
  have hdrop : (taken ++ rest).drop taken.length = rest := List.drop_left' rfl
  -- what was taken in front of a frame or an error is what `Leaves` has there
  have hcut (front : List UInt8) (hne : front ≠ []) (hsplit : taken ++ rest = front ++ rest) :
      taken ≠ [] := by rwa [List.append_cancel_right hsplit]
  have hside : item = .ended ∧ taken ++ rest = [] ∨ item ≠ .ended ∧ taken ≠ [] := by
    cases item with
    | frame v =>
      cases hleaves with
      | done front hne hsplit => exact .inr ⟨by simp, hcut front hne hsplit⟩
    | error e =>
      cases hleaves with
      | failed front hne hsplit => exact .inr ⟨by simp, hcut front hne hsplit⟩
    | ended =>
      cases hleaves with
      | ended _ hnil => exact .inl ⟨rfl, hnil⟩
  refine ⟨List.prefix_append _ _, by rw [hdrop]; exact h, fun hitem => ?_, ?_⟩
  · exact (hside.resolve_left fun hend => hitem hend.1).2
  · rcases hside with ⟨hend, hnil⟩ | ⟨hitem, hne⟩
    · exact iff_of_true hend hnil
    · exact iff_of_false hitem (by simp [hne])

/-- Every call returns. -/
theorem exists_returned (bs : List UInt8) : ∃ call, Returned bs call := by
  have hleaves := leaves_read true bs
  generalize hread : read true bs = outcome at hleaves
  cases hleaves with
  | @done v rest taken hne h =>
    subst h
    exact ⟨⟨.frame v, taken⟩, returned_of_read hread⟩
  | @failed e rest taken hne h =>
    subst h
    exact ⟨⟨.error e, taken⟩, returned_of_read hread⟩
  | ended =>
    have hnone : Returned ([] ++ bs) ⟨.ended, []⟩ := returned_of_read hread
    exact ⟨_, hnone⟩
  | awaiting hend => cases hend

/-- A caller that puts up with all errors comes to the clean end, with at most one call for each
byte in front of it. -/
theorem readAll_reaches_end {fuel errors : Nat} (hfuel : bs.length < fuel)
    (herrors : bs.length < errors) :
    ∃ before, readAll fuel errors bs = before ++ [.ended] ∧ before.length ≤ bs.length ∧
      ∀ item ∈ before, item ≠ .ended := by
  induction fuel generalizing errors bs with
  | zero => omega
  | succ fuel ih =>
    have hleaves := leaves_read true bs
    rw [readAll]
    generalize read true bs = outcome at hleaves ⊢
    cases hleaves with
    | @done v rest taken hne hbs =>
      have hlt : rest.length < bs.length := length_lt_of_taken hne hbs
      have hrest : rest.length < errors := by omega
      obtain ⟨before, hall, hlen, hitems⟩ := ih (by omega) hrest
      refine ⟨.frame v :: before, by simp [hall], ?_, by simpa using hitems⟩
      rw [List.length_cons]
      omega
    | @failed e rest taken hne hbs =>
      have hlt : rest.length < bs.length := length_lt_of_taken hne hbs
      have hon : ¬ errors ≤ 1 := by omega
      have hrest : rest.length < errors - 1 := by omega
      obtain ⟨before, hall, hlen, hitems⟩ := ih (by omega) hrest
      refine ⟨.error e :: before, by simp [hall, hon], ?_, by simpa using hitems⟩
      rw [List.length_cons]
      omega
    | ended => exact ⟨[], rfl, Nat.zero_le _, by simp⟩
    | awaiting hend => cases hend

/-! ### Reading while the bytes arrive -/

/-- One who reads from a stream, call after call and through all errors. -/
structure Caller where
  pipe : Pipe
  /-- The calls that have returned, in order. -/
  calls : List Call := []

namespace Caller

/-- What can happen next. -/
inductive Move where
  | carry (n : Nat)
  | notice
  /-- A call returns, if it need not wait. -/
  | call

/-- A call returns an item and leaves `rest` of what has arrived. -/
def returns (c : Caller) (item : Item) (rest : List UInt8) : Caller where
  pipe := { c.pipe with arrived := rest }
  calls := c.calls ++ [⟨item, c.pipe.arrived.take (c.pipe.arrived.length - rest.length)⟩]

/-- The call in hand works on what has arrived. -/
def call (c : Caller) : Caller :=
  match c.pipe.read with
  | .done v rest => c.returns (.frame v) rest
  | .failed e rest => c.returns (.error e) rest
  | .ended => c.returns .ended c.pipe.arrived
  | .awaiting => c

def step (c : Caller) : Move → Caller
  | .carry n => { c with pipe := c.pipe.carry n }
  | .notice => { c with pipe := c.pipe.notice }
  | .call => c.call

variable {c : Caller} {stream : List UInt8}

/-- What is left of the stream. -/
def left (c : Caller) : List UInt8 := c.pipe.arrived ++ c.pipe.wire

/-- What becomes of the call in hand. -/
inductive Calling (c : Caller) : Caller → Prop where
  /-- It is a call on all that is left of the stream, whatever part of it has arrived. -/
  | returned (item : Item) (taken rest : List UInt8) (harrived : c.pipe.arrived = taken ++ rest)
      (h : Returned c.left ⟨item, taken⟩) :
      Calling c ⟨{ c.pipe with arrived := rest }, c.calls ++ [⟨item, taken⟩]⟩
  | waits (hend : c.pipe.ended = false) : Calling c c

/-- A read that waits no longer is a read on all that is left. -/
theorem read_left {item : Item} {rest : List UInt8} (hend : c.pipe.ended = true → c.pipe.wire = [])
    (h : c.pipe.read = item.leaving rest) :
    Frame.read true c.left = item.leaving (rest ++ c.pipe.wire) := by
  rw [Pipe.read] at h
  cases hended : c.pipe.ended with
  | true =>
    rw [hended] at h
    rw [left, hend hended, List.append_nil, List.append_nil, h]
  | false =>
    rw [hended] at h
    have hset : Frame.read false c.pipe.arrived ≠ .awaiting := by
      rw [h]
      cases item <;> simp [Item.leaving]
    rw [left, read_before hset, h]
    cases item <;> rfl

theorem calling_returns {item : Item} {taken rest : List UInt8}
    (hend : c.pipe.ended = true → c.pipe.wire = []) (hread : c.pipe.read = item.leaving rest)
    (harrived : c.pipe.arrived = taken ++ rest) : Calling c (c.returns item rest) := by
  have htaken : c.pipe.arrived.take (c.pipe.arrived.length - rest.length) = taken := by
    rw [harrived, List.length_append, Nat.add_sub_cancel, List.take_left' rfl]
  have hleft : c.left = taken ++ (rest ++ c.pipe.wire) := by
    rw [left, harrived, List.append_assoc]
  have hall := read_left hend hread
  rw [returns, htaken]
  refine .returned item taken rest harrived ?_
  rw [hleft] at hall ⊢
  exact returned_of_read hall

/-- **A call waits, or it is a call on all that is left.** -/
theorem calling (hend : c.pipe.ended = true → c.pipe.wire = []) : Calling c c.call := by
  have hleaves : Leaves c.pipe.ended c.pipe.arrived c.pipe.read := leaves_read _ _
  unfold call
  generalize hread : c.pipe.read = outcome at hleaves
  cases hleaves with
  | done taken _ h => exact calling_returns hend hread h
  | failed taken _ h => exact calling_returns hend hread h
  | ended =>
    have hnone : c.pipe.arrived = [] ++ c.pipe.arrived := rfl
    exact calling_returns hend hread hnone
  | awaiting hopen => exact .waits hopen

/-- What holds at any time: what was taken and what is left make up the stream, and every call was
a call on what the calls before it had left. -/
structure Reads (stream : List UInt8) (c : Caller) : Prop where
  bytes : c.calls.flatMap Call.taken ++ c.left = stream
  shut : c.pipe.shut = true
  ended : c.pipe.ended = true → c.pipe.wire = []
  returned : ∀ before call after, c.calls = before ++ call :: after →
    Returned (stream.drop (before.flatMap Call.taken).length) call

theorem Reads.left_eq (h : Reads stream c) :
    stream.drop (c.calls.flatMap Call.taken).length = c.left := by
  rw [← h.bytes, List.drop_left' rfl]

theorem Reads.carry (h : Reads stream c) (n : Nat) :
    Reads stream { c with pipe := c.pipe.carry n } where
  bytes := by
    rw [← h.bytes]
    simp only [left, Pipe.carry, List.append_assoc, List.take_append_drop]
  shut := h.shut
  ended he := by simp [Pipe.carry, h.ended he]
  returned := h.returned

theorem Reads.notice (h : Reads stream c) : Reads stream { c with pipe := c.pipe.notice } where
  bytes := h.bytes
  shut := h.shut
  ended he := by
    simp only [Pipe.notice, h.shut, Bool.true_and, Bool.or_eq_true, List.isEmpty_iff] at he
    exact he.elim h.ended id
  returned := h.returned

theorem Reads.call (h : Reads stream c) : Reads stream c.call := by
  have hcalling := calling h.ended
  generalize c.call = c' at hcalling ⊢
  cases hcalling with
  | waits => exact h
  | returned item taken rest harrived hcall =>
    refine ⟨?_, h.shut, h.ended, ?_⟩
    · rw [← h.bytes, left, left, harrived, List.flatMap_append]
      simp
    · intro before call after hsplit
      -- the new call is the last one, and all others were there before
      rcases List.eq_nil_or_concat after with rfl | ⟨after, last, rfl⟩
      · obtain ⟨rfl, hlast⟩ := List.append_inj' hsplit rfl
        cases hlast
        rw [h.left_eq]
        exact hcall
      · refine h.returned before call after ?_
        rw [List.concat_eq_append, ← List.cons_append, ← List.append_assoc] at hsplit
        exact (List.append_inj' hsplit rfl).1

/-- **Whatever happens next keeps it.** -/
theorem Reads.step (h : Reads stream c) (m : Move) : Reads stream (c.step m) := by
  cases m with
  | carry n => exact h.carry n
  | notice => exact h.notice
  | call => exact h.call

/-- A stream of which nothing has arrived yet. -/
def start (stream : List UInt8) : Caller where
  pipe := { wire := stream, shut := true }

/-- The caller after `n` moves. -/
def state (stream : List UInt8) (σ : ℕ → Move) (n : ℕ) : Caller := along step (start stream) σ n

theorem reads_state (stream : List UInt8) (σ : ℕ → Move) (n : ℕ) :
    Reads stream (state stream σ n) := by
  induction n with
  | zero =>
    refine ⟨rfl, rfl, fun hend => Bool.noConfusion hend, fun before call after hsplit => ?_⟩
    simp [state, along, start] at hsplit
  | succ n ih => exact ih.step (σ n)

end Caller

/-- How calls go through a stream. -/
structure Proceeds (stream : List UInt8) (calls : List Call) : Prop where
  /-- No byte is taken twice, and none is passed over. -/
  once : calls.flatMap Call.taken <+: stream
  /-- Each call is one on what the calls before it have left. -/
  returned : ∀ before call after, calls = before ++ call :: after →
    Returned (stream.drop (before.flatMap Call.taken).length) call
  /-- A call that returns anything but the clean end is one of the first, one for each byte. -/
  bounded : ∀ before call after, calls = before ++ call :: after → call.item ≠ .ended →
    before.length < stream.length

theorem length_le_flatMap_taken {calls : List Call} (h : ∀ call ∈ calls, call.taken ≠ []) :
    calls.length ≤ (calls.flatMap Call.taken).length := by
  induction calls with
  | nil => simp
  | cons call calls ih =>
    have hcall : 0 < call.taken.length := List.length_pos_iff.2 (h call List.mem_cons_self)
    have hcalls := ih fun x hx => h x (List.mem_cons_of_mem _ hx)
    rw [List.length_cons, List.flatMap_cons, List.length_append]
    omega

theorem Caller.Reads.proceeds {c : Caller} {stream : List UInt8} (h : Reads stream c) :
    Proceeds stream c.calls where
  once := ⟨c.left, h.bytes⟩
  returned := h.returned
  bounded := by
    intro before call after hsplit hitem
    have hleft : (before.flatMap Call.taken).length < stream.length := by
      have hne := mt (h.returned before call after hsplit).clean.2 hitem
      rwa [List.drop_eq_nil_iff, Nat.not_le] at hne
    -- the calls in front found something as well, so each of them took a byte
    have htook : ∀ x ∈ before, x.taken ≠ [] := by
      intro x hx
      obtain ⟨front, back, rfl⟩ := List.append_of_mem hx
      have hx := h.returned front x (back ++ call :: after) (by rw [hsplit]; simp)
      refine hx.progress fun hend => ?_
      have hnone := List.drop_eq_nil_iff.1 (hx.clean.1 hend)
      rw [List.flatMap_append, List.length_append] at hleft
      omega
    exact (length_le_flatMap_taken htook).trans_lt hleft

/-- Where the last call has returned the clean end, it or one in front of it did so in time. -/
theorem Proceeds.exists_end {stream : List UInt8} {front : List Call} {last : Call}
    (h : Proceeds stream (front ++ [last])) (hend : last.item = .ended) :
    ∃ before call after, front ++ [last] = before ++ call :: after ∧ call.item = .ended ∧
      before.length ≤ stream.length := by
  by_cases hfew : front.length ≤ stream.length
  · exact ⟨front, last, [], rfl, hend, hfew⟩
  · have hlen : (front.take stream.length).length = stream.length :=
      List.length_take_of_le (Nat.le_of_not_le hfew)
    obtain ⟨call, after, hdrop⟩ : ∃ call after, front.drop stream.length = call :: after :=
      List.exists_cons_of_ne_nil fun hnil => hfew (List.drop_eq_nil_iff.1 hnil)
    have hsplit : front ++ [last] = front.take stream.length ++ call :: (after ++ [last]) := by
      rw [← List.cons_append, ← hdrop, ← List.append_assoc, List.take_append_drop]
    refine ⟨_, call, _, hsplit, ?_, hlen.le⟩
    by_contra hitem
    have hlt := h.bounded _ _ _ hsplit hitem
    omega

/-- The bytes keep arriving, and the caller keeps reading. -/
structure KeepsReading (σ : ℕ → Caller.Move) : Prop where
  carry : ∀ n, ∃ t, n ≤ t ∧ ∃ k, σ t = .carry k
  notice : ∀ n, ∃ t, n ≤ t ∧ σ t = .notice
  call : ∀ n, ∃ t, n ≤ t ∧ σ t = .call

namespace Caller

variable {c : Caller} {stream : List UInt8} {σ : ℕ → Move}

/-- Every move leaves the pipe as it is, or there is less to do. -/
theorem Reads.pipe_eq_or_lt (h : Reads stream c) (m : Move) :
    (c.step m).pipe = c.pipe ∨ (c.step m).pipe.weight < c.pipe.weight := by
  cases m with
  | carry n => exact c.pipe.carry_eq_or_lt n
  | notice => exact c.pipe.notice_eq_or_lt
  | call =>
    have hcalling := calling h.ended
    rw [Caller.step]
    generalize c.call = c' at hcalling ⊢
    cases hcalling with
    | waits => exact .inl rfl
    | returned item taken rest harrived hcall =>
      by_cases hnone : taken = []
      · left
        rw [hnone, List.nil_append] at harrived
        rw [← harrived]
      · right
        have hlt : rest.length < c.pipe.arrived.length := length_lt_of_taken hnone harrived
        simp only [Pipe.weight]
        omega

/-- Where nothing is left to do, a call returns the clean end. -/
theorem Reads.call_at_rest (h : Reads stream c) {k : ℕ} (hcarry : c.pipe.carry k = c.pipe)
    (hnotice : c.pipe.notice = c.pipe) (hcall : c.call.pipe = c.pipe) :
    ∃ call, c.call.calls = c.calls ++ [call] ∧ call.item = .ended := by
  have hwire : c.pipe.wire = [] := Pipe.eq_nil_of_carry hcarry
  have hended : c.pipe.ended = true := Pipe.ended_of_notice hnotice h.shut hwire
  have hcalling := calling h.ended
  generalize c.call = c' at hcall hcalling ⊢
  cases hcalling with
  | waits hend =>
    rw [hended] at hend
    cases hend
  | returned item taken rest harrived hreturned =>
    refine ⟨⟨item, taken⟩, rfl, ?_⟩
    have hrest : rest = c.pipe.arrived := congrArg Pipe.arrived hcall
    have hnone : taken = [] := by
      rw [hrest] at harrived
      exact List.append_left_eq_self.1 harrived.symm
    by_contra hitem
    exact hreturned.progress hitem hnone

/-- The clean end is reached, and before long. -/
theorem exists_clean_end (stream : List UInt8) (hσ : KeepsReading σ) :
    ∃ n before call after, (state stream σ n).calls = before ++ call :: after ∧
      call.item = .ended ∧ before.length ≤ stream.length := by
  have hreads := reads_state stream σ
  obtain ⟨N, hrest⟩ := exists_rest (fun n => (state stream σ n).pipe) Pipe.weight
    fun n => (hreads n).pipe_eq_or_lt (σ n)
  -- from here on, the pipe is as it was after `N` moves
  have hsame : ∀ n, N ≤ n → (state stream σ n).pipe = (state stream σ N).pipe := hrest
  have hsucc (n : ℕ) : state stream σ (n + 1) = (state stream σ n).step (σ n) := rfl
  obtain ⟨t₁, ht₁, k, hcarry⟩ := hσ.carry N
  obtain ⟨t₂, ht₂, hnotice⟩ := hσ.notice N
  obtain ⟨t₃, ht₃, hcall⟩ := hσ.call N
  have h₁ := hsame (t₁ + 1) (by omega)
  have h₂ := hsame (t₂ + 1) (by omega)
  have h₃ := hsame (t₃ + 1) (by omega)
  rw [hsucc, hcarry, Caller.step, hsame t₁ ht₁, ← hsame t₃ ht₃] at h₁
  rw [hsucc, hnotice, Caller.step, hsame t₂ ht₂, ← hsame t₃ ht₃] at h₂
  rw [hsucc, hcall, Caller.step, ← hsame t₃ ht₃] at h₃
  obtain ⟨last, hlast, hend⟩ := (hreads t₃).call_at_rest h₁ h₂ h₃
  have hcalls : (state stream σ (t₃ + 1)).calls = (state stream σ t₃).calls ++ [last] := by
    rw [hsucc, hcall]
    exact hlast
  have hproceeds := (hreads (t₃ + 1)).proceeds
  rw [hcalls] at hproceeds
  obtain ⟨before, call, after, hsplit, hclean, hlen⟩ := hproceeds.exists_end hend
  exact ⟨t₃ + 1, before, call, after, hcalls.trans hsplit, hclean, hlen⟩

end Caller

/-- **Reading always makes progress.** A call on any bytes returns; unless nothing is left, and then
it returns the clean end, it takes something from the front, also where it returns an error. A
caller that puts up with all errors comes to the clean end, with at most one call for each byte in
front of it. This is so in whatever pieces the bytes arrive, and no byte is taken twice. -/
theorem reading_progresses (stream : List UInt8) :
    (∃ call, Returned stream call) ∧
    (∀ errors, stream.length < errors → ∃ before, items errors stream = before ++ [.ended] ∧
      before.length ≤ stream.length ∧ ∀ item ∈ before, item ≠ .ended) ∧
    ∀ σ : ℕ → Caller.Move,
      (∀ n, Proceeds stream (Caller.state stream σ n).calls) ∧
      (KeepsReading σ → ∃ n before call after,
        (Caller.state stream σ n).calls = before ++ call :: after ∧
          call.item = .ended ∧ before.length ≤ stream.length) := by
  refine ⟨exists_returned stream, fun errors herrors => ?_, fun σ => ⟨fun n => ?_, fun hσ => ?_⟩⟩
  · exact readAll_reaches_end (Nat.lt_succ_self _) herrors
  · exact (Caller.reads_state stream σ n).proceeds
  · exact Caller.exists_clean_end stream hσ

/-- A line that is not UTF-8, a length that is no number, headers without a length, a length that is
too large, a body that is no JSON, and one that is cut off. -/
def garbage : List UInt8 :=
  0xFF :: Utf8.encode ("\nContent-Length: x\nno\n\nContent-Length: 4194305\n\n" ++
    "Content-Length: 1\n\n\x7bContent-Length: 9\n\n\x7b\x7d").toList

/-- Seven bytes at a time, with a call behind each seven. -/
def rounds (n : ℕ) : Caller.Move :=
  if n % 3 = 0 then .carry 6 else if n % 3 = 1 then .notice else .call

theorem keepsReading_rounds : KeepsReading rounds := by
  refine ⟨fun n => ⟨3 * n, by omega, 6, ?_⟩, fun n => ⟨3 * n + 1, by omega, ?_⟩,
    fun n => ⟨3 * n + 2, by omega, ?_⟩⟩
  · simp [rounds]
  · simp [rounds, Nat.add_mod]
  · simp [rounds, Nat.add_mod]

theorem reading_progresses_garbage :
    garbage.length = 90 ∧ (items 91 garbage).length = 7 ∧
    (∃ before, items 91 garbage = before ++ [.ended] ∧ before.length ≤ 90 ∧
      ∀ item ∈ before, item ≠ .ended) ∧
    KeepsReading rounds ∧ ∃ n before call after,
      (Caller.state garbage rounds n).calls = before ++ call :: after ∧
        call.item = .ended ∧ before.length ≤ 90 := by
  obtain ⟨-, hitems, hrun⟩ := reading_progresses garbage
  have hlen : garbage.length = 90 := by decide +kernel
  rw [hlen] at hitems hrun
  exact ⟨hlen, by decide +kernel, hitems 91 (by decide), keepsReading_rounds,
    (hrun rounds).2 keepsReading_rounds⟩

end Sidecar.Frame
