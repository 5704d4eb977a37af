/-
# Reading gives back what was printed

The printer puts the text of a value together from its end; read forwards it
is the text one expects (`renderChars_arr`, `renderChars_obj`), and so are its
bytes (`encode_arr`, `encode_obj`). The reader takes those bytes apart again:
`Reads item d v` says that a reader takes the text of `v`, whatever may stand
behind it, if `v` nests at most `d` deep, and stops with `tooDeep` if not.
That is shown for the items of an array (`items_reads`) and the members of an
object (`members_reads`) from what is known of each of them, and then for all
values by induction (`value_reads`).

It holds for values whose whole numbers fit 64 bits, whose other numbers are
finite and whose objects are in order, `Printable`. The text of a floating
point number need not be read back exactly, so what is read is `reread v`,
which is `v` apart from those numbers. It is `v` itself if there are none,
`Integral`.

Key definitions: `Json.depth`, `Json.Printable`, `Json.Integral`, `Json.reread`, `Json.Reads`.
Key theorems: `Json.value_reads`, `Json.parse_encode`, `Json.parse_encode_reread`,
`Json.parse_encode_deep`.
-/
import Sidecar.Proofs.JsonFloat
import Sidecar.Proofs.JsonObject

namespace Sidecar.Json

/-- A member between commas. -/
def memberChars (k : String) (text : List Char) : List Char := renderString k ++ ':' :: text

mutual

theorem renderOnto_append : ∀ (v : Json) (acc : List Char),
    renderOnto v acc = v.renderChars.reverse ++ acc
  | .null, acc => rfl
  | .bool true, acc => rfl
  | .bool false, acc => rfl
  | .num n, acc => by simp [renderChars, renderOnto, push, List.reverseAux_eq]
  | .str s, acc => by simp [renderChars, renderOnto, push, List.reverseAux_eq]
  | .arr [], acc => rfl
  | .arr (x :: xs), acc => by
    simp only [renderChars, renderOnto, itemsOnto_append xs]
    rw [renderOnto_append x, renderOnto_append x ['[']]
    simp
  | .obj [], acc => rfl
  | .obj ((k, x) :: ms), acc => by
    simp only [renderChars, renderOnto, membersOnto_append ms, push, List.reverseAux_eq]
    rw [renderOnto_append x, renderOnto_append x (':' :: _)]
    simp

theorem itemsOnto_append : ∀ (xs : List Json) (acc : List Char),
    itemsOnto xs acc = (xs.flatMap fun x => ',' :: x.renderChars).reverse ++ acc
  | [], acc => rfl
  | x :: xs, acc => by
    rw [itemsOnto, itemsOnto_append xs, renderOnto_append x]
    simp

theorem membersOnto_append : ∀ (ms : List (String × Json)) (acc : List Char),
    membersOnto ms acc =
      (ms.flatMap fun m => ',' :: memberChars m.1 m.2.renderChars).reverse ++ acc
  | [], acc => rfl
  | (k, x) :: ms, acc => by
    rw [membersOnto, membersOnto_append ms, renderOnto_append x]
    simp [push, List.reverseAux_eq, memberChars]

end

theorem renderChars_arr (x : Json) (xs : List Json) : (arr (x :: xs)).renderChars =
    '[' :: (x.renderChars ++ (xs.flatMap fun x => ',' :: x.renderChars) ++ [']']) := by
  rw [renderChars, renderOnto, itemsOnto_append, renderOnto_append]
  simp

theorem renderChars_obj (k : String) (x : Json) (ms : List (String × Json)) :
    (obj ((k, x) :: ms)).renderChars = '\x7b' :: (memberChars k x.renderChars ++
      (ms.flatMap fun m => ',' :: memberChars m.1 m.2.renderChars) ++ ['\x7d']) := by
  rw [renderChars, renderOnto, membersOnto_append, renderOnto_append]
  simp [push, List.reverseAux_eq, memberChars]

/-! ### Values -/

mutual

/-- How deep the containers of a value nest. -/
def depth : Json → Nat
  | .arr xs => itemsDepth xs + 1
  | .obj ms => membersDepth ms + 1
  | _ => 0

/-- How deep the items of an array nest. -/
def itemsDepth : List Json → Nat
  | [] => 0
  | x :: xs => max (depth x) (itemsDepth xs)

/-- How deep the members of an object nest. -/
def membersDepth : List (String × Json) → Nat
  | [] => 0
  | (_, x) :: ms => max (depth x) (membersDepth ms)

end

/-- All numbers are whole and fit 64 bits, signed or not, and the members of each object stand in
the order of their keys, one member a key. -/
inductive Integral : Json → Prop where
  | null : Integral .null
  | bool (b : Bool) : Integral (.bool b)
  | int {i : Int} : -2 ^ 63 ≤ i → i < 2 ^ 64 → Integral (.num (.int i))
  | str (s : String) : Integral (.str s)
  | arr {xs : List Json} : (∀ x ∈ xs, Integral x) → Integral (.arr xs)
  | obj {ms : List (String × Json)} : ms.Pairwise (fun a b => a.1 < b.1) →
      (∀ m ∈ ms, Integral m.2) → Integral (.obj ms)

/-- As `Integral`, but there may be floating point numbers, if they are finite. -/
inductive Printable : Json → Prop where
  | null : Printable .null
  | bool (b : Bool) : Printable (.bool b)
  | int {i : Int} : -2 ^ 63 ≤ i → i < 2 ^ 64 → Printable (.num (.int i))
  | float {x : Binary64} : x.isNaN = false ∧ x.isInfinite = false → Printable (.num (.float x))
  | str (s : String) : Printable (.str s)
  | arr {xs : List Json} : (∀ x ∈ xs, Printable x) → Printable (.arr xs)
  | obj {ms : List (String × Json)} : ms.Pairwise (fun a b => a.1 < b.1) →
      (∀ m ∈ ms, Printable m.2) → Printable (.obj ms)

theorem Integral.printable {v : Json} (h : Integral v) : Printable v := by
  induction h with
  | null => exact .null
  | bool b => exact .bool b
  | int hlo hhi => exact .int hlo hhi
  | str s => exact .str s
  | arr _ ih => exact .arr ih
  | obj ho _ ih => exact .obj ho ih

mutual

/-- `Printable`, as a check. -/
def isPrintable : Json → Bool
  | .null | .bool _ | .str _ => true
  | .num (.int i) => decide (-2 ^ 63 ≤ i ∧ i < 2 ^ 64)
  | .num (.float x) => decide (x.isNaN = false ∧ x.isInfinite = false)
  | .arr xs => itemsPrintable xs
  | .obj ms => decide (ms.Pairwise fun a b => a.1 < b.1) && membersPrintable ms

def itemsPrintable : List Json → Bool
  | [] => true
  | v :: vs => isPrintable v && itemsPrintable vs

def membersPrintable : List (String × Json) → Bool
  | [] => true
  | m :: ms => isPrintable m.2 && membersPrintable ms

end

mutual

theorem isPrintable_iff : ∀ v : Json, isPrintable v = true ↔ Printable v
  | .null => iff_of_true rfl .null
  | .bool b => iff_of_true rfl (.bool b)
  | .str s => iff_of_true rfl (.str s)
  | .num (.int i) => by
    rw [isPrintable, decide_eq_true_iff]
    exact ⟨fun h => .int h.1 h.2, fun h => by cases h; exact ⟨‹_›, ‹_›⟩⟩
  | .num (.float x) => by
    rw [isPrintable, decide_eq_true_iff]
    exact ⟨.float, fun h => by cases h; assumption⟩
  | .arr xs => by
    rw [isPrintable, itemsPrintable_iff xs]
    exact ⟨.arr, fun h => by cases h; assumption⟩
  | .obj ms => by
    rw [isPrintable, Bool.and_eq_true, decide_eq_true_iff, membersPrintable_iff ms]
    exact ⟨fun h => .obj h.1 h.2, fun h => by cases h; exact ⟨‹_›, ‹_›⟩⟩

theorem itemsPrintable_iff : ∀ xs : List Json,
    itemsPrintable xs = true ↔ ∀ x ∈ xs, Printable x
  | [] => by simp [itemsPrintable]
  | v :: vs => by
    rw [itemsPrintable, Bool.and_eq_true, isPrintable_iff v, itemsPrintable_iff vs,
      List.forall_mem_cons]

theorem membersPrintable_iff : ∀ ms : List (String × Json),
    membersPrintable ms = true ↔ ∀ m ∈ ms, Printable m.2
  | [] => by simp [membersPrintable]
  | m :: ms => by
    rw [membersPrintable, Bool.and_eq_true, isPrintable_iff m.2, membersPrintable_iff ms,
      List.forall_mem_cons]

end

instance : DecidablePred Printable := fun v => decidable_of_iff _ (isPrintable_iff v)

mutual

/-- What reading the text of a value gives: floating point numbers may change. -/
def reread : Json → Json
  | .null => .null
  | .bool b => .bool b
  | .num (.int i) => .num (.int i)
  | .num (.float x) => .num (.float (rereadFloat x))
  | .str s => .str s
  | .arr xs => .arr (rereadItems xs)
  | .obj ms => .obj (rereadMembers ms)

/-- What reading the items of an array gives. -/
def rereadItems : List Json → List Json
  | [] => []
  | x :: xs => reread x :: rereadItems xs

/-- What reading the members of an object gives. -/
def rereadMembers : List (String × Json) → List (String × Json)
  | [] => []
  | (k, x) :: ms => (k, reread x) :: rereadMembers ms

end

theorem mem_rereadMembers {ms : List (String × Json)} {m : String × Json} (h : m ∈ rereadMembers ms) :
    ∃ m' ∈ ms, m'.1 = m.1 := by
  induction ms with
  | nil => simp [rereadMembers] at h
  | cons n ns ih =>
    rw [rereadMembers] at h
    rcases List.mem_cons.1 h with rfl | h
    · exact ⟨n, List.mem_cons_self, rfl⟩
    · obtain ⟨m', hm', hkey⟩ := ih h
      exact ⟨m', List.mem_cons_of_mem _ hm', hkey⟩

/-- The keys stay as they are, and in order. -/
theorem pairwise_rereadMembers {ms : List (String × Json)}
    (h : ms.Pairwise fun a b => a.1 < b.1) : (rereadMembers ms).Pairwise fun a b => a.1 < b.1 := by
  induction h with
  | nil => exact .nil
  | cons hm _ ih =>
    rw [rereadMembers]
    refine .cons (fun b hb => ?_) ih
    obtain ⟨m', hm', hkey⟩ := mem_rereadMembers hb
    rw [← hkey]
    exact hm m' hm'

theorem rereadItems_eq_self {xs : List Json} (h : ∀ x ∈ xs, reread x = x) : rereadItems xs = xs := by
  induction xs with
  | nil => rfl
  | cons x xs ih =>
    rw [rereadItems, h x List.mem_cons_self, ih fun y hy => h y (List.mem_cons_of_mem _ hy)]

theorem rereadMembers_eq_self {ms : List (String × Json)} (h : ∀ m ∈ ms, reread m.2 = m.2) :
    rereadMembers ms = ms := by
  induction ms with
  | nil => rfl
  | cons m ms ih =>
    rw [rereadMembers, h m List.mem_cons_self, ih fun n hn => h n (List.mem_cons_of_mem _ hn)]

theorem Integral.reread_eq {v : Json} (h : Integral v) : v.reread = v := by
  induction h with
  | null | bool | int | str => rfl
  | arr _ ih => rw [reread, rereadItems_eq_self ih]
  | obj _ _ ih => rw [reread, rereadMembers_eq_self ih]

/-- The text of a value begins with a byte that is no blank and ends no array. -/
def Starts (v : Json) : Prop :=
  ∃ b t, v.encode = b :: t ∧ isSpace b = false ∧ b ≠ code ']'

/-- The reader takes the text of a value that nests at most `d` deep, whatever may stand behind
it, and finds any other too deep. -/
def Reads (item : Reader Json) (d : Nat) (v : Json) : Prop := ∀ r, Delimited r →
  (v.depth ≤ d → item (v.encode ++ r) = .ok (v.reread, r)) ∧
  (d < v.depth → ∃ left, item (v.encode ++ r) = .error ⟨.tooDeep, left⟩)

section Items

variable {item : Reader Json} {fuel : Nat} {acc : List Json} {bs r : List UInt8} {x : Json}

theorem items_error {e : Stop} (h : item bs = .error e) :
    items item (fuel + 1) acc bs = .error e := by
  rw [items, h]

theorem items_last (h : item bs = .ok (x, code ']' :: r)) :
    items item (fuel + 1) acc bs = .ok ((x :: acc).reverse, r) := by
  rw [items, h]
  rfl

theorem skipSpace_cons {b : UInt8} (h : isSpace b = false) : skipSpace (b :: r) = b :: r := by
  simp [skipSpace, h]

theorem items_next {b : UInt8} (h : item bs = .ok (x, code ',' :: b :: r))
    (hs : isSpace b = false) (hb : b ≠ code ']') :
    items item (fuel + 1) acc bs = items item fuel (x :: acc) (b :: r) := by
  have hc : skipSpace (code ',' :: b :: r) = code ',' :: b :: r := rfl
  have hne : ¬ (code ',' == code ']') = true := by decide
  rw [items, h]
  simp only [hc, skipSpace_cons hs, hne, beq_iff_eq, hb, beq_self_eq_true, ↓reduceIte, Bool.false_eq_true]

end Items

/-- The items after the first one, each behind a comma. -/
def itemsText (xs : List Json) : List UInt8 := xs.flatMap fun x => code ',' :: x.encode

theorem delimited_itemsText (xs : List Json) (r : List UInt8) :
    Delimited (itemsText xs ++ code ']' :: r) := by
  cases xs with
  | nil => exact Or.inr (Or.inl rfl)
  | cons x xs => exact Or.inl rfl

/-- The items of an array are read if each of them is, and one that is too deep stops the rest. -/
theorem items_reads {item : Reader Json} {d : Nat} (r : List UInt8) :
    ∀ (xs : List Json) (x : Json) (fuel : Nat) (acc : List Json),
      (∀ y ∈ x :: xs, Reads item d y ∧ Starts y) → xs.length < fuel →
      (itemsDepth (x :: xs) ≤ d →
        items item fuel acc (x.encode ++ (itemsText xs ++ code ']' :: r)) =
          .ok (acc.reverse ++ rereadItems (x :: xs), r)) ∧
      (d < itemsDepth (x :: xs) → ∃ left,
        items item fuel acc (x.encode ++ (itemsText xs ++ code ']' :: r)) =
          .error ⟨.tooDeep, left⟩) := by
  intro xs
  induction xs with
  | nil =>
    intro x fuel acc h hf
    obtain ⟨fuel, rfl⟩ : ∃ k, fuel = k + 1 := ⟨fuel - 1, by simp at hf; omega⟩
    obtain ⟨hok, hdeep⟩ := (h x List.mem_cons_self).1 _ (delimited_itemsText [] r)
    simp only [itemsDepth, Nat.max_zero]
    refine ⟨fun hd => ?_, fun hd => ?_⟩
    · rw [items_last (hok hd)]
      simp [rereadItems]
    · obtain ⟨left, he⟩ := hdeep hd
      exact ⟨left, items_error he⟩
  | cons y ys ih =>
    intro x fuel acc h hf
    obtain ⟨fuel, rfl⟩ : ∃ k, fuel = k + 1 := ⟨fuel - 1, by simp at hf; omega⟩
    have hy := h y (by simp)
    have hys : ∀ z ∈ y :: ys, Reads item d z ∧ Starts z := fun z hz => h z (List.mem_cons_of_mem _ hz)
    obtain ⟨b, t, hb, hs, hne⟩ := hy.2
    obtain ⟨hok, hdeep⟩ := (h x List.mem_cons_self).1 _ (delimited_itemsText (y :: ys) r)
    by_cases hx : x.depth ≤ d
    · -- the first item is read, and the others are as the induction says
      have hitem := hok hx
      have htext : itemsText (y :: ys) ++ code ']' :: r =
          code ',' :: b :: (t ++ (itemsText ys ++ code ']' :: r)) := by
        simp [itemsText, hb]
      have hback : b :: (t ++ (itemsText ys ++ code ']' :: r)) =
          y.encode ++ (itemsText ys ++ code ']' :: r) := by rw [hb]; rfl
      rw [htext] at hitem ⊢
      rw [items_next hitem hs hne, hback]
      obtain ⟨h1, h2⟩ := ih y fuel (x.reread :: acc) hys (by simp at hf; omega)
      have hd : itemsDepth (x :: y :: ys) ≤ d ↔ itemsDepth (y :: ys) ≤ d := by
        simp only [itemsDepth]; omega
      refine ⟨fun h => ?_, fun h => h2 (by omega)⟩
      rw [h1 (hd.mp h)]
      simp [rereadItems]
    · obtain ⟨left, he⟩ := hdeep (by omega)
      refine ⟨fun h => ?_, fun _ => ⟨left, items_error he⟩⟩
      simp only [itemsDepth] at h
      omega

/-! ### Members -/

section Members

variable {item : Reader Json} {fuel : Nat} {acc : List (String × Json)} {bs r : List UInt8}
  {m : String × Json}

theorem members_error {e : Stop} (h : member item bs = .error e) :
    members item (fuel + 1) acc bs = .error e := by
  rw [members, h]

theorem members_last (h : member item bs = .ok (m, code '\x7d' :: r)) :
    members item (fuel + 1) acc bs = .ok ((m :: acc).reverse, r) := by
  rw [members, h]
  rfl

theorem members_next (h : member item bs = .ok (m, code ',' :: code '"' :: r)) :
    members item (fuel + 1) acc bs = members item fuel (m :: acc) r := by
  rw [members, h]
  rfl

end Members

/-- A member without the quote that opens its key. -/
def memberText (m : String × Json) : List UInt8 :=
  quoted m.1 ++ code '"' :: code ':' :: m.2.encode

/-- The members after the first one, each behind a comma. -/
def membersText (ms : List (String × Json)) : List UInt8 :=
  ms.flatMap fun m => code ',' :: code '"' :: memberText m

theorem member_reads {item : Reader Json} {d : Nat} {m : String × Json} (h : Reads item d m.2)
    {r : List UInt8} (hr : Delimited r) :
    (m.2.depth ≤ d → member item (memberText m ++ r) = .ok ((m.1, m.2.reread), r)) ∧
    (d < m.2.depth → ∃ left, member item (memberText m ++ r) = .error ⟨.tooDeep, left⟩) := by
  have hkey : stringRest [] (memberText m ++ r) = .ok (m.1, code ':' :: (m.2.encode ++ r)) := by
    rw [memberText, List.append_assoc]
    exact stringRest_quoted m.1 _
  have hcolon : skipSpace (code ':' :: (m.2.encode ++ r)) = code ':' :: (m.2.encode ++ r) := rfl
  have hmember : member item (memberText m ++ r) =
      (item (m.2.encode ++ r)).map fun p => ((m.1, p.1), p.2) := by
    rw [member, hkey]
    simp only [hcolon]
    cases item (m.2.encode ++ r) <;> rfl
  rw [hmember]
  refine ⟨fun hd => ?_, fun hd => ?_⟩
  · rw [(h r hr).1 hd, Except.map]
  · obtain ⟨left, he⟩ := (h r hr).2 hd
    exact ⟨left, by rw [he, Except.map]⟩

theorem delimited_membersText (ms : List (String × Json)) (r : List UInt8) :
    Delimited (membersText ms ++ code '\x7d' :: r) := by
  cases ms with
  | nil => exact Or.inr (Or.inr rfl)
  | cons m ms => exact Or.inl rfl

/-- The members of an object are read if each of their values is, and one that is too deep stops
the rest. -/
theorem members_reads {item : Reader Json} {d : Nat} (r : List UInt8) :
    ∀ (ms : List (String × Json)) (m : String × Json) (fuel : Nat) (acc : List (String × Json)),
      (∀ y ∈ m :: ms, Reads item d y.2) → ms.length < fuel →
      (membersDepth (m :: ms) ≤ d →
        members item fuel acc (memberText m ++ (membersText ms ++ code '\x7d' :: r)) =
          .ok (acc.reverse ++ rereadMembers (m :: ms), r)) ∧
      (d < membersDepth (m :: ms) → ∃ left,
        members item fuel acc (memberText m ++ (membersText ms ++ code '\x7d' :: r)) =
          .error ⟨.tooDeep, left⟩) := by
  intro ms
  induction ms with
  | nil =>
    intro m fuel acc h hf
    obtain ⟨fuel, rfl⟩ : ∃ k, fuel = k + 1 := ⟨fuel - 1, by simp at hf; omega⟩
    obtain ⟨hok, hdeep⟩ := member_reads (h m List.mem_cons_self) (delimited_membersText [] r)
    simp only [membersDepth, Nat.max_zero]
    refine ⟨fun hd => ?_, fun hd => ?_⟩
    · rw [members_last (hok hd)]
      simp [rereadMembers]
    · obtain ⟨left, he⟩ := hdeep hd
      exact ⟨left, members_error he⟩
  | cons n ns ih =>
    intro m fuel acc h hf
    obtain ⟨fuel, rfl⟩ : ∃ k, fuel = k + 1 := ⟨fuel - 1, by simp at hf; omega⟩
    have hns : ∀ z ∈ n :: ns, Reads item d z.2 := fun z hz => h z (List.mem_cons_of_mem _ hz)
    obtain ⟨hok, hdeep⟩ := member_reads (h m List.mem_cons_self) (delimited_membersText (n :: ns) r)
    by_cases hm : m.2.depth ≤ d
    · have hmember := hok hm
      have htext : membersText (n :: ns) ++ code '\x7d' :: r =
          code ',' :: code '"' :: (memberText n ++ (membersText ns ++ code '\x7d' :: r)) := by
        simp [membersText]
      rw [htext] at hmember ⊢
      rw [members_next hmember]
      obtain ⟨h1, h2⟩ := ih n fuel ((m.1, m.2.reread) :: acc) hns (by simp at hf; omega)
      have hd : membersDepth (m :: n :: ns) ≤ d ↔ membersDepth (n :: ns) ≤ d := by
        simp only [membersDepth]; omega
      refine ⟨fun h => ?_, fun h => h2 (by omega)⟩
      rw [h1 (hd.mp h)]
      simp [rereadMembers]
    · obtain ⟨left, he⟩ := hdeep (by omega)
      refine ⟨fun h => ?_, fun _ => ⟨left, members_error he⟩⟩
      simp only [membersDepth] at h
      omega

/-! ### The bytes of each kind of value -/

theorem encode_null : encode .null = [code 'n', code 'u', code 'l', code 'l'] := rfl

theorem encode_true : encode (.bool true) = [code 't', code 'r', code 'u', code 'e'] := rfl

theorem encode_false :
    encode (.bool false) = [code 'f', code 'a', code 'l', code 's', code 'e'] := rfl

theorem encode_string (s : String) : Utf8.encode (renderString s) = code '"' :: (quoted s ++ [code '"']) := by
  simp only [renderString, Utf8.encode_cons, Utf8.encode_append, List.cons_append]
  rfl

theorem encode_str (s : String) : encode (.str s) = code '"' :: (quoted s ++ [code '"']) := by
  rw [← encode_string, encode]
  simp [renderChars, renderOnto, push, List.reverseAux_eq]

theorem encode_digits (n : Nat) : Utf8.encode (Nat.toDigits 10 n) = (Nat.toDigits 10 n).map code := by
  refine encode_ascii_code fun c hc => ?_
  have := (toNat_le_of_isDigit (toDigits_isDigit hc)).2
  omega

theorem encode_int (i : Int) : encode (.num (.int i)) =
    if i < 0 then code '-' :: (Nat.toDigits 10 i.natAbs).map code
    else (Nat.toDigits 10 i.natAbs).map code := by
  have hr : (Json.num (.int i)).renderChars = renderInt i := by
    simp [renderChars, renderOnto, push, List.reverseAux_eq, Number.render]
  rw [encode, hr, renderInt]
  split_ifs
  · rw [Utf8.encode_cons, encode_digits]
    rfl
  · exact encode_digits _

theorem encode_float {x : Binary64} (hx : x.isNaN = false ∧ x.isInfinite = false) :
    encode (.num (.float x)) =
      if x.isNegative then code '-' :: (unsignedText x).map code else (unsignedText x).map code := by
  have hr : (Json.num (.float x)).renderChars = Decimal.jsonLayout.render x := by
    simp [renderChars, renderOnto, push, List.reverseAux_eq, Number.render, hx.1, hx.2]
  rw [encode, hr, render_eq]
  split_ifs
  · rw [Utf8.encode_cons, encode_ascii_code (unsignedText_ascii x)]
    rfl
  · exact encode_ascii_code (unsignedText_ascii x)

theorem encode_arr_nil : encode (.arr []) = [code '[', code ']'] := rfl

theorem encode_arr (x : Json) (xs : List Json) : encode (.arr (x :: xs)) =
    code '[' :: (x.encode ++ (itemsText xs ++ [code ']'])) := by
  have hxs : Utf8.encode (xs.flatMap fun x => ',' :: x.renderChars) = itemsText xs := by
    induction xs with
    | nil => rfl
    | cons y ys ih =>
      rw [List.flatMap_cons, Utf8.encode_append, ih]
      rfl
  rw [encode, renderChars_arr]
  simp only [Utf8.encode_cons, Utf8.encode_append, hxs, List.append_assoc]
  rfl

theorem encode_obj_nil : encode (.obj []) = [code '\x7b', code '\x7d'] := rfl

theorem encode_memberChars (m : String × Json) :
    Utf8.encode (memberChars m.1 m.2.renderChars) = code '"' :: memberText m := by
  rw [memberChars, Utf8.encode_append, encode_string, Utf8.encode_cons]
  simp only [memberText, List.cons_append, List.append_assoc]
  rfl

theorem encode_obj (m : String × Json) (ms : List (String × Json)) : encode (.obj (m :: ms)) =
    code '\x7b' :: code '"' :: (memberText m ++ (membersText ms ++ [code '\x7d'])) := by
  have hms : Utf8.encode (ms.flatMap fun m => ',' :: memberChars m.1 m.2.renderChars) =
      membersText ms := by
    induction ms with
    | nil => rfl
    | cons n ns ih =>
      rw [List.flatMap_cons, Utf8.encode_append, ih, Utf8.encode_cons, encode_memberChars]
      rfl
  rw [encode, renderChars_obj]
  simp only [Utf8.encode_cons, Utf8.encode_append, hms, encode_memberChars, List.append_assoc]
  rfl

theorem isDigitByte_ne {b : UInt8} (h : isDigitByte b = true) : isSpace b = false ∧ b ≠ code '"' ∧
    b ≠ code '[' ∧ b ≠ code ']' ∧ b ≠ code '\x7b' ∧ b ≠ code '-' := by
  simp only [isDigitByte, Bool.and_eq_true, decide_eq_true_eq, UInt8.le_iff_toNat_le] at h
  have h1 : 48 ≤ b.toNat := h.1
  have h2 : b.toNat ≤ 57 := h.2
  refine ⟨?_, ?_, ?_, ?_, ?_, ?_⟩
  · simp only [isSpace, Bool.or_eq_false_iff, beq_eq_false_iff_ne, ne_eq, ← UInt8.toNat_inj]
    refine ⟨⟨⟨?_, ?_⟩, ?_⟩, ?_⟩ <;> intro he <;> simp at he <;> omega
  all_goals
    intro he
    rw [he] at h1 h2
    revert h1 h2
    decide

theorem Printable.starts {v : Json} (h : Printable v) : Starts v := by
  cases h with
  | null => exact ⟨_, _, encode_null, rfl, by decide⟩
  | bool b =>
    cases b with
    | true => exact ⟨_, _, encode_true, rfl, by decide⟩
    | false => exact ⟨_, _, encode_false, rfl, by decide⟩
  | @int i _ _ =>
    by_cases hi : i < 0
    · exact ⟨_, _, by rw [encode_int, if_pos hi], rfl, by decide⟩
    · obtain ⟨c, cs, hc, hd⟩ := digits_head i.natAbs
      obtain ⟨hs, -, -, hne, -, -⟩ := isDigitByte_ne (isDigitByte_code hd).1
      exact ⟨_, _, by rw [encode_int, if_neg hi, hc, List.map_cons], hs, hne⟩
  | @float x hx =>
    by_cases hneg : x.isNegative = true
    · exact ⟨_, _, by rw [encode_float hx, if_pos hneg], rfl, by decide⟩
    · obtain ⟨c, cs, hc, hd⟩ := unsignedText_head x
      obtain ⟨hs, -, -, hne, -, -⟩ := isDigitByte_ne (isDigitByte_code hd).1
      exact ⟨_, _, by rw [encode_float hx, if_neg hneg, hc, List.map_cons], hs, hne⟩
  | str s => exact ⟨_, _, encode_str s, rfl, by decide⟩
  | @arr xs _ =>
    cases xs with
    | nil => exact ⟨_, _, encode_arr_nil, rfl, by decide⟩
    | cons x xs => exact ⟨_, _, encode_arr x xs, rfl, by decide⟩
  | @obj ms _ _ =>
    cases ms with
    | nil => exact ⟨_, _, encode_obj_nil, rfl, by decide⟩
    | cons m ms => exact ⟨_, _, encode_obj m ms, rfl, by decide⟩

theorem Integral.starts {v : Json} (h : Integral v) : Starts v := h.printable.starts

/-- What the containers of a value may hold. -/
def inner (fuel : Nat) : Nat → Option (Reader Json)
  | 0 => none
  | d + 1 => some (value fuel d)

theorem value_eq (fuel d : Nat) : value fuel d = valueWith fuel (inner fuel d) := by
  cases d <;> rfl

theorem reads_of_scalar {fuel : Nat} {v : Json} (h0 : v.depth = 0)
    (h : ∀ i r, Delimited r → valueWith fuel i (v.encode ++ r) = .ok (v.reread, r)) (d : Nat) :
    Reads (value fuel d) d v := by
  intro r hr
  refine ⟨fun _ => ?_, fun hd => by omega⟩
  rw [value_eq]
  exact h _ r hr

section Dispatch

variable {fuel : Nat} {i : Option (Reader Json)} {r r' : List UInt8} {b : UInt8} {n : Number} {s : String}

theorem valueWith_quote (h : stringRest [] r = .ok (s, r')) :
    valueWith fuel i (code '"' :: r) = .ok (.str s, r') := by
  rw [valueWith, skipSpace_cons rfl]
  simp only [beq_self_eq_true, ↓reduceIte, h]

theorem valueWith_minus (h : unsignedNumber true r = .ok (n, r')) :
    valueWith fuel i (code '-' :: r) = .ok (.num n, r') := by
  have hs : skipSpace (code '-' :: r) = code '-' :: r := rfl
  have h1 : code '-' ≠ code '"' := by decide
  have h2 : code '-' ≠ code '[' := by decide
  have h3 : code '-' ≠ code '\x7b' := by decide
  rw [valueWith, hs]
  simp only [beq_iff_eq, h1, h2, h3, ↓reduceIte, h]

theorem valueWith_digit (hb : isDigitByte b = true) (h : unsignedNumber false (b :: r) = .ok (n, r')) :
    valueWith fuel i (b :: r) = .ok (.num n, r') := by
  obtain ⟨hs, h1, h2, -, h3, h4⟩ := isDigitByte_ne hb
  rw [valueWith, skipSpace_cons hs]
  simp only [beq_iff_eq, h1, h2, h3, h4, hb, ↓reduceIte, h]

end Dispatch

theorem valueWith_str (fuel : Nat) (i : Option (Reader Json)) (s : String) (r : List UInt8) :
    valueWith fuel i (encode (.str s) ++ r) = .ok (.str s, r) := by
  rw [encode_str, List.cons_append, List.append_assoc, List.singleton_append]
  exact valueWith_quote (stringRest_quoted s r)

theorem valueWith_int (fuel : Nat) (inn : Option (Reader Json)) {i : Int} (hlo : -2 ^ 63 ≤ i)
    (hhi : i < 2 ^ 64) {r : List UInt8} (hr : Delimited r) :
    valueWith fuel inn (encode (.num (.int i)) ++ r) = .ok (.num (.int i), r) := by
  have hread := unsignedNumber_toDigits (decide (i < 0)) (by omega : i.natAbs < 2 ^ 64) hr
  rw [wholeOf_natAbs hlo] at hread
  rw [encode_int]
  by_cases hi : i < 0
  · rw [if_pos hi, List.cons_append]
    simp only [hi, decide_true] at hread
    exact valueWith_minus hread
  · obtain ⟨c, cs, hc, hd⟩ := digits_head i.natAbs
    simp only [hi, decide_false] at hread
    rw [hc, List.map_cons, List.cons_append] at hread
    rw [if_neg hi, hc, List.map_cons, List.cons_append]
    exact valueWith_digit (isDigitByte_code hd).1 hread

theorem valueWith_float (fuel : Nat) (inn : Option (Reader Json)) {x : Binary64}
    (hx : x.isNaN = false ∧ x.isInfinite = false) {r : List UInt8} (hr : Delimited r) :
    valueWith fuel inn (encode (.num (.float x)) ++ r) = .ok (.num (.float (rereadFloat x)), r) := by
  have hread := unsignedNumber_unsignedText hx hr
  rw [encode_float hx]
  by_cases hneg : x.isNegative = true
  · rw [if_pos hneg, List.cons_append]
    rw [hneg] at hread
    exact valueWith_minus hread
  · obtain ⟨c, cs, hc, hd⟩ := unsignedText_head x
    rw [Bool.eq_false_iff.2 hneg, hc, List.map_cons, List.cons_append] at hread
    rw [if_neg hneg, hc, List.map_cons, List.cons_append]
    exact valueWith_digit (isDigitByte_code hd).1 hread

theorem length_itemsText : ∀ xs : List Json, xs.length ≤ (itemsText xs).length
  | [] => Nat.le_refl _
  | x :: xs => by
    have := length_itemsText xs
    simp only [itemsText, List.flatMap_cons, List.cons_append, List.length_cons, List.length_append] at *
    omega

theorem length_membersText : ∀ ms : List (String × Json), ms.length ≤ (membersText ms).length
  | [] => Nat.le_refl _
  | m :: ms => by
    have := length_membersText ms
    simp only [membersText, List.flatMap_cons, List.cons_append, List.length_cons, List.length_append] at *
    omega

theorem length_encode_item {xs : List Json} {x : Json} (h : x ∈ xs) :
    x.encode.length ≤ (encode (.arr xs)).length := by
  cases xs with
  | nil => simp at h
  | cons y ys =>
    rw [encode_arr]
    simp only [List.length_cons, List.length_append]
    rcases List.mem_cons.mp h with rfl | h
    · omega
    · obtain ⟨as, bs, rfl⟩ := List.append_of_mem h
      simp only [itemsText, List.flatMap_append, List.flatMap_cons, List.length_append, List.length_cons]
      omega

theorem length_encode_member {ms : List (String × Json)} {m : String × Json} (h : m ∈ ms) :
    m.2.encode.length ≤ (encode (.obj ms)).length := by
  cases ms with
  | nil => simp at h
  | cons n ns =>
    have hm : ∀ m : String × Json, m.2.encode.length ≤ (memberText m).length := by
      intro m
      simp only [memberText, List.length_append, List.length_cons]
      omega
    rw [encode_obj]
    simp only [List.length_cons, List.length_append]
    rcases List.mem_cons.mp h with rfl | h
    · have := hm m
      omega
    · have := hm m
      obtain ⟨as, bs, rfl⟩ := List.append_of_mem h
      simp only [membersText, List.flatMap_append, List.flatMap_cons, List.length_append, List.length_cons]
      omega

/-- An array is read if its items are. -/
theorem reads_arr {fuel : Nat} {xs : List Json} (hx : ∀ x ∈ xs, ∀ d, Reads (value fuel d) d x)
    (hs : ∀ x ∈ xs, Starts x) (hf : (encode (.arr xs)).length ≤ fuel) (d : Nat) :
    Reads (value fuel d) d (.arr xs) := by
  intro r hr
  cases d with
  | zero =>
    refine ⟨fun h => by simp [depth] at h, fun _ => ?_⟩
    cases xs with
    | nil => exact ⟨_, rfl⟩
    | cons x xs => exact ⟨_, by rw [encode_arr]; rfl⟩
  | succ d =>
    cases xs with
    | nil => exact ⟨fun _ => rfl, fun h => by simp [depth, itemsDepth] at h⟩
    | cons x xs =>
      obtain ⟨b, t, hb, hsp, hne⟩ := hs x List.mem_cons_self
      have hlen : xs.length < fuel := by
        have := length_itemsText xs
        rw [encode_arr] at hf
        simp only [List.length_cons, List.length_append] at hf
        omega
      obtain ⟨hok, hdeep⟩ := items_reads r xs x fuel []
        (fun y hy => ⟨hx y hy d, hs y hy⟩) hlen
      have hvalue : value fuel (d + 1) (encode (.arr (x :: xs)) ++ r) =
          (items (value fuel d) fuel [] (x.encode ++ (itemsText xs ++ code ']' :: r))).map
            fun p => (.arr p.1, p.2) := by
        have htext : encode (.arr (x :: xs)) ++ r =
            code '[' :: (x.encode ++ (itemsText xs ++ code ']' :: r)) := by
          rw [encode_arr]
          simp
        rw [htext]
        show arrayRest (value fuel d) fuel (x.encode ++ (itemsText xs ++ code ']' :: r)) = _
        rw [hb, List.cons_append, arrayRest, skipSpace_cons hsp]
        refine (if_neg (by simpa using hne)).trans ?_
        cases items (value fuel d) fuel [] (b :: (t ++ (itemsText xs ++ code ']' :: r))) <;> rfl
      rw [hvalue]
      simp only [depth, Nat.add_le_add_iff_right, Nat.add_lt_add_iff_right]
      refine ⟨fun h => ?_, fun h => ?_⟩
      · rw [hok h]
        rfl
      · obtain ⟨left, he⟩ := hdeep h
        exact ⟨left, by rw [he, Except.map]⟩

/-- An object is read if the values of its members are. -/
theorem reads_obj {fuel : Nat} {ms : List (String × Json)} (ho : ms.Pairwise fun a b => a.1 < b.1)
    (hm : ∀ m ∈ ms, ∀ d, Reads (value fuel d) d m.2) (hf : (encode (.obj ms)).length ≤ fuel)
    (d : Nat) : Reads (value fuel d) d (.obj ms) := by
  intro r hr
  cases d with
  | zero =>
    refine ⟨fun h => by simp [depth] at h, fun _ => ?_⟩
    cases ms with
    | nil => exact ⟨_, rfl⟩
    | cons m ms => exact ⟨_, by rw [encode_obj]; rfl⟩
  | succ d =>
    cases ms with
    | nil => exact ⟨fun _ => rfl, fun h => by simp [depth, membersDepth] at h⟩
    | cons m ms =>
      have hlen : ms.length < fuel := by
        have := length_membersText ms
        rw [encode_obj] at hf
        simp only [List.length_cons, List.length_append] at hf
        omega
      obtain ⟨hok, hdeep⟩ := members_reads r ms m fuel [] (fun y hy => hm y hy d) hlen
      have hvalue : value fuel (d + 1) (encode (.obj (m :: ms)) ++ r) =
          (members (value fuel d) fuel [] (memberText m ++ (membersText ms ++ code '\x7d' :: r))).map
            fun p => (object p.1, p.2) := by
        have htext : encode (.obj (m :: ms)) ++ r =
            code '\x7b' :: code '"' :: (memberText m ++ (membersText ms ++ code '\x7d' :: r)) := by
          rw [encode_obj]
          simp
        rw [htext]
        show objectRest (value fuel d) fuel (code '"' :: _) = _
        have hs : ∀ bs, skipSpace (code '"' :: bs) = code '"' :: bs := fun _ => rfl
        have hne : code '"' ≠ code '\x7d' := by decide
        rw [objectRest, hs]
        simp only [beq_iff_eq, hne, ↓reduceIte]
        cases members (value fuel d) fuel []
          (memberText m ++ (membersText ms ++ code '\x7d' :: r)) <;> rfl
      rw [hvalue]
      simp only [depth, Nat.add_le_add_iff_right, Nat.add_lt_add_iff_right]
      refine ⟨fun h => ?_, fun h => ?_⟩
      · rw [hok h]
        simp only [Except.map, List.reverse_nil, List.nil_append, object,
          sortMembers_ordered (pairwise_rereadMembers ho), reread]
      · obtain ⟨left, he⟩ := hdeep h
        exact ⟨left, by rw [he, Except.map]⟩

/-- **The reader takes the text of every value that is not too deep.** -/
theorem value_reads {v : Json} (h : Printable v) :
    ∀ (fuel : Nat), v.encode.length ≤ fuel → ∀ d, Reads (value fuel d) d v := by
  induction h with
  | null => exact fun fuel _ => reads_of_scalar (by simp [depth]) fun i r _ => rfl
  | bool b =>
    cases b with
    | true => exact fun fuel _ => reads_of_scalar (by simp [depth]) fun i r _ => rfl
    | false => exact fun fuel _ => reads_of_scalar (by simp [depth]) fun i r _ => rfl
  | int hlo hhi =>
    exact fun fuel _ => reads_of_scalar (by simp [depth]) fun inn r hr => valueWith_int fuel inn hlo hhi hr
  | float hx =>
    exact fun fuel _ => reads_of_scalar (by simp [depth]) fun inn r hr => valueWith_float fuel inn hx hr
  | str s => exact fun fuel _ => reads_of_scalar (by simp [depth]) fun i r _ => valueWith_str fuel i s r
  | arr hxs ih =>
    intro fuel hf
    exact reads_arr (fun x hx => ih x hx fuel (Nat.le_trans (length_encode_item hx) hf))
      (fun x hx => (hxs x hx).starts) hf
  | obj ho _ ih =>
    intro fuel hf
    exact reads_obj ho (fun m hm => ih m hm fuel (Nat.le_trans (length_encode_member hm) hf)) hf

/-- **Reading the text of a value gives that value back**, if it does not nest too deep, apart from
floating point numbers. -/
theorem parse_encode_reread {v : Json} (h : Printable v) (hd : v.depth ≤ maxDepth) :
    parse v.encode = .ok v.reread := by
  have hv := (value_reads h (v.encode.length + 1) (by omega) maxDepth [] trivial).1 hd
  rw [List.append_nil] at hv
  simp only [parse, parseWithin, whole, hv]
  rfl

theorem parse_encode {v : Json} (h : Integral v) (hd : v.depth ≤ maxDepth) :
    parse v.encode = .ok v := by
  rw [parse_encode_reread h.printable hd, h.reread_eq]

theorem parse_encode_deep {v : Json} (h : Integral v) (hd : maxDepth < v.depth) :
    ∃ fault, parse v.encode = .error fault ∧ fault.flaw = .tooDeep := by
  obtain ⟨left, hv⟩ := (value_reads h.printable (v.encode.length + 1) (by omega) maxDepth []
    trivial).2 hd
  rw [List.append_nil] at hv
  refine ⟨.ofStop v.encode ⟨.tooDeep, left⟩, ?_, rfl⟩
  simp only [parse, parseWithin, whole, hv]

end Sidecar.Json
