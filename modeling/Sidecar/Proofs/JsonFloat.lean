/-
# Floating point numbers in JSON text

The text of a finite number is read as a number again. It need not be the same
number: the reader multiplies and divides by powers of ten, each rounded on its
own. So what is shown is that the reader takes the text, all of it, and finds
no number that is too large.

Digits that do not fit 64 bits are passed over (`absorb_digits_some`). A text
without an exponent gives a division by a power of ten, which always is a
number (`unsignedNumber_positional`); so does one with a negative exponent. A
text with a positive exponent gives a product (`unsignedNumber_upwards`), and
this is where a number could become too large: the decimal lies at most half a
last place above the number that was printed, and three roundings follow
(`scaleByTen?_of_lt`). Only the two largest numbers are too close to the limit
for that, and for them the product is worked out (`scaleByTen?_largest`).

Key definition: `Json.rereadFloat`.
Key theorem: `Json.unsignedNumber_render`.
-/
import Sidecar.Proofs.JsonScalar
import Sidecar.Proofs.Rounding

namespace Sidecar.Json

open Binary64 Decimal

theorem scaleByTen?_of_neg (fuel : ℕ) (f : Binary64) {e : ℤ} (he : e < 0) :
    ∃ g, scaleByTen? fuel f e = some g := by
  induction fuel generalizing f e with
  | zero => exact ⟨_, rfl⟩
  | succ fuel ih =>
    rw [scaleByTen?]
    by_cases hsmall : e.natAbs ≤ 308
    · rw [if_pos hsmall, if_neg (by omega)]
      exact ⟨_, rfl⟩
    · rw [if_neg hsmall]
      split
      · exact ⟨_, rfl⟩
      · rw [if_neg (by omega)]
        exact ih _ (by omega)

/-- Zero stays zero. -/
theorem scaleByTen?_zero (fuel : ℕ) (e : ℤ) : ∃ g, scaleByTen? fuel (Binary64.ofNat 0) e = some g := by
  have hsig : (Binary64.zero false).toRatio.1 = 0 := by decide
  have hzero : Binary64.ofNat 0 = Binary64.zero false := ofRatio_zero false 1
  by_cases he : e < 0
  · exact scaleByTen?_of_neg fuel _ he
  · cases fuel with
    | zero => exact ⟨_, rfl⟩
    | succ fuel =>
      rw [scaleByTen?, hzero]
      by_cases hsmall : e.natAbs ≤ 308
      · rw [if_pos hsmall, if_pos (by omega)]
        have hmul : ∃ b, (Binary64.zero false).mul (powerOfTen e.natAbs) = Binary64.zero b := by
          unfold Binary64.mul
          rw [hsig, Nat.zero_mul, ofRatio_zero]
          exact ⟨_, rfl⟩
        obtain ⟨b, hb⟩ := hmul
        rw [hb]
        cases b <;> exact ⟨_, rfl⟩
      · rw [if_neg hsmall]
        exact ⟨_, rfl⟩

/-- A number of at least one that is below the limit is rounded to a finite one, and upwards by at
most half a unit in its 53rd place. -/
theorem ofNat_bounds {n : ℕ} (hn : 0 < n) (hlt : (n : ℚ) < limit) :
    (Binary64.ofNat n).magnitude ≤ n * (1 + 1 / 2 ^ 53) := by
  have hone : (1 : ℚ) ≤ n / (1 : ℕ) := by
    have : (1 : ℚ) ≤ n := by exact_mod_cast hn
    simpa using this
  have hfin : (Binary64.ofNat n).isInfinite = false := by
    refine Bool.eq_false_iff.2 fun h => ?_
    have hle := le_of_isInfinite_ofRatio Nat.one_pos h
    simp only [Nat.cast_one, div_one] at hle
    exact absurd hlt (not_lt.2 hle)
  have hle := magnitude_ofRatio_le false Nat.one_pos hone hfin
  rwa [Nat.cast_one, div_one] at hle

theorem limit_le : limit ≤ 10 ^ 309 := by
  have hpow : (2 : ℕ) ^ 1024 ≤ 10 ^ 309 := by decide +kernel
  have hcast : (2 : ℚ) ^ 1024 ≤ 10 ^ 309 := by exact_mod_cast hpow
  refine le_trans ?_ hcast
  calc limit ≤ 2 ^ (53 : ℤ) * 2 ^ (971 : ℤ) := by
        unfold limit
        gcongr
        norm_num
    _ = 2 ^ (1024 : ℤ) := by rw [← zpow_add₀ two_ne_zero]; norm_num
    _ = 2 ^ 1024 := zpow_natCast 2 1024

/-- **A product that stays below the limit, with room for the rounding of both factors, is a
number.** -/
theorem scaleByTen?_of_lt (fuel : ℕ) {n : ℕ} {e : ℤ}
    (hlt : (n : ℚ) * 10 ^ e * (1 + 1 / 2 ^ 53) ^ 2 < limit) :
    ∃ g, scaleByTen? fuel (Binary64.ofNat n) e = some g := by
  rcases Nat.eq_zero_or_pos n with rfl | hn
  · exact scaleByTen?_zero fuel e
  by_cases he : e < 0
  · exact scaleByTen?_of_neg fuel _ he
  obtain ⟨k, rfl⟩ := Int.eq_ofNat_of_zero_le (not_lt.1 he)
  have hn1 : (1 : ℚ) ≤ n := by exact_mod_cast hn
  have hk1 : (1 : ℚ) ≤ 10 ^ k := one_le_pow₀ (by norm_num)
  have hr1 : (1 : ℚ) ≤ (1 + 1 / 2 ^ 53) ^ 2 := by norm_num
  rw [zpow_natCast] at hlt
  have hnk : (n : ℚ) * 10 ^ k < limit := (le_mul_of_one_le_right (by positivity) hr1).trans_lt hlt
  have hnlt : (n : ℚ) < limit := (le_mul_of_one_le_right (by positivity) hk1).trans_lt hnk
  have hklt : (10 : ℚ) ^ k < limit := (le_mul_of_one_le_left (by positivity) hn1).trans_lt hnk
  have hsmall : k ≤ 308 := by
    by_contra h
    have hpow : (10 : ℚ) ^ 309 ≤ 10 ^ k := pow_le_pow_right₀ (by norm_num) (by omega)
    exact absurd (hpow.trans_lt hklt) (not_lt.2 limit_le)
  cases fuel with
  | zero => exact ⟨_, rfl⟩
  | succ fuel =>
    rw [scaleByTen?, if_pos (by simpa using hsmall), if_pos (by omega)]
    have hfin : ((Binary64.ofNat n).mul (powerOfTen (k : ℤ).natAbs)).isInfinite = false := by
      refine Bool.eq_false_iff.2 fun h => ?_
      have hpos : 0 < (Binary64.ofNat n).toRatio.2 * (powerOfTen (k : ℤ).natAbs).toRatio.2 :=
        Nat.mul_pos (toRatio_pos _) (toRatio_pos _)
      have hle := le_of_isInfinite_ofRatio hpos h
      have hm := ofNat_bounds hn hnlt
      have hp : (powerOfTen (k : ℤ).natAbs).magnitude ≤ 10 ^ k * (1 + 1 / 2 ^ 53) := by
        have hcast : ((Nat.pow 10 k : ℕ) : ℚ) = 10 ^ k := by
          rw [Nat.pow_eq]
          push_cast
          rfl
        have hb := ofNat_bounds (n := Nat.pow 10 k) (Nat.pow_pos (by decide)) (by rwa [hcast])
        rwa [hcast] at hb
      have hnonneg : 0 ≤ (powerOfTen (k : ℤ).natAbs).magnitude := by
        unfold magnitude
        positivity
      refine absurd hlt (not_lt.2 (hle.trans ?_))
      calc (((Binary64.ofNat n).toRatio.1 * (powerOfTen (k : ℤ).natAbs).toRatio.1 : ℕ) : ℚ) /
            ((Binary64.ofNat n).toRatio.2 * (powerOfTen (k : ℤ).natAbs).toRatio.2 : ℕ)
          = (Binary64.ofNat n).magnitude * (powerOfTen (k : ℤ).natAbs).magnitude := by
            rw [← toRatio_div, ← toRatio_div, Nat.cast_mul, Nat.cast_mul, mul_div_mul_comm]
        _ ≤ n * (1 + 1 / 2 ^ 53) * (10 ^ k * (1 + 1 / 2 ^ 53)) := by gcongr
        _ = n * 10 ^ k * (1 + 1 / 2 ^ 53) ^ 2 := by ring
    refine ⟨_, if_neg ?_⟩
    rw [hfin]
    exact Bool.false_ne_true


/-! ### Digits -/

theorem ofDigitChars_lt {ds : List Char} (hd : ∀ c ∈ ds, c.isDigit = true) (n : ℕ) :
    Nat.ofDigitChars 10 ds n < (n + 1) * 10 ^ ds.length := by
  induction ds generalizing n with
  | nil => simp
  | cons d ds ih =>
    have hle := (toNat_le_of_isDigit (hd d List.mem_cons_self)).2
    have hlt := ih (fun c hc => hd c (List.mem_cons_of_mem _ hc)) (10 * n + (d.toNat - 48))
    have hzero : '0'.toNat = 48 := rfl
    rw [Nat.ofDigitChars_cons, List.length_cons, Nat.pow_succ', hzero]
    refine hlt.trans_le ?_
    rw [← Nat.mul_assoc]
    exact Nat.mul_le_mul_right _ (by omega)

theorem mul_pow_le_ofDigitChars (ds : List Char) (n : ℕ) :
    n * 10 ^ ds.length ≤ Nat.ofDigitChars 10 ds n := by
  induction ds generalizing n with
  | nil => simp
  | cons d ds ih =>
    rw [Nat.ofDigitChars_cons, List.length_cons, Nat.pow_succ', ← Nat.mul_assoc]
    exact (Nat.mul_le_mul_right _ (by omega)).trans (ih _)

/-- Without its last digits, a number is divided by a power of ten. -/
theorem ofDigitChars_take {ds : List Char} (hd : ∀ c ∈ ds, c.isDigit = true) (n t : ℕ) :
    Nat.ofDigitChars 10 (ds.take t) n = Nat.ofDigitChars 10 ds n / 10 ^ (ds.length - t) := by
  induction ds generalizing n t with
  | nil => simp
  | cons d ds ih =>
    cases t with
    | zero =>
      rw [List.take_zero, Nat.sub_zero, Nat.ofDigitChars_nil]
      exact (Nat.div_eq_of_lt_le (mul_pow_le_ofDigitChars (d :: ds) n) (ofDigitChars_lt hd n)).symm
    | succ t =>
      rw [List.take_succ_cons, Nat.ofDigitChars_cons, Nat.ofDigitChars_cons, List.length_cons,
        Nat.add_sub_add_right]
      exact ih (fun c hc => hd c (List.mem_cons_of_mem _ hc)) _ t

/-- Digits are taken in as long as the number stays within the bound, and the others are left. -/
theorem absorb_digits_some (most : ℕ) {ds : List Char} (hd : ∀ c ∈ ds, c.isDigit = true) (n : ℕ) :
    ∃ t ≤ ds.length, (Nat.ofDigitChars 10 ds n ≤ most → t = ds.length) ∧
      (ds ≠ [] → n * 10 + 9 ≤ most → 0 < t) ∧
      ∀ (k : ℕ) (r : List UInt8), startsWithDigit r = false →
        absorb most n k (ds.map code ++ r) =
          (Nat.ofDigitChars 10 (ds.take t) n, k + t, (ds.drop t).map code ++ r) := by
  induction ds generalizing n with
  | nil =>
    refine ⟨0, Nat.le_refl _, fun _ => rfl, fun h => absurd rfl h, fun k r hr => ?_⟩
    cases r with
    | nil => rfl
    | cons b r =>
      have hb : isDigitByte b = false := hr
      simp [absorb, hb]
  | cons d ds ih =>
    obtain ⟨h1, h2⟩ := isDigitByte_code (hd d List.mem_cons_self)
    have hds : ∀ c ∈ ds, c.isDigit = true := fun c hc => hd c (List.mem_cons_of_mem _ hc)
    have hle := (toNat_le_of_isDigit (hd d List.mem_cons_self)).2
    have hcons : ∀ (es : List Char) (m : ℕ), Nat.ofDigitChars 10 (d :: es) m =
        Nat.ofDigitChars 10 es (m * 10 + digitValue (code d)) := by
      intro es m
      rw [Nat.ofDigitChars_cons, Nat.mul_comm, h2]
      rfl
    by_cases hfit : n * 10 + digitValue (code d) ≤ most
    · obtain ⟨t, ht, hall, -, habsorb⟩ := ih hds (n * 10 + digitValue (code d))
      refine ⟨t + 1, by simpa using ht, fun h => ?_, fun _ _ => by omega, fun k r hr => ?_⟩
      · rw [hcons] at h
        simp [hall h]
      · rw [List.map_cons, List.cons_append, absorb, h1]
        simp only [hfit, decide_true, Bool.and_self, ↓reduceIte]
        rw [habsorb (k + 1) r hr, List.take_succ_cons, hcons, List.drop_succ_cons]
        simp only [Prod.mk.injEq, and_true, true_and]
        omega
    · refine ⟨0, Nat.zero_le _, fun h => ?_, fun _ h => ?_, fun k r hr => ?_⟩
      · rw [hcons] at h
        exact absurd ((le_ofDigitChars _ ds).trans h) hfit
      · rw [h2] at hfit
        omega
      · rw [List.map_cons, List.cons_append, absorb, h1]
        simp [hfit]

theorem skipDigits_digits {ds : List Char} (hd : ∀ c ∈ ds, c.isDigit = true) (k : ℕ)
    {r : List UInt8} (hr : startsWithDigit r = false) :
    skipDigits k (ds.map code ++ r) = (k + ds.length, r) := by
  induction ds generalizing k with
  | nil => exact skipDigits_of_startsWithDigit hr k
  | cons d ds ih =>
    obtain ⟨h1, -⟩ := isDigitByte_code (hd d List.mem_cons_self)
    rw [List.map_cons, List.cons_append, skipDigits, h1, if_pos rfl,
      ih (fun c hc => hd c (List.mem_cons_of_mem _ hc)), List.length_cons]
    congr 1
    omega

/-- The digits of a fraction are taken in, at least one of them, or passed over. -/
theorem fractionRest_digits {n : ℕ} (hn : n * 10 + 9 ≤ 0xFFFFFFFFFFFFFFFF) {ds : List Char}
    (hd : ∀ c ∈ ds, c.isDigit = true) (hne : ds ≠ []) :
    ∃ t, 0 < t ∧ t ≤ ds.length ∧ (Nat.ofDigitChars 10 ds n < 2 ^ 64 → t = ds.length) ∧
      ∀ (negative : Bool) (r : List UInt8), startsWithDigit r = false →
        fractionRest negative n 0 (ds.map code ++ r) =
          fractionEnd negative (Nat.ofDigitChars 10 (ds.take t) n) (0 - t) r := by
  obtain ⟨t, ht, hall, hpos, habsorb⟩ := absorb_digits_some 0xFFFFFFFFFFFFFFFF hd n
  refine ⟨t, hpos hne hn, ht, fun h => hall (by omega), fun negative r hr => ?_⟩
  have hdrop : ∀ c ∈ ds.drop t, c.isDigit = true := fun c hc => hd c (List.mem_of_mem_drop hc)
  rw [fractionRest, habsorb 0 r hr]
  simp only [Nat.zero_add]
  split
  · rw [skipDigits_digits hdrop 0 hr]
  · next hrest =>
    have hnil : ds.drop t = [] := by
      cases hc : ds.drop t with
      | nil => rfl
      | cons c cs =>
        rw [hc] at hrest
        exact absurd (isDigitByte_code (hdrop c (by rw [hc]; exact List.mem_cons_self))).1 hrest
    have htaken : (t == 0) = false := by
      have := hpos hne hn
      simp only [beq_eq_false_iff_ne]
      omega
    rw [hnil, htaken]
    rfl

theorem floatBefore_of_some {n : ℕ} {e : ℤ} {f : Binary64}
    (h : scaleByTen? 5 (Binary64.ofNat n) e = some f) (negative : Bool) (r : List UInt8) :
    floatBefore r negative n e = .ok (.float (if negative then f.neg else f), r) := by
  rw [floatBefore, h]

theorem fractionEnd_delimited (negative : Bool) (n : ℕ) (e : ℤ) {r : List UInt8} (hr : Delimited r) :
    fractionEnd negative n e r = floatBefore r negative n e := by
  cases r with
  | nil => rfl
  | cons b r => rcases hr with rfl | rfl | rfl <;> rfl

/-- The digits of an exponent, behind its sign. -/
theorem exponentRest_sign (negative : Bool) (n : ℕ) (e : ℤ) (down : Bool) (x : ℕ) (r : List UInt8) :
    exponentRest negative n e
        (code (if down then '-' else '+') :: ((Nat.toDigits 10 x).map code ++ r)) =
      (let a := absorb 0x7FFFFFFF 0 0 ((Nat.toDigits 10 x).map code ++ r)
      if startsWithDigit a.2.2 then
        if n != 0 && !down then stopAt .hugeNumber a.2.2
        else .ok (.float (Binary64.zero negative), (skipDigits 0 a.2.2).2)
      else floatBefore a.2.2 negative n (if down then e - a.1 else e + a.1)) := by
  obtain ⟨c, cs, hc, hd⟩ := digits_head x
  have hstart : startsWithDigit ((Nat.toDigits 10 x).map code ++ r) = true := by
    rw [hc]
    exact (isDigitByte_code hd).1
  generalize hbs : (Nat.toDigits 10 x).map code ++ r = bs at hstart
  cases bs with
  | nil => cases hstart
  | cons b bs =>
    have hplus : (code '-' == code '+') = false := by decide
    cases down
    · simp [exponentRest, hstart]
    · simp [exponentRest, hstart, hplus]

theorem exponentRest_up (negative : Bool) (n : ℕ) (e : ℤ) {x : ℕ} (hx : x ≤ 0x7FFFFFFF)
    {r : List UInt8} (hr : Delimited r) :
    exponentRest negative n e (code '+' :: ((Nat.toDigits 10 x).map code ++ r)) =
      floatBefore r negative n (e + x) := by
  have habsorb := absorb_digits 0x7FFFFFFF r hr.startsWithDigit (Nat.toDigits 10 x) 0 0
    (fun _ => toDigits_isDigit) (by rwa [Nat.ofDigitChars_ten_toDigits])
  rw [Nat.ofDigitChars_ten_toDigits] at habsorb
  have h := exponentRest_sign negative n e false x r
  simpa [habsorb, hr.startsWithDigit] using h

/-- With a negative exponent there is a number in any case, if only zero. -/
theorem exponentRest_down (negative : Bool) (n : ℕ) {e : ℤ} {x : ℕ} (hx : e - x < 0) :
    ∃ f, ∀ r, Delimited r →
      exponentRest negative n e (code '-' :: ((Nat.toDigits 10 x).map code ++ r)) =
        .ok (.float f, r) := by
  have hd : ∀ c ∈ Nat.toDigits 10 x, c.isDigit = true := fun _ => toDigits_isDigit
  obtain ⟨t, ht, hall, -, habsorb⟩ := absorb_digits_some 0x7FFFFFFF hd 0
  rw [Nat.ofDigitChars_ten_toDigits] at hall
  obtain ⟨f, hf⟩ := scaleByTen?_of_neg 5 (Binary64.ofNat n) hx
  by_cases hfew : t = (Nat.toDigits 10 x).length
  · refine ⟨if negative then f.neg else f, fun r hr => ?_⟩
    have h := exponentRest_sign negative n e true x r
    rw [habsorb 0 r hr.startsWithDigit, hfew, List.take_length, List.drop_length,
      Nat.ofDigitChars_ten_toDigits] at h
    simp only [↓reduceIte, List.map_nil, List.nil_append, hr.startsWithDigit, Bool.false_eq_true] at h
    rw [h]
    exact floatBefore_of_some hf negative r
  · refine ⟨Binary64.zero negative, fun r hr => ?_⟩
    have h := exponentRest_sign negative n e true x r
    have hdrop : ∀ c ∈ (Nat.toDigits 10 x).drop t, c.isDigit = true :=
      fun c hc => hd c (List.mem_of_mem_drop hc)
    have hmore : startsWithDigit (((Nat.toDigits 10 x).drop t).map code ++ r) = true := by
      cases hc : (Nat.toDigits 10 x).drop t with
      | nil =>
        rw [List.drop_eq_nil_iff] at hc
        omega
      | cons c cs => exact (isDigitByte_code (hdrop c (by rw [hc]; exact List.mem_cons_self))).1
    rw [habsorb 0 r hr.startsWithDigit] at h
    simp only [↓reduceIte, hmore, skipDigits_digits hdrop 0 hr.startsWithDigit, Bool.not_true,
      Bool.and_false, Bool.false_eq_true] at h
    exact h

/-! ### Texts -/

/-- A digit in front that is not followed by another. -/
theorem unsignedNumber_digit (negative : Bool) {d : Char} (hd : d.isDigit = true) {r : List UInt8}
    (hr : startsWithDigit r = false) :
    unsignedNumber negative (code d :: r) = numberRest negative (d.toNat - 48) 0 r := by
  obtain ⟨h1, h2⟩ := isDigitByte_code hd
  have habsorb := absorb_digits 0xFFFFFFFFFFFFFFFF r hr [] (digitValue (code d)) 0 (by simp)
  rw [unsignedNumber]
  by_cases hzero : code d = code '0'
  · have hd0 : d = '0' := by
      have := (toNat_le_of_isDigit hd).2
      exact code_inj (by omega) (by decide) hzero
    subst hd0
    rw [if_pos (beq_self_eq_true _), hr]
    rfl
  · have hle := (toNat_le_of_isDigit hd).2
    have hmost : digitValue (code d) ≤ 0xFFFFFFFFFFFFFFFF := by
      rw [h2]
      omega
    rw [if_neg (by simpa using hzero), h1, if_pos rfl]
    simp only [List.map_nil, List.nil_append, Nat.ofDigitChars_nil, hmost, forall_const] at habsorb
    rw [habsorb]
    simp only [skipDigits_of_startsWithDigit hr, h2]

/-- The digits in front of an exponent, with a point behind the first if there are more. -/
def mantissa : List Char → List Char
  | d :: [] => [d]
  | d :: rest => d :: '.' :: rest
  | [] => []

theorem unsignedNumber_mantissa {d : Char} {ds : List Char}
    (hd : ∀ c ∈ d :: ds, c.isDigit = true) :
    ∃ t ≤ ds.length, (Nat.ofDigitChars 10 (d :: ds) 0 < 2 ^ 64 → t = ds.length) ∧
      ∀ (negative : Bool) (r : List UInt8),
        unsignedNumber negative ((mantissa (d :: ds)).map code ++ code 'e' :: r) =
          exponentRest negative (Nat.ofDigitChars 10 (d :: ds) 0 / 10 ^ (ds.length - t)) (0 - t) r := by
  have hdigit := hd d List.mem_cons_self
  have hfirst : Nat.ofDigitChars 10 [d] 0 = d.toNat - 48 := by
    rw [Nat.ofDigitChars_cons, Nat.ofDigitChars_nil]
    simp
  cases ds with
  | nil =>
    refine ⟨0, Nat.le_refl _, fun _ => rfl, fun negative r => ?_⟩
    have hdot : (code 'e' == code '.') = false := by decide
    rw [mantissa, List.map_singleton, List.singleton_append,
      unsignedNumber_digit negative hdigit rfl, hfirst]
    simp [numberRest, hdot]
  | cons c cs =>
    have hcs : ∀ x ∈ c :: cs, x.isDigit = true := fun x hx => hd x (List.mem_cons_of_mem _ hx)
    have hle := (toNat_le_of_isDigit hdigit).2
    obtain ⟨t, -, ht, hall, hrest⟩ := fractionRest_digits (n := d.toNat - 48) (by omega) hcs (by simp)
    have hvalue : Nat.ofDigitChars 10 (d :: c :: cs) 0 =
        Nat.ofDigitChars 10 (c :: cs) (d.toNat - 48) := by
      rw [Nat.ofDigitChars_cons]
      simp
    refine ⟨t, ht, fun h => hall (by rwa [← hvalue]), fun negative r => ?_⟩
    have hdot : startsWithDigit (code '.' :: ((c :: cs).map code ++ code 'e' :: r)) = false := rfl
    have hexp : startsWithDigit (code 'e' :: r) = false := rfl
    have htext : (mantissa (d :: c :: cs)).map code ++ code 'e' :: r =
        code d :: code '.' :: ((c :: cs).map code ++ code 'e' :: r) := by simp [mantissa]
    rw [hvalue, ← ofDigitChars_take hcs]
    rw [htext, unsignedNumber_digit negative hdigit hdot, numberRest, if_pos (beq_self_eq_true _)]
    show fractionRest negative (d.toNat - 48) 0 _ = _
    rw [hrest negative _ hexp]
    rfl

/-- The exponent of the first digit of a decimal. -/
def leading (s : Scientific) : ℤ := s.exponent + (Nat.toDigits 10 s.digits).length - 1

theorem withExponent_eq (s : Scientific) : ∃ d ds, Nat.toDigits 10 s.digits = d :: ds ∧
    (∀ c ∈ d :: ds, c.isDigit = true) ∧ leading s = s.exponent + ds.length ∧
    (withExponent s).map code = (mantissa (d :: ds)).map code ++
      code 'e' :: code (if 0 ≤ leading s then '+' else '-') ::
        (Nat.toDigits 10 (leading s).natAbs).map code := by
  obtain ⟨d, ds, hds, -⟩ := digits_head s.digits
  refine ⟨d, ds, hds, fun c hc => toDigits_isDigit (hds ▸ hc), ?_, ?_⟩
  · rw [leading, hds, List.length_cons]
    push_cast
    ring
  · unfold withExponent leading
    rw [hds]
    cases ds <;> simp [mantissa]

/-- A decimal with a positive exponent is read as a product, with some of its digits dropped if they
do not fit 64 bits. -/
theorem unsignedNumber_upwards {s : Scientific} (hlow : 0 ≤ leading s)
    (hhigh : leading s ≤ 0x7FFFFFFF) :
    ∃ j : ℕ, (s.digits < 2 ^ 64 → j = 0) ∧ ∀ (negative : Bool) (r : List UInt8), Delimited r →
      unsignedNumber negative ((withExponent s).map code ++ r) =
        floatBefore r negative (s.digits / 10 ^ j) (s.exponent + j) := by
  obtain ⟨d, ds, hds, hd, hlead, htext⟩ := withExponent_eq s
  obtain ⟨t, ht, hall, hread⟩ := unsignedNumber_mantissa hd
  have hvalue : Nat.ofDigitChars 10 (d :: ds) 0 = s.digits := by
    rw [← hds, Nat.ofDigitChars_ten_toDigits]
  rw [hvalue] at hall hread
  refine ⟨ds.length - t, fun h => by rw [hall h, Nat.sub_self], fun negative r hr => ?_⟩
  rw [htext, if_pos hlow, List.append_assoc, List.cons_append, List.cons_append, hread,
    exponentRest_up _ _ _ (by omega) hr]
  congr 1
  omega

/-- A decimal with a negative exponent is read as some number. -/
theorem unsignedNumber_downwards {s : Scientific} (hlow : leading s < 0) (negative : Bool) :
    ∃ f, ∀ r, Delimited r →
      unsignedNumber negative ((withExponent s).map code ++ r) = .ok (.float f, r) := by
  obtain ⟨d, ds, -, hd, hlead, htext⟩ := withExponent_eq s
  obtain ⟨t, ht, -, hread⟩ := unsignedNumber_mantissa hd
  obtain ⟨f, hf⟩ := exponentRest_down negative
    (Nat.ofDigitChars 10 (d :: ds) 0 / 10 ^ (ds.length - t))
    (e := 0 - t) (x := (leading s).natAbs) (by omega)
  refine ⟨f, fun r hr => ?_⟩
  rw [htext, if_neg (by omega), List.append_assoc, List.cons_append, List.cons_append, hread]
  exact hf r hr

/-- Digits in front of a point, few enough to fit, and digits behind it. -/
theorem unsignedNumber_point {whole part : List Char} (hw : ∀ c ∈ whole, c.isDigit = true)
    (hfew : whole.length ≤ 16) (hp : ∀ c ∈ part, c.isDigit = true) (hne : part ≠ [])
    (hhead : whole = ['0'] ∨ ∃ d ds, whole = d :: ds ∧ d ≠ '0') (negative : Bool) :
    ∃ f, ∀ r, Delimited r →
      unsignedNumber negative (whole.map code ++ code '.' :: (part.map code ++ r)) =
        .ok (.float f, r) := by
  have hlt : Nat.ofDigitChars 10 whole 0 < 10 ^ 16 := by
    have h := ofDigitChars_lt hw 0
    rw [Nat.zero_add, Nat.one_mul] at h
    exact h.trans_le (Nat.pow_le_pow_right (by decide) hfew)
  obtain ⟨t, hpos, -, -, hrest⟩ := fractionRest_digits (n := Nat.ofDigitChars 10 whole 0) (by omega) hp hne
  obtain ⟨f, hf⟩ := scaleByTen?_of_neg 5
    (Binary64.ofNat (Nat.ofDigitChars 10 (part.take t) (Nat.ofDigitChars 10 whole 0)))
    (by omega : (0 : ℤ) - t < 0)
  refine ⟨if negative then f.neg else f, fun r hr => ?_⟩
  have hdot : startsWithDigit (code '.' :: (part.map code ++ r)) = false := rfl
  have hwhole : unsignedNumber negative (whole.map code ++ code '.' :: (part.map code ++ r)) =
      numberRest negative (Nat.ofDigitChars 10 whole 0) 0 (code '.' :: (part.map code ++ r)) := by
    rcases hhead with rfl | ⟨d, ds, rfl, hd⟩
    · exact unsignedNumber_digit negative rfl hdot
    · obtain ⟨h1, h2⟩ := isDigitByte_code (hw d List.mem_cons_self)
      have hzero : code d ≠ code '0' := by
        have := (toNat_le_of_isDigit (hw d List.mem_cons_self)).2
        exact fun h => hd (code_inj (by omega) (by decide) h)
      have hvalue : Nat.ofDigitChars 10 ds (digitValue (code d)) = Nat.ofDigitChars 10 (d :: ds) 0 := by
        rw [h2, Nat.ofDigitChars_cons]
        simp
      have habsorb := absorb_digits 0xFFFFFFFFFFFFFFFF (code '.' :: (part.map code ++ r)) hdot ds
        (digitValue (code d)) 0 (fun c hc => hw c (List.mem_cons_of_mem _ hc))
        (by rw [hvalue]; omega)
      rw [List.map_cons, List.cons_append, unsignedNumber, if_neg (by simpa using hzero), h1,
        if_pos rfl, habsorb, hvalue]
      simp only [skipDigits_of_startsWithDigit hdot]
  rw [hwhole, numberRest, if_pos (beq_self_eq_true _)]
  show fractionRest negative _ 0 _ = _
  rw [hrest negative r hr.startsWithDigit, fractionEnd_delimited _ _ _ hr]
  exact floatBefore_of_some hf negative r

/-- The digits in front of the point and those behind it. -/
theorem positional_eq {s : Scientific} (hzero : s.digits = 0 → s.exponent = 0)
    (hhigh : leading s ≤ 15) : ∃ whole part, positional s = whole ++ '.' :: part ∧
      (∀ c ∈ whole, c.isDigit = true) ∧ whole.length ≤ 16 ∧ (∀ c ∈ part, c.isDigit = true) ∧
      part ≠ [] ∧ (whole = ['0'] ∨ ∃ d ds, whole = d :: ds ∧ d ≠ '0') := by
  have hd : ∀ c ∈ Nat.toDigits 10 s.digits, c.isDigit = true := fun _ => toDigits_isDigit
  have hrep : ∀ k, ∀ c ∈ List.replicate k '0', c.isDigit = true := by
    intro k c hc
    rw [(List.mem_replicate.1 hc).2]
    rfl
  have hlen : (Nat.toDigits 10 s.digits).length ≠ 0 := by
    obtain ⟨d, ds, hds, -⟩ := digits_head s.digits
    simp [hds]
  unfold leading at hhigh
  unfold positional
  dsimp only
  by_cases he : 0 ≤ s.exponent
  · refine ⟨Nat.toDigits 10 s.digits ++ List.replicate s.exponent.toNat '0', ['0'], ?_, ?_, ?_, ?_, ?_, ?_⟩
    · simp [he]
    · intro c hc
      rcases List.mem_append.1 hc with hc | hc
      · exact hd c hc
      · exact hrep _ c hc
    · simp only [List.length_append, List.length_replicate]
      omega
    · simp
    · simp
    · rcases Nat.eq_zero_or_pos s.digits with h0 | hpos
      · refine .inl ?_
        rw [h0, hzero h0]
        rfl
      · obtain ⟨d, ds, hds, hne⟩ := toDigits_head s.digits hpos
        exact .inr ⟨d, _, by rw [hds, List.cons_append], hne⟩
  · have hpos : 0 < s.digits := Nat.pos_of_ne_zero fun h => he (by rw [hzero h])
    rw [if_neg he]
    by_cases hplaces : (-s.exponent).toNat < (Nat.toDigits 10 s.digits).length
    · rw [if_pos hplaces]
      refine ⟨_, _, rfl, fun c hc => hd c (List.mem_of_mem_take hc), ?_,
        fun c hc => hd c (List.mem_of_mem_drop hc), ?_, .inr ?_⟩
      · rw [List.length_take]
        omega
      · rw [ne_eq, List.drop_eq_nil_iff]
        omega
      · obtain ⟨d, ds, hds, hne⟩ := toDigits_head s.digits hpos
        obtain ⟨k, hk⟩ : ∃ k, (Nat.toDigits 10 s.digits).length - (-s.exponent).toNat = k + 1 :=
          ⟨(Nat.toDigits 10 s.digits).length - (-s.exponent).toNat - 1, by omega⟩
        exact ⟨d, _, by rw [hk, hds, List.take_succ_cons], hne⟩
    · rw [if_neg hplaces]
      refine ⟨['0'], List.replicate ((-s.exponent).toNat - (Nat.toDigits 10 s.digits).length) '0' ++
        Nat.toDigits 10 s.digits, rfl, by simp, by simp, ?_, ?_, .inl rfl⟩
      · intro c hc
        rcases List.mem_append.1 hc with hc | hc
        · exact hrep _ c hc
        · exact hd c hc
      · intro h
        exact hlen (by rw [(List.append_eq_nil_iff.1 h).2]; rfl)

theorem unsignedNumber_positional {s : Scientific} (hzero : s.digits = 0 → s.exponent = 0)
    (hhigh : leading s ≤ 15) (negative : Bool) :
    ∃ f, ∀ r, Delimited r →
      unsignedNumber negative ((positional s).map code ++ r) = .ok (.float f, r) := by
  obtain ⟨whole, part, htext, hw, hfew, hp, hne, hhead⟩ := positional_eq hzero hhigh
  obtain ⟨f, hf⟩ := unsignedNumber_point hw hfew hp hne hhead negative
  refine ⟨f, fun r hr => ?_⟩
  rw [htext, List.map_append, List.map_cons, List.append_assoc, List.cons_append]
  exact hf r hr

/-! ### Finite numbers -/

/-- The first digit of a decimal stands where its value says. -/
theorem pow_leading_le {s : Scientific} (hs : 0 < s.digits) : (10 : ℚ) ^ leading s ≤ s.value := by
  obtain ⟨d, ds, hds, hne⟩ := toDigits_head s.digits hs
  have hd := toDigits_isDigit (n := s.digits) (c := d) (hds ▸ List.mem_cons_self)
  have hone : 1 ≤ d.toNat - 48 := by
    have hle := (toNat_le_of_isDigit hd).1
    have hne' : d.toNat ≠ 48 := fun h => hne (by rw [← Char.ofNat_toNat d, h])
    omega
  have hvalue : 10 ^ ds.length ≤ s.digits := by
    have h := mul_pow_le_ofDigitChars ds (d.toNat - 48)
    have hofd : Nat.ofDigitChars 10 ds (d.toNat - 48) = s.digits := by
      rw [← Nat.ofDigitChars_ten_toDigits (n := s.digits), hds, Nat.ofDigitChars_cons]
      simp
    rw [hofd] at h
    exact (Nat.le_mul_of_pos_left _ hone).trans h
  have hcast : (10 : ℚ) ^ ds.length ≤ s.digits := by exact_mod_cast hvalue
  have hlead : leading s = ds.length + s.exponent := by
    rw [leading, hds, List.length_cons]
    push_cast
    ring
  rw [hlead, zpow_add₀ (by norm_num), zpow_natCast, Scientific.value]
  gcongr

theorem value_dropped_le (s : Scientific) (j : ℕ) :
    ((s.digits / 10 ^ j : ℕ) : ℚ) * 10 ^ (s.exponent + j) ≤ s.value := by
  have hle : ((s.digits / 10 ^ j : ℕ) : ℚ) * 10 ^ j ≤ s.digits := by
    exact_mod_cast Nat.div_mul_le_self s.digits (10 ^ j)
  calc ((s.digits / 10 ^ j : ℕ) : ℚ) * 10 ^ (s.exponent + j)
      = ((s.digits / 10 ^ j : ℕ) : ℚ) * 10 ^ j * 10 ^ s.exponent := by
        rw [zpow_add₀ (by norm_num), zpow_natCast]
        ring
    _ ≤ s.value := by
        unfold Scientific.value
        gcongr

theorem finite_bounds {x : Binary64} (hx : x.isNaN = false ∧ x.isInfinite = false) :
    x.significand < 2 ^ 53 ∧ x.scale ≤ 971 := by
  have hpow : Nat.pow 2 52 = 2 ^ 52 := rfl
  have hfrac : x.fraction < 2 ^ 52 := Nat.mod_lt _ (by decide)
  have hfield : x.exponentField < 2 ^ 11 := Nat.mod_lt _ (by decide)
  have hfin : x.exponentField ≠ 2047 := by
    intro h
    obtain ⟨h1, h2⟩ := hx
    simp only [isNaN, isInfinite, h, beq_self_eq_true, Bool.true_and, bne_eq_false_iff_eq,
      beq_eq_false_iff_ne] at h1 h2
    exact h2 h1
  constructor
  · unfold significand
    rw [hpow]
    split <;> omega
  · unfold scale
    split <;> omega

/-- A finite number lies well below the limit, or is one of the two largest. -/
theorem finite_cases {x : Binary64} (hx : x.isNaN = false ∧ x.isInfinite = false) :
    (x.significand + 1 / 2) * 2 ^ x.scale ≤ ((2 : ℚ) ^ 53 - 5 / 2) * 2 ^ (971 : ℤ) ∨
      x.scale = 971 ∧ (x.significand = 2 ^ 53 - 1 ∨ x.significand = 2 ^ 53 - 2) := by
  obtain ⟨hsig, hscale⟩ := finite_bounds hx
  have hsig' : (x.significand : ℚ) ≤ 2 ^ 53 - 1 := by
    have h : x.significand + 1 ≤ 2 ^ 53 := hsig
    have hcast : (x.significand : ℚ) + 1 ≤ 2 ^ 53 := by exact_mod_cast h
    linarith
  by_cases htop : x.scale = 971
  · by_cases hbig : 2 ^ 53 - 2 ≤ x.significand
    · exact .inr ⟨htop, by omega⟩
    · refine .inl ?_
      have h : x.significand + 3 ≤ 2 ^ 53 := by omega
      have hcast : (x.significand : ℚ) + 3 ≤ 2 ^ 53 := by exact_mod_cast h
      rw [htop]
      gcongr
      linarith
  · refine .inl ?_
    have hle : (2 : ℚ) ^ x.scale ≤ 2 ^ (970 : ℤ) := zpow_le_zpow_right₀ one_le_two (by omega)
    have hpos : (0 : ℚ) ≤ 2 ^ (970 : ℤ) := (zpow_pos two_pos _).le
    calc (x.significand + 1 / 2) * 2 ^ x.scale
        ≤ ((2 : ℚ) ^ 53 - 1 + 1 / 2) * 2 ^ (970 : ℤ) :=
          mul_le_mul (by linarith) hle (zpow_pos two_pos _).le (by norm_num)
      _ ≤ ((2 : ℚ) ^ 53 - 5 / 2) * 2 * 2 ^ (970 : ℤ) := mul_le_mul_of_nonneg_right (by norm_num) hpos
      _ = ((2 : ℚ) ^ 53 - 5 / 2) * 2 ^ (971 : ℤ) := by
          rw [show (971 : ℤ) = 1 + 970 by norm_num, zpow_add₀ two_ne_zero, zpow_one]
          ring

/-- The shortest decimal of a finite number has no large exponent. -/
theorem leading_shortest_le {x : Binary64} (hx : x.isNaN = false ∧ x.isInfinite = false) :
    leading (shortest x) ≤ 309 := by
  obtain ⟨hvalue, hzero⟩ := shortest_spec x
  obtain ⟨hsig, hscale⟩ := finite_bounds hx
  rcases Nat.eq_zero_or_pos (shortest x).digits with h0 | hpos
  · rw [leading, h0, hzero h0]
    decide
  · have hsig' : (x.significand : ℚ) + 1 ≤ 2 ^ 53 := by exact_mod_cast (hsig : x.significand + 1 ≤ 2 ^ 53)
    have hpow : (2 : ℚ) ^ x.scale ≤ 2 ^ (971 : ℤ) := zpow_le_zpow_right₀ one_le_two hscale
    have hlimit : (x.significand + 1 / 2) * 2 ^ x.scale ≤ limit :=
      mul_le_mul (by linarith) hpow (zpow_pos two_pos _).le (by norm_num)
    have hten : (10 : ℚ) ^ leading (shortest x) ≤ 10 ^ (309 : ℤ) :=
      (pow_leading_le hpos).trans ((hvalue.trans hlimit).trans limit_le)
    exact (zpow_le_zpow_iff_right₀ (by norm_num)).1 hten

theorem shortest_congr {x y : Binary64} (hsig : x.significand = y.significand)
    (hscale : x.scale = y.scale) : shortest x = shortest y := by
  unfold shortest Interval.of
  rw [hsig, hscale]

theorem shortest_largest {x : Binary64} (hscale : x.scale = 971) :
    (x.significand = 2 ^ 53 - 1 → shortest x = ⟨17976931348623157, 292⟩) ∧
      (x.significand = 2 ^ 53 - 2 → shortest x = ⟨17976931348623155, 292⟩) := by
  refine ⟨fun h => ?_, fun h => ?_⟩
  · refine (shortest_congr (y := ofBits (infinityBits - 1)) ?_ ?_).trans (by decide +kernel)
    · rw [h]
      decide +kernel
    · rw [hscale]
      decide +kernel
  · refine (shortest_congr (y := ofBits (infinityBits - 2)) ?_ ?_).trans (by decide +kernel)
    · rw [h]
      decide +kernel
    · rw [hscale]
      decide +kernel

theorem scaleByTen?_largest :
    (scaleByTen? 5 (Binary64.ofNat 17976931348623157) 292).isSome = true ∧
      (scaleByTen? 5 (Binary64.ofNat 17976931348623155) 292).isSome = true := by
  decide +kernel

/-- **The decimal of a finite number is not too large for the reader**, with all its digits or with
some dropped. -/
theorem scaleByTen?_shortest {x : Binary64} (hx : x.isNaN = false ∧ x.isInfinite = false) {j : ℕ}
    (hj : (shortest x).digits < 2 ^ 64 → j = 0) :
    ∃ f, scaleByTen? 5 (Binary64.ofNat ((shortest x).digits / 10 ^ j)) ((shortest x).exponent + j) =
      some f := by
  rcases finite_cases hx with hsmall | ⟨hscale, hlarge⟩
  · have hlimit : ((2 : ℚ) ^ 53 - 5 / 2) * 2 ^ (971 : ℤ) * (1 + 1 / 2 ^ 53) ^ 2 < limit := by
      have hpos : (0 : ℚ) < 2 ^ (971 : ℤ) := zpow_pos two_pos _
      have hnum : ((2 : ℚ) ^ 53 - 5 / 2) * (1 + 1 / 2 ^ 53) ^ 2 < 2 ^ 53 - 1 / 2 := by norm_num
      calc ((2 : ℚ) ^ 53 - 5 / 2) * 2 ^ (971 : ℤ) * (1 + 1 / 2 ^ 53) ^ 2
          = ((2 : ℚ) ^ 53 - 5 / 2) * (1 + 1 / 2 ^ 53) ^ 2 * 2 ^ (971 : ℤ) := by ring
        _ < limit := mul_lt_mul_of_pos_right hnum hpos
    have hle := ((value_dropped_le (shortest x) j).trans (shortest_spec x).1).trans hsmall
    exact scaleByTen?_of_lt 5 (lt_of_le_of_lt (mul_le_mul_of_nonneg_right hle (by norm_num)) hlimit)
  · obtain ⟨hfirst, hsecond⟩ := shortest_largest hscale
    obtain ⟨h1, h2⟩ := scaleByTen?_largest
    rcases hlarge with hl | hl
    · rw [hfirst hl] at hj ⊢
      rw [hj (by decide)]
      exact Option.isSome_iff_exists.1 h1
    · rw [hsecond hl] at hj ⊢
      rw [hj (by decide)]
      exact Option.isSome_iff_exists.1 h2

/-- The text of a finite number, without its sign. -/
def unsignedText (x : Binary64) : List Char :=
  if jsonLayout.least ≤ leading (shortest x) && leading (shortest x) ≤ jsonLayout.most then
    positional (shortest x)
  else withExponent (shortest x)

theorem render_eq (x : Binary64) :
    jsonLayout.render x = if x.isNegative then '-' :: unsignedText x else unsignedText x := rfl

/-- **The reader takes the text of every finite number**, whatever may stand behind it. -/
theorem unsignedNumber_render {x : Binary64} (hx : x.isNaN = false ∧ x.isInfinite = false)
    (negative : Bool) : ∃ f, ∀ r, Delimited r →
      unsignedNumber negative ((unsignedText x).map code ++ r) = .ok (.float f, r) := by
  have hzero := (shortest_spec x).2
  unfold unsignedText
  split
  · next h =>
    simp only [Bool.and_eq_true, decide_eq_true_eq] at h
    exact unsignedNumber_positional hzero h.2 negative
  · rcases lt_or_ge (leading (shortest x)) 0 with hlow | hlow
    · exact unsignedNumber_downwards hlow negative
    · have hhigh := leading_shortest_le hx
      obtain ⟨j, hj, hread⟩ := unsignedNumber_upwards hlow (by omega)
      obtain ⟨f, hf⟩ := scaleByTen?_shortest hx hj
      refine ⟨if negative then f.neg else f, fun r hr => ?_⟩
      rw [hread negative r hr]
      exact floatBefore_of_some hf negative r

/-- The number that reading the text of a number gives. -/
def rereadFloat (x : Binary64) : Binary64 :=
  match unsignedNumber x.isNegative ((unsignedText x).map code) with
  | .ok (.float f, _) => f
  | _ => x

theorem unsignedNumber_unsignedText {x : Binary64} (hx : x.isNaN = false ∧ x.isInfinite = false)
    {r : List UInt8} (hr : Delimited r) :
    unsignedNumber x.isNegative ((unsignedText x).map code ++ r) = .ok (.float (rereadFloat x), r) := by
  obtain ⟨f, hf⟩ := unsignedNumber_render hx x.isNegative
  have hnil := hf [] trivial
  rw [List.append_nil] at hnil
  have hreread : rereadFloat x = f := by
    unfold rereadFloat
    rw [hnil]
  rw [hreread]
  exact hf r hr

/-- The text of a number begins with a digit. -/
theorem unsignedText_head (x : Binary64) : ∃ d ds, unsignedText x = d :: ds ∧ d.isDigit = true := by
  obtain ⟨d, ds, hds, hd⟩ := digits_head (shortest x).digits
  unfold unsignedText
  split
  · unfold positional
    rw [hds]
    dsimp only
    split
    · exact ⟨d, _, rfl, hd⟩
    · split
      · next hlt =>
        obtain ⟨k, hk⟩ : ∃ k, (d :: ds).length - (-(shortest x).exponent).toNat = k + 1 :=
          ⟨(d :: ds).length - (-(shortest x).exponent).toNat - 1, by omega⟩
        rw [hk]
        exact ⟨d, _, rfl, hd⟩
      · exact ⟨'0', _, rfl, rfl⟩
  · unfold withExponent
    rw [hds]
    cases ds with
    | nil => exact ⟨d, _, rfl, hd⟩
    | cons c cs => exact ⟨d, _, rfl, hd⟩

/-- The text of a number is ASCII. -/
theorem unsignedText_ascii (x : Binary64) : ∀ c ∈ unsignedText x, c.toNat ≤ 0x7F := by
  have hdigit : ∀ n, ∀ c ∈ Nat.toDigits 10 n, c.toNat ≤ 0x7F := by
    intro n c hc
    have := (toNat_le_of_isDigit (toDigits_isDigit hc)).2
    omega
  have hzeros : ∀ k, ∀ c ∈ List.replicate k '0', c.toNat ≤ 0x7F := by
    intro k c hc
    rw [(List.mem_replicate.1 hc).2]
    decide
  unfold unsignedText
  split
  · unfold positional
    dsimp only
    split
    · simp only [List.forall_mem_append, List.forall_mem_cons]
      exact ⟨⟨hdigit _, hzeros _⟩, by decide, by decide, by simp⟩
    · split
      · simp only [List.forall_mem_append, List.forall_mem_cons]
        exact ⟨fun c hc => hdigit _ c (List.mem_of_mem_take hc), by decide,
          fun c hc => hdigit _ c (List.mem_of_mem_drop hc)⟩
      · simp only [List.forall_mem_append, List.forall_mem_cons]
        exact ⟨⟨by decide, by decide, hzeros _⟩, hdigit _⟩
  · obtain ⟨d, ds, hds, -⟩ := digits_head (shortest x).digits
    have hd := hdigit (shortest x).digits
    unfold withExponent
    rw [hds] at hd ⊢
    simp only [List.forall_mem_append, List.forall_mem_cons] at hd ⊢
    refine ⟨?_, by decide, ?_, hdigit _⟩
    · cases ds with
      | nil => exact List.forall_mem_cons.2 ⟨hd.1, by simp⟩
      | cons c cs => exact List.forall_mem_cons.2 ⟨hd.1, List.forall_mem_cons.2 ⟨by decide, hd.2⟩⟩
    · split <;> decide

end Sidecar.Json
