/-
# Bounds on rounded numbers

How far a rounded number may lie above what was rounded, which is all that is
needed to know that it is not infinite. A ratio of natural numbers is rounded
to a multiple of a power of two (`unitExponent`) that leaves 53 bits, or fewer
only for the smallest numbers (`unitExponent_spec`). So a ratio of at least
one is rounded upwards by at most half a unit in its 53rd place
(`magnitude_ofRatio_le`), and what becomes infinite was not below `limit`
(`le_of_isInfinite_ofRatio`). The shortest decimal of a number lies in the
interval that is rounded to that number, so at most half a last place above
it (`shortest_spec`).

Key definitions: `Binary64.magnitude`, `Binary64.limit`, `Decimal.Scientific.value`.
Key theorems: `Binary64.magnitude_ofRatio_le`, `Binary64.le_of_isInfinite_ofRatio`,
`Decimal.shortest_spec`.
-/
import Mathlib.Algebra.Order.Field.Power
import Mathlib.Algebra.Order.Ring.Rat
import Mathlib.Data.Nat.Cast.Order.Field
import Mathlib.Tactic.FieldSimp
import Mathlib.Tactic.GCongr
import Mathlib.Tactic.Linarith
import Mathlib.Tactic.NormNum
import Mathlib.Tactic.Positivity
import Mathlib.Tactic.Ring
import Sidecar.Decimal.Shortest

namespace Sidecar.Binary64

/-- The absolute value of a finite number. -/
def magnitude (x : Binary64) : ℚ := x.significand * 2 ^ x.scale

theorem scaled_pos (num : ℕ) {den : ℕ} (hden : 0 < den) (q : ℤ) : 0 < (scaled num den q).2 := by
  unfold scaled
  split
  · exact Nat.mul_pos hden (Nat.pow_pos (by decide))
  · exact hden

theorem scaled_div (num den : ℕ) (q : ℤ) :
    ((scaled num den q).1 : ℚ) / (scaled num den q).2 = num / den / 2 ^ q := by
  unfold scaled
  split
  · next hq =>
    obtain ⟨k, rfl⟩ := Int.eq_ofNat_of_zero_le hq
    simp [div_div]
  · next hq =>
    obtain ⟨k, hk⟩ := Int.eq_ofNat_of_zero_le (by omega : 0 ≤ -q)
    have hq' : q = -(k : ℤ) := by omega
    subst hq'
    simp [div_eq_mul_inv]
    ring

theorem roundRatio_le (a : ℕ) {b : ℕ} (hb : 0 < b) : (roundRatio a b : ℚ) ≤ a / b + 1 / 2 := by
  have hb' : (0 : ℚ) < b := by exact_mod_cast hb
  have hdiv : a = b * (a / b) + a % b := (Nat.div_add_mod a b).symm
  have hnat : 2 * (b * roundRatio a b) ≤ 2 * a + b := by
    unfold roundRatio
    dsimp only
    split
    · next h =>
      have hr : b ≤ 2 * (a % b) := by
        simp only [Bool.or_eq_true, decide_eq_true_eq, Bool.and_eq_true, beq_iff_eq] at h
        omega
      rw [Nat.mul_add, Nat.mul_one]
      omega
    · omega
  have hq : (2 : ℚ) * (b * roundRatio a b) ≤ 2 * a + b := by exact_mod_cast hnat
  rw [div_add_div _ _ hb'.ne' two_ne_zero, le_div_iff₀ (by positivity)]
  linarith

theorem roundRatio_le_of_lt {a b n : ℕ} (h : a < b * n) : roundRatio a b ≤ n := by
  have hdiv : a / b < n := Nat.div_lt_of_lt_mul h
  unfold roundRatio
  dsimp only
  split <;> omega

theorem toNat_bits_withSign (negative : Bool) {n : ℕ} (hn : n < 2 ^ 63) :
    (withSign negative n).bits.toNat = if negative then 2 ^ 63 + n else n := by
  have hpow : Nat.pow 2 63 = 2 ^ 63 := rfl
  unfold withSign ofBits
  rw [hpow]
  show (if negative then 2 ^ 63 + n else n).toUInt64.toNat = _
  rw [Nat.toUInt64, UInt64.toNat_ofNat']
  cases negative <;> simp <;> omega

theorem exponentField_withSign (negative : Bool) {n : ℕ} (hn : n < 2 ^ 63) :
    (withSign negative n).exponentField = n / 2 ^ 52 := by
  have hlt : n / 2 ^ 52 < 2 ^ 11 := by omega
  unfold exponentField
  rw [toNat_bits_withSign negative hn]
  show (if negative then 2 ^ 63 + n else n) / 2 ^ 52 % 2 ^ 11 = _
  cases negative <;> simp <;> omega

theorem fraction_withSign (negative : Bool) {n : ℕ} (hn : n < 2 ^ 63) :
    (withSign negative n).fraction = n % 2 ^ 52 := by
  unfold fraction
  rw [toNat_bits_withSign negative hn]
  show (if negative then 2 ^ 63 + n else n) % 2 ^ 52 = _
  cases negative
  · simp
  · simp
    omega

/-- The value of the bits `n`, written as a power of two and a significand that may be one bit too
long. -/
theorem magnitude_withSign (negative : Bool) {p r : ℕ} (hp : p * 2 ^ 52 + r < infinityBits)
    (hr : r ≤ 2 ^ 53) (hnorm : p = 0 ∨ 2 ^ 52 ≤ r) :
    (withSign negative (p * 2 ^ 52 + r)).magnitude = r * 2 ^ ((p : ℤ) - 1074) := by
  have hinf : infinityBits = 2047 * 2 ^ 52 := rfl
  have hn : p * 2 ^ 52 + r < 2 ^ 63 := by omega
  unfold magnitude significand scale
  rw [exponentField_withSign negative hn, fraction_withSign negative hn]
  have hpow : Nat.pow 2 52 = 2 ^ 52 := rfl
  rw [hpow]
  by_cases h1 : r < 2 ^ 52
  · -- a subnormal number
    have hp0 : p = 0 := by omega
    subst hp0
    have hdiv : (0 * 2 ^ 52 + r) / 2 ^ 52 = 0 := by omega
    have hmod : (0 * 2 ^ 52 + r) % 2 ^ 52 = r := by omega
    rw [hdiv, hmod]
    simp
  · by_cases h2 : r < 2 ^ 53
    · have hdiv : (p * 2 ^ 52 + r) / 2 ^ 52 = p + 1 := by omega
      have hmod : (p * 2 ^ 52 + r) % 2 ^ 52 + 2 ^ 52 = r := by omega
      rw [hdiv]
      simp only [Nat.add_eq_zero_iff, one_ne_zero, and_false, beq_iff_eq, ↓reduceIte, hmod]
      congr 2
      push_cast
      ring
    · -- the rounding has carried into the next power of two
      have hr' : r = 2 ^ 53 := by omega
      subst hr'
      have hdiv : (p * 2 ^ 52 + 2 ^ 53) / 2 ^ 52 = p + 2 := by omega
      have hmod : (p * 2 ^ 52 + 2 ^ 53) % 2 ^ 52 + 2 ^ 52 = 2 ^ 52 := by omega
      rw [hdiv]
      simp only [Nat.add_eq_zero_iff, OfNat.ofNat_ne_zero, and_false, beq_iff_eq, ↓reduceIte, hmod]
      have he : (((p + 2 : ℕ) : ℤ) - 1075) = ((p : ℤ) - 1074) + 1 := by push_cast; ring
      rw [he, zpow_add₀ two_ne_zero]
      push_cast
      ring

/-- The multiple of the unit that a ratio is rounded to. -/
def rounded (num den : ℕ) : ℕ :=
  roundRatio (scaled num den (unitExponent num den)).1 (scaled num den (unitExponent num den)).2

theorem ofRatio_eq (negative : Bool) {num den : ℕ} (hnum : 0 < num) (hden : 0 < den) :
    ofRatio negative num den = withSign negative
      (min ((unitExponent num den + 1074).toNat * 2 ^ 52 + rounded num den) infinityBits) := by
  have hzero : (num == 0 || den == 0) = false := by
    simp only [Bool.or_eq_false_iff, beq_eq_false_iff_ne]
    omega
  unfold ofRatio
  rw [hzero, if_neg Bool.false_ne_true]
  rfl

/-- A ratio lies between two powers of two that follow from the lengths of its parts. -/
theorem ratio_bounds {num den : ℕ} (hnum : 0 < num) (hden : 0 < den) :
    (2 : ℚ) ^ ((num.log2 : ℤ) - den.log2 - 1) < num / den ∧
      (num / den : ℚ) < 2 ^ ((num.log2 : ℤ) - den.log2 + 1) := by
  have hden' : (0 : ℚ) < den := by exact_mod_cast hden
  have n1 : (2 : ℚ) ^ (num.log2 : ℤ) ≤ num := by
    rw [zpow_natCast]; exact_mod_cast Nat.log2_self_le hnum.ne'
  have n2 : (num : ℚ) < 2 ^ ((num.log2 : ℤ) + 1) := by
    have := Nat.lt_log2_self (n := num)
    rw [← Nat.cast_one, ← Nat.cast_add, zpow_natCast]; exact_mod_cast this
  have d1 : (2 : ℚ) ^ (den.log2 : ℤ) ≤ den := by
    rw [zpow_natCast]; exact_mod_cast Nat.log2_self_le hden.ne'
  have d2 : (den : ℚ) < 2 ^ ((den.log2 : ℤ) + 1) := by
    have := Nat.lt_log2_self (n := den)
    rw [← Nat.cast_one, ← Nat.cast_add, zpow_natCast]; exact_mod_cast this
  constructor
  · rw [lt_div_iff₀ hden']
    calc (2 : ℚ) ^ ((num.log2 : ℤ) - den.log2 - 1) * den
        < 2 ^ ((num.log2 : ℤ) - den.log2 - 1) * 2 ^ ((den.log2 : ℤ) + 1) := by gcongr
      _ = 2 ^ (num.log2 : ℤ) := by rw [← zpow_add₀ two_ne_zero]; congr 1; ring
      _ ≤ num := n1
  · rw [div_lt_iff₀ hden']
    calc (num : ℚ) < 2 ^ ((num.log2 : ℤ) + 1) := n2
      _ = 2 ^ ((num.log2 : ℤ) - den.log2 + 1) * 2 ^ (den.log2 : ℤ) := by
        rw [← zpow_add₀ two_ne_zero]; congr 1; ring
      _ ≤ 2 ^ ((num.log2 : ℤ) - den.log2 + 1) * den := by gcongr

theorem scaled_lt_iff (num : ℕ) {den : ℕ} (hden : 0 < den) (q : ℤ) (k : ℕ) :
    (scaled num den q).1 < (scaled num den q).2 * 2 ^ k ↔ (num / den : ℚ) < 2 ^ (q + k) := by
  have hpos : (0 : ℚ) < (scaled num den q).2 := by exact_mod_cast scaled_pos _ hden q
  have h2 : (0 : ℚ) < 2 ^ q := by positivity
  rw [zpow_add₀ two_ne_zero, zpow_natCast, ← div_lt_iff₀' h2, ← scaled_div num den q,
    div_lt_iff₀' hpos]
  norm_cast

/-- The significand of a ratio has at most 53 bits, and not fewer unless it is that small. -/
theorem unitExponent_spec {num den : ℕ} (hnum : 0 < num) (hden : 0 < den) :
    -1074 ≤ unitExponent num den ∧ (num / den : ℚ) < 2 ^ (unitExponent num den + 53) ∧
      (unitExponent num den = -1074 ∨ (2 : ℚ) ^ (unitExponent num den + 52) ≤ num / den) := by
  obtain ⟨hlow, hhigh⟩ := ratio_bounds hnum hden
  have hmono : ∀ {a b : ℤ}, a ≤ b → (2 : ℚ) ^ a ≤ 2 ^ b := fun h => zpow_le_zpow_right₀ one_le_two h
  have he : (num.log2 : ℤ) - den.log2 - 52 + (52 : ℕ) = (num.log2 : ℤ) - den.log2 := by
    push_cast
    ring
  have hiff := scaled_lt_iff num hden ((num.log2 : ℤ) - den.log2 - 52) 52
  rw [he] at hiff
  unfold unitExponent
  simp only [show Nat.pow 2 52 = 2 ^ 52 from rfl, hiff]
  refine ⟨le_max_right _ _, ?_, ?_⟩
  · by_cases h : (num / den : ℚ) < 2 ^ ((num.log2 : ℤ) - den.log2)
    · rw [if_pos h]
      exact h.trans_le (hmono (by omega))
    · rw [if_neg h]
      exact hhigh.trans_le (hmono (by omega))
  · by_cases h : (num / den : ℚ) < 2 ^ ((num.log2 : ℤ) - den.log2)
    · rw [if_pos h]
      rcases le_total ((num.log2 : ℤ) - den.log2 - 52 - 1) (-1074) with hq | hq
      · exact .inl (max_eq_right hq)
      · rw [max_eq_left hq]
        exact .inr ((hmono (by omega)).trans hlow.le)
    · rw [if_neg h]
      rcases le_total ((num.log2 : ℤ) - den.log2 - 52) (-1074) with hq | hq
      · exact .inl (max_eq_right hq)
      · rw [max_eq_left hq]
        exact .inr ((hmono (by omega)).trans (not_lt.1 h))

theorem rounded_le_half (num : ℕ) {den : ℕ} (hden : 0 < den) :
    (rounded num den : ℚ) ≤ num / den / 2 ^ unitExponent num den + 1 / 2 := by
  rw [← scaled_div]
  exact roundRatio_le _ (scaled_pos _ hden _)

theorem rounded_le {num den : ℕ} (hnum : 0 < num) (hden : 0 < den) : rounded num den ≤ 2 ^ 53 := by
  obtain ⟨-, hlt, -⟩ := unitExponent_spec hnum hden
  exact roundRatio_le_of_lt ((scaled_lt_iff _ hden _ 53).2 hlt)

theorem le_rounded {num den : ℕ} (hnum : 0 < num) (hden : 0 < den)
    (hu : unitExponent num den ≠ -1074) : 2 ^ 52 ≤ rounded num den := by
  obtain ⟨-, -, hnorm⟩ := unitExponent_spec hnum hden
  have hle := hnorm.resolve_left hu
  have hpos := scaled_pos num hden (unitExponent num den)
  have hnot := mt (scaled_lt_iff num hden (unitExponent num den) 52).1 (not_lt.2 hle)
  have hdiv : 2 ^ 52 ≤ (scaled num den (unitExponent num den)).1 /
      (scaled num den (unitExponent num den)).2 := by
    rw [Nat.le_div_iff_mul_le hpos, Nat.mul_comm]
    exact Nat.not_lt.1 hnot
  unfold rounded roundRatio
  dsimp only
  split <;> omega

/-- A number that is not rounded to infinity has the value that it is rounded to. -/
theorem magnitude_ofRatio (negative : Bool) {num den : ℕ} (hnum : 0 < num) (hden : 0 < den)
    (hfin : (unitExponent num den + 1074).toNat * 2 ^ 52 + rounded num den < infinityBits) :
    (ofRatio negative num den).magnitude = rounded num den * 2 ^ unitExponent num den := by
  obtain ⟨hlow, -, -⟩ := unitExponent_spec hnum hden
  rw [ofRatio_eq negative hnum hden, min_eq_left hfin.le, magnitude_withSign negative hfin
    (rounded_le hnum hden)]
  · congr 2
    omega
  · by_cases hu : unitExponent num den = -1074
    · exact .inl (by omega)
    · exact .inr (le_rounded hnum hden hu)

theorem isInfinite_withSign_iff (negative : Bool) {n : ℕ} (hn : n ≤ infinityBits) :
    (withSign negative n).isInfinite = true ↔ n = infinityBits := by
  have hinf : infinityBits = 2047 * 2 ^ 52 := rfl
  have hlt : n < 2 ^ 63 := by omega
  unfold isInfinite
  rw [exponentField_withSign negative hlt, fraction_withSign negative hlt]
  simp only [Bool.and_eq_true, beq_iff_eq]
  omega

theorem ofRatio_zero (negative : Bool) (den : ℕ) : ofRatio negative 0 den = zero negative := by
  simp [ofRatio]

/-- Half a last place above the largest number: what is not below it is rounded to infinity. -/
def limit : ℚ := (2 ^ 53 - 1 / 2) * 2 ^ (971 : ℤ)

/-- **What is rounded to infinity lies beyond the largest number by at least half its last
place.** -/
theorem le_of_isInfinite_ofRatio {negative : Bool} {num den : ℕ} (hden : 0 < den)
    (h : (ofRatio negative num den).isInfinite = true) : limit ≤ num / den := by
  have hnum : 0 < num := by
    refine Nat.pos_of_ne_zero fun hzero => ?_
    rw [hzero, ofRatio_zero] at h
    cases negative <;> cases h
  obtain ⟨hlow, -, hnorm⟩ := unitExponent_spec hnum hden
  have hround := rounded_le hnum hden
  have hinf : infinityBits = 2047 * 2 ^ 52 := rfl
  rw [ofRatio_eq negative hnum hden, isInfinite_withSign_iff negative (min_le_right _ _),
    min_eq_right_iff] at h
  rcases lt_trichotomy (unitExponent num den) 971 with hu | hu | hu
  · -- too small, even if the rounding carries
    omega
  · have hle : 2 ^ 53 ≤ rounded num den := by omega
    have hhalf := rounded_le_half num hden
    have hcast : (2 : ℚ) ^ 53 ≤ rounded num den := by exact_mod_cast hle
    rw [hu] at hhalf
    unfold limit
    rw [← le_div_iff₀ (by positivity)]
    linarith
  · have hle := hnorm.resolve_left (by omega)
    calc limit ≤ 2 ^ (53 : ℤ) * 2 ^ (971 : ℤ) := by
          unfold limit
          gcongr
          norm_num
      _ = 2 ^ (1024 : ℤ) := by rw [← zpow_add₀ two_ne_zero]; norm_num
      _ ≤ 2 ^ (unitExponent num den + 52) := zpow_le_zpow_right₀ one_le_two (by omega)
      _ ≤ num / den := hle

/-- A ratio that is not tiny is rounded up by at most half a unit in its 53rd place. -/
theorem magnitude_ofRatio_le (negative : Bool) {num den : ℕ} (hden : 0 < den)
    (hone : 1 ≤ (num / den : ℚ)) (hfin : (ofRatio negative num den).isInfinite = false) :
    (ofRatio negative num den).magnitude ≤ num / den * (1 + 1 / 2 ^ 53) := by
  have hnum : 0 < num := by
    rcases Nat.eq_zero_or_pos num with rfl | h
    · norm_num at hone
    · exact h
  obtain ⟨hlow, hlt, hnorm⟩ := unitExponent_spec hnum hden
  have hle : (2 : ℚ) ^ (unitExponent num den + 52) ≤ num / den := by
    refine hnorm.resolve_left fun hu => ?_
    rw [hu] at hlt
    have hsmall : (2 : ℚ) ^ (-1074 + 53 : ℤ) ≤ 1 := zpow_le_one_of_nonpos₀ one_le_two (by norm_num)
    exact absurd hlt (not_lt.2 (hsmall.trans hone))
  have hbits : (unitExponent num den + 1074).toNat * 2 ^ 52 + rounded num den < infinityBits := by
    by_contra hge
    rw [ofRatio_eq negative hnum hden, min_eq_right (not_lt.1 hge),
      (isInfinite_withSign_iff negative le_rfl).2 rfl] at hfin
    cases hfin
  have hpos : (0 : ℚ) < 2 ^ unitExponent num den := by positivity
  have hhalf := rounded_le_half num hden
  rw [magnitude_ofRatio negative hnum hden hbits]
  calc (rounded num den : ℚ) * 2 ^ unitExponent num den
      ≤ (num / den / 2 ^ unitExponent num den + 1 / 2) * 2 ^ unitExponent num den := by gcongr
    _ = num / den + 2 ^ (unitExponent num den + 52) / 2 ^ 53 := by
        rw [zpow_add₀ two_ne_zero]
        field_simp
    _ ≤ num / den + num / den / 2 ^ 53 := by gcongr
    _ = num / den * (1 + 1 / 2 ^ 53) := by ring

theorem toRatio_div (x : Binary64) : (x.toRatio.1 / x.toRatio.2 : ℚ) = x.magnitude := by
  unfold toRatio magnitude
  split
  · next h =>
    obtain ⟨k, hk⟩ := Int.eq_ofNat_of_zero_le h
    rw [hk]
    simp
  · next h =>
    obtain ⟨k, hk⟩ := Int.eq_ofNat_of_zero_le (by omega : 0 ≤ -x.scale)
    have hscale : x.scale = -(k : ℤ) := by omega
    rw [hscale]
    simp [div_eq_mul_inv]

theorem toRatio_pos (x : Binary64) : 0 < x.toRatio.2 := by
  unfold toRatio
  split
  · exact Nat.one_pos
  · exact Nat.pow_pos (by decide)

end Sidecar.Binary64

namespace Sidecar.Decimal

theorem onGrid_div (num den : ℕ) (g : ℤ) :
    ((onGrid num den g).1 : ℚ) / (onGrid num den g).2 = num / den / 10 ^ g := by
  unfold onGrid
  split
  · next hg =>
    obtain ⟨k, rfl⟩ := Int.eq_ofNat_of_zero_le hg
    simp [div_div]
  · next hg =>
    obtain ⟨k, hk⟩ := Int.eq_ofNat_of_zero_le (by omega : 0 ≤ -g)
    have hg' : g = -(k : ℤ) := by omega
    subst hg'
    simp [div_eq_mul_inv]
    ring

theorem onGrid_pos {num den : ℕ} (hden : 0 < den) (g : ℤ) : 0 < (onGrid num den g).2 := by
  unfold onGrid
  split
  · exact Nat.mul_pos hden (Nat.pow_pos (by decide))
  · exact hden

theorem onGrid_snd (num num' den : ℕ) (g : ℤ) : (onGrid num den g).2 = (onGrid num' den g).2 := by
  unfold onGrid
  split <;> rfl

/-- The value of a decimal. -/
def Scientific.value (s : Scientific) : ℚ := s.digits * 10 ^ s.exponent

theorem Interval.le_of_holds {i : Interval} (hden : 0 < i.den) {d : ℕ} {g : ℤ}
    (h : i.holds d g = true) : (d : ℚ) * 10 ^ g ≤ i.high / i.den := by
  have hle : d * (onGrid i.low i.den g).2 ≤ (onGrid i.high i.den g).1 := by
    unfold Interval.holds at h
    dsimp only at h
    split at h
    · simp only [Bool.and_eq_true, decide_eq_true_eq] at h
      exact h.2
    · simp only [Bool.and_eq_true, decide_eq_true_eq] at h
      exact h.2.le
  rw [onGrid_snd i.low i.high] at hle
  have hpos : (0 : ℚ) < (onGrid i.high i.den g).2 := by exact_mod_cast onGrid_pos hden g
  have hten : (0 : ℚ) < 10 ^ g := by positivity
  rw [← le_div_iff₀ hten, ← onGrid_div, le_div_iff₀ hpos]
  exact_mod_cast hle

theorem Interval.pos_of_holds {i : Interval} (hlow : 0 < i.low) {d : ℕ} {g : ℤ}
    (h : i.holds d g = true) : 0 < d := by
  have hpos : 0 < (onGrid i.low i.den g).1 := by
    unfold onGrid
    split
    · exact hlow
    · exact Nat.mul_pos hlow (Nat.pow_pos (by decide))
  unfold Interval.holds at h
  dsimp only at h
  rcases Nat.eq_zero_or_pos d with rfl | hd
  · split at h
    · simp at h
      omega
    · simp at h
  · exact hd

theorem Interval.holds_of_nearest {i : Interval} {g : ℤ} {s : Scientific}
    (h : i.nearest g = some s) : i.holds s.digits s.exponent = true := by
  unfold Interval.nearest at h
  dsimp only at h
  split at h
  · next h1 h2 =>
    split at h <;> cases h
    · exact h2
    · exact h1
  · next h1 _ =>
    cases h
    exact h1
  · next _ h2 =>
    cases h
    exact h2
  · cases h

theorem Scientific.strip_spec (fuel : ℕ) (s : Scientific) (hs : 0 < s.digits) :
    (s.strip fuel).value = s.value ∧ 0 < (s.strip fuel).digits := by
  induction fuel generalizing s with
  | zero => exact ⟨rfl, hs⟩
  | succ fuel ih =>
    rw [Scientific.strip]
    split
    · next h =>
      simp only [Bool.and_eq_true, bne_iff_ne, ne_eq, beq_iff_eq] at h
      obtain ⟨k, hk⟩ := Nat.dvd_of_mod_eq_zero h.2
      have hdiv : s.digits / 10 = k := by omega
      obtain ⟨hvalue, hpos⟩ := ih ⟨s.digits / 10, s.exponent + 1⟩ (by show 0 < s.digits / 10; omega)
      refine ⟨hvalue.trans ?_, hpos⟩
      show ((s.digits / 10 : ℕ) : ℚ) * 10 ^ (s.exponent + 1) = s.digits * 10 ^ s.exponent
      rw [hdiv, hk, zpow_add₀ (by norm_num)]
      push_cast
      ring
    · exact ⟨rfl, hs⟩

/-- The power of two of an interval, as a ratio. -/
theorem Interval.of_cases (x : Binary64) : ∃ up den : ℕ, 0 < up ∧ 0 < den ∧
    (up / den : ℚ) = 2 ^ (x.scale - 2) ∧ (Interval.of x).den = den ∧
    (Interval.of x).mid = 4 * x.significand * up ∧
    (Interval.of x).high = (4 * x.significand + 2) * up ∧
    ∃ below, below ≤ 2 ∧ (Interval.of x).low = (4 * x.significand - below) * up := by
  have hbelow : (if x.significand == Nat.pow 2 52 && x.scale != -1074 then 1 else 2) ≤ 2 := by
    split <;> omega
  by_cases hq : 0 ≤ x.scale - 2
  · obtain ⟨k, hk⟩ := Int.eq_ofNat_of_zero_le hq
    have hof : Interval.of x = ⟨(4 * x.significand -
        if x.significand == Nat.pow 2 52 && x.scale != -1074 then 1 else 2) * Nat.pow 2 k,
        4 * x.significand * Nat.pow 2 k, (4 * x.significand + 2) * Nat.pow 2 k, 1,
        x.significand % 2 == 0⟩ := by
      unfold Interval.of
      simp only [hk, Int.natCast_nonneg, ↓reduceIte, Int.toNat_natCast]
    rw [hof, hk]
    exact ⟨Nat.pow 2 k, 1, Nat.pow_pos (by decide), Nat.one_pos, by simp, rfl, rfl, rfl, _, hbelow, rfl⟩
  · obtain ⟨k, hk⟩ := Int.eq_ofNat_of_zero_le (by omega : 0 ≤ -(x.scale - 2))
    have hof : Interval.of x = ⟨(4 * x.significand -
        if x.significand == Nat.pow 2 52 && x.scale != -1074 then 1 else 2) * 1,
        4 * x.significand * 1, (4 * x.significand + 2) * 1, Nat.pow 2 k,
        x.significand % 2 == 0⟩ := by
      unfold Interval.of
      simp only [hq, hk, ↓reduceIte, Int.toNat_natCast]
    have hscale : x.scale - 2 = -(k : ℤ) := by omega
    rw [hof, hscale]
    exact ⟨1, Nat.pow 2 k, Nat.one_pos, Nat.pow_pos (by decide), by simp, rfl, rfl, rfl, _, hbelow, rfl⟩

theorem Interval.high_of (x : Binary64) :
    0 < (Interval.of x).den ∧
      ((Interval.of x).high / (Interval.of x).den : ℚ) = (x.significand + 1 / 2) * 2 ^ x.scale := by
  obtain ⟨up, den, -, hden, hpow, hd, -, hhigh, -⟩ := Interval.of_cases x
  rw [hd, hhigh]
  refine ⟨hden, ?_⟩
  calc (((4 * x.significand + 2) * up : ℕ) / den : ℚ)
      = (4 * x.significand + 2) * (up / den) := by push_cast; ring
    _ = (x.significand + 1 / 2) * 2 ^ x.scale := by
      rw [hpow, zpow_sub₀ two_ne_zero]
      norm_num
      ring

/-- **The shortest decimal is at most half a last place above the number**, and if it has no digit
but zero it has no exponent. -/
theorem shortest_spec (x : Binary64) :
    (shortest x).value ≤ (x.significand + 1 / 2) * 2 ^ x.scale ∧
      ((shortest x).digits = 0 → (shortest x).exponent = 0) := by
  obtain ⟨hden, hhigh⟩ := Interval.high_of x
  unfold shortest
  split
  · refine ⟨?_, fun _ => rfl⟩
    have hzero : Scientific.value ⟨0, 0⟩ = 0 := by simp [Scientific.value]
    rw [hzero]
    positivity
  · next hsig =>
    have hsig' : 0 < x.significand := by
      simp only [beq_iff_eq] at hsig
      omega
    dsimp only
    split
    · next s hs =>
      obtain ⟨g, -, hg⟩ := List.exists_of_findSome?_eq_some hs
      have hholds := Interval.holds_of_nearest hg
      have hlow : 0 < (Interval.of x).low := by
        obtain ⟨up, -, hup, -, -, -, -, -, below, hbelow, hlow⟩ := Interval.of_cases x
        rw [hlow]
        exact Nat.mul_pos (by omega) hup
      obtain ⟨hvalue, hpos⟩ := s.strip_spec 20 (Interval.pos_of_holds hlow hholds)
      refine ⟨?_, fun h => by omega⟩
      rw [hvalue, ← hhigh]
      exact Interval.le_of_holds hden hholds
    · refine ⟨?_, fun _ => rfl⟩
      obtain ⟨up, den, -, hden, -, hd, hmid, hh, -⟩ := Interval.of_cases x
      have hle : ((Interval.of x).mid / (Interval.of x).den : ℕ) ≤
          ((Interval.of x).high / (Interval.of x).den : ℚ) := by
        refine Nat.cast_div_le.trans ?_
        rw [hmid, hh, hd]
        gcongr
        omega
      rw [← hhigh]
      simpa [Scientific.value] using hle

end Sidecar.Decimal
