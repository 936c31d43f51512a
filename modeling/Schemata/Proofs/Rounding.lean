import Mathlib.Algebra.Order.Field.Power
import Mathlib.Tactic.Linarith
import Mathlib.Tactic.FieldSimp
import Mathlib.Tactic.Positivity
import Mathlib.Tactic.Ring
import Schemata.Number.Shortest

/-!
Reading a rational into a binary format gives back every datum whose rounding interval holds it.

`BinaryFloat.ofRatio` finds the binade of `num / den` from the bit lengths, rounds at the larger
of that binade's last bit and the subnormal one, half to even, and carries a significand that
rounds up to `2 ^ precision` into the next binade. Its three steps get a specification each:
`floorLog2Ratio` is the binary logarithm, `roundHalfEven` the nearest integer with ties to
even, `scaleByTwoPow` a division by a power of two. A datum's rounding interval
(`RoundingInterval.ofDatum`) is read in the rationals by `RoundingInterval.Holds`.

Main statement: for a finite non-zero datum `x` that fits its format, `ofRatio` of any ratio
its rounding interval holds is `x` (`BinaryFloat.ofRatio_of_holds`). Shortest printing relies
on this, as a decimal admitted by the interval is read back by way of `ofRatio`.
-/

namespace Schemata

section Steps

theorem two_zpow_natCast_sub (a b : ℕ) : (2 : ℚ) ^ ((a : ℤ) - b) = 2 ^ a / 2 ^ b := by
  rw [zpow_sub₀ two_ne_zero, zpow_natCast, zpow_natCast]

theorem div_two_zpow_sub_one (q : ℚ) (e : ℤ) : q / 2 ^ (e - 1) = 2 * (q / 2 ^ e) := by
  rw [zpow_sub_one₀ two_ne_zero]
  field_simp

-- Both branches compare `num / den` with `2 ^ k`, each without leaving the naturals.
theorem floorLog2Ratio_test (num : ℕ) {den : ℕ} (hd : 0 < den) (k : ℤ) :
    (if 0 ≤ k then den * 2 ^ k.toNat ≤ num else den ≤ num * 2 ^ (-k).toNat) ↔
      (2 : ℚ) ^ k ≤ num / den := by
  have den_pos : (0 : ℚ) < den := by exact_mod_cast hd
  rw [le_div_iff₀ den_pos]
  split
  · rename_i nonneg
    have pow : (2 : ℚ) ^ k = 2 ^ k.toNat := by
      rw [← zpow_natCast, Int.toNat_of_nonneg nonneg]
    have cast : ((den * 2 ^ k.toNat : ℕ) : ℚ) = 2 ^ k.toNat * den := by push_cast; ring
    rw [pow, ← cast, Nat.cast_le]
  · rename_i negative
    have pow : (2 : ℚ) ^ k = 1 / 2 ^ (-k).toNat := by
      rw [← zpow_natCast, Int.toNat_of_nonneg (by omega), zpow_neg, one_div, inv_inv]
    have cast : ((num * 2 ^ (-k).toNat : ℕ) : ℚ) = num * 2 ^ (-k).toNat := by push_cast; ring
    rw [pow, div_mul_eq_mul_div, one_mul, div_le_iff₀ (by positivity), ← cast, Nat.cast_le]

theorem floorLog2Ratio_eq (num : ℕ) {den : ℕ} (hd : 0 < den) :
    floorLog2Ratio num den =
      let k : ℤ := (num.log2 : ℤ) - den.log2
      if (2 : ℚ) ^ k ≤ num / den then k else k - 1 := by
  have test := floorLog2Ratio_test num hd ((num.log2 : ℤ) - den.log2)
  have unfolded : floorLog2Ratio num den =
      if (if 0 ≤ (num.log2 : ℤ) - den.log2 then den * 2 ^ ((num.log2 : ℤ) - den.log2).toNat ≤ num
          else den ≤ num * 2 ^ (-((num.log2 : ℤ) - den.log2)).toNat)
      then (num.log2 : ℤ) - den.log2 else (num.log2 : ℤ) - den.log2 - 1 := by
    simp only [floorLog2Ratio]
    split_ifs <;> rfl
  rw [unfolded]
  exact if_congr test rfl rfl

theorem floorLog2Ratio_spec {num den : ℕ} (hn : 0 < num) (hd : 0 < den) :
    (2 : ℚ) ^ floorLog2Ratio num den ≤ num / den ∧
      (num / den : ℚ) < 2 ^ (floorLog2Ratio num den + 1) := by
  have lowNum : (2 : ℚ) ^ num.log2 ≤ num := by exact_mod_cast Nat.log2_self_le hn.ne'
  have highNum : (num : ℚ) < 2 ^ (num.log2 + 1) := by exact_mod_cast Nat.lt_log2_self
  have lowDen : (2 : ℚ) ^ den.log2 ≤ den := by exact_mod_cast Nat.log2_self_le hd.ne'
  have highDen : (den : ℚ) < 2 ^ (den.log2 + 1) := by exact_mod_cast Nat.lt_log2_self
  have den_pos : (0 : ℚ) < den := by exact_mod_cast hd
  -- the bit lengths place the ratio strictly within a factor of two of `2 ^ k`
  have above : (2 : ℚ) ^ ((num.log2 : ℤ) - den.log2 - 1) < num / den := by
    have split : (num.log2 : ℤ) - den.log2 - 1 = (num.log2 : ℤ) - ((den.log2 + 1 : ℕ) : ℤ) := by
      push_cast; ring
    rw [split, two_zpow_natCast_sub, div_lt_div_iff₀ (by positivity) den_pos]
    calc (2 : ℚ) ^ num.log2 * den < 2 ^ num.log2 * 2 ^ (den.log2 + 1) := by gcongr
      _ ≤ num * 2 ^ (den.log2 + 1) := by gcongr
  have below : (num / den : ℚ) < 2 ^ ((num.log2 : ℤ) - den.log2 + 1) := by
    have split : (num.log2 : ℤ) - den.log2 + 1 = ((num.log2 + 1 : ℕ) : ℤ) - (den.log2 : ℤ) := by
      push_cast; ring
    rw [split, two_zpow_natCast_sub, div_lt_div_iff₀ den_pos (by positivity)]
    calc (num : ℚ) * 2 ^ den.log2 < 2 ^ (num.log2 + 1) * 2 ^ den.log2 := by gcongr
      _ ≤ 2 ^ (num.log2 + 1) * den := by gcongr
  rw [floorLog2Ratio_eq num hd]
  dsimp only
  split
  · rename_i reached
    exact ⟨reached, below⟩
  · rename_i short
    rw [sub_add_cancel]
    exact ⟨above.le, lt_of_not_ge short⟩

-- In the naturals: `(2m - 1) den ≤ 2 num ≤ (2m + 1) den`, meeting an end only for even `m`.
theorem roundHalfEven_of_bounds {num den m : ℕ} (hd : 0 < den)
    (low : 2 * m * den ≤ 2 * num + den) (high : 2 * num ≤ (2 * m + 1) * den)
    (tie : 2 * m * den = 2 * num + den ∨ 2 * num = (2 * m + 1) * den → m % 2 = 0) :
    roundHalfEven num den = m := by
  have parts := Nat.div_add_mod num den
  have rem := Nat.mod_lt num hd
  unfold roundHalfEven
  dsimp only
  generalize num / den = q at parts ⊢
  generalize num % den = r at parts rem ⊢
  subst parts
  -- the quotient is `m` or one less
  have atMost : q ≤ m := by
    have twice : 2 * q * den ≤ (2 * m + 1) * den := by nlinarith
    have := Nat.le_of_mul_le_mul_right twice hd
    omega
  have atLeast : m ≤ q + 1 := by
    have twice : 2 * m * den < (2 * q + 3) * den := by nlinarith
    have := Nat.lt_of_mul_lt_mul_right twice
    omega
  rcases (by omega : m = q ∨ m = q + 1) with same | next
  · -- then `2 r ≤ den`, and at `2 r = den` the tie is at the upper end
    subst same
    have half : 2 * r ≤ den := by nlinarith
    split_ifs with below above even
    · rfl
    · omega
    · rfl
    · have := tie (.inr (by nlinarith))
      omega
  · -- then `den ≤ 2 r`, and at `2 r = den` the tie is at the lower end
    subst next
    have half : den ≤ 2 * r := by nlinarith
    split_ifs with below above even
    · omega
    · rfl
    · have := tie (.inl (by nlinarith))
      omega
    · rfl

/-- `roundHalfEven` gives `m` when `num / den` lies within a half of `m`, and exactly at a half
only when `m` is even. -/
theorem roundHalfEven_eq {num den m : ℕ} (hd : 0 < den)
    (low : (m : ℚ) - 1 / 2 ≤ num / den) (high : (num / den : ℚ) ≤ m + 1 / 2)
    (tie : (num / den : ℚ) = m - 1 / 2 ∨ (num / den : ℚ) = m + 1 / 2 → m % 2 = 0) :
    roundHalfEven num den = m := by
  have den_pos : (0 : ℚ) < den := by exact_mod_cast hd
  have low' : 2 * m * den ≤ 2 * num + den := by
    rw [le_div_iff₀ den_pos] at low
    have scaled : (2 * m * den : ℚ) ≤ 2 * num + den := by linarith
    exact_mod_cast scaled
  have high' : 2 * num ≤ (2 * m + 1) * den := by
    rw [div_le_iff₀ den_pos] at high
    have scaled : (2 * num : ℚ) ≤ (2 * m + 1) * den := by linarith
    exact_mod_cast scaled
  refine roundHalfEven_of_bounds hd low' high' fun exact => tie ?_
  rcases exact with lowEnd | highEnd
  · have scaled : (2 * m * den : ℚ) = 2 * num + den := by exact_mod_cast lowEnd
    left
    field_simp
    linarith
  · have scaled : (2 * num : ℚ) = (2 * m + 1) * den := by exact_mod_cast highEnd
    right
    field_simp
    linarith

theorem scaleByTwoPow_den_pos {num den : ℕ} (hd : 0 < den) (e : ℤ) :
    0 < (scaleByTwoPow num den e).2 := by
  unfold scaleByTwoPow
  split <;> positivity

theorem scaleByTwoPow_ratio (num den : ℕ) (e : ℤ) :
    ((scaleByTwoPow num den e).1 : ℚ) / (scaleByTwoPow num den e).2 = num / den / 2 ^ e := by
  unfold scaleByTwoPow
  split
  · rename_i nonneg
    have pow : (2 : ℚ) ^ e = 2 ^ e.toNat := by rw [← zpow_natCast, Int.toNat_of_nonneg nonneg]
    push_cast
    rw [pow, div_div]
  · rename_i negative
    have pow : (2 : ℚ) ^ e = (2 ^ (-e).toNat)⁻¹ := by
      rw [← zpow_natCast, Int.toNat_of_nonneg (by omega), zpow_neg, inv_inv]
    push_cast
    rw [pow, div_inv_eq_mul, mul_div_right_comm]

end Steps

namespace BinaryFloat

variable {fmt : BinaryFormat}

/-- A datum whose bit pattern fits the format's width. -/
def WellFormed (x : BinaryFloat fmt) : Prop := x.bits < 2 ^ (fmt.signPosition + 1)

theorem fraction_lt (x : BinaryFloat fmt) : x.fraction < 2 ^ fmt.fractionBits :=
  Nat.mod_lt _ (by positivity)

theorem field_lt (x : BinaryFloat fmt) : x.field < 2 ^ fmt.exponentBits :=
  Nat.mod_lt _ (by positivity)

-- The sign, the exponent field and the fraction make up the pattern.
theorem eq_ofFields {x : BinaryFloat fmt} (hx : x.WellFormed) :
    x = ofFields x.negative x.field x.fraction := by
  obtain ⟨bits⟩ := x
  simp only [WellFormed] at hx
  simp only [ofFields, negative, field, fraction, BinaryFloat.mk.injEq]
  have low := Nat.div_add_mod bits (2 ^ fmt.fractionBits)
  have mid := Nat.div_add_mod (bits / 2 ^ fmt.fractionBits) (2 ^ fmt.exponentBits)
  have top : bits / 2 ^ fmt.fractionBits / 2 ^ fmt.exponentBits = bits / 2 ^ fmt.signPosition := by
    rw [Nat.div_div_eq_div_mul, ← Nat.pow_add, BinaryFormat.signPosition]
  have signPow : 2 ^ fmt.signPosition = 2 ^ fmt.fractionBits * 2 ^ fmt.exponentBits := by
    rw [BinaryFormat.signPosition, Nat.pow_add]
  have sign : bits / 2 ^ fmt.signPosition < 2 := by
    rw [Nat.div_lt_iff_lt_mul (by positivity)]
    rw [Nat.pow_succ] at hx
    omega
  rw [top] at mid
  -- the sign bit is the quotient by `2 ^ signPosition`, zero or one
  obtain positive | negative :
      bits / 2 ^ fmt.signPosition = 0 ∨ bits / 2 ^ fmt.signPosition = 1 := by
    generalize bits / 2 ^ fmt.signPosition = s at sign
    omega
  · rw [positive] at mid
    simp only [positive, Nat.zero_mod, beq_iff_eq, zero_ne_one, ↓reduceIte, Nat.zero_add]
    rw [← mid] at low
    linarith
  · rw [negative] at mid
    simp only [negative, Nat.one_mod, beq_self_eq_true, ↓reduceIte]
    rw [← mid] at low
    rw [signPow]
    linarith

theorem field_lt_topField_of_ne {x : BinaryFloat fmt} (notTop : x.field ≠ fmt.topField) :
    x.field < fmt.topField := by
  have below := x.field_lt
  have top : fmt.topField = 2 ^ fmt.exponentBits - 1 := rfl
  omega

/-- What a finite datum is: a subnormal one has field zero, its fraction as significand and the
least exponent; a normal one a field below the top, the hidden bit and the field's exponent. -/
theorem classify_eq_finite {x : BinaryFloat fmt} {negative : Bool} {m : ℕ} {e : ℤ}
    (finite : x.classify = .finite negative m e) :
    negative = x.negative ∧ x.field < fmt.topField ∧
      ((x.field = 0 ∧ m = x.fraction ∧ e = fmt.minExponent) ∨
       (0 < x.field ∧ m = 2 ^ fmt.fractionBits + x.fraction ∧
        e = (x.field : ℤ) - fmt.bias - fmt.fractionBits)) := by
  unfold classify at finite
  split_ifs at finite with top empty bottom
  · cases finite
    exact ⟨rfl, field_lt_topField_of_ne top, .inl ⟨bottom, rfl, rfl⟩⟩
  · cases finite
    exact ⟨rfl, field_lt_topField_of_ne top, .inr ⟨Nat.pos_of_ne_zero bottom, rfl, rfl⟩⟩

section Finite

variable {x : BinaryFloat fmt} {negative : Bool} {m : ℕ} {e : ℤ}
  (finite : x.classify = .finite negative m e)
include finite

theorem significand_lt_of_finite : m < 2 ^ (fmt.fractionBits + 1) := by
  have small := x.fraction_lt
  rw [Nat.pow_succ]
  obtain ⟨-, -, ⟨-, rfl, -⟩ | ⟨-, rfl, -⟩⟩ := classify_eq_finite finite <;> omega

theorem minExponent_le_of_finite : fmt.minExponent ≤ e := by
  obtain ⟨-, -, ⟨-, -, rfl⟩ | ⟨positive, -, rfl⟩⟩ := classify_eq_finite finite
  · exact le_refl _
  · simp only [BinaryFormat.minExponent]
    omega

theorem exponent_of_subnormal (small : m < 2 ^ fmt.fractionBits) : e = fmt.minExponent := by
  obtain ⟨-, -, ⟨-, -, rfl⟩ | ⟨-, rfl, -⟩⟩ := classify_eq_finite finite
  · rfl
  · omega

-- Encoding a datum's own significand and exponent gives the datum back.
theorem encode_of_finite (hx : x.WellFormed) : encode negative m e = x := by
  obtain ⟨rfl, belowTop, ⟨bottom, rfl, rfl⟩ | ⟨-, rfl, rfl⟩⟩ := classify_eq_finite finite
  · have shape := eq_ofFields hx
    rw [bottom] at shape
    rw [encode, if_pos x.fraction_lt]
    exact shape.symm
  · have notSmall : ¬ 2 ^ fmt.fractionBits + x.fraction < 2 ^ fmt.fractionBits := by omega
    have field : (x.field : ℤ) - fmt.bias - fmt.fractionBits + fmt.bias + fmt.fractionBits =
        x.field := by ring
    have inRange : ¬ (fmt.topField : ℤ) ≤ x.field := by omega
    rw [encode, if_neg notSmall]
    simp only [field, inRange, if_false, Int.toNat_natCast, Nat.add_sub_cancel_left]
    exact (eq_ofFields hx).symm

theorem zero_of_finite (hx : x.WellFormed) (nothing : m = 0) : zero negative = x := by
  obtain ⟨rfl, -, ⟨bottom, rfl, -⟩ | ⟨-, rfl, -⟩⟩ := classify_eq_finite finite
  · have shape := eq_ofFields hx
    rw [bottom, nothing] at shape
    exact shape.symm
  · have := Nat.one_le_two_pow (n := fmt.fractionBits)
    omega

end Finite

theorem infinity_of_infinite {x : BinaryFloat fmt} {negative : Bool} (hx : x.WellFormed)
    (infinite : x.classify = .infinite negative) : infinity negative = x := by
  unfold classify at infinite
  split_ifs at infinite with top empty
  cases infinite
  have shape := eq_ofFields hx
  rw [top, empty] at shape
  exact shape.symm

end BinaryFloat

namespace RoundingInterval

/-- Whether the interval holds the rational `q`: `4 q / 2 ^ e` lies between the ends, which
count when the significand is even. -/
def Holds (r : RoundingInterval) (q : ℚ) : Prop :=
  if r.inclusive then (r.lower : ℚ) ≤ 4 * q / 2 ^ r.exponent ∧ 4 * q / 2 ^ r.exponent ≤ r.upper
  else (r.lower : ℚ) < 4 * q / 2 ^ r.exponent ∧ 4 * q / 2 ^ r.exponent < r.upper

variable {fmt : BinaryFormat} {m : ℕ} {e : ℤ} {q : ℚ}

theorem Holds.bounds {r : RoundingInterval} (holds : r.Holds q) :
    (r.lower : ℚ) ≤ 4 * q / 2 ^ r.exponent ∧ 4 * q / 2 ^ r.exponent ≤ r.upper := by
  unfold Holds at holds
  split at holds
  · exact holds
  · exact ⟨holds.1.le, holds.2.le⟩

theorem Holds.strict {r : RoundingInterval} (holds : r.Holds q) (odd : r.inclusive = false) :
    (r.lower : ℚ) < 4 * q / 2 ^ r.exponent ∧ 4 * q / 2 ^ r.exponent < r.upper := by
  unfold Holds at holds
  simpa [odd] using holds

@[simp] theorem ofDatum_exponent : (ofDatum fmt m e).exponent = e := rfl

-- The ends of a datum's interval, in quarters of its last bit.
theorem ofDatum_lower (positive : 0 < m) :
    ((ofDatum fmt m e).lower : ℚ) =
      if m = 2 ^ fmt.fractionBits ∧ fmt.minExponent < e then (4 * m - 1 : ℚ) else 4 * m - 2 := by
  simp only [ofDatum]
  split_ifs
  · rw [Nat.cast_sub (by omega)]
    push_cast
    ring
  · rw [Nat.cast_sub (by omega)]
    push_cast
    ring

theorem ofDatum_upper : ((ofDatum fmt m e).upper : ℚ) = 4 * m + 2 := by
  simp only [ofDatum]
  push_cast
  ring

/-- A rational in a datum's rounding interval is within half a last bit of the datum, and at
exactly half only when the significand is even. -/
theorem Holds.near (positive : 0 < m) (holds : (ofDatum fmt m e).Holds q) :
    (m : ℚ) - 1 / 2 ≤ q / 2 ^ e ∧ q / 2 ^ e ≤ m + 1 / 2 ∧
      (q / 2 ^ e = m - 1 / 2 ∨ q / 2 ^ e = m + 1 / 2 → m % 2 = 0) := by
  have scaled : 4 * q / 2 ^ e = 4 * (q / 2 ^ e) := mul_div_assoc _ _ _
  obtain ⟨low, high⟩ := holds.bounds
  rw [ofDatum_upper, ofDatum_exponent, scaled] at high
  rw [ofDatum_exponent, scaled] at low
  have lowest : (4 * m - 2 : ℚ) ≤ (ofDatum fmt m e).lower := by
    rw [ofDatum_lower positive]
    split_ifs <;> linarith
  refine ⟨by linarith, by linarith, ?_⟩
  intro atHalf
  by_contra odd
  -- an odd significand leaves both ends out
  have strict := holds.strict (by simpa [ofDatum] using odd)
  rw [ofDatum_upper, ofDatum_exponent, scaled] at strict
  rcases atHalf with atLow | atHigh
  · rw [atLow] at strict
    linarith [strict.1]
  · rw [atHigh] at strict
    linarith [strict.2]

-- At the bottom of a binade the next datum down is half as far.
theorem Holds.closer (positive : 0 < m) (holds : (ofDatum fmt m e).Holds q)
    (closer : m = 2 ^ fmt.fractionBits ∧ fmt.minExponent < e) :
    (m : ℚ) - 1 / 4 ≤ q / 2 ^ e := by
  obtain ⟨low, -⟩ := holds.bounds
  rw [ofDatum_lower positive, if_pos closer, ofDatum_exponent, mul_div_assoc] at low
  linarith

end RoundingInterval

namespace BinaryFloat

variable {fmt : BinaryFormat}

/-- The exponent at which `ofRatio` rounds `num / den` is `e` when the ratio over `2 ^ e` lies
below `2 ^ (F + 1)` and, unless `e` is the least exponent, at least `2 ^ F`. -/
theorem quantum_eq {num den : ℕ} (hn : 0 < num) (hd : 0 < den) {e : ℤ}
    (floor : fmt.minExponent ≤ e)
    (low : fmt.minExponent < e → (2 : ℚ) ^ fmt.fractionBits ≤ num / den / 2 ^ e)
    (high : (num / den : ℚ) / 2 ^ e < 2 ^ (fmt.fractionBits + 1)) :
    max (floorLog2Ratio num den - fmt.fractionBits) fmt.minExponent = e := by
  obtain ⟨atLeast, below⟩ := floorLog2Ratio_spec hn hd
  have scale : ∀ k : ℕ, (2 : ℚ) ^ (e + k) = 2 ^ k * 2 ^ e := fun k => by
    rw [zpow_add₀ two_ne_zero, zpow_natCast, mul_comm]
  have power : (0 : ℚ) < 2 ^ e := zpow_pos two_pos e
  have notAbove : floorLog2Ratio num den < e + (fmt.fractionBits + 1 : ℕ) := by
    apply (zpow_lt_zpow_iff_right₀ (one_lt_two : (1 : ℚ) < 2)).mp
    rw [scale, ← div_lt_iff₀ power]
    exact lt_of_le_of_lt (div_le_div_of_nonneg_right atLeast power.le) high
  rcases floor.lt_or_eq with above | least
  · have notBelow : e + (fmt.fractionBits : ℕ) < floorLog2Ratio num den + 1 := by
      apply (zpow_lt_zpow_iff_right₀ (one_lt_two : (1 : ℚ) < 2)).mp
      rw [scale]
      exact lt_of_le_of_lt ((le_div_iff₀ power).mp (low above)) below
    omega
  · omega

theorem ofRatio_at_quantum (negative : Bool) {num den : ℕ} (hn : 0 < num) (hd : 0 < den) {e : ℤ}
    (quantum : max (floorLog2Ratio num den - fmt.fractionBits) fmt.minExponent = e) :
    (ofRatio negative num den : BinaryFloat fmt) =
      if roundHalfEven (scaleByTwoPow num den e).1 (scaleByTwoPow num den e).2 = 2 ^ fmt.precision
      then encode negative (2 ^ fmt.fractionBits) (e + 1)
      else encode negative (roundHalfEven (scaleByTwoPow num den e).1 (scaleByTwoPow num den e).2) e := by
  simp only [ofRatio, hn.ne', hd.ne', or_self, if_false, quantum]

section Holds

variable {x : BinaryFloat fmt} {negative : Bool} {m : ℕ} {e : ℤ}
  (hx : x.WellFormed) (finite : x.classify = .finite negative m e) {num den : ℕ}
  (hn : 0 < num) (hd : 0 < den)
include hx finite hn hd

-- Rounding at the datum's own exponent gives its significand back.
theorem ofRatio_at_own_quantum
    (quantum : max (floorLog2Ratio num den - fmt.fractionBits) fmt.minExponent = e)
    (low : (m : ℚ) - 1 / 2 ≤ num / den / 2 ^ e) (high : (num / den : ℚ) / 2 ^ e ≤ m + 1 / 2)
    (tie : (num / den : ℚ) / 2 ^ e = m - 1 / 2 ∨ (num / den : ℚ) / 2 ^ e = m + 1 / 2 →
      m % 2 = 0) :
    ofRatio negative num den = x := by
  have rounded : roundHalfEven (scaleByTwoPow num den e).1 (scaleByTwoPow num den e).2 = m := by
    apply roundHalfEven_eq (scaleByTwoPow_den_pos hd e) <;> rw [scaleByTwoPow_ratio]
    · exact low
    · exact high
    · exact tie
  have notCarried : m ≠ 2 ^ fmt.precision := (significand_lt_of_finite finite).ne
  rw [ofRatio_at_quantum negative hn hd quantum, rounded, if_neg notCarried]
  exact encode_of_finite finite hx

-- Just below a binade, rounding one exponent lower carries into the datum's significand.
theorem ofRatio_below_binade (closer : m = 2 ^ fmt.fractionBits)
    (quantum : max (floorLog2Ratio num den - fmt.fractionBits) fmt.minExponent = e - 1)
    (low : (m : ℚ) - 1 / 4 ≤ num / den / 2 ^ e) (high : (num / den : ℚ) / 2 ^ e < m) :
    ofRatio negative num den = x := by
  have rounded : roundHalfEven (scaleByTwoPow num den (e - 1)).1
      (scaleByTwoPow num den (e - 1)).2 = 2 * m := by
    apply roundHalfEven_eq (scaleByTwoPow_den_pos hd (e - 1)) <;>
      rw [scaleByTwoPow_ratio, div_two_zpow_sub_one]
    · push_cast
      linarith
    · push_cast
      linarith
    · intro _
      omega
  have carried : 2 * m = 2 ^ fmt.precision := by
    rw [closer, BinaryFormat.precision, Nat.pow_succ, Nat.mul_comm]
  rw [ofRatio_at_quantum negative hn hd quantum, rounded, if_pos carried, sub_add_cancel,
    ← closer]
  exact encode_of_finite finite hx

end Holds

/-- Reading any ratio that the rounding interval of a finite non-zero datum holds gives the
datum. -/
theorem ofRatio_of_holds {x : BinaryFloat fmt} (hx : x.WellFormed) {negative : Bool} {m : ℕ}
    {e : ℤ} (finite : x.classify = .finite negative m e) (positive : 0 < m) {num den : ℕ}
    (hd : 0 < den) (holds : (RoundingInterval.ofDatum fmt m e).Holds (num / den)) :
    ofRatio negative num den = x := by
  obtain ⟨low, high, tie⟩ := holds.near positive
  have hn : 0 < num := by
    rcases Nat.eq_zero_or_pos num with zero | pos
    · have : (1 : ℚ) ≤ m := by exact_mod_cast positive
      rw [zero] at low
      simp only [Nat.cast_zero, zero_div] at low
      linarith
    · exact pos
  have small : (m : ℚ) + 1 / 2 < 2 ^ (fmt.fractionBits + 1) := by
    have below : m + 1 ≤ 2 ^ (fmt.fractionBits + 1) := significand_lt_of_finite finite
    have cast : ((m + 1 : ℕ) : ℚ) ≤ ((2 ^ (fmt.fractionBits + 1) : ℕ) : ℚ) := by
      exact_mod_cast below
    push_cast at cast
    linarith
  have floor := minExponent_le_of_finite finite
  by_cases lowerBinade : (num / den : ℚ) / 2 ^ e < 2 ^ fmt.fractionBits ∧ fmt.minExponent < e
  · -- below `2 ^ F` and above the least exponent: a normal datum at the bottom of its binade
    obtain ⟨under, above⟩ := lowerBinade
    have normal : 2 ^ fmt.fractionBits ≤ m := by
      by_contra subnormal
      have least := exponent_of_subnormal finite (by omega)
      omega
    have closer : m = 2 ^ fmt.fractionBits := by
      have cast : (2 : ℚ) ^ fmt.fractionBits ≤ m := by exact_mod_cast normal
      have notAbove : (m : ℚ) < 2 ^ fmt.fractionBits + 1 := by linarith
      have : m < 2 ^ fmt.fractionBits + 1 := by exact_mod_cast notAbove
      omega
    have nearer := holds.closer positive ⟨closer, above⟩
    have closerQ : (m : ℚ) = 2 ^ fmt.fractionBits := by rw [closer]; push_cast; rfl
    apply ofRatio_below_binade hx finite hn hd closer _ nearer (by rw [closerQ]; exact under)
    apply quantum_eq hn hd (by omega) <;> rw [div_two_zpow_sub_one]
    · intro _
      have : (1 : ℚ) ≤ 2 ^ fmt.fractionBits := one_le_pow₀ one_le_two
      linarith
    · rw [pow_succ]
      linarith
  · -- otherwise the datum's own exponent is the quantum
    apply ofRatio_at_own_quantum hx finite hn hd _ low high tie
    apply quantum_eq hn hd floor
    · intro above
      by_contra under
      exact lowerBinade ⟨lt_of_not_ge under, above⟩
    · linarith

end BinaryFloat

end Schemata
