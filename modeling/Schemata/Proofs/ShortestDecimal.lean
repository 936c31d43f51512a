import Mathlib.Tactic.LinearCombination
import Schemata.Proofs.Rounding

/-!
The shortest decimal of a datum lies in the datum's rounding interval.

`RoundingInterval.admits` compares a decimal with the interval in the naturals, both sides
scaled to clear the powers of ten and two; `admits_iff` says this is `RoundingInterval.Holds`
of the decimal's value. Every decimal a grid proposes passes that test, dropping trailing zeros
keeps the value, and the exact value that stands in when no grid has a decimal is the datum
itself. So whatever `shortestDecimal` returns reads back as the datum.
-/

namespace Schemata

namespace Decimal

/-- The rational a decimal stands for. -/
def value (d : Decimal) : ℚ := d.digits * 10 ^ d.exponent

theorem normalize_go_value (digits : ℕ) (exponent : ℤ) (fuel : ℕ) :
    (normalize.go digits exponent fuel).value = digits * 10 ^ exponent := by
  induction fuel generalizing digits exponent with
  | zero => rfl
  | succ fuel ih =>
    rw [normalize.go]
    split
    · rename_i trailing
      -- a trailing zero moves into the exponent
      have shifted : digits = digits / 10 * 10 :=
        (Nat.div_mul_cancel (Nat.dvd_of_mod_eq_zero trailing.2)).symm
      rw [ih]
      conv_rhs => rw [shifted]
      push_cast
      rw [zpow_add_one₀ (by norm_num)]
      ring
    · rfl

theorem value_normalize (d : Decimal) : d.normalize.value = d.value :=
  normalize_go_value _ _ _

end Decimal

theorem zpow_eq_toNat_div (b : ℚ) (k : ℤ) : b ^ k = b ^ k.toNat / b ^ (-k).toNat := by
  rcases le_or_gt 0 k with nonneg | negative
  · rw [← zpow_natCast, Int.toNat_of_nonneg nonneg, Int.toNat_eq_zero.mpr (by omega), pow_zero,
      div_one]
  · rw [Int.toNat_eq_zero.mpr (by omega), pow_zero, ← zpow_natCast, Int.toNat_of_nonneg (by omega),
      zpow_neg, one_div, inv_inv]

namespace RoundingInterval

theorem scaled_den_pos (r : RoundingInterval) (c : ℕ) (k : ℤ) : 0 < (r.scaled c k).2 := by
  simp only [scaled]
  positivity

theorem scaled_ratio (r : RoundingInterval) (c : ℕ) (k : ℤ) :
    ((r.scaled c k).1 : ℚ) / (r.scaled c k).2 = 4 * (c * 10 ^ k) / 2 ^ r.exponent := by
  have four : (4 : ℚ) / 2 ^ r.exponent = 2 ^ (2 - r.exponent) := by
    rw [zpow_sub₀ two_ne_zero]
    norm_num
  rw [mul_comm, mul_div_assoc, four, zpow_eq_toNat_div 10, zpow_eq_toNat_div 2, neg_sub]
  simp only [scaled]
  push_cast
  field_simp

/-- The test `admits` makes in the naturals is whether the interval holds the decimal. -/
theorem admits_iff (r : RoundingInterval) (c : ℕ) (k : ℤ) :
    r.admits c k = true ↔ r.Holds (c * 10 ^ k) := by
  have ratio := scaled_ratio r c k
  have den_pos := scaled_den_pos r c k
  unfold admits Holds
  rw [← ratio]
  generalize r.scaled c k = p at den_pos ⊢
  obtain ⟨num, den⟩ := p
  have den_q : (0 : ℚ) < den := by exact_mod_cast den_pos
  dsimp only
  split
  · simp only [Bool.and_eq_true, decide_eq_true_eq]
    rw [le_div_iff₀ den_q, div_le_iff₀ den_q]
    norm_cast
  · simp only [Bool.and_eq_true, decide_eq_true_eq]
    rw [lt_div_iff₀ den_q, div_lt_iff₀ den_q]
    norm_cast

theorem onGrid_admits {r : RoundingInterval} {lead : ℤ} {n : ℕ} {d : Decimal}
    (found : r.onGrid lead n = some d) : r.admits d.digits d.exponent = true := by
  unfold onGrid at found
  generalize r.scaled 1 (lead - n + 1) = p at found
  obtain ⟨num, den⟩ := p
  dsimp only at found
  split_ifs at found with both low high nearer <;> cases found <;>
    simp_all [Bool.and_eq_true]

theorem firstGrid_admits {r : RoundingInterval} {lead : ℤ} {d : Decimal} :
    ∀ {ns : List ℕ}, r.firstGrid lead ns = some d → r.admits d.digits d.exponent = true
  | [], found => by cases found
  | n :: rest, found => by
    unfold firstGrid at found
    split at found
    · rename_i hit
      cases found
      exact onGrid_admits hit
    · exact firstGrid_admits found

theorem holds_datum {fmt : BinaryFormat} {m : ℕ} {e : ℤ} (positive : 0 < m) :
    (ofDatum fmt m e).Holds (m * 2 ^ e) := by
  have power : (2 : ℚ) ^ e ≠ 0 := zpow_ne_zero e two_ne_zero
  have value : 4 * ((m : ℚ) * 2 ^ e) / 2 ^ (ofDatum fmt m e).exponent = 4 * m := by
    rw [ofDatum_exponent]
    field_simp
  have lowest : ((ofDatum fmt m e).lower : ℚ) < 4 * m := by
    rw [ofDatum_lower positive]
    split_ifs <;> linarith
  have highest : (4 * m : ℚ) < (ofDatum fmt m e).upper := by
    rw [ofDatum_upper]
    linarith
  unfold Holds
  rw [value]
  split
  · exact ⟨lowest.le, highest.le⟩
  · exact ⟨lowest, highest⟩

end RoundingInterval

/-- The shortest decimal of a positive datum lies in the datum's rounding interval. -/
theorem shortestDecimal_holds {fmt : BinaryFormat} {m : ℕ} {e : ℤ} (positive : 0 < m) :
    (RoundingInterval.ofDatum fmt m e).Holds (shortestDecimal fmt m e).value := by
  unfold shortestDecimal
  dsimp only
  split
  · rename_i d found
    rw [Decimal.value_normalize, Decimal.value, ← RoundingInterval.admits_iff]
    exact RoundingInterval.firstGrid_admits found
  · -- none of the grids: the exact value stands in
    have exact : (if 0 ≤ e then Decimal.normalize ⟨m * 2 ^ e.toNat, 0⟩
        else Decimal.normalize ⟨m * 5 ^ (-e).toNat, e⟩).value = m * 2 ^ e := by
      split
      · rename_i nonneg
        rw [Decimal.value_normalize, Decimal.value]
        push_cast
        rw [mul_one, ← zpow_natCast, Int.toNat_of_nonneg nonneg]
      · rename_i negative
        rw [Decimal.value_normalize, Decimal.value]
        -- `m 5 ^ n 10 ^ (-n) = m 2 ^ (-n)`
        have fives : (5 : ℚ) ^ (-e).toNat * 5 ^ e = 1 := by
          rw [← zpow_natCast, ← zpow_add₀ (by norm_num), Int.toNat_of_nonneg (by omega),
            neg_add_cancel, zpow_zero]
        have tens : (10 : ℚ) ^ e = 5 ^ e * 2 ^ e := by
          rw [← mul_zpow]
          norm_num
        push_cast
        rw [tens]
        linear_combination (m : ℚ) * 2 ^ e * fives
    rw [exact]
    exact RoundingInterval.holds_datum positive

end Schemata
