import Schemata.Proofs.Numerals
import Schemata.Proofs.ShortestDecimal
import Schemata.Number.Text

/-!
The text a binary float is written as reads back as the float: shortest decimals, integral and
scientific layouts, signed zeros and infinities, and NaN as the quiet NaN.
-/

namespace Schemata

/-- The finite data of a format lie within the reach of decimal reading: below
`10 ^ readingReach`, and at least `10 ^ (-readingReach)` apart from zero. -/
structure BinaryFormat.WithinReach (fmt : BinaryFormat) : Prop where
  above : (2 : ℚ) ^ ((fmt.topField : ℤ) - fmt.bias) ≤ 10 ^ readingReach
  below : (10 : ℚ) ^ (-readingReach) ≤ 2 ^ (fmt.minExponent - 1)

-- Three bits fit in a decimal digit.
theorem two_zpow_le_ten_zpow {a b : ℤ} (nonneg : 0 ≤ a) (fits : a ≤ 3 * b) :
    (2 : ℚ) ^ a ≤ 10 ^ b := by
  have natural : ∀ k : ℤ, 0 ≤ k → ∀ base : ℚ, base ^ k = base ^ k.toNat := fun k nonneg base => by
    rw [← zpow_natCast, Int.toNat_of_nonneg nonneg]
  rw [natural a nonneg, natural b (by omega)]
  calc (2 : ℚ) ^ a.toNat ≤ 2 ^ (3 * b.toNat) := pow_le_pow_right₀ one_le_two (by omega)
    _ = 8 ^ b.toNat := by rw [pow_mul]; norm_num
    _ ≤ 10 ^ b.toNat := pow_le_pow_left₀ (by norm_num) (by norm_num) _

theorem BinaryFormat.WithinReach.of_exponents {fmt : BinaryFormat}
    (top : 0 ≤ (fmt.topField : ℤ) - fmt.bias ∧ (fmt.topField : ℤ) - fmt.bias ≤ 3 * readingReach)
    (bottom : 0 ≤ 1 - fmt.minExponent ∧ 1 - fmt.minExponent ≤ 3 * readingReach) :
    fmt.WithinReach where
  above := two_zpow_le_ten_zpow top.1 top.2
  below := by
    have inverted := two_zpow_le_ten_zpow bottom.1 bottom.2
    rw [zpow_neg, ← neg_sub, zpow_neg]
    exact inv_anti₀ (zpow_pos two_pos _) inverted

theorem BinaryFormat.binary32_withinReach : binary32.WithinReach :=
  .of_exponents (by decide) (by decide)

theorem BinaryFormat.binary64_withinReach : binary64.WithinReach :=
  .of_exponents (by decide) (by decide)

namespace BinaryFloat

variable {fmt : BinaryFormat} {x : BinaryFloat fmt} {negative : Bool} {m : ℕ} {e : ℤ}

-- A finite datum lies below `2 ^ (topField - bias)` by at least its last bit.
theorem significand_succ_mul_le (finite : x.classify = .finite negative m e) :
    ((m : ℚ) + 1) * 2 ^ e ≤ 2 ^ ((fmt.topField : ℤ) - fmt.bias) := by
  have bound : ∀ k : ℕ, m + 1 ≤ 2 ^ k → e + k ≤ (fmt.topField : ℤ) - fmt.bias →
      ((m : ℚ) + 1) * 2 ^ e ≤ 2 ^ ((fmt.topField : ℤ) - fmt.bias) := by
    intro k fits exponent
    have fitsQ : (m : ℚ) + 1 ≤ 2 ^ k := by exact_mod_cast fits
    calc ((m : ℚ) + 1) * 2 ^ e ≤ 2 ^ k * 2 ^ e := by gcongr
      _ = 2 ^ (e + k) := by rw [zpow_add₀ two_ne_zero, zpow_natCast, mul_comm]
      _ ≤ 2 ^ ((fmt.topField : ℤ) - fmt.bias) := zpow_le_zpow_right₀ one_le_two exponent
  have small := x.fraction_lt
  obtain ⟨-, belowTop, ⟨bottom, rfl, rfl⟩ | ⟨-, rfl, rfl⟩⟩ := classify_eq_finite finite
  · apply bound fmt.fractionBits (by omega)
    simp only [BinaryFormat.minExponent]
    omega
  · apply bound (fmt.fractionBits + 1) (by rw [Nat.pow_succ]; omega)
    push_cast
    omega

section Reach

variable (reach : fmt.WithinReach) (hx : x.WellFormed) (finite : x.classify = .finite negative m e)
  (positive : 0 < m)
include reach finite positive

-- Whatever a datum's rounding interval holds lies within the reach of decimal reading.
theorem within_reach_of_holds {q : ℚ} (holds : (RoundingInterval.ofDatum fmt m e).Holds q) :
    (10 : ℚ) ^ (-readingReach) ≤ q ∧ q < 10 ^ readingReach := by
  obtain ⟨low, high, -⟩ := holds.near positive
  have power : (0 : ℚ) < 2 ^ e := zpow_pos two_pos e
  have one : (1 : ℚ) ≤ m := by exact_mod_cast positive
  rw [le_div_iff₀ power] at low
  rw [div_le_iff₀ power] at high
  constructor
  · calc (10 : ℚ) ^ (-readingReach) ≤ 2 ^ (fmt.minExponent - 1) := reach.below
      _ ≤ 2 ^ (e - 1) :=
        zpow_le_zpow_right₀ one_le_two (by linarith [minExponent_le_of_finite finite])
      _ = 2 ^ e / 2 := by rw [zpow_sub_one₀ two_ne_zero, div_eq_mul_inv]
      _ ≤ (m - 1 / 2) * 2 ^ e := by nlinarith
      _ ≤ q := low
  · calc q ≤ (m + 1 / 2) * 2 ^ e := high
      _ < (m + 1) * 2 ^ e := by nlinarith
      _ ≤ 2 ^ ((fmt.topField : ℤ) - fmt.bias) := significand_succ_mul_le finite
      _ ≤ 10 ^ readingReach := reach.above

include hx

/-- A decimal that the rounding interval of a finite non-zero datum holds reads as the datum. -/
theorem ofDecimal_of_holds {digits : ℕ} {exponent : ℤ}
    (holds : (RoundingInterval.ofDatum fmt m e).Holds (digits * 10 ^ exponent)) :
    ofDecimal negative digits exponent = x := by
  obtain ⟨low, high⟩ := within_reach_of_holds reach finite positive holds
  have power : (0 : ℚ) < 10 ^ exponent := zpow_pos (by norm_num) exponent
  have nonzero : 0 < digits := by
    rcases Nat.eq_zero_or_pos digits with zero | pos
    · rw [zero, Nat.cast_zero, zero_mul] at low
      exact absurd low (not_le.mpr (zpow_pos (by norm_num) _))
    · exact pos
  -- the leading digit's exponent, `exponent + decimalLength digits - 1`, is within reach
  have scale : ∀ k : ℕ, (10 : ℚ) ^ (exponent + k) = 10 ^ k * 10 ^ exponent := fun k => by
    rw [zpow_add₀ (by norm_num), zpow_natCast, mul_comm]
  have lengthPos := decimalLength_pos digits
  have leading : (10 : ℚ) ^ (exponent + (decimalLength digits - 1 : ℕ)) ≤ digits * 10 ^ exponent := by
    rw [scale]
    gcongr
    exact_mod_cast ten_pow_decimalLength_le nonzero
  have past : (digits : ℚ) * 10 ^ exponent < 10 ^ (exponent + decimalLength digits) := by
    rw [scale]
    gcongr
    exact_mod_cast lt_ten_pow_decimalLength digits
  have notAbove : exponent + (decimalLength digits - 1 : ℕ) < readingReach :=
    (zpow_lt_zpow_iff_right₀ (by norm_num : (1 : ℚ) < 10)).mp (lt_of_le_of_lt leading high)
  have notBelow : -readingReach < exponent + decimalLength digits :=
    (zpow_lt_zpow_iff_right₀ (by norm_num : (1 : ℚ) < 10)).mp (lt_of_le_of_lt low past)
  unfold ofDecimal
  rw [if_neg nonzero.ne', if_neg (by omega), if_neg (by omega)]
  split
  · rename_i nonneg
    apply ofRatio_of_holds hx finite positive one_pos
    push_cast
    rwa [div_one, ← zpow_natCast, Int.toNat_of_nonneg nonneg]
  · rename_i fractional
    apply ofRatio_of_holds hx finite positive (by positivity)
    push_cast
    rwa [← zpow_natCast, Int.toNat_of_nonneg (by omega), zpow_neg, div_eq_mul_inv, inv_inv]

end Reach

end BinaryFloat

/-- The rational a decimal numeral stands for. -/
def DecimalNumeral.value (n : DecimalNumeral) : ℚ :=
  digitsValue (n.whole ++ n.fraction) * 10 ^ (n.exponent - n.fraction.length)

/-- Text that reads as a decimal numeral of value `q`, with digits before any point. -/
def ReadsAs (cs : List Char) (q : ℚ) : Prop :=
  ∃ n, DecimalNumeral.read? cs = some n ∧ n.whole ≠ [] ∧ n.value = q

namespace Decimal

theorem digitText_toList (d : Decimal) : d.digitText.toList = Nat.toDigits 10 d.digits :=
  String.toList_ofList

theorem digitText_length (d : Decimal) : d.digitText.length = decimalLength d.digits := by
  rw [← String.length_toList, digitText_toList]
  rfl

end Decimal

namespace FloatLayout

theorem zeros_toList (k : ℕ) : (zeros k).toList = List.replicate k '0' := String.toList_ofList

theorem exponentText_value (k : ℤ) : value.exponentText k = toString k := by
  have long : 1 ≤ (toString k.natAbs).length := by
    rw [← String.length_toList, Nat.toString_eq_repr, Nat.toList_repr]
    exact Nat.length_toDigits_pos
  unfold exponentText
  simp only [value]
  rw [show 1 - (toString k.natAbs).length = 0 by omega, Int.toString_eq_repr, Int.repr_eq_if]
  by_cases negative : k < 0
  · have magnitude : (-k).toNat = k.natAbs := by omega
    simp [zeros, magnitude, negative, show ¬ 0 ≤ k by omega]
  · have magnitude : k.toNat = k.natAbs := by omega
    simp [zeros, magnitude, negative, show 0 ≤ k by omega]

theorem replicate_zero_isDigit (k : ℕ) : ∀ c ∈ List.replicate k '0', c.isDigit = true := by
  intro c member
  rw [List.eq_of_mem_replicate member]
  rfl

theorem zero_isDigit : ∀ c ∈ ['0'], c.isDigit = true :=
  replicate_zero_isDigit 1

theorem positional_reads (d : Decimal) : ReadsAs (value.positional d).toList d.value := by
  have digits : ∀ c ∈ Nat.toDigits 10 d.digits, c.isDigit = true :=
    fun c member => isDigit_of_mem_toDigits member
  have started : Nat.toDigits 10 d.digits ≠ [] := Nat.toDigits_ne_nil
  have length := d.digitText_length
  unfold positional
  split
  · -- a whole number: the digits, the zeros, then `.0`
    rename_i nonneg
    refine ⟨⟨Nat.toDigits 10 d.digits ++ List.replicate d.exponent.toNat '0', ['0'], 0⟩, ?_,
      by simp [started], ?_⟩
    · have shape : (d.digitText ++ zeros d.exponent.toNat ++
          (if value.pointZero = true then ".0" else "")).toList =
          (Nat.toDigits 10 d.digits ++ List.replicate d.exponent.toNat '0') ++
            '.' :: (['0'] ++ []) := by
        simp [value, String.toList_append, d.digitText_toList, zeros_toList]
      rw [shape, DecimalNumeral.read?_point _ (by simp [started]) zero_isDigit (by simp)]
      · rfl
      · intro c member
        rcases List.mem_append.mp member with inDigits | inZeros
        · exact digits c inDigits
        · exact replicate_zero_isDigit _ c inZeros
    · have zero : digitsValue ['0'] = 0 := rfl
      simp only [DecimalNumeral.value, Decimal.value, digitsValue_append, digitsValue_toDigits,
        digitsValue_replicate_zero, List.length_replicate, zero, List.length_singleton]
      push_cast
      rw [← zpow_natCast, Int.toNat_of_nonneg nonneg, zpow_neg_one]
      ring
  · rename_i fractional
    dsimp only
    split
    · -- the point falls among the digits
      rename_i inside
      have leading : (Nat.toDigits 10 d.digits).take (d.digitText.length + d.exponent).toNat ≠ [] := by
        rw [Ne, List.take_eq_nil_iff, not_or]
        exact ⟨by omega, started⟩
      refine ⟨⟨(Nat.toDigits 10 d.digits).take (d.digitText.length + d.exponent).toNat,
        (Nat.toDigits 10 d.digits).drop (d.digitText.length + d.exponent).toNat, 0⟩, ?_, leading, ?_⟩
      · have shape : (String.ofList (d.digitText.toList.take (d.digitText.length + d.exponent).toNat) ++
            "." ++ String.ofList (d.digitText.toList.drop (d.digitText.length + d.exponent).toNat)).toList =
            (Nat.toDigits 10 d.digits).take (d.digitText.length + d.exponent).toNat ++
              '.' :: ((Nat.toDigits 10 d.digits).drop (d.digitText.length + d.exponent).toNat ++ []) := by
          simp [String.toList_append, d.digitText_toList]
        rw [shape, DecimalNumeral.read?_point (fun c member => digits c (List.mem_of_mem_take member))
          leading (fun c member => digits c (List.mem_of_mem_drop member)) (by simp)]
        rfl
      · simp only [DecimalNumeral.value, Decimal.value, List.take_append_drop, digitsValue_toDigits,
          List.length_drop]
        congr 2
        rw [length] at inside ⊢
        have digitCount : (Nat.toDigits 10 d.digits).length = decimalLength d.digits := rfl
        omega
    · -- the digits follow `0.` and zeros
      rename_i outside
      refine ⟨⟨['0'], List.replicate (-(d.digitText.length + d.exponent)).toNat '0' ++
        Nat.toDigits 10 d.digits, 0⟩, ?_, by simp, ?_⟩
      · have shape : ("0." ++ zeros (-(d.digitText.length + d.exponent)).toNat ++ d.digitText).toList =
            ['0'] ++ '.' :: ((List.replicate (-(d.digitText.length + d.exponent)).toNat '0' ++
              Nat.toDigits 10 d.digits) ++ []) := by
          simp [String.toList_append, d.digitText_toList, zeros_toList]
        rw [shape, DecimalNumeral.read?_point zero_isDigit (by simp) _ (by simp)]
        · rfl
        · intro c member
          rcases List.mem_append.mp member with inZeros | inDigits
          · exact replicate_zero_isDigit _ c inZeros
          · exact digits c inDigits
      · have zero : digitsValue ['0'] = 0 := rfl
        simp only [DecimalNumeral.value, Decimal.value, digitsValue_append, digitsValue_toDigits,
          digitsValue_replicate_zero, zero, Nat.zero_mul, Nat.zero_add, List.length_append,
          List.length_replicate]
        congr 2
        rw [length] at outside ⊢
        have digitCount : (Nat.toDigits 10 d.digits).length = decimalLength d.digits := rfl
        omega

theorem scientific_reads (d : Decimal) : ReadsAs (value.scientific d).toList d.value := by
  obtain ⟨first, rest, shape, firstDigit⟩ := toDigits_eq_cons d.digits
  have restDigits : ∀ c ∈ rest, c.isDigit = true := fun c member =>
    isDigit_of_mem_toDigits (n := d.digits) (by rw [shape]; exact List.mem_cons_of_mem _ member)
  have whole : digitsValue (first :: rest) = d.digits := by rw [← shape, digitsValue_toDigits]
  have lead : d.leadingExponent = d.exponent + rest.length := by
    have count : decimalLength d.digits = rest.length + 1 := by
      unfold decimalLength
      rw [shape, List.length_cons]
    unfold Decimal.leadingExponent
    omega
  have exponent : readExponent? ('e' :: (value.exponentText d.leadingExponent).toList) =
      some d.leadingExponent := by
    rw [exponentText_value, readExponent?_toString]
  have mark : ∀ c ∈ ('e' :: (value.exponentText d.leadingExponent).toList).head?,
      c.isDigit = false ∧ c ≠ '.' := by simp
  unfold scientific
  rw [d.digitText_toList, shape]
  dsimp only
  by_cases single : rest = []
  · -- one digit: no point
    subst single
    refine ⟨⟨[first], [], d.leadingExponent⟩, ?_, by simp, ?_⟩
    · have text : (String.singleton first ++ "" ++ "e" ++
          value.exponentText d.leadingExponent).toList =
          [first] ++ 'e' :: (value.exponentText d.leadingExponent).toList := by
        simp [String.toList_append]
      simp only [List.isEmpty_nil, if_true]
      rw [text, DecimalNumeral.read?_whole (by simp [firstDigit]) (by simp) mark, exponent]
      rfl
    · simp only [DecimalNumeral.value, Decimal.value, List.append_nil, whole, lead,
        List.length_nil, Nat.cast_zero, sub_zero, add_zero]
  · refine ⟨⟨[first], rest, d.leadingExponent⟩, ?_, by simp, ?_⟩
    · have text : (String.singleton first ++ ("." ++ String.ofList rest) ++ "e" ++
          value.exponentText d.leadingExponent).toList =
          [first] ++ '.' :: (rest ++ 'e' :: (value.exponentText d.leadingExponent).toList) := by
        simp [String.toList_append]
      have notEmpty : rest.isEmpty = false := by simpa using single
      simp only [notEmpty, Bool.false_eq_true, if_false]
      rw [text, DecimalNumeral.read?_point (by simp [firstDigit]) (by simp) restDigits
        (fun c member => (mark c member).1), exponent]
      rfl
    · simp only [DecimalNumeral.value, Decimal.value, List.singleton_append, whole, lead]
      congr 2
      ring

end FloatLayout

theorem DecimalNumeral.read?_head {cs : List Char} {n : DecimalNumeral}
    (read : DecimalNumeral.read? cs = some n) (started : n.whole ≠ []) :
    ∃ c rest, cs = c :: rest ∧ c.isDigit = true := by
  unfold DecimalNumeral.read? at read
  dsimp only at read
  split_ifs at read
  obtain ⟨exponent, -, rfl⟩ := Option.map_eq_some_iff.mp read
  cases cs with
  | nil => simp at started
  | cons c rest =>
    refine ⟨c, rest, rfl, ?_⟩
    by_contra notDigit
    simp [notDigit] at started

theorem toLower_of_isDigit {c : Char} (digit : c.isDigit = true) : c.toLower = c := by
  unfold Char.toLower
  rw [dif_neg]
  intro upper
  simp only [Char.isDigit, Bool.and_eq_true, decide_eq_true_eq] at digit
  -- digits lie below `A`
  have fromUpper := UInt32.le_iff_toNat_le.mp upper.1
  have fromDigit := UInt32.le_iff_toNat_le.mp digit.2
  have letterA : 'A'.val.toNat = 65 := rfl
  have nine : '9'.val.toNat = 57 := rfl
  omega

-- A text that starts with a digit is none of the words for infinity and NaN.
theorem asciiLower_ne_word {c : Char} (digit : c.isDigit = true) (rest : List Char)
    {word : List Char} (letter : ∀ h ∈ word.head?, h.isDigit = false) :
    asciiLower (c :: rest) ≠ word := by
  intro same
  cases word with
  | nil => cases same
  | cons h more =>
    simp only [asciiLower, List.map_cons, List.cons.injEq, toLower_of_isDigit digit] at same
    have notDigit := letter h rfl
    rw [← same.1, digit] at notDigit
    cases notDigit

namespace BinaryFloat

variable {fmt : BinaryFormat}

/-- A signed numeral reads as the datum nearest to its decimal. -/
theorem read?_signed {body : String} {q : ℚ} (reads : ReadsAs body.toList q) (negative : Bool) :
    ∃ (digits : ℕ) (exponent : ℤ), (digits : ℚ) * 10 ^ exponent = q ∧
      (read? ((if negative then "-" else "") ++ body) : Option (BinaryFloat fmt)) =
        some (ofDecimal negative digits exponent) := by
  obtain ⟨n, read, started, value⟩ := reads
  obtain ⟨c, rest, shape, digit⟩ := DecimalNumeral.read?_head read started
  refine ⟨digitsValue (n.whole ++ n.fraction), n.exponent - n.fraction.length, value, ?_⟩
  have unsigned : splitSign ((if negative then "-" else "") ++ body).toList = (negative, body.toList) := by
    cases negative
    · simp [shape, splitSign_of_isDigit digit]
    · simp [String.toList_append, splitSign]
  unfold read?
  rw [unsigned]
  dsimp only
  rw [shape, if_neg, if_neg, ← shape, read]
  · rfl
  · exact asciiLower_ne_word digit rest (by simp)
  · rintro (inf | infinity)
    · exact asciiLower_ne_word digit rest (by simp) inf
    · exact asciiLower_ne_word digit rest (by simp) infinity

theorem isNaN_iff_classify {x : BinaryFloat fmt} : x.isNaN = true ↔ x.classify = .nan := by
  unfold isNaN classify
  split_ifs <;> simp_all

theorem isNaN_eq_false {x : BinaryFloat fmt} {c : FloatClass} (classified : x.classify = c)
    (other : c ≠ .nan) : x.isNaN = false := by
  cases nan : x.isNaN
  · rfl
  · rw [isNaN_iff_classify, classified] at nan
    exact absurd nan other

theorem read?_nan : (read? "NaN" : Option (BinaryFloat fmt)) = some nan := by
  unfold read?
  simp [splitSign, asciiLower]

theorem read?_infinity (negative : Bool) :
    (read? (if negative then "-inf" else "inf") : Option (BinaryFloat fmt)) =
      some (infinity negative) := by
  unfold read?
  cases negative <;> simp [splitSign, asciiLower]

theorem zero_reads : ReadsAs "0.0".toList 0 := by
  have text : "0.0".toList = ['0'] ++ '.' :: (['0'] ++ []) := by decide
  have nothing : DecimalNumeral.value ⟨['0'], ['0'], 0⟩ = 0 := by
    simp only [DecimalNumeral.value]
    rw [show ['0'] ++ ['0'] = List.replicate 2 '0' from rfl, digitsValue_replicate_zero]
    simp
  refine ⟨⟨['0'], ['0'], 0⟩, ?_, by simp, nothing⟩
  rw [text, DecimalNumeral.read?_point FloatLayout.zero_isDigit (by simp)
    FloatLayout.zero_isDigit (by simp)]
  rfl

theorem ofDecimal_zero (negative : Bool) (exponent : ℤ) :
    (ofDecimal negative 0 exponent : BinaryFloat fmt) = zero negative := by
  unfold ofDecimal
  rw [if_pos rfl]

/-- The text of every datum that fits its format reads back as the datum, a NaN as the quiet
NaN. -/
theorem read?_render (reach : fmt.WithinReach) {x : BinaryFloat fmt} (hx : x.WellFormed) :
    read? (FloatLayout.value.render x) = some (if x.isNaN then nan else x) := by
  unfold FloatLayout.render
  cases finite : x.classify with
  | nan =>
    rw [if_pos (isNaN_iff_classify.mpr finite)]
    exact read?_nan
  | infinite negative =>
    have notNaN : x.isNaN = false := isNaN_eq_false finite nofun
    rw [notNaN, if_neg Bool.false_ne_true, read?_infinity, infinity_of_infinite hx finite]
  | finite negative m e =>
    have notNaN : x.isNaN = false := isNaN_eq_false finite nofun
    rw [notNaN, if_neg Bool.false_ne_true]
    dsimp only
    split
    · -- zero keeps its sign
      rename_i nothing
      obtain ⟨digits, exponent, value, read⟩ := @read?_signed fmt _ _ zero_reads negative
      have noDigits : digits = 0 := by
        rcases mul_eq_zero.mp value with none | vanishes
        · exact_mod_cast none
        · exact absurd vanishes (zpow_ne_zero _ (by norm_num))
      have point : (if FloatLayout.value.pointZero = true then "0.0" else "0") = "0.0" := rfl
      rw [point, read, noDigits, ofDecimal_zero, zero_of_finite finite hx nothing]
    · rename_i nonzero
      have positive : 0 < m := Nat.pos_of_ne_zero nonzero
      have reads : ReadsAs (if FloatLayout.value.isPositional (shortestDecimal fmt m e).leadingExponent
          then FloatLayout.value.positional (shortestDecimal fmt m e)
          else FloatLayout.value.scientific (shortestDecimal fmt m e)).toList
          (shortestDecimal fmt m e).value := by
        split
        · exact FloatLayout.positional_reads _
        · exact FloatLayout.scientific_reads _
      obtain ⟨digits, exponent, value, read⟩ := read?_signed reads negative
      rw [read]
      have holds : (RoundingInterval.ofDatum fmt m e).Holds (shortestDecimal fmt m e).value :=
        shortestDecimal_holds positive
      rw [← value] at holds
      exact congrArg some (ofDecimal_of_holds reach hx finite positive holds)

end BinaryFloat

end Schemata
