import Schemata.Proofs.ValueTypes
import Schemata.Property.Constraint

/-!
What the attach-time check of a numeric interval lets through.

The check refuses a NaN bound, a minimum above the maximum, and an exclusive bound where the
two bounds meet. Every interval it refuses holds no datum, but not every empty interval is
refused: an exclusive minimum at `+∞` alone, an exclusive maximum at `-∞` alone, and exclusive
bounds at two neighbouring data hold nothing and pass. `Unnoticed` names these three shapes;
they are the only empty intervals the check accepts.

Data that are no NaN compare as their order keys, and those keys run from the key of `-∞` to
the key of `+∞`.
-/

namespace Schemata

namespace BinaryFloat

variable {fmt : BinaryFormat} {x : BinaryFloat fmt}

-- Below the sign the exponent field stands above the fraction, and the all-ones field holds a
-- fraction only in a NaN.
theorem magnitude_le_of_isNaN (number : x.isNaN = false) :
    x.magnitude ≤ fmt.topField * 2 ^ fmt.fractionBits := by
  have parts : x.magnitude = x.fraction + 2 ^ fmt.fractionBits * x.field := by
    simp only [magnitude, fraction, field, BinaryFormat.signPosition, Nat.pow_add, Nat.mod_mul]
  have fieldBelow : x.field < 2 ^ fmt.exponentBits := Nat.mod_lt _ (Nat.two_pow_pos _)
  have fractionBelow : x.fraction < 2 ^ fmt.fractionBits := Nat.mod_lt _ (Nat.two_pow_pos _)
  have top : fmt.topField + 1 = 2 ^ fmt.exponentBits := by
    have := Nat.two_pow_pos fmt.exponentBits
    simp only [BinaryFormat.topField]
    omega
  simp only [isNaN, Bool.and_eq_false_iff, beq_eq_false_iff_ne, bne_eq_false_iff_eq] at number
  rw [parts, Nat.mul_comm fmt.topField]
  rcases number with below | noFraction
  · have : x.field + 1 ≤ fmt.topField := by omega
    calc x.fraction + 2 ^ fmt.fractionBits * x.field
        ≤ 2 ^ fmt.fractionBits * (x.field + 1) := by rw [Nat.mul_add_one]; omega
      _ ≤ 2 ^ fmt.fractionBits * fmt.topField := Nat.mul_le_mul_left _ this
  · rw [noFraction, Nat.zero_add]
    exact Nat.mul_le_mul_left _ (by omega)

@[simp] theorem isNaN_infinity (negative : Bool) :
    (infinity negative : Binary64).isNaN = false := by
  cases negative <;> decide

@[simp] theorem orderKey_top : (infinity false : Binary64).orderKey = 2047 * 2 ^ 52 := by decide

@[simp] theorem orderKey_bottom : (infinity true : Binary64).orderKey = -(2047 * 2 ^ 52) := by
  decide

/-- The keys of double-precision data that are no NaN lie between those of `-∞` and `+∞`. -/
theorem orderKey_bounds {x : Binary64} (number : x.isNaN = false) :
    -(2047 * 2 ^ 52) ≤ x.orderKey ∧ x.orderKey ≤ 2047 * 2 ^ 52 := by
  have bound : x.magnitude ≤ 2047 * 2 ^ 52 := magnitude_le_of_isNaN number
  simp only [orderKey]
  split <;> omega

end BinaryFloat

namespace NumericInterval

open BinaryFloat

/-- Some datum lies within the interval. -/
def Inhabited (i : NumericInterval) : Prop := ∃ x, i.contains x = true

/-- Whether a bound is NaN. -/
def nanBound (i : NumericInterval) : Bool :=
  i.minimum.any BinaryFloat.isNaN || i.maximum.any BinaryFloat.isNaN

/-- Bounds in order: the minimum below the maximum when either bound is exclusive, and not
above it otherwise. -/
def Ordered (i : NumericInterval) : Prop :=
  ∀ lo hi, i.minimum = some lo → i.maximum = some hi →
    (if i.exclusiveMinimum || i.exclusiveMaximum then lo.lt hi else lo.le hi) = true

/-- The empty intervals that the check does not notice. -/
inductive Unnoticed : NumericInterval → Prop
  /-- An exclusive minimum at `+∞`, and no maximum. -/
  | aboveTop {lo : Binary64} (flag : Bool) :
      lo.sameValue (.infinity false) = true → Unnoticed ⟨some lo, true, none, flag⟩
  /-- An exclusive maximum at `-∞`, and no minimum. -/
  | belowBottom {hi : Binary64} (flag : Bool) :
      hi.sameValue (.infinity true) = true → Unnoticed ⟨none, flag, some hi, true⟩
  /-- Exclusive bounds at two neighbouring data. -/
  | between {lo hi : Binary64} :
      lo.lt hi = true → (∀ x, lo.lt x = true → x.lt hi = false) →
        Unnoticed ⟨some lo, true, some hi, true⟩

theorem nanBound_eq_false {i : NumericInterval} :
    i.nanBound = false ↔ (∀ lo, i.minimum = some lo → lo.isNaN = false) ∧
      (∀ hi, i.maximum = some hi → hi.isNaN = false) := by
  rcases i with ⟨_ | lo, _, _ | hi, _⟩ <;> simp [nanBound]

-- Between bounds that are no NaN the check compares keys: it refuses a maximum below the
-- minimum, and equal keys under an exclusive bound.
theorem defect?_of_bounds {lo hi : Binary64} {exMin exMax : Bool} (loNumber : lo.isNaN = false)
    (hiNumber : hi.isNaN = false) :
    defect? ⟨some lo, exMin, some hi, exMax⟩ = none ↔
      (if exMin || exMax then lo.lt hi else lo.le hi) = true := by
  simp only [defect?, Option.any_some, loNumber, hiNumber, Bool.or_false, Bool.false_eq_true,
    ↓reduceIte]
  cases exMin || exMax <;> split_ifs <;> simp_all [lt_iff, le_iff, sameValue_iff] <;> omega

theorem defect?_eq_none_iff {i : NumericInterval} :
    i.defect? = none ↔ i.nanBound = false ∧ i.Ordered := by
  rcases i with ⟨_ | lo, exMin, _ | hi, exMax⟩
  case some.some =>
    cases loNumber : lo.isNaN
    case true => simp [defect?, nanBound, loNumber]
    cases hiNumber : hi.isNaN
    case true => simp [defect?, nanBound, loNumber, hiNumber]
    simp [defect?_of_bounds loNumber hiNumber, nanBound, Ordered, loNumber, hiNumber]
  all_goals simp [defect?, nanBound, Ordered]

theorem ordered_of_contains {i : NumericInterval} {x : Binary64} (inside : i.contains x = true) :
    i.Ordered := by
  intro lo hi hasMin hasMax
  rcases i with ⟨_ | lo', exMin, _ | hi', exMax⟩ <;> simp only [reduceCtorEq] at hasMin hasMax
  cases hasMin
  cases hasMax
  simp only [contains, Bool.and_eq_true] at inside
  obtain ⟨above, below⟩ := inside
  cases exMin <;> cases exMax <;>
    simp only [Bool.false_eq_true, ↓reduceIte, Bool.or_false, Bool.or_true, lt_iff, le_iff]
      at above below ⊢ <;>
    exact ⟨above.1, below.2.1, by omega⟩

theorem unnoticed_ordered {i : NumericInterval} (unnoticed : i.Unnoticed) : i.Ordered := by
  cases unnoticed with
  | aboveTop => intro lo hi _ noMax; cases noMax
  | belowBottom => intro lo hi noMin; cases noMin
  | between less _ =>
    rintro lo hi ⟨⟩ ⟨⟩
    simpa using less

theorem unnoticed_nanBound {i : NumericInterval} (unnoticed : i.Unnoticed) :
    i.nanBound = false := by
  cases unnoticed with
  | aboveTop _ top => simp [nanBound, (sameValue_iff.mp top).1]
  | belowBottom _ bottom => simp [nanBound, (sameValue_iff.mp bottom).1]
  | between less _ => simp [nanBound, (lt_iff.mp less).1, (lt_iff.mp less).2.1]

-- Nothing lies above `+∞` or below `-∞`, and nothing between neighbours.
theorem unnoticed_not_inhabited {i : NumericInterval} (unnoticed : i.Unnoticed) :
    ¬ i.Inhabited := by
  rintro ⟨x, inside⟩
  cases unnoticed with
  | aboveTop _ top =>
    obtain ⟨-, xNumber, above⟩ := lt_iff.mp (by simpa [contains] using inside)
    have := orderKey_bounds xNumber
    simp only [sameValue_iff, isNaN_infinity, orderKey_top] at top
    omega
  | belowBottom _ bottom =>
    obtain ⟨xNumber, -, below⟩ := lt_iff.mp (by simpa [contains] using inside)
    have := orderKey_bounds xNumber
    simp only [sameValue_iff, isNaN_infinity, orderKey_bottom] at bottom
    omega
  | between _ nothingBetween =>
    simp only [contains, ↓reduceIte, Bool.and_eq_true] at inside
    simp [nothingBetween x inside.1] at inside

-- A lone exclusive bound short of `+∞` or `-∞` leaves that infinity inside.
theorem lt_top {lo : Binary64} (number : lo.isNaN = false)
    (short : lo.sameValue (.infinity false) = false) : lo.lt (.infinity false) = true := by
  have := orderKey_bounds number
  rw [Bool.eq_false_iff, ne_eq, sameValue_iff] at short
  have apart : lo.orderKey ≠ 2047 * 2 ^ 52 := by simpa [number] using short
  simp only [lt_iff, number, isNaN_infinity, orderKey_top, true_and]
  omega

theorem bottom_lt {hi : Binary64} (number : hi.isNaN = false)
    (short : hi.sameValue (.infinity true) = false) : (infinity true : Binary64).lt hi = true := by
  have := orderKey_bounds number
  rw [Bool.eq_false_iff, ne_eq, sameValue_iff] at short
  have apart : hi.orderKey ≠ -(2047 * 2 ^ 52) := by simpa [number] using short
  simp only [lt_iff, number, isNaN_infinity, orderKey_bottom, true_and]
  omega

theorem le_self {x : Binary64} (number : x.isNaN = false) : x.le x = true := by
  simp [le_iff, number]

/-- Bounds in order leave a datum between them, unless they are one of the unnoticed shapes. -/
theorem inhabited_or_unnoticed_of_ordered {i : NumericInterval} (number : i.nanBound = false)
    (ordered : i.Ordered) : i.Inhabited ∨ i.Unnoticed := by
  have numbers := nanBound_eq_false.mp number
  rcases i with ⟨_ | lo, exMin, _ | hi, exMax⟩
  case none.none => exact .inl ⟨.zero false, rfl⟩
  case some.none =>
    have loNumber : lo.isNaN = false := numbers.1 lo rfl
    cases exMin
    · exact .inl ⟨lo, by simp [contains, le_self loNumber]⟩
    · cases top : lo.sameValue (.infinity false)
      · exact .inl ⟨.infinity false, by simp [contains, lt_top loNumber top]⟩
      · exact .inr (.aboveTop exMax top)
  case none.some =>
    have hiNumber : hi.isNaN = false := numbers.2 hi rfl
    cases exMax
    · exact .inl ⟨hi, by simp [contains, le_self hiNumber]⟩
    · cases bottom : hi.sameValue (.infinity true)
      · exact .inl ⟨.infinity true, by simp [contains, bottom_lt hiNumber bottom]⟩
      · exact .inr (.belowBottom exMin bottom)
  case some.some =>
    have loNumber : lo.isNaN = false := numbers.1 lo rfl
    have hiNumber : hi.isNaN = false := numbers.2 hi rfl
    have inOrder := ordered lo hi rfl rfl
    -- An inclusive bound holds itself; two exclusive ones hold whatever lies between them.
    cases exMin <;> cases exMax
    case false.false | false.true =>
      exact .inl ⟨lo, by simpa [contains, le_self loNumber] using inOrder⟩
    case true.false => exact .inl ⟨hi, by simpa [contains, le_self hiNumber] using inOrder⟩
    case true.true =>
      by_cases room : ∃ x, lo.lt x = true ∧ x.lt hi = true
      · obtain ⟨x, above, below⟩ := room
        exact .inl ⟨x, by simp [contains, above, below]⟩
      · refine .inr (.between (by simpa using inOrder) fun x above => ?_)
        simpa using fun below => room ⟨x, above, below⟩

theorem inhabited_or_unnoticed_iff {i : NumericInterval} (number : i.nanBound = false) :
    i.Inhabited ∨ i.Unnoticed ↔ i.Ordered := by
  constructor
  · rintro (⟨x, inside⟩ | unnoticed)
    · exact ordered_of_contains inside
    · exact unnoticed_ordered unnoticed
  · exact inhabited_or_unnoticed_of_ordered number

section Check

variable {i : NumericInterval} {t : ValueType} (property : String) (numeric : t.isNumeric = true)
include numeric

theorem check_eq_ok_iff : i.check property t = .ok () ↔ i.defect? = none := by
  cases defect : i.defect? <;> simp [check, numeric, defect]

theorem check_eq_invalid_iff :
    (∃ reason, i.check property t = .error (.invalidInterval property reason)) ↔
      i.defect?.isSome := by
  cases defect : i.defect? <;> simp [check, numeric, defect]

theorem check_accepts_iff :
    i.check property t = .ok () ↔ i.nanBound = false ∧ (i.Inhabited ∨ i.Unnoticed) := by
  rw [check_eq_ok_iff property numeric, defect?_eq_none_iff]
  constructor
  · rintro ⟨number, ordered⟩
    exact ⟨number, (inhabited_or_unnoticed_iff number).mpr ordered⟩
  · rintro ⟨number, found⟩
    exact ⟨number, (inhabited_or_unnoticed_iff number).mp found⟩

-- On a numeric type the check either accepts or refuses the interval as invalid.
theorem check_refuses_iff :
    (∃ reason, i.check property t = .error (.invalidInterval property reason)) ↔
      i.nanBound = true ∨ ¬ i.Inhabited ∧ ¬ i.Unnoticed := by
  rw [check_eq_invalid_iff property numeric, Option.isSome_iff_ne_none, ne_eq,
    ← check_eq_ok_iff property numeric, check_accepts_iff property numeric]
  cases i.nanBound <;> simp

/-- The interval check on a numeric type refuses, as an invalid interval, exactly the intervals
with a NaN bound and the empty ones it notices, and accepts every other: an accepted interval
holds a datum unless it is one of the unnoticed shapes, which all pass and hold nothing. -/
theorem check_refuses_exactly_noticed_empties :
    ((∃ reason, i.check property t = .error (.invalidInterval property reason)) ↔
      i.nanBound = true ∨ ¬ i.Inhabited ∧ ¬ i.Unnoticed) ∧
    (i.check property t = .ok () ↔ i.nanBound = false ∧ (i.Inhabited ∨ i.Unnoticed)) ∧
    (i.Unnoticed → i.check property t = .ok () ∧ ¬ i.Inhabited) :=
  ⟨check_refuses_iff property numeric, check_accepts_iff property numeric, fun unnoticed =>
    ⟨(check_accepts_iff property numeric).mpr ⟨unnoticed_nanBound unnoticed, .inr unnoticed⟩,
      unnoticed_not_inhabited unnoticed⟩⟩

end Check

/-- `1`, and the datum right above it. -/
def oneDatum : Binary64 := ⟨0x3FF0000000000000⟩

def nextAboveOne : Binary64 := ⟨0x3FF0000000000001⟩

theorem nothing_between_one_and_next (x : Binary64) (above : oneDatum.lt x = true) :
    x.lt nextAboveOne = false := by
  have keys : oneDatum.orderKey = 0x3FF0000000000000 ∧
      nextAboveOne.orderKey = 0x3FF0000000000001 := by
    decide
  obtain ⟨-, -, less⟩ := lt_iff.mp above
  simp only [lt, Bool.and_eq_false_iff, decide_eq_false_iff_not]
  exact .inr (by omega)

/-- Exclusive bounds at `1` and the datum right above it pass the check on `f64` and hold
nothing. -/
theorem neighbouring_exclusive_bounds_pass_empty :
    ValueType.isNumeric (.float .f64) = true ∧
    Unnoticed ⟨some oneDatum, true, some nextAboveOne, true⟩ ∧
    check ⟨some oneDatum, true, some nextAboveOne, true⟩ "Score" (.float .f64) = .ok () ∧
    ¬ Inhabited ⟨some oneDatum, true, some nextAboveOne, true⟩ := by
  have numeric : ValueType.isNumeric (.float .f64) = true := by decide
  have unnoticed : Unnoticed ⟨some oneDatum, true, some nextAboveOne, true⟩ :=
    .between (by decide) nothing_between_one_and_next
  exact ⟨numeric, unnoticed,
    ((check_refuses_exactly_noticed_empties "Score" numeric).2.2 unnoticed)⟩

end NumericInterval

end Schemata
