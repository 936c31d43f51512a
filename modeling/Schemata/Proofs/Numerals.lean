import Mathlib.Tactic.NormNum
import Mathlib.Tactic.Ring
import Schemata.Number.Read

/-!
Numerals read back: digit lists, integers and decimal numerals.

The digits `Nat.toDigits 10 n` read back as `n`, and every one of them is an ASCII digit, so the
text of an integer, a sign and the digits of its magnitude, reads back as the integer whenever
its sign is accepted, both as a whole text and as the exponent after an `e`. A decimal numeral
is read as its digits before the point, the digits after it and the exponent, provided the text
after each run of digits does not go on with a digit.
-/

namespace Schemata

section Digits

theorem digitValue_digitChar {d : ℕ} (small : d < 10) : digitValue d.digitChar = d := by
  unfold digitValue
  have zero : '0'.toNat = 48 := rfl
  rw [Nat.toNat_digitChar_of_lt_ten small, zero]
  omega

theorem foldl_digits (acc : ℕ) (ds : List Char) :
    ds.foldl (fun acc c => 10 * acc + digitValue c) acc = acc * 10 ^ ds.length + digitsValue ds := by
  induction ds generalizing acc with
  | nil => simp [digitsValue]
  | cons c rest ih =>
    simp only [List.foldl_cons, digitsValue, List.length_cons]
    rw [ih, ih (10 * 0 + digitValue c), pow_succ]
    ring

theorem digitsValue_append (xs ys : List Char) :
    digitsValue (xs ++ ys) = digitsValue xs * 10 ^ ys.length + digitsValue ys := by
  rw [digitsValue, List.foldl_append, foldl_digits]
  rfl

theorem digitsValue_cons (c : Char) (rest : List Char) :
    digitsValue (c :: rest) = digitValue c * 10 ^ rest.length + digitsValue rest := by
  rw [← List.singleton_append, digitsValue_append]
  simp [digitsValue]

theorem digitsValue_replicate_zero (k : ℕ) : digitsValue (List.replicate k '0') = 0 := by
  induction k with
  | zero => rfl
  | succ k ih =>
    have zero : digitValue '0' = 0 := rfl
    rw [List.replicate_succ, digitsValue_cons, ih, zero, Nat.zero_mul]

theorem digitsValue_toDigits (n : ℕ) : digitsValue (Nat.toDigits 10 n) = n := by
  induction n using Nat.strong_induction_on with
  | _ n ih =>
    rw [Nat.toDigits_eq_if (by norm_num)]
    split
    · rename_i small
      simp [digitsValue, digitValue_digitChar small]
    · rename_i large
      rw [digitsValue_append, ih (n / 10) (by omega)]
      simp [digitsValue, digitValue_digitChar (Nat.mod_lt n (by norm_num))]
      omega

theorem isDigit_of_mem_toDigits {n : ℕ} {c : Char} (member : c ∈ Nat.toDigits 10 n) :
    c.isDigit = true :=
  Nat.isDigit_of_mem_toDigits (by norm_num) (by norm_num) member

theorem decimalLength_pos (n : ℕ) : 0 < decimalLength n := Nat.length_toDigits_pos

theorem lt_ten_pow_decimalLength (n : ℕ) : n < 10 ^ decimalLength n :=
  (Nat.length_toDigits_le_iff (by norm_num) (decimalLength_pos n)).mp (Nat.le_refl _)

theorem ten_pow_decimalLength_le {n : ℕ} (positive : 0 < n) : 10 ^ (decimalLength n - 1) ≤ n := by
  rcases (by omega : decimalLength n - 1 = 0 ∨ 0 < decimalLength n - 1) with one | more
  · rw [one, Nat.pow_zero]
    exact positive
  · -- one digit fewer would not suffice
    have fewer := Nat.length_toDigits_le_iff (b := 10) (n := n) (by norm_num) more
    by_contra small
    have tooShort := fewer.mpr (Nat.lt_of_not_le small)
    have length : decimalLength n = (Nat.toDigits 10 n).length := rfl
    omega

end Digits

section Integers

theorem splitSign_of_isDigit {c : Char} (digit : c.isDigit = true) (rest : List Char) :
    splitSign (c :: rest) = (false, c :: rest) := by
  have notPlus : c ≠ '+' := by
    rintro rfl
    exact absurd digit (by decide)
  have notMinus : c ≠ '-' := by
    rintro rfl
    exact absurd digit (by decide)
  unfold splitSign
  split <;> simp_all

theorem toDigits_eq_cons (n : ℕ) : ∃ c rest, Nat.toDigits 10 n = c :: rest ∧ c.isDigit = true := by
  obtain ⟨c, rest, shape⟩ := List.exists_cons_of_ne_nil (Nat.toDigits_ne_nil (n := n) (b := 10))
  refine ⟨c, rest, shape, isDigit_of_mem_toDigits (n := n) ?_⟩
  rw [shape]
  exact List.mem_cons_self

-- An integer's text is its sign, then the digits of its magnitude.
theorem splitSign_toString (k : ℤ) :
    splitSign (toString k).toList = (decide (k < 0), Nat.toDigits 10 k.natAbs) := by
  rw [Int.toString_eq_repr, Int.repr_eq_if]
  split
  · rename_i nonneg
    obtain ⟨c, rest, shape, digit⟩ := toDigits_eq_cons k.toNat
    have magnitude : k.toNat = k.natAbs := by omega
    rw [Nat.toList_repr, shape, splitSign_of_isDigit digit, ← shape, magnitude]
    simp [nonneg]
  · rename_i negative
    have magnitude : (-k).toNat = k.natAbs := by omega
    simp only [String.toList_append, Nat.toList_repr, magnitude]
    simp [splitSign]
    omega

theorem signed_natAbs (k : ℤ) :
    (if decide (k < 0) = true then -(k.natAbs : ℤ) else k.natAbs) = k := by
  by_cases negative : k < 0
  · rw [if_pos (decide_eq_true negative), Int.ofNat_natAbs_of_nonpos negative.le, neg_neg]
  · rw [if_neg (by simpa using negative), Int.natAbs_of_nonneg (by omega)]

theorem toDigits_ready (n : ℕ) :
    ((Nat.toDigits 10 n).isEmpty || !(Nat.toDigits 10 n).all Char.isDigit) = false := by
  simp only [List.isEmpty_eq_false_iff.mpr Nat.toDigits_ne_nil, Bool.false_or, Bool.not_eq_false',
    List.all_eq_true]
  exact fun c member => isDigit_of_mem_toDigits member

theorem readInteger?_toString {allowMinus : Bool} {k : ℤ} (sign : k < 0 → allowMinus = true) :
    readInteger? allowMinus (toString k) = some k := by
  unfold readInteger?
  rw [splitSign_toString]
  dsimp only
  have allowed : (decide (k < 0) && !allowMinus) = false := by
    by_cases negative : k < 0 <;> simp [negative, sign]
  rw [if_neg (by simp [allowed]), toDigits_ready, if_neg (by decide), digitsValue_toDigits]
  exact congrArg some (signed_natAbs k)

theorem readExponent?_toString (k : ℤ) : readExponent? ('e' :: (toString k).toList) = some k := by
  simp only [readExponent?]
  rw [if_pos (by decide), splitSign_toString]
  dsimp only
  rw [toDigits_ready, if_neg (by decide), digitsValue_toDigits]
  exact congrArg some (signed_natAbs k)

end Integers

section Numerals

theorem takeWhile_of_stops {tail : List Char} (stops : ∀ c ∈ tail.head?, c.isDigit = false) :
    tail.takeWhile Char.isDigit = [] := by
  cases tail with
  | nil => rfl
  | cons c rest => simp_all

theorem dropWhile_of_stops {tail : List Char} (stops : ∀ c ∈ tail.head?, c.isDigit = false) :
    tail.dropWhile Char.isDigit = tail := by
  cases tail with
  | nil => rfl
  | cons c rest => simp_all

/-- A numeral with a point: the digits before it and after it, then the exponent. -/
theorem DecimalNumeral.read?_point {whole fraction tail : List Char}
    (wholeDigits : ∀ c ∈ whole, c.isDigit = true) (started : whole ≠ [])
    (fractionDigits : ∀ c ∈ fraction, c.isDigit = true)
    (stops : ∀ c ∈ tail.head?, c.isDigit = false) :
    DecimalNumeral.read? (whole ++ '.' :: (fraction ++ tail)) =
      (readExponent? tail).map fun exponent => ⟨whole, fraction, exponent⟩ := by
  have point : ∀ c ∈ ('.' :: (fraction ++ tail)).head?, c.isDigit = false := by simp
  unfold DecimalNumeral.read?
  rw [List.takeWhile_append_of_pos wholeDigits, takeWhile_of_stops point,
    List.dropWhile_append_of_pos wholeDigits, dropWhile_of_stops point]
  simp only [List.append_nil]
  rw [List.takeWhile_append_of_pos fractionDigits, takeWhile_of_stops stops,
    List.dropWhile_append_of_pos fractionDigits, dropWhile_of_stops stops, List.append_nil]
  simp [started]

/-- A numeral without a point: its digits, then the exponent. -/
theorem DecimalNumeral.read?_whole {whole tail : List Char}
    (wholeDigits : ∀ c ∈ whole, c.isDigit = true) (started : whole ≠ [])
    (stops : ∀ c ∈ tail.head?, c.isDigit = false ∧ c ≠ '.') :
    DecimalNumeral.read? (whole ++ tail) =
      (readExponent? tail).map fun exponent => ⟨whole, [], exponent⟩ := by
  have notDigit : ∀ c ∈ tail.head?, c.isDigit = false := fun c member => (stops c member).1
  unfold DecimalNumeral.read?
  rw [List.takeWhile_append_of_pos wholeDigits, takeWhile_of_stops notDigit,
    List.dropWhile_append_of_pos wholeDigits, dropWhile_of_stops notDigit, List.append_nil]
  cases tail with
  | nil => simp [started]
  | cons c rest =>
    have different : c ≠ '.' := (stops c (by simp)).2
    simp [different, started]

end Numerals

end Schemata
