import Schemata.Number.Binary

/-!
The shortest decimal that reads back as a given binary datum.

A finite positive datum `m * 2 ^ e` is the value read back from every real of its rounding
interval: the reals nearer to it than to its two neighbours, the ends included exactly when
`m` is even (a tie reads back as the even significand). For `n = 1, 2, …` digits the datum's
two neighbours on the decimal grid of `n` significant digits are tested against that interval;
the first grid with a neighbour inside wins, and of two neighbours inside the nearer one, an
exact tie going to the larger one. If a point of a grid lies in the interval, one of the two
neighbours does, so no shorter decimal reads back.
-/

namespace Schemata

-- Arithmetic elaborates with the core instances, whatever else is imported.
attribute [local instance (high)] instPowNat

/-- A decimal `digits * 10 ^ exponent`. -/
structure Decimal where
  digits : Nat
  exponent : Int
  deriving DecidableEq, Repr

/-- Number of decimal digits of a natural number; zero has one. -/
def decimalLength (n : Nat) : Nat := (Nat.toDigits 10 n).length

/-- `⌊log₁₀ (num / den)⌋` for positive `num` and `den`. The digit counts give it up to one. -/
def floorLog10Ratio (num den : Nat) : Int :=
  let k : Int := (decimalLength num : Int) - decimalLength den
  if 0 ≤ k then
    if den * 10 ^ k.toNat ≤ num then k else k - 1
  else
    if den ≤ num * 10 ^ (-k).toNat then k else k - 1

namespace Decimal

def normalize (d : Decimal) : Decimal :=
  let rec go (digits : Nat) (exponent : Int) (fuel : Nat) : Decimal :=
    match fuel with
    | 0 => ⟨digits, exponent⟩
    | fuel + 1 =>
      if digits ≠ 0 ∧ digits % 10 = 0 then go (digits / 10) (exponent + 1) fuel
      else ⟨digits, exponent⟩
  go d.digits d.exponent (decimalLength d.digits)

def digitText (d : Decimal) : String := String.ofList (Nat.toDigits 10 d.digits)

/-- Decimal exponent of the leading digit: `d` lies in `[10 ^ e, 10 ^ (e + 1))`. -/
def leadingExponent (d : Decimal) : Int := d.exponent + decimalLength d.digits - 1

end Decimal

/-- The rounding interval of a positive datum `m * 2 ^ e`, scaled by `2 ^ (2 - e)`:
the value is `4m`, the upper end `4m + 2`, and the lower end `4m - 2`, or `4m - 1` at the
bottom of a binade where the next datum down is half as far. -/
structure RoundingInterval where
  significand : Nat
  exponent : Int
  lower : Nat
  upper : Nat
  inclusive : Bool

namespace RoundingInterval

def ofDatum (fmt : BinaryFormat) (m : Nat) (e : Int) : RoundingInterval :=
  let closerBelow := m = 2 ^ fmt.fractionBits ∧ fmt.minExponent < e
  { significand := m, exponent := e
    lower := if closerBelow then 4 * m - 1 else 4 * m - 2
    upper := 4 * m + 2
    inclusive := m % 2 == 0 }

/-- `c * 10 ^ k * 2 ^ (2 - e)` as a ratio of naturals. -/
def scaled (r : RoundingInterval) (c : Nat) (k : Int) : Nat × Nat :=
  (c * 10 ^ k.toNat * 2 ^ (2 - r.exponent).toNat, 10 ^ (-k).toNat * 2 ^ (r.exponent - 2).toNat)

def admits (r : RoundingInterval) (c : Nat) (k : Int) : Bool :=
  let (num, den) := r.scaled c k
  if r.inclusive then r.lower * den ≤ num && num ≤ r.upper * den
  else r.lower * den < num && num < r.upper * den

/-- Of `c * 10 ^ k` and `(c + 1) * 10 ^ k` around the value: whether the lower one is strictly
nearer; a tie goes to the upper one. -/
def lowerIsNearer (r : RoundingInterval) (c : Nat) (k : Int) : Bool :=
  let (lowNum, den) := r.scaled c k
  let (highNum, _) := r.scaled (c + 1) k
  let value := 4 * r.significand * den
  let below := value - lowNum
  let above := highNum - value
  below < above

/-- The best decimal of `n` significant digits, if one reads back; `lead` is the decimal
exponent of the value's leading digit. -/
def onGrid (r : RoundingInterval) (lead : Int) (n : Nat) : Option Decimal :=
  let k : Int := lead - n + 1
  let (num, den) := r.scaled 1 k
  -- the value divided by `10 ^ k`, rounded down
  let c := 4 * r.significand * den / num
  let lowOk := c ≠ 0 && r.admits c k
  let highOk := r.admits (c + 1) k
  if lowOk && highOk then
    some (if r.lowerIsNearer c k then ⟨c, k⟩ else ⟨c + 1, k⟩)
  else if lowOk then some ⟨c, k⟩
  else if highOk then some ⟨c + 1, k⟩
  else none

def firstGrid (r : RoundingInterval) (lead : Int) : List Nat → Option Decimal
  | [] => none
  | n :: rest =>
    match r.onGrid lead n with
    | some d => some d
    | none => firstGrid r lead rest

end RoundingInterval

/-- The shortest decimal that reads back as the positive datum `m * 2 ^ e` of `fmt`, with
trailing zeros removed. Seventeen digits always suffice for both formats; the exact value
stands in only if none did. -/
def shortestDecimal (fmt : BinaryFormat) (m : Nat) (e : Int) : Decimal :=
  let r := RoundingInterval.ofDatum fmt m e
  let lead := if 0 ≤ e then floorLog10Ratio (m * 2 ^ e.toNat) 1 else floorLog10Ratio m (2 ^ (-e).toNat)
  match r.firstGrid lead ((List.range 17).map (· + 1)) with
  | some d => d.normalize
  | none =>
    if 0 ≤ e then Decimal.normalize ⟨m * 2 ^ e.toNat, 0⟩
    else Decimal.normalize ⟨m * 5 ^ (-e).toNat, e⟩

end Schemata
