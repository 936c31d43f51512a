/-!
IEEE 754 binary interchange formats, kept as their encodings.

A datum is the natural number of its bit pattern, so equality of data is equality of patterns
and every field is read with `/` and `%`. Reading an exact real into a format is
`BinaryFloat.ofRatio`: the nearest datum, a tie going to the even significand, and magnitudes
beyond the largest finite datum becoming infinity. Order and equality of values follow
IEEE 754: a NaN is unordered and unequal to everything, and the two zeros are equal.
-/

namespace Schemata

-- Arithmetic elaborates with the core instances, whatever else is imported.
attribute [local instance (high)] instPowNat

structure BinaryFormat where
  fractionBits : Nat
  exponentBits : Nat
  deriving DecidableEq, Repr

namespace BinaryFormat

def binary32 : BinaryFormat := ⟨23, 8⟩

def binary64 : BinaryFormat := ⟨52, 11⟩

/-- Significand bits, the hidden leading one included. -/
def precision (fmt : BinaryFormat) : Nat := fmt.fractionBits + 1

def bias (fmt : BinaryFormat) : Nat := 2 ^ (fmt.exponentBits - 1) - 1

def topField (fmt : BinaryFormat) : Nat := 2 ^ fmt.exponentBits - 1

/-- Binary exponent of the last significand bit of the subnormal numbers. -/
def minExponent (fmt : BinaryFormat) : Int := 1 - (fmt.bias : Int) - fmt.fractionBits

def signPosition (fmt : BinaryFormat) : Nat := fmt.fractionBits + fmt.exponentBits

end BinaryFormat

structure BinaryFloat (fmt : BinaryFormat) where
  bits : Nat
  deriving DecidableEq, Repr

abbrev Binary32 := BinaryFloat BinaryFormat.binary32

abbrev Binary64 := BinaryFloat BinaryFormat.binary64

/-- What a bit pattern stands for. A finite value is `± significand * 2 ^ exponent`. -/
inductive FloatClass where
  | nan
  | infinite (negative : Bool)
  | finite (negative : Bool) (significand : Nat) (exponent : Int)
  deriving DecidableEq, Repr

/-- Nearest natural number to `num / den`, a tie going to the even one. -/
def roundHalfEven (num den : Nat) : Nat :=
  let q := num / den
  let r := num % den
  if 2 * r < den then q
  else if den < 2 * r then q + 1
  else if q % 2 = 0 then q else q + 1

/-- `⌊log₂ (num / den)⌋` for positive `num` and `den`. The bit lengths give it up to one. -/
def floorLog2Ratio (num den : Nat) : Int :=
  let k : Int := (num.log2 : Int) - den.log2
  if 0 ≤ k then
    if den * 2 ^ k.toNat ≤ num then k else k - 1
  else
    if den ≤ num * 2 ^ (-k).toNat then k else k - 1

/-- The pair `(num', den')` with `num' / den' = num / (den * 2 ^ e)`. -/
def scaleByTwoPow (num den : Nat) (e : Int) : Nat × Nat :=
  if 0 ≤ e then (num, den * 2 ^ e.toNat) else (num * 2 ^ (-e).toNat, den)

namespace BinaryFloat

variable {fmt : BinaryFormat}

def negative (x : BinaryFloat fmt) : Bool := x.bits / 2 ^ fmt.signPosition % 2 == 1

def field (x : BinaryFloat fmt) : Nat := x.bits / 2 ^ fmt.fractionBits % 2 ^ fmt.exponentBits

def fraction (x : BinaryFloat fmt) : Nat := x.bits % 2 ^ fmt.fractionBits

/-- The bits below the sign. Among non-NaN data they order magnitudes. -/
def magnitude (x : BinaryFloat fmt) : Nat := x.bits % 2 ^ fmt.signPosition

def ofFields (negative : Bool) (field fraction : Nat) : BinaryFloat fmt :=
  ⟨(if negative then 2 ^ fmt.signPosition else 0) + field * 2 ^ fmt.fractionBits + fraction⟩

def zero (negative : Bool) : BinaryFloat fmt := ofFields negative 0 0

def infinity (negative : Bool) : BinaryFloat fmt := ofFields negative fmt.topField 0

/-- The quiet NaN without payload. -/
def nan : BinaryFloat fmt := ofFields false fmt.topField (2 ^ (fmt.fractionBits - 1))

def classify (x : BinaryFloat fmt) : FloatClass :=
  if x.field = fmt.topField then
    if x.fraction = 0 then .infinite x.negative else .nan
  else if x.field = 0 then
    .finite x.negative x.fraction fmt.minExponent
  else
    .finite x.negative (2 ^ fmt.fractionBits + x.fraction)
      ((x.field : Int) - fmt.bias - fmt.fractionBits)

def isNaN (x : BinaryFloat fmt) : Bool := x.field == fmt.topField && x.fraction != 0

def isInfinite (x : BinaryFloat fmt) : Bool := x.field == fmt.topField && x.fraction == 0

def isZero (x : BinaryFloat fmt) : Bool := x.magnitude == 0

/-- Encodes `± significand * 2 ^ exponent` for a significand below `2 ^ precision` whose
exponent is `minExponent` when the significand has no leading one; a field past the largest
finite binade is infinity. -/
def encode (negative : Bool) (significand : Nat) (exponent : Int) : BinaryFloat fmt :=
  if significand < 2 ^ fmt.fractionBits then
    ofFields negative 0 significand
  else
    let field := exponent + fmt.bias + fmt.fractionBits
    if (fmt.topField : Int) ≤ field then infinity negative
    else ofFields negative field.toNat (significand - 2 ^ fmt.fractionBits)

/-- The datum nearest to `± num / den`: the quantum is the larger of the value's own last
significand bit and the subnormal quantum, the significand is rounded half to even, and a
significand that rounds up to `2 ^ precision` moves to the next binade. -/
def ofRatio (negative : Bool) (num den : Nat) : BinaryFloat fmt :=
  if num = 0 ∨ den = 0 then zero negative
  else
    let e := max (floorLog2Ratio num den - fmt.fractionBits) fmt.minExponent
    let scaled := scaleByTwoPow num den e
    let m := roundHalfEven scaled.1 scaled.2
    if m = 2 ^ fmt.precision then encode negative (2 ^ fmt.fractionBits) (e + 1)
    else encode negative m e

def ofDyadic (negative : Bool) (m : Nat) (e : Int) : BinaryFloat fmt :=
  if 0 ≤ e then ofRatio negative (m * 2 ^ e.toNat) 1 else ofRatio negative m (2 ^ (-e).toNat)

def ofInt (i : Int) : BinaryFloat fmt := ofRatio (i < 0) i.natAbs 1

def convert {target : BinaryFormat} (x : BinaryFloat fmt) : BinaryFloat target :=
  match x.classify with
  | .nan => nan
  | .infinite negative => infinity negative
  | .finite negative m e => ofDyadic negative m e

def neg (x : BinaryFloat fmt) : BinaryFloat fmt :=
  if x.negative then ⟨x.bits - 2 ^ fmt.signPosition⟩ else ⟨x.bits + 2 ^ fmt.signPosition⟩

/-- IEEE 754 addition, rounded to nearest: the exact sum of two finite data is rounded once,
an exact zero sum is negative only when both addends are, and opposite infinities give NaN. -/
def add (x y : BinaryFloat fmt) : BinaryFloat fmt :=
  match x.classify, y.classify with
  | .nan, _ => nan
  | _, .nan => nan
  | .infinite a, .infinite b => if a = b then infinity a else nan
  | .infinite a, _ => infinity a
  | _, .infinite b => infinity b
  | .finite a m e, .finite b n f =>
    let g := min e f
    let u : Int := (if a then -1 else 1) * ((m * 2 ^ (e - g).toNat : Nat) : Int)
    let v : Int := (if b then -1 else 1) * ((n * 2 ^ (f - g).toNat : Nat) : Int)
    let s := u + v
    if s = 0 then zero (a && b) else ofDyadic (s < 0) s.natAbs g

/-- IEEE 754 multiplication, rounded to nearest: the exact product of two finite data is
rounded once; zero times infinity is NaN. -/
def mul (x y : BinaryFloat fmt) : BinaryFloat fmt :=
  match x.classify, y.classify with
  | .nan, _ => nan
  | _, .nan => nan
  | .infinite a, .infinite b => infinity (a != b)
  | .infinite a, .finite b m _ => if m = 0 then nan else infinity (a != b)
  | .finite a m _, .infinite b => if m = 0 then nan else infinity (a != b)
  | .finite a m e, .finite b n f => ofDyadic (a != b) (m * n) (e + f)

/-- IEEE 754 division, rounded to nearest: the exact quotient of two finite data is rounded
once; a finite non-zero datum over zero is infinite, and zero over zero is NaN. -/
def div (x y : BinaryFloat fmt) : BinaryFloat fmt :=
  match x.classify, y.classify with
  | .nan, _ => nan
  | _, .nan => nan
  | .infinite _, .infinite _ => nan
  | .infinite a, .finite b _ _ => infinity (a != b)
  | .finite a _ _, .infinite b => zero (a != b)
  | .finite a m e, .finite b n f =>
    if n = 0 then (if m = 0 then nan else infinity (a != b))
    else if 0 ≤ e - f then ofRatio (a != b) (m * 2 ^ (e - f).toNat) n
    else ofRatio (a != b) m (n * 2 ^ (f - e).toNat)

/-- The integer part, rounding toward zero; NaN and infinities have none. -/
def truncate? (x : BinaryFloat fmt) : Option Int :=
  match x.classify with
  | .finite negative m e =>
    let whole : Nat := if 0 ≤ e then m * 2 ^ e.toNat else m / 2 ^ (-e).toNat
    some (if negative then -(whole : Int) else whole)
  | _ => none

/-- A key that orders all non-NaN data as their values: the two zeros share the key 0. -/
def orderKey (x : BinaryFloat fmt) : Int :=
  if x.negative then -(x.magnitude : Int) else x.magnitude

def lt (x y : BinaryFloat fmt) : Bool := !x.isNaN && !y.isNaN && decide (x.orderKey < y.orderKey)

def le (x y : BinaryFloat fmt) : Bool := !x.isNaN && !y.isNaN && decide (x.orderKey ≤ y.orderKey)

/-- IEEE 754 equality: a NaN equals nothing, and `-0 = +0`. -/
def sameValue (x y : BinaryFloat fmt) : Bool := !x.isNaN && !y.isNaN && x.orderKey == y.orderKey

end BinaryFloat

end Schemata
