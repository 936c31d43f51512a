import Schemata.Number.Binary
import Schemata.Number.Shortest

/-!
Reading numbers from text.

An integer numeral is an optional sign followed by one or more ASCII digits and nothing else;
a minus sign is refused where only non-negative numbers are wanted. A float numeral is an
optional sign followed by `inf`, `infinity` or `nan` in any case, or by a decimal with at
least one digit, an optional point and an optional exponent `e` or `E` with its own sign.
The decimal is read exactly and rounded once into the format.
-/

namespace Schemata

-- Arithmetic elaborates with the core instances, whatever else is imported.
attribute [local instance (high)] instPowNat

def digitValue (c : Char) : Nat := c.toNat - '0'.toNat

def digitsValue (ds : List Char) : Nat := ds.foldl (fun acc c => 10 * acc + digitValue c) 0

/-- Splits off a leading `+` or `-`: whether it was `-`, and the rest. -/
def splitSign : List Char → Bool × List Char
  | '+' :: rest => (false, rest)
  | '-' :: rest => (true, rest)
  | cs => (false, cs)

/-- Reads an integer numeral; `allowMinus` says whether a leading `-` is accepted. -/
def readInteger? (allowMinus : Bool) (s : String) : Option Int :=
  let (negative, body) := splitSign s.toList
  if negative && !allowMinus then none
  else if body.isEmpty || !body.all Char.isDigit then none
  else
    let n := digitsValue body
    some (if negative then -(n : Int) else n)

structure DecimalNumeral where
  whole : List Char
  fraction : List Char
  exponent : Int

/-- Reads an optional exponent `e[sign]digits` that must end the text. -/
def readExponent? : List Char → Option Int
  | [] => some 0
  | c :: rest =>
    if c = 'e' ∨ c = 'E' then
      let (negative, digits) := splitSign rest
      if digits.isEmpty || !digits.all Char.isDigit then none
      else
        let n := digitsValue digits
        some (if negative then -(n : Int) else n)
    else none

/-- Reads `digits[.digits][exponent]` with at least one digit before the exponent. -/
def DecimalNumeral.read? (cs : List Char) : Option DecimalNumeral :=
  let whole := cs.takeWhile Char.isDigit
  let rest := cs.dropWhile Char.isDigit
  let (fraction, afterFraction) :=
    match rest with
    | '.' :: more => (more.takeWhile Char.isDigit, more.dropWhile Char.isDigit)
    | _ => ([], rest)
  if whole.isEmpty && fraction.isEmpty then none
  else (readExponent? afterFraction).map fun exponent => ⟨whole, fraction, exponent⟩

/-- Decimal exponents of the leading digit beyond which every format is infinite or zero. -/
def readingReach : Int := 400

/-- The datum nearest to `± digits * 10 ^ exponent`. Far beyond the range of the formats the
value is infinity or zero without being computed. -/
def BinaryFloat.ofDecimal {fmt : BinaryFormat} (negative : Bool) (digits : Nat) (exponent : Int) :
    BinaryFloat fmt :=
  if digits = 0 then .zero negative
  else
    let lead := exponent + decimalLength digits
    if readingReach < lead then .infinity negative
    else if lead < -readingReach then .zero negative
    else if 0 ≤ exponent then .ofRatio negative (digits * 10 ^ exponent.toNat) 1
    else .ofRatio negative digits (10 ^ (-exponent).toNat)

def asciiLower (cs : List Char) : List Char := cs.map Char.toLower

/-- Reads a float numeral into `fmt`. A minus sign before `nan` gives the quiet NaN with its
sign bit set. -/
def BinaryFloat.read? {fmt : BinaryFormat} (s : String) : Option (BinaryFloat fmt) :=
  let (negative, body) := splitSign s.toList
  let word := asciiLower body
  if word = "inf".toList ∨ word = "infinity".toList then some (.infinity negative)
  else if word = "nan".toList then some (if negative then BinaryFloat.nan.neg else .nan)
  else
    (DecimalNumeral.read? body).map fun n =>
      .ofDecimal negative (digitsValue (n.whole ++ n.fraction)) (n.exponent - n.fraction.length)

end Schemata
