import Schemata.Number.Shortest

/-!
Writing binary floats as text.

Every layout writes the shortest decimal that reads back. Layouts differ in where scientific
notation takes over, in whether an integral value keeps a `.0`, and in how the exponent is
written: the value layout writes `1.0`, `0.1`, `1e16`, `1e-5`; the plain layout is always
positional and writes `1`, `0.1`, `10000000000000000`, `0.00001`; the message layout writes
`1.0`, `1e+16`, `1e-05`. A NaN is `NaN`, infinities are `inf` and `-inf`, and the negative
zero keeps its sign.
-/

namespace Schemata

structure FloatLayout where
  /-- Leading-digit exponents below this are written in scientific notation. -/
  scientificBelow : Option Int
  /-- Leading-digit exponents from this on are written in scientific notation. -/
  scientificFrom : Option Int
  /-- Whether an integral positional value ends in `.0`. -/
  pointZero : Bool
  /-- Whether a non-negative exponent is written with `+`. -/
  exponentPlus : Bool := false
  /-- The fewest digits of an exponent, padded with zeros. -/
  exponentDigits : Nat := 1

namespace FloatLayout

/-- The layout of values: positional from `1e-4` up to below `1e16`, integral values end in `.0`. -/
def value : FloatLayout := { scientificBelow := some (-4), scientificFrom := some 16, pointZero := true }

/-- The plain layout of interval bounds in messages: always positional, no `.0`. -/
def plain : FloatLayout := { scientificBelow := none, scientificFrom := none, pointZero := false }

/-- The layout of numbers of a request quoted in its error messages: positional from `1e-4` up
to below `1e16` with `.0`, else with a signed exponent of at least two digits. -/
def message : FloatLayout :=
  { scientificBelow := some (-4), scientificFrom := some 16, pointZero := true,
    exponentPlus := true, exponentDigits := 2 }

/-- The layout of doubles written as JSON numbers: positional from `1e-5` up to below `1e16`,
integral values end in `.0`. -/
def jsonNumber : FloatLayout :=
  { scientificBelow := some (-5), scientificFrom := some 16, pointZero := true }

def isPositional (layout : FloatLayout) (lead : Int) : Bool :=
  (match layout.scientificBelow with | some low => decide (low ≤ lead) | none => true) &&
  (match layout.scientificFrom with | some high => decide (lead < high) | none => true)

def zeros (n : Nat) : String := String.ofList (List.replicate n '0')

def positional (layout : FloatLayout) (d : Decimal) : String :=
  let text := d.digitText
  let len := text.length
  if 0 ≤ d.exponent then
    text ++ zeros d.exponent.toNat ++ (if layout.pointZero then ".0" else "")
  else
    let whole : Int := len + d.exponent
    if 0 < whole then
      String.ofList (text.toList.take whole.toNat) ++ "." ++
        String.ofList (text.toList.drop whole.toNat)
    else
      "0." ++ zeros (-whole).toNat ++ text

def exponentText (layout : FloatLayout) (e : Int) : String :=
  let digits := toString e.natAbs
  (if e < 0 then "-" else if layout.exponentPlus then "+" else "") ++
    zeros (layout.exponentDigits - digits.length) ++ digits

/-- A decimal written as its leading digit, the other digits after a point, and the exponent
of the leading digit after `e`. -/
def scientific (layout : FloatLayout) (d : Decimal) : String :=
  match d.digitText.toList with
  | [] => "0e0"
  | first :: rest =>
    String.singleton first ++ (if rest.isEmpty then "" else "." ++ String.ofList rest) ++
      "e" ++ layout.exponentText d.leadingExponent

def render (layout : FloatLayout) {fmt : BinaryFormat} (x : BinaryFloat fmt) : String :=
  match x.classify with
  | .nan => "NaN"
  | .infinite negative => if negative then "-inf" else "inf"
  | .finite negative m e =>
    let sign := if negative then "-" else ""
    if m = 0 then sign ++ (if layout.pointZero then "0.0" else "0")
    else
      let d := shortestDecimal fmt m e
      sign ++ (if layout.isPositional d.leadingExponent then layout.positional d
        else layout.scientific d)

end FloatLayout

end Schemata
