import Schemata.Value.Basic
import Schemata.Number.Text
import Schemata.Text.Quoted

/-!
Values as text, and the numeric and length views of values.

Formatting writes a text as itself, an enumeration value by its name, `None` as `null`, a
present value as what it holds, and a collection as `[a, b]` of its formatted elements. All
other values are written as debugging output shows them: integers in decimal, floats in the
value layout, characters in single quotes, the wrappers as `Tag(5)`, `Meters(1.5)` and
`Label("x")`. A type formats only its own values; any other value gives the empty text.
-/

namespace Schemata

namespace Value

def format : Value → String
  | .bool b => if b then "true" else "false"
  | .char c => quoteChar c
  | .int _ n => toString n
  | .float32 x => FloatLayout.value.render x
  | .float64 x => FloatLayout.value.render x
  | .text s => s
  | .enum e i => e.valueName i
  | .tag n => "Tag(" ++ toString n ++ ")"
  | .meters x => "Meters(" ++ FloatLayout.value.render x ++ ")"
  | .label s => "Label(" ++ quoteText s ++ ")"
  | .nullable _ none => "null"
  | .nullable _ (some v) => format v
  | .collection _ _ items => "[" ++ formatItems items ++ "]"
where
  formatItems : List Value → String
    | [] => ""
    | [v] => format v
    | v :: rest => format v ++ ", " ++ formatItems rest

/-- The double-precision value of a number: integers rounded to nearest, single-precision
floats widened exactly. -/
def number? : Value → Option Binary64
  | .int _ n => some (.ofInt n)
  | .float32 x => some x.convert
  | .float64 x => some x
  | .meters x => some x.convert
  | _ => none

def textLength? : Value → Option Nat
  | .text s => some s.length
  | .label s => some s.length
  | _ => none

end Value

namespace ValueType

/-- The text of a value of this type; the empty text for a value of another type. -/
def format (t : ValueType) (v : Value) : String := if t.admits v then v.format else ""

/-- The double-precision value of a number of this type, or of the number a present nullable
value holds. -/
def toF64 : ValueType → Value → Option Binary64
  | .nullable inner, v =>
    match v with
    | .nullable i (some x) => if i == inner then inner.toF64 x else none
    | _ => none
  | t, v => if t.kind == .number && t.admits v then v.number? else none

/-- The length in characters of a text of this type, or of the text a present nullable value
holds. -/
def textLength : ValueType → Value → Option Nat
  | .nullable inner, v =>
    match v with
    | .nullable i (some x) => if i == inner then inner.textLength x else none
    | _ => none
  | t, v => if t.kind == .text && t.admits v then v.textLength? else none

end ValueType

end Schemata
