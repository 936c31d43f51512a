import Schemata.Value.Text
import Schemata.Number.Read
import Schemata.Json.Render

/-!
Values in JSON.

Truth values, texts, characters, enumeration names and labels are JSON strings or booleans;
integers up to 32 bits and tags are JSON numbers, wider integers are decimal text; floats and
meters are the text of the value layout. `None` is `null`, a present value is what it holds,
except that a present value of a nullable type inside a nullable type is `{"some": x}` so that
it differs from `None`. Collections are arrays.

Reading accepts the same forms, and also: any integer as a JSON number or as a numeral, floats
as JSON numbers (the double the number was read as, rounded to single precision when needed)
or as any numeral `BinaryFloat.read?` accepts. A JSON double is never an integer, even with an integral value.
-/

namespace Schemata

namespace Value

/-- The JSON form of a value. -/
def toJson : Value → Json
  | .bool b => .bool b
  | .char c => .str (String.singleton c)
  | .int t n => if t.wide then .str (toString n) else .int n
  | .float32 x => .str (FloatLayout.value.render x)
  | .float64 x => .str (FloatLayout.value.render x)
  | .text s => .str s
  | .enum e i => .str (e.valueName i)
  | .tag n => .int n
  | .meters x => .str (FloatLayout.value.render x)
  | .label s => .str s
  | .nullable _ none => .null
  | .nullable inner (some v) =>
    if inner.isNullable then .obj [("some", toJson v)] else toJson v
  | .collection _ _ items => .arr (items.map toJson)

end Value

/-- The double of a JSON number: an integer rounded to the nearest double. -/
def Json.numberAsF64? : Json → Option Binary64
  | .int n => some (.ofInt n)
  | .float x => some x
  | _ => none

/-- A float of format `fmt` from JSON: a JSON number through double precision, or a numeral. -/
def Json.float? {fmt : BinaryFormat} (j : Json) : Option (BinaryFloat fmt) :=
  match j with
  | .str s => BinaryFloat.read? s
  | _ => j.numberAsF64?.map BinaryFloat.convert

/-- Why a JSON value is not a value of a type, in words. -/
def notOfType (t : ValueType) : String := "value does not fit type " ++ t.shortName

/-- An integer of type `t` from JSON: a JSON integer in the type's range, or an integer numeral
of the type (a minus sign only for signed types). A double is not an integer, even with an
integral value. -/
def Json.integer (t : IntType) (j : Json) : Except String Int :=
  match j with
  | .int n => if t.contains n then .ok n else .error (toString n ++ " out of range")
  | .float x => .error (FloatLayout.message.render x ++ " is not an integer")
  | .str s =>
    match readInteger? t.signed s with
    | some n => if t.contains n then .ok n else .error ("bad integer " ++ j.render)
    | none => .error ("bad integer " ++ j.render)
  | _ => .error ("bad integer " ++ j.render)

/-- The single character of a one-character text. -/
def singleChar? (s : String) : Option Char :=
  match s.toList with
  | [c] => some c
  | _ => none

namespace ValueType

/-- Reads a value of this type from JSON, or says why it is not one: the first element of a
collection that is not, and why. -/
def decode : ValueType → Json → Except String Value
  | .bool, j => given (.bool) (j.bool?.map .bool)
  | .char, j => explained ("expected one char, got " ++ j.render) ((j.str?.bind singleChar?).map .char)
  | .int t, j => (j.integer t).map (.int t)
  | .float .f32, j => explained ("bad float " ++ j.render) (j.float?.map .float32)
  | .float .f64, j => explained ("bad float " ++ j.render) (j.float?.map .float64)
  | .text, j => given .text (j.str?.map .text)
  | .enum e, j => given (.enum e) ((j.str?.bind e.indexOf?).map (.enum e))
  | .tag, j => (j.integer .i64).map .tag
  | .meters, j => explained ("bad float " ++ j.render) (j.float?.map .meters)
  | .label, j => given .label (j.str?.map .label)
  | .nullable inner, j =>
    match j with
    | .null => .ok (.nullable inner none)
    | _ =>
      if inner.isNullable then
        match j.field? "some" with
        | some v => (inner.decode v).map fun v => .nullable inner (some v)
        | none => .error (notOfType (.nullable inner))
      else (inner.decode j).map fun v => .nullable inner (some v)
  | .collection shape element, j =>
    match j with
    | .arr items => (decodeAll element items).map (Value.collect shape element)
    | _ => .error (notOfType (.collection shape element))
where
  given (t : ValueType) : Option Value → Except String Value
    | some v => .ok v
    | none => .error (notOfType t)
  explained (why : String) : Option Value → Except String Value
    | some v => .ok v
    | none => .error why
  decodeAll (element : ValueType) : List Json → Except String (List Value)
    | [] => .ok []
    | j :: rest => do
      let v ← element.decode j
      let vs ← decodeAll element rest
      return v :: vs

/-- Reads a value of this type from JSON, if it is one. -/
def decode? (t : ValueType) (j : Json) : Option Value :=
  match t.decode j with
  | .ok v => some v
  | .error _ => none

end ValueType

end Schemata
