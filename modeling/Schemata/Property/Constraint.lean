import Schemata.Error
import Schemata.Value.Text

/-!
Constraints a property can carry, and the check each makes when it is attached.

A nullability says whether `null` is allowed. A length bounds the number of characters of a
text and fits only textual types. Allowed values list the values a property may take; each
must be of the property's type. A numeric interval bounds a number from below and above, each
bound inclusive or exclusive; it fits only numeric types, and it is refused when a bound is
NaN, when its minimum exceeds its maximum, or when an exclusive bound sits where both bounds
meet.
-/

namespace Schemata

structure Nullability where
  allowNull : Bool := false
  deriving DecidableEq, Repr

structure StringLength where
  min : Option Nat := none
  max : Option Nat := none
  deriving DecidableEq, Repr

namespace StringLength

/-- Whether a length lies within both bounds. -/
def contains (l : StringLength) (len : Nat) : Bool :=
  (match l.min with | some lo => decide (lo ≤ len) | none => true) &&
  (match l.max with | some hi => decide (len ≤ hi) | none => true)

/-- A length fits textual types only. -/
def check (_length : StringLength) (property : String) (t : ValueType) : Except SchemaError Unit :=
  if t.isTextual then .ok () else .error (.nonTextLength property t.shortName)

def debug (l : StringLength) : String :=
  let bound : Option Nat → String := fun
    | some n => "Some(" ++ toString n ++ ")"
    | none => "None"
  debugRecord "StringLength" [("min", bound l.min), ("max", bound l.max)]

end StringLength

structure AllowedValues where
  values : List Value := []
  deriving Inhabited

namespace AllowedValues

/-- Whether a value equals one of the allowed values, as values of type `t`. -/
def contains (a : AllowedValues) (v : Value) (t : ValueType) : Bool :=
  a.values.any fun allowed => t.valuesEqual allowed v

/-- Every allowed value must be of the property's type; the first that is not is reported. -/
def check (a : AllowedValues) (property : String) (t : ValueType) : Except SchemaError Unit :=
  match a.values.find? fun v => v.type != t with
  | none => .ok ()
  | some v => .error (.allowedValueType property t.shortName v.type.fullName)

end AllowedValues

/-- Bounds on a number, each optional and each inclusive or exclusive. -/
structure NumericInterval where
  minimum : Option Binary64 := none
  exclusiveMinimum : Bool := false
  maximum : Option Binary64 := none
  exclusiveMaximum : Bool := false
  deriving DecidableEq, Repr

namespace NumericInterval

/-- Whether a number lies within the bounds; a NaN lies within no bound. -/
def contains (i : NumericInterval) (x : Binary64) : Bool :=
  let above := match i.minimum with
    | none => true
    | some lo => if i.exclusiveMinimum then lo.lt x else lo.le x
  let below := match i.maximum with
    | none => true
    | some hi => if i.exclusiveMaximum then x.lt hi else x.le hi
  above && below

/-- What makes the interval unusable, in words: a NaN bound, a minimum above the maximum, or
an exclusive bound where the bounds are equal. -/
def defect? (i : NumericInterval) : Option String :=
  let isNaN : Option Binary64 → Bool := fun b => b.any BinaryFloat.isNaN
  if isNaN i.minimum || isNaN i.maximum then some "bound is NaN"
  else match i.minimum, i.maximum with
    | some lo, some hi =>
      if hi.lt lo then
        some ("minimum " ++ FloatLayout.plain.render lo ++ " is greater than maximum " ++
          FloatLayout.plain.render hi)
      else if lo.sameValue hi && (i.exclusiveMinimum || i.exclusiveMaximum) then
        some ("exclusive bound at " ++ FloatLayout.plain.render lo ++ " leaves the interval empty")
      else none
    | _, _ => none

/-- An interval fits numeric types only, and must not be defective. -/
def check (i : NumericInterval) (property : String) (t : ValueType) : Except SchemaError Unit :=
  if !t.isNumeric then .error (.nonNumericInterval property t.shortName)
  else match i.defect? with
    | some reason => .error (.invalidInterval property reason)
    | none => .ok ()

def debug (i : NumericInterval) : String :=
  let bound : Option Binary64 → String := fun
    | some x => "Some(" ++ FloatLayout.value.render x ++ ")"
    | none => "None"
  let flag : Bool → String := fun b => if b then "true" else "false"
  debugRecord "NumericInterval"
    [("minimum", bound i.minimum), ("exclusive_minimum", flag i.exclusiveMinimum),
     ("maximum", bound i.maximum), ("exclusive_maximum", flag i.exclusiveMaximum)]

end NumericInterval

end Schemata
