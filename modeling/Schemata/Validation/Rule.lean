import Schemata.Validation.Message
import Schemata.Validation.Predicate
import Schemata.Container.Resolve

/-!
Validation rules: checks of one property's value in a container, each yielding messages.

A rule reads its property's value through a resolver; a value that cannot be resolved (a
cycle of calculations) is itself reported as an error message. Otherwise:

* `notNull` wants a value that is defined and not the `None` of a nullable type;
* `notDefault` wants a defined value other than the type's zero;
* `predicate` applies a test to a defined value of the property's type;
* `length`, `allowed` and `range` check a present text's length, a defined value against a
  list, and a defined number against an interval;
* `both` runs two rules on one property and joins their messages; when it breaks on the first
  error, it reports at most the first message of the first rule that has any;
* `either` fails only when both rules fail, with one message joining both;
* `customized` replaces the template or the severity of every message of its rule.

Values are formatted for messages by the validator's formatter.
-/

namespace Schemata

/-- How values are written into messages: as the library formats them, or that in quotes. -/
inductive ValueFormatter where
  | standard
  | quoted
  deriving DecidableEq, Repr

namespace ValueFormatter

def format (f : ValueFormatter) (t : ValueType) (v : Value) : String :=
  match f with
  | .standard => t.format v
  | .quoted => "\"" ++ t.format v ++ "\""

end ValueFormatter

structure ValidationContext where
  resolver : Resolver
  formatter : ValueFormatter := .standard

namespace ValidationContext

/-- The value of a property, "not defined" when it has none, or the message saying why it
cannot be resolved. -/
def value (cx : ValidationContext) (p : Property) : Traced (Except Message PropertyValue) := do
  match ← cx.resolver.resolve p with
  | .ok (some v) => return .ok v
  | .ok none => return .ok (.notDefined p)
  | .error e =>
    return .error ((Message.new .error "{propertyName} could not be resolved: {error}").withProperty
      p.name |>.withArg "error" e.message)

def formatted (cx : ValidationContext) (v : PropertyValue) : String :=
  cx.formatter.format v.property.type v.value

def debug (cx : ValidationContext) : String :=
  debugRecordPartial "ValidationContext" [("resolver", cx.resolver.debug)]

end ValidationContext

/-- Whether a property value is defined and not the `None` of a nullable type. -/
def PropertyValue.isPresent (v : PropertyValue) : Bool :=
  v.hasValue && !v.property.type.isNull v.value

/-- An interval written with brackets: `[0, 5)`, `(-inf, 3]`. -/
def NumericInterval.bracketed (i : NumericInterval) : String :=
  let lower := match i.minimum with
    | some lo => (if i.exclusiveMinimum then "(" else "[") ++ FloatLayout.plain.render lo
    | none => "(-inf"
  let upper := match i.maximum with
    | some hi => FloatLayout.plain.render hi ++ (if i.exclusiveMaximum then ")" else "]")
    | none => "inf)"
  lower ++ ", " ++ upper

inductive ValidationRule where
  | notNull (p : Property)
  | notDefault (p : Property)
  | predicate (p : Property) (test : ValueTest)
  | length (p : Property) (bounds : StringLength)
  | allowed (p : Property) (values : AllowedValues)
  | range (p : Property) (interval : NumericInterval)
  | both (first last : ValidationRule) (breakOnFirstError : Bool)
  | either (first last : ValidationRule)
  | customized (inner : ValidationRule) (template : Option String) (severity : Option Severity)

namespace ValidationRule

/-- The property a rule checks: a combination checks the property of its first rule. -/
def property : ValidationRule → Property
  | .notNull p | .notDefault p | .predicate p _ | .length p _ | .allowed p _ | .range p _ => p
  | .both first _ _ | .either first _ => first.property
  | .customized inner _ _ => inner.property

/-- Both rules on one property; two rules on different property identities are refused. -/
def combine (first last : ValidationRule) (breakOnFirstError : Bool) :
    Except SchemaError ValidationRule :=
  if first.property.id == last.property.id then .ok (.both first last breakOnFirstError)
  else .error (.propertyMismatch first.property.name last.property.name)

/-- A length rule, if the length fits the property's type. -/
def lengthOf (p : Property) (bounds : StringLength) : Except SchemaError ValidationRule :=
  (bounds.check p.name p.type).map fun () => .length p bounds

/-- An allowed-values rule, if every value is of the property's type. -/
def allowedOf (p : Property) (values : AllowedValues) : Except SchemaError ValidationRule :=
  (values.check p.name p.type).map fun () => .allowed p values

/-- A range rule, if the interval fits the property's type. -/
def rangeOf (p : Property) (interval : NumericInterval) : Except SchemaError ValidationRule :=
  (interval.check p.name p.type).map fun () => .range p interval

def joined (messages : List Message) : String := ", ".intercalate (messages.map (·.formatted))

/-- The message of a length rule whose bounds a text of `length` characters misses. -/
def lengthMessage (p : Property) (bounds : StringLength) (length : Nat) (value : String) :
    Message :=
  let template := match bounds.min, bounds.max with
    | some _, some _ => "{propertyName} length should be between {minLength} and {maxLength} but was {length}"
    | some _, none => "{propertyName} length should be at least {minLength} but was {length}"
    | none, _ => "{propertyName} length should be at most {maxLength} but was {length}"
  let m := (Message.new .error template).withProperty p.name
    |>.withArg "length" (toString length) |>.withArg "value" value
  let m := match bounds.min with
    | some lo => m.withArg "minLength" (toString lo)
    | none => m
  match bounds.max with
  | some hi => m.withArg "maxLength" (toString hi)
  | none => m

def validate (cx : ValidationContext) : ValidationRule → Traced (List Message)
  | .notNull p => do
    match ← cx.value p with
    | .error m => return [m]
    | .ok v =>
      if v.isPresent then return []
      return [(Message.new .error "{propertyName} should not be null").withProperty p.name]
  | .notDefault p => do
    match ← cx.value p with
    | .error m => return [m]
    | .ok v =>
      if v.hasValue && !p.type.isZero v.value then return []
      return [(Message.new .error "{propertyName} should not have default value {value}").withProperty
        p.name |>.withArg "value" (cx.formatted v)]
  | .predicate p test => do
    match ← cx.value p with
    | .error m => return [m]
    | .ok v =>
      if !v.hasValue || v.value.type != p.type || test.holds v.value.toJson then return []
      return [(Message.new .error "{value} is not valid for {propertyName}").withProperty p.name
        |>.withArg "value" (cx.formatted v)]
  | .length p bounds => do
    match ← cx.value p with
    | .error m => return [m]
    | .ok v =>
      if !v.isPresent then return []
      match p.type.textLength v.value with
      | none => return []
      | some n =>
        if bounds.contains n then return []
        return [lengthMessage p bounds n (cx.formatted v)]
  | .allowed p values => do
    match ← cx.value p with
    | .error m => return [m]
    | .ok v =>
      if !v.hasValue || values.contains v.value p.type then return []
      let listed := ", ".intercalate (values.values.map (cx.formatter.format p.type))
      return [(Message.new .error "{propertyName} should be one of [{allowedValues}] but was {value}")
        |>.withProperty p.name |>.withArg "allowedValues" listed
        |>.withArg "value" (cx.formatted v)]
  | .range p interval => do
    match ← cx.value p with
    | .error m => return [m]
    | .ok v =>
      if !v.hasValue then return []
      match p.type.toF64 v.value with
      | none => return []
      | some x =>
        if interval.contains x then return []
        return [(Message.new .error "{propertyName} should be in range {range} but was {value}")
          |>.withProperty p.name |>.withArg "range" interval.bracketed
          |>.withArg "value" (cx.formatted v)]
  | .both first last breakOnFirstError => do
    let messages ← validate cx first
    if breakOnFirstError && !messages.isEmpty then return messages.take 1
    let rest ← validate cx last
    return messages ++ (if breakOnFirstError then rest.take 1 else rest)
  | .either first last => do
    let one ← validate cx first
    let other ← validate cx last
    if one.isEmpty || other.isEmpty then return []
    let severity := (one ++ other).foldl (fun s m => s.max m.severity) .information
    return [(Message.new severity "[{first}] or [{last}]").withProperty first.property.name
      |>.withArg "first" (joined one) |>.withArg "last" (joined other)]
  | .customized inner template severity => do
    let messages ← validate cx inner
    return messages.map fun m =>
      let retemplated := match template with
        | some t => m.withTemplate t
        | none => m
      match severity with
      | some s => retemplated.withSeverity s
      | none => retemplated

/-- The debugging view of a rule. -/
def debug : ValidationRule → String
  | .notNull p => debugRecord "NotNull" [("property", p.debug)]
  | .notDefault p => debugRecord "NotDefault" [("property", p.debug)]
  | .predicate p _ => debugRecordPartial "Predicate" [("property", p.debug)]
  | .length p bounds => debugRecord "LengthRule" [("property", p.debug), ("length", bounds.debug)]
  | .allowed p values =>
    debugRecord "AllowedValuesRule"
      [("property", p.debug),
       ("values", "AllowedValues([" ++ ", ".intercalate (values.values.map fun v =>
          debugRecordPartial "ErasedValue" [("type", quoteText v.type.fullName)]) ++ "])")]
  | .range p interval => debugRecord "RangeRule" [("property", p.debug), ("interval", interval.debug)]
  | .both first last breakOnFirstError =>
    debugRecord "And" [("first", debug first), ("last", debug last),
      ("break_on_first_error", if breakOnFirstError then "true" else "false")]
  | .either first last => debugRecord "Or" [("first", debug first), ("last", debug last)]
  | .customized inner template severity =>
    debugRecord "Customized" [("inner", debug inner),
      ("template", match template with | some t => "Some(" ++ quoteText t ++ ")" | none => "None"),
      ("severity", match severity with | some s => "Some(" ++ s.debug ++ ")" | none => "None")]

end ValidationRule

end Schemata
