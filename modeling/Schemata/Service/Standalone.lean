import Schemata.Service.Reading
import Schemata.Service.Render

/-!
Requests that stand alone: each asks about one thing of the library and keeps no state.

Type and value descriptions, text reading with the standard rules, the collection format, the
constraints' checks, messages, errors and type-erased values.
-/

namespace Schemata

/-- `parse`: the standard rules' parser for a type, and what it reads. -/
def answerParse (req : Json) : Reading Json := do
  let t ← req.needType "type"
  let input ← req.optStr "input"
  let config ← match req.field? "config" with
    | some c => readConfig c
    | none => pure {}
  let (found, _) := (do
    let rules ← standardRules
    ({ rules, config } : Provider).ruleForType t : Traced (Option Handler)).run {}
  match found with
  | none => return .obj [("rule", .null)]
  | some h =>
    return .obj [("parser_type", .str h.parser.valueType.shortName),
                 ("result", parseOutcome h.parser.valueType (h.parser.parse input))]

def answerTypeInfo (req : Json) : Reading Json := do
  let t ← req.needType "type"
  let zero := t.zero
  let byKind : List (String × Json) := match t with
    | .int _ | .float _ | .meters => [("integral", .bool t.integral)]
    | .enum e => [("variants", .arr (e.variants.map .str))]
    | .nullable inner => [("inner", .str inner.shortName)]
    | .collection _ element => [("element", .str element.shortName)]
    | _ => []
  return .obj ([("short_name", .str t.shortName), ("display", .str t.shortName),
    ("kind", .str t.kind.name), ("is_enum", .bool t.isEnum), ("is_nullable", .bool t.isNullable),
    ("is_text", .bool t.isText), ("is_textual", .bool t.isTextual),
    ("is_numeric", .bool t.isNumeric), ("zero", zero.toJson),
    ("zero_formatted", .str (t.format zero)), ("zero_is_null", .bool (t.isNull zero)),
    ("zero_is_zero", .bool (t.isZero zero))] ++ byKind)

def answerTypeDebug (req : Json) : Reading Json := do
  let t ← req.needType "type"
  return .obj [("name", .str t.fullName), ("debug", .str t.debug),
               ("kind_debug", Json.opt .str t.kindDebug?)]

def answerValueInfo (req : Json) : Reading Json := do
  let t ← req.needType "type"
  let valueType ← (·.getD t) <$> req.optType "value_type"
  let v ← decodeValue valueType (← req.need "value")
  let base : List (String × Json) :=
    [("formatted", .str (t.format v)), ("is_zero", .bool (t.isZero v)),
     ("is_null", .bool (t.isNull v)), ("to_f64", floatText (t.toF64 v)),
     ("text_len", Json.opt Json.nat (t.textLength v))]
  match req.field? "other" with
  | none => return .obj base
  | some otherJson =>
    let otherType ← (·.getD t) <$> req.optType "other_type"
    let other ← decodeValue otherType otherJson
    return .obj (base ++ [("equal", .bool (t.valuesEqual v other))])

def answerEqIgnoreCase (req : Json) : Reading Json := do
  return .obj [("equal", .bool (equalIgnoringCase (← req.needStr "a") (← req.needStr "b")))]

def answerCollectionFormat (req : Json) : Reading Json := do
  let format ← match req.field? "format" with
    | none | some .null => pure {}
    | some f => readFormat f
  let text ← req.needStr "text"
  let stripped := format.strip text
  let texts : List String → Json := fun items => .arr (items.map .str)
  return .obj [("stripped", .str stripped), ("split", texts (format.split stripped)),
               ("split_raw", texts (format.split text))]

/-- The name of the property a constraint is checked for, `P` unless the request names one. -/
def checkedName (req : Json) : Reading String :=
  match req.field? "property" with
  | none | some .null => .ok "P"
  | some (.str name) => .ok name
  | some _ => .error (.invalid "field \"property\" must be a string or null")

/-- `interval`: the check of an interval and which numbers it contains. -/
def answerInterval (req : Json) : Reading Json := do
  let interval ← readInterval (← req.need "interval")
  let check ← match ← req.optType "type" with
    | some t => pure [("check", checkOutcome (interval.check (← checkedName req) t))]
    | none => pure []
  let contains ← match req.field? "values" with
    | none => pure []
    | some v => do
      let xs ← (← Json.listAt "values" v).mapM Json.toF64
      pure [("contains", .arr (xs.map fun x => .bool (interval.contains x)))]
  return .obj (check ++ contains)

/-- `string_length`: the check of a length and which lengths it contains. -/
def answerStringLength (req : Json) : Reading Json := do
  let length : StringLength := { min := ← req.optNat "min", max := ← req.optNat "max" }
  let check ← match ← req.optType "type" with
    | some t => pure [("check", checkOutcome (length.check (← checkedName req) t))]
    | none => pure []
  let contains ← match req.field? "lens" with
    | none => pure []
    | some v => do
      let ns ← (← Json.listAt "lens" v).mapM Json.count
      pure [("contains", .arr (ns.map fun n => .bool (length.contains n)))]
  return .obj ([("min_length", Json.opt Json.nat length.min),
                ("max_length", Json.opt Json.nat length.max)] ++ check ++ contains)

/-- The name and value of a message argument: the first two items of a list. -/
def readArg (a : Json) : Reading (String × String) := do
  let items := match a with
    | .arr items => items
    | _ => []
  let name ← match items.head? with
    | some (.str name) => pure name
    | _ => throw (.invalid "arg name")
  let value ← match items.drop 1 |>.head? with
    | some (.str value) => pure value
    | _ => throw (.invalid "arg value")
  return (name, value)

def answerMessage (req : Json) : Reading Json := do
  let severity ← match req.field? "severity" with
    | some s => readSeverity s
    | none => pure .error
  let mut m := Message.new severity (← req.needStr "template")
  if let some p ← req.optStr "property" then m := m.withProperty p
  for a in ← req.optArr "args" do
    let (name, value) ← readArg a
    m := m.withArg name value
  if let some t ← req.optStr "replace_template" then m := m.withTemplate t
  if let some s := req.field? "replace_severity" then m := m.withSeverity (← readSeverity s)
  match m.toJson with
  | .obj fields =>
    return .obj (fields ++ [("is_error", .bool m.isError), ("display", .str m.formatted)])
  | other => return other

def readTexts (j : Json) (key : String) : Reading (List String) := do
  let items ← j.needArr key
  items.mapM fun item => match item with
    | .str s => pure s
    | _ => throw (.invalid ("\"" ++ key ++ "\" must hold strings"))

/-- An error of one of the library's families from its fields: its variant name, its message
and its debugging view. -/
def readError (family : String) (j : Json) : Reading (String × String × String) := do
  unless ["SchemaError", "ParseError", "ResolveError"].contains family do
    throw (.invalid ("unknown error enum \"" ++ family ++ "\""))
  let kind ← j.needStr "kind"
  let unknown : Reading (String × String × String) :=
    throw (.invalid ("unknown " ++ family ++ " kind \"" ++ kind ++ "\""))
  let schema (e : SchemaError) : Reading (String × String × String) := pure (e.variant, e.message, e.debug)
  let parse (e : ParseError) : Reading (String × String × String) := pure (e.variant, e.message, e.debug)
  match family with
  | "SchemaError" =>
    match kind with
    | "NonNumericInterval" => schema (.nonNumericInterval (← j.needStr "property") (← j.needStr "type_name"))
    | "InvalidInterval" => schema (.invalidInterval (← j.needStr "property") (← j.needStr "reason"))
    | "NonTextLength" => schema (.nonTextLength (← j.needStr "property") (← j.needStr "type_name"))
    | "AllowedValueType" =>
      schema (.allowedValueType (← j.needStr "property") (← j.needStr "type_name") (← j.needStr "found"))
    | "DefaultValueType" =>
      schema (.defaultValueType (← j.needStr "property") (← j.needStr "type_name") (← j.needStr "found"))
    | "PropertyMismatch" => schema (.propertyMismatch (← j.needStr "first") (← j.needStr "second"))
    | "DuplicateProperty" => schema (.duplicateProperty (← j.needStr "schema") (← j.needStr "property"))
    | _ => unknown
  | "ParseError" =>
    match kind with
    | "Invalid" => parse (.invalid (← j.needStr "input") (← j.needStr "type_name"))
    | "Null" => parse (.null (← j.needStr "type_name"))
    | "UnknownVariant" =>
      parse (.unknownVariant (← j.needStr "input") (← j.needStr "type_name") (← readTexts j "expected"))
    | "TypeMismatch" =>
      parse (.typeMismatch (← j.needStr "property") (← j.needStr "expected") (← j.needStr "found"))
    | _ => unknown
  | "ResolveError" =>
    match kind with
    | "Cycle" =>
      let e := ResolveError.cycle (← j.needStr "property") (← readTexts j "path")
      pure (e.variant, e.message, e.debug)
    | _ => unknown
  | _ => throw (.invalid ("unknown error enum \"" ++ family ++ "\""))

def answerError (req : Json) : Reading Json := do
  let family ← req.needStr "enum"
  let (_, message, debug) ← readError family (← req.need "value")
  let eqOther ← match req.field? "other" with
    | none => pure Json.null
    | some other => do
      let (_, _, otherDebug) ← readError family other
      pure (Json.bool (otherDebug == debug))
  return .obj [("display", .str message), ("debug", .str debug), ("clone_eq", .bool true),
               ("source", .null), ("eq_other", eqOther)]

def answerErased (req : Json) : Reading Json := do
  let t ← req.needType "type"
  let v ← decodeValue t (← req.need "value")
  return .obj [("debug", .str (debugRecordPartial "ErasedValue" [("type", quoteText t.fullName)])),
    ("type_name", .str t.fullName), ("is", .bool true), ("as_any", .bool true),
    ("downcast", v.toJson), ("mutated", .bool true), ("after_mut", t.zero.toJson),
    ("original_after_mut", v.toJson), ("take", v.toJson), ("take_wrong", .bool (t == .tag))]

end Schemata
