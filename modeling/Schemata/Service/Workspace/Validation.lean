import Schemata.Service.Workspace.Containers

/-!
Steps on validation: declaring rules, synthesizing them from metadata, and validating
containers.

A declared rule is kept by identity and bound to its name; metadata refers to it by identity,
and answers write it by the name it is bound to.
-/

namespace Schemata

/-- The rule a `vrule` request describes. -/
def Step.describedRule (req : Json) : Step (Except SchemaError ValidationRule) := do
  let propertyAt (key : String) : Step Property := do
    Step.property (← Step.ofReading (req.needStr key))
  let ruleAt (v : Json) : Step ValidationRule := do
    match v with
    | .str name => return (← Step.rule name).2
    | _ => throw (.invalid "rule id")
  let pairAt (key : String) : Step (ValidationRule × ValidationRule) := do
    match ← Step.ofReading (req.need key) with
    | .arr (a :: b :: _) => return (← ruleAt a, ← ruleAt b)
    | _ => throw (.invalid "expected [rule, rule]")
  if (req.field? "not_null").isSome then return .ok (.notNull (← propertyAt "not_null"))
  if (req.field? "not_default").isSome then return .ok (.notDefault (← propertyAt "not_default"))
  if (req.field? "should_be").isSome then
    let p ← propertyAt "should_be"
    let pred ← Step.ofReading (req.need "pred")
    return .ok (.predicate p (← Step.ofReading (readValueTest pred.weight pred)))
  if (req.field? "length").isSome then
    let p ← propertyAt "length"
    let bounds : StringLength :=
      { min := ← Step.ofReading (req.optNat "min"), max := ← Step.ofReading (req.optNat "max") }
    return ValidationRule.lengthOf p bounds
  if (req.field? "allowed").isSome then
    let p ← propertyAt "allowed"
    let t := (← Step.ofReading (req.optType "type")).getD p.type
    let items ← match ← Step.ofReading (req.need "values") with
      | .arr items => pure items
      | _ => throw (.invalid "expected list of values")
    let values ← items.mapM fun v => Step.ofReading (decodeValue t v)
    return ValidationRule.allowedOf p ⟨values⟩
  if (req.field? "interval").isSome then
    let p ← propertyAt "interval"
    return ValidationRule.rangeOf p (← Step.ofReading (readInterval (← Step.ofReading (req.need "bounds"))))
  if (req.field? "and").isSome || (req.field? "and_break").isSome then
    let (a, b) ← pairAt (if (req.field? "and").isSome then "and" else "and_break")
    return ValidationRule.combine a b (req.field? "and_break").isSome
  if (req.field? "or").isSome then
    let (a, b) ← pairAt "or"
    return .ok (.either a b)
  if (req.field? "customize").isSome then
    let (_, inner) ← Step.rule (← Step.ofReading (req.needStr "customize"))
    let template ← match req.field? "message" with
      | none | some .null => pure none
      | some (.str t) => pure (some t)
      | some _ => throw (.invalid "field \"message\" must be a string or null")
    let severity ← match req.field? "severity" with
      | some s => some <$> Step.ofReading (readSeverity s)
      | none => pure none
    return .ok (.customized inner template severity)
  throw (.invalid "unknown rule kind")

/-- What a rule's accessors show; the allowed values show only for a rule built on values of a
given type. -/
def ValidationRule.detail (valuesShown : Bool) : ValidationRule → Json
  | .length _ bounds => .obj [("length", bounds.toJson)]
  | .allowed p values =>
    if valuesShown then .obj [("values", .arr (values.values.map fun v => .str (p.type.format v)))]
    else .obj []
  | .range _ interval => .obj [("interval", interval.toJson)]
  | .both first last breakOnFirstError =>
    .obj [("first", .str first.property.name), ("last", .str last.property.name),
          ("break_on_first_error", .bool breakOnFirstError)]
  | .either first last => .obj [("first", .str first.property.name), ("last", .str last.property.name)]
  | .customized inner _ _ => .obj [("inner", .str inner.property.name)]
  | _ => .obj []

def stepRule (req : Json) : Step Json := do
  match ← Step.describedRule req with
  | .error e => return e.toJson
  | .ok rule =>
    let detail ← Step.ofReading (req.flag "detail" false)
    let valuesShown ← match rule with
      | .allowed _ _ => do pure (← Step.ofReading (req.optType "type")).isSome
      | _ => pure false
    let id ← Step.ofReading (req.needStr "id")
    let object ← freshObject
    modify fun w =>
      { w with storedRules := w.storedRules ++ [(object, rule)], rules := w.rules.bind id object }
    let base := [("property", Json.str rule.property.name)]
    if detail then
      return .obj (base ++ [("debug", .str rule.debug), ("detail", rule.detail valuesShown)])
    else return .obj base

/-- The rules a marker names: `not_default` and `not_null` name a rule, other texts none. -/
def markerRules (p : Property) : Metadata → List SynthesizedRule
  | .marker text =>
    if text == "not_default" then [⟨none, .notDefault p⟩]
    else if text == "not_null" then [⟨none, .notNull p⟩]
    else []
  | _ => []

/-- The synthesizer a request asks for: the plain one, or one taught the marker rules. -/
def Step.synthesizer (req : Json) : Step Synthesizer := do
  if ← Step.ofReading (req.flag "extension" false) then
    return ({} : Synthesizer).withExtension .marker markerRules
  else return {}

/-- The validator a request asks for; every validation first checks whether it asks for detail,
and also reads the synthesizer it would use. -/
def Step.validator (req : Json) : Step Validator := do
  let _ ← Step.ofReading (req.flag "detail" false)
  let options ← Step.ofReading (readOptions (req.field? "options"))
  let formatter ← match ← Step.ofReading (req.optStr "formatter") with
    | some "default" | none => pure ValueFormatter.standard
    | some "quoted" => pure ValueFormatter.quoted
    | some other => throw (.unknownName "formatter" other)
  let _ ← Step.synthesizer req
  return { options, formatter }

/-- The answer to a validation, and in detail the views of the result, the validator and the
synthesizer the request asks for. -/
def Step.validationAnswer (req : Json) (v : Validator) (r : ValidationResult) : Step Json := do
  match r.toJson with
  | .obj fields =>
    if ← Step.ofReading (req.flag "detail" false) then
      let texts := Json.arr (r.messages.map fun m => .str m.formatted)
      let detail := [("is_empty", Json.bool r.messages.isEmpty), ("borrowed_iter", texts),
        ("owned_iter", texts), ("into_messages", Json.nat r.len), ("debug", .str r.debug),
        ("validator", .str v.debug), ("options", .str v.options.debug),
        ("synthesizer", .str (← Step.synthesizer req).debug)]
      return .obj (fields ++ [("detail", .obj detail)])
    else return .obj fields
  | other => return other

def stepValidate (req : Json) : Step Json := do
  let c ← Step.container (← Step.ofReading (req.needStr "container"))
  let names ← Step.ofReading (req.needArr "rules")
  let rules ← names.mapM fun n => match n with
    | .str n => (·.2) <$> Step.rule n
    | _ => throw (.invalid "rule id")
  let v ← Step.validator req
  let r ← v.validate c (← get).catalog rules
  Step.validationAnswer req v r

def stepValidateRule (req : Json) : Step Json := do
  let c ← Step.container (← Step.ofReading (req.needStr "container"))
  let (_, rule) ← Step.rule (← Step.ofReading (req.needStr "rule"))
  let v ← Step.validator req
  let r ← v.validateRule c (← get).catalog rule
  Step.validationAnswer req v r

def stepValidateProperty (req : Json) : Step Json := do
  let c ← Step.container (← Step.ofReading (req.needStr "container"))
  let p ← Step.property (← Step.ofReading (req.needStr "property"))
  let v ← Step.validator req
  let s ← Step.synthesizer req
  let w ← get
  let r ← v.validateProperty c w.catalog s w.storedRule? p
  Step.validationAnswer req v r

def stepValidateSchema (req : Json) : Step Json := do
  let c ← Step.container (← Step.ofReading (req.needStr "container"))
  let schema ← Step.schema (← Step.ofReading (req.needStr "schema"))
  let v ← Step.validator req
  let s ← Step.synthesizer req
  let w ← get
  let r ← v.validateSchema c w.catalog s w.storedRule? schema
  Step.validationAnswer req v r

/-- The JSON of synthesized rules: each rule's property, and its name when it is stored. -/
def Step.synthesizedJson (rules : List SynthesizedRule) : Step Json := do
  let w ← get
  return .arr (rules.map fun r =>
    .obj [("property", .str r.rule.property.name),
          ("known", Json.opt .str (r.object.bind w.ruleId?))])

def stepSynthesize (req : Json) : Step Json := do
  let p ← Step.property (← Step.ofReading (req.needStr "property"))
  let s ← Step.synthesizer req
  Step.synthesizedJson (← s.rulesFor (← get).storedRule? p)

def stepSynthesizeSchema (req : Json) : Step Json := do
  let schema ← Step.schema (← Step.ofReading (req.needStr "schema"))
  let s ← Step.synthesizer req
  Step.synthesizedJson (← s.rulesForSchema (← get).storedRule? schema)

def stepVisit (req : Json) : Step Json := do
  let p ← Step.property (← Step.ofReading (req.needStr "property"))
  let (_, m) ← Step.metadataItem (some p.type) (← Step.ofReading (req.need "constraint"))
  match Synthesizer.visit (← get).storedRule? p m with
  | none => throw (.invalid "not a constraint")
  | some (.error e) => return e.toJson
  | some (.ok rules) => return .obj [("rules", ← Step.synthesizedJson rules)]

end Schemata
