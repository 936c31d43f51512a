import Schemata.Service.Workspace.Properties

/-!
Steps on parsers: declared handlers, rule providers and caches, and lookups through them.

A handler is a parser under a name. Text parsers exist only for the scalars and texts, and
asking for one of another type is an error. Enumeration parsers exist only for enumerations
and nullable enumerations, nullable parsers only for nullable types and collection parsers
only for collections; asking for one of another type creates nothing. A provider holds rules in
order, optionally with the standard rules before or after them.
-/

namespace Schemata

/-- The parser a `handler` request describes, if one of that kind exists for its type. -/
def Step.describedParser (req : Json) (label : String) : Step (Option Parser) := do
  let typeAt (key : String) : Step ValueType := Step.ofReading (req.needType key)
  if (req.field? "fromstr").isSome then
    let t ← typeAt "fromstr"
    if hasStandardReading t then return some (.standard t)
    else throw (.invalid "type has no FromStr parser")
  if (req.field? "const").isSome then
    let t ← typeAt "const"
    let v ← Step.ofReading (decodeValue t (← Step.ofReading (req.need "value")))
    let declared := (← Step.ofReading (req.optType "declared")).getD t
    return some (.constant declared v)
  if (req.field? "fail").isSome then
    return some (.failing (← typeAt "fail") label)
  if (req.field? "enum").isSome then
    let t ← typeAt "enum"
    return match t with
      | .enum _ | .nullable (.enum _) => some (.enumeration t)
      | _ => none
  if (req.field? "nullable").isSome then
    let t ← typeAt "nullable"
    let inner ← Step.handler (← Step.ofReading (req.needStr "inner"))
    return if t.isNullable then some (.nullable t inner.parser) else none
  if (req.field? "collection").isSome then
    let t ← typeAt "collection"
    let element ← Step.handler (← Step.ofReading (req.needStr "element"))
    let format ← match req.field? "format" with
      | none | some .null => pure {}
      | some f => Step.ofReading (readFormat f)
    return match t with
      | .collection _ _ => some (.collection t element.parser format)
      | _ => none
  throw (.invalid "unknown handler kind")

def stepHandler (req : Json) : Step Json := do
  let label ← Step.ofReading (req.needStr "label")
  match ← Step.describedParser req label with
  | none => return .obj [("created", .bool false)]
  | some parser =>
    let object ← freshObject
    modify fun w => { w with handlers := w.handlers.bind label ⟨object, parser⟩ }
    return .obj [("created", .bool true), ("value_type", .str parser.valueType.shortName)]

def targetType : Json → Reading ValueType
  | .str name => parseTypeName name
  | _ => .error (.invalid "type")

/-- The target of a rule: `"untargeted"`, or the first of a `type`, a `type_of` and a
`property` an object gives. -/
def Step.ruleTarget (j : Json) : Step RuleTarget := do
  if let .str "untargeted" := j then return .untargeted
  if let some v := j.field? "type" then return .type (← Step.ofReading (targetType v))
  if let some v := j.field? "type_of" then return .type (← Step.ofReading (targetType v))
  if let some v := j.field? "property" then return .property (← Step.namedProperty (some v))
  throw (.unknown "target" j)

def Step.providerRule (j : Json) : Step Rule := do
  let handler ← Step.handler (← Step.ofReading (j.needStr "handler"))
  let source ← Step.ofReading (j.optStr "source")
  let target ← Step.ruleTarget (← Step.ofReading (j.need "target"))
  return { target, handler, source }

def RuleTarget.toJson : RuleTarget → Json
  | .property p => .obj [("property", .str p.name)]
  | .type t => .obj [("type", .str t.shortName)]
  | .untargeted => .str "untargeted"

/-- What a provider holds; handlers are written by their declared names. -/
def Step.providerJson (pv : Provider) : Step Json := do
  let w ← get
  return .obj [("len", Json.nat pv.len), ("is_empty", .bool pv.rules.isEmpty),
    ("comparer", .str pv.config.comparer.name),
    ("rules", .arr (pv.rules.map fun r =>
      .obj [("target", r.target.toJson), ("specificity", Json.nat r.target.specificity),
            ("source", Json.opt .str r.source),
            ("handler", Json.opt .str (w.handlers.nameOf? (·.object == r.handler.object)))]))]

def Step.keepSource (name : String) (source : RuleSource) : Step Unit := do
  let object ← freshObject
  modify fun w => { w with shelf := w.shelf.put object source, sources := w.sources.bind name object }

/-- Where the standard rules go among the given ones. -/
def readPlacement : Option String → Reading (List Rule → List Rule → List Rule)
  | none => .ok fun _ given => given
  | some "before" => .ok fun standard given => standard ++ given
  | some "after" => .ok fun standard given => given ++ standard
  | some other => .error (.invalid ("standard must be before/after, got " ++ (Json.str other).render))

/-- `provider`: the standard provider, or one built from rules in order with fallbacks and a
configuration, whose builder a `debug` request also shows. -/
def stepProvider (req : Json) : Step Json := do
  let (pv, builderDebug) ← match req.field? "preset" with
    | some (.str "standard") => do pure (({ rules := ← standardRules } : Provider), none)
    | some (.str _) | some .null | none => do
      let given ← (← Step.ofReading (req.optArr "rules")).mapM Step.providerRule
      let place ← Step.ofReading (readPlacement (← Step.ofReading (req.optStr "standard")))
      let rules := place (← standardRules) given
      let fallbacks ← match ← Step.ofReading (req.optStr "fallbacks") with
        | some "parser" | none => pure Fallbacks.parsers
        | some "none" => pure Fallbacks.none
        | some other => throw (.unknownName "fallbacks" other)
      let config ← match req.field? "config" with
        | none | some .null => pure {}
        | some c => Step.ofReading (readConfig c)
      let config := match ← Step.ofReading (req.optComparer "comparer") with
        | some c => { config with comparer := c }
        | none => config
      let pv : Provider := { rules, fallbacks, config }
      let builderDebug := debugRecord "RuleProviderBuilder"
        [("rules", toString pv.len), ("fallbacks", pv.fallbacks.debug), ("config", pv.config.debug)]
      pure (pv, if ← Step.ofReading (req.flag "debug" false) then some builderDebug else none)
    | some _ => throw (.invalid "field \"preset\" must be a string or null")
  let id ← Step.ofReading (req.needStr "id")
  Step.keepSource id (.provider pv)
  match ← Step.providerJson pv, builderDebug with
  | .obj fields, some text => return .obj (fields ++ [("builder_debug", .str text)])
  | answer, _ => return answer

def Step.namedSource (name : String) : Step (Nat × RuleSource) := do
  let object ← Step.source name
  match (← get).shelf.get? object with
  | some source => pure (object, source)
  | none => throw (.unknownName "resolver" name)

def stepForSource (req : Json) : Step Json := do
  let origin ← Step.ofReading (req.needStr "from")
  match ← Step.namedSource origin with
  | (_, .provider pv) =>
    let restricted := pv.forSource (← Step.ofReading (req.needStr "source"))
    Step.keepSource (← Step.ofReading (req.needStr "id")) (.provider restricted)
    Step.providerJson restricted
  | _ => throw (.invalid ("\"" ++ origin ++ "\" is not a provider"))

def RuleCache.toJson (c : RuleCache) : Json :=
  .obj [("cache_len", Json.nat c.len), ("is_empty", .bool (c.len == 0)),
        ("comparer", .str c.comparer.name)]

def stepCache (req : Json) : Step Json := do
  let (inner, source) ← Step.namedSource (← Step.ofReading (req.needStr "inner"))
  let c : RuleCache := { inner, comparer := source.comparer }
  Step.keepSource (← Step.ofReading (req.needStr "id")) (.cache c)
  return c.toJson

def stepCacheClear (req : Json) : Step Json := do
  let name ← Step.ofReading (req.needStr "cache")
  match ← Step.namedSource name with
  | (object, .cache c) =>
    let cleared := c.clear
    modify fun w => { w with shelf := w.shelf.put object (.cache cleared) }
    return .obj [("len", Json.nat cleared.len), ("is_empty", .bool (cleared.len == 0))]
  | _ => throw (.invalid ("\"" ++ name ++ "\" is not a cache"))

def stepProviderInfo (req : Json) : Step Json := do
  let detail ← Step.ofReading (req.flag "detail" false)
  let (object, source) ← Step.namedSource (← Step.ofReading (req.needStr "resolver"))
  let shelf := (← get).shelf
  match source with
  | .provider pv =>
    match ← Step.providerJson pv with
    | .obj fields =>
      if detail then
        return .obj (fields ++ [("detail", .obj [("fallbacks", .str pv.fallbacks.debug),
          ("config", .str pv.config.debug), ("debug", .str pv.debug)])])
      else return .obj fields
    | other => return other
  | .cache c =>
    match c.toJson with
    | .obj fields =>
      if detail then
        return .obj (fields ++ [("detail", .obj [("inner", .str (shelf.debug c.inner)),
          ("debug", .str (shelf.debug object))])])
      else return .obj fields
    | other => return other

/-- The answer to a lookup: the handler's name, its type and what it reads from the inputs,
and how many answers a cache holds afterwards. -/
def Step.lookupAnswer (req : Json) (object : Nat) (found : Option Handler) : Step Json := do
  let cacheLen : List (String × Json) := match (← get).shelf.get? object with
    | some (.cache c) => [("cache_len", Json.nat c.len)]
    | _ => []
  match found with
  | none => return .obj ([("handler", .null)] ++ cacheLen)
  | some h =>
    let name ← Step.handlerName h
    let t := h.parser.valueType
    let parsed ← match req.field? "inputs" with
      | none => pure []
      | some v => do
        let inputs ← Step.ofReading (Json.listAt "inputs" v)
        let outcomes := inputs.map fun input => parseOutcome t (h.parser.parse input.str?)
        pure [("parsed", Json.arr outcomes)]
    return .obj ([("handler", .str name), ("value_type", .str t.shortName)] ++ parsed ++ cacheLen)

def stepRuleForType (req : Json) : Step Json := do
  let (object, _) ← Step.namedSource (← Step.ofReading (req.needStr "resolver"))
  let t ← Step.ofReading (req.needType "type")
  let (found, shelf) ← (← get).shelf.ruleForType object t
  modify fun w => { w with shelf }
  Step.lookupAnswer req object found

def stepRuleForProperty (req : Json) : Step Json := do
  let (object, _) ← Step.namedSource (← Step.ofReading (req.needStr "resolver"))
  let p ← Step.property (← Step.ofReading (req.needStr "property"))
  let (found, shelf) ← (← get).shelf.ruleForProperty object p
  modify fun w => { w with shelf }
  Step.lookupAnswer req object found

/-- Reads a property's value from text with the parser a source finds for it: nothing when
there is none, a mismatch when the parser's type or its value's type is not the property's. -/
def parseProperty (p : Property) (found : Option Handler) (input : Option String) :
    Traced (Except ParseError (Option PropertyValue)) := do
  match found with
  | none =>
    emit .trace parserTarget "no parser rule" [("property", p.name)]
    return .ok none
  | some h =>
    let mismatch (found : String) : ParseError := .typeMismatch p.name p.type.shortName found
    if h.parser.valueType != p.type then return .error (mismatch h.parser.valueType.shortName)
    match h.parser.parse input with
    | .error e => return .error e
    | .ok v =>
      if v.type != p.type then return .error (mismatch v.type.fullName)
      return .ok (some ⟨p, v, .defined⟩)

def stepParseProperty (req : Json) : Step Json := do
  let (object, _) ← Step.namedSource (← Step.ofReading (req.needStr "resolver"))
  let p ← Step.property (← Step.ofReading (req.needStr "property"))
  let input ← Step.ofReading (req.optStr "input")
  let (found, shelf) ← (← get).shelf.ruleForProperty object p
  modify fun w => { w with shelf }
  match ← parseProperty p found input with
  | .ok v => return Json.opt PropertyValue.toJson v
  | .error e => return e.toJson

end Schemata
