import Schemata.Service.Workspace.Parsing
import Schemata.Service.Workspace.Validation

/-!
Scenarios: steps run one after another over one workspace.

Every step gets an answer: a step that cannot be read is answered with its request error, and
the scenario goes on. With tracing, the answer also lists the events each step reported, in
order.
-/

namespace Schemata

/-- `debug`: the debugging view of an object. -/
def stepDebug (req : Json) : Step Json := do
  let what ← Step.ofReading (req.needStr "what")
  let id : Step String := Step.ofReading (req.needStr "id")
  let text (s : String) : Json := .obj [("debug", .str s)]
  match what with
  | "property" =>
    let p ← Step.property (← id)
    let pid := "PropertyId(" ++ toString p.id ++ ")"
    return .obj [("debug", .str p.debug), ("metadata", .str p.metadata.debug),
      ("entries", .arr (p.metadata.entries.map fun e =>
        .obj [("type_name", .str e.kind.fullName), ("debug", .str e.debug)])),
      ("id_debug", .str pid), ("id_display", .str pid),
      ("calculator", if p.metadata.contains .calculator then .str "Calculator \x7b .. \x7d" else .null)]
  | "container" => return text (← Step.container (← id)).debug
  | "values" =>
    let c ← Step.container (← id)
    return .arr (c.values.map fun v => .str v.debug)
  | "schema" => return text (← Step.schema (← id)).debug
  | "rule" => return text (← Step.rule (← id)).2.debug
  | "handler" => return text (← Step.handler (← id)).parser.debug
  | "provider" =>
    let object ← Step.source (← id)
    return text ((← get).shelf.debug object)
  | "synthesizer" => return text (← Step.synthesizer req).debug
  | "resolver" => return text (← Step.resolver req "id").debug
  | "context" =>
    let r ← Step.resolver req "id"
    return text ({ resolver := r } : ValidationContext).debug
  | other => throw (.unknownName "debug view" other)

/-- The step a request names. -/
def runStep (req : Json) : Step Json := do
  match ← Step.ofReading (req.needStr "do") with
  | "property" => stepProperty req
  | "new_property" | "untyped" => stepNewProperty req
  | "typed_info" => stepTypedInfo req
  | "with_metadata" => stepWithMetadata req
  | "configure" => stepConfigure req
  | "info" => stepInfo req
  | "compare" => stepCompare req
  | "schema" => stepSchema req
  | "schema_eq" => stepSchemaEq req
  | "marker_component" => stepMarkerComponent req
  | "schema_info" => stepSchemaInfo req
  | "schema_find" => stepSchemaFind req
  | "schema_contains" => stepSchemaContains req
  | "component" => stepComponent req
  | "metadata" => stepMetadata req
  | "named" => stepNamed req
  | "store" => stepStore req
  | "container" => stepContainer req
  | "container_info" => stepContainerInfo req
  | "find" => stepFind req
  | "resolve" => stepResolve req
  | "resolve_seq" => stepResolveSeq req
  | "get" => stepGet req
  | "value" => stepValue req
  | "get_local" => stepGetLocal req
  | "handler" => stepHandler req
  | "provider" => stepProvider req
  | "for_source" => stepForSource req
  | "cache" => stepCache req
  | "cache_clear" => stepCacheClear req
  | "provider_info" => stepProviderInfo req
  | "rule_for_type" => stepRuleForType req
  | "rule_for_property" => stepRuleForProperty req
  | "parse_property" => stepParseProperty req
  | "vrule" => stepRule req
  | "validate" => stepValidate req
  | "validate_rule" => stepValidateRule req
  | "validate_property" => stepValidateProperty req
  | "validate_schema" => stepValidateSchema req
  | "synthesize" => stepSynthesize req
  | "synthesize_schema" => stepSynthesizeSchema req
  | "visit" => stepVisit req
  | "debug" => stepDebug req
  | other => throw (.unknownStep other)

/-- Runs a step over a workspace: its answer, or its request error, and the workspace after
it. -/
def Workspace.run (w : Workspace) (req : Json) : Traced (Json × Workspace) := do
  let (outcome, after) ← (runStep req).run.run w
  match outcome with
  | .ok answer => return (answer, after)
  | .error e => return (e.toJson, after)

/-- The JSON of an event. -/
def Event.toJson (e : Event) : Json :=
  .obj [("level", .str e.level.name), ("target", .str e.target), ("message", .str e.message),
        ("fields", .arr (e.fields.map fun f => .arr [.str f.1, .str f.2]))]

/-- Runs steps in order over a workspace: each answer with the events its step reported. -/
def Workspace.runAll : Workspace → List Json → Traced (List (Json × List Event))
  | _, [] => pure []
  | w, req :: rest => do
    modify fun j => { j with events := #[] }
    let (answer, w) ← w.run req
    let events := (← get).events.toList
    return (answer, events) :: (← w.runAll rest)

/-- `world`: a scenario of steps, with their events when traced. -/
def answerWorld (req : Json) : Reading Json := do
  let steps ← req.needArr "steps"
  let traced ← req.flag "trace" false
  let (outcomes, _) := (({} : Workspace).runAll steps).run {}
  let results := ("results", Json.arr (outcomes.map (·.1)))
  if traced then
    return .obj [results, ("events", .arr (outcomes.map fun o => .arr (o.2.map Event.toJson)))]
  else return .obj [results]

end Schemata
