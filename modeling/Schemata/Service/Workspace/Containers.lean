import Schemata.Service.Workspace.Properties

/-!
Steps on containers: building them and resolving values in them.

A container starts empty, from another container's values, parent and metadata, or from a
list of values, and then takes its operations in order. Resolution runs over the container
with search options; calculators find the properties they name among the workspace's
properties as they are when the calculation runs.
-/

namespace Schemata

/-- A property value given by a request: the property, its value in the property's type or in
the given type, and its provenance. -/
def Step.propertyValue (j : Json) : Step PropertyValue := do
  let p ← Step.namedProperty (j.field? "set")
  let t := (← Step.ofReading (j.optType "type")).getD p.type
  let v ← Step.ofReading (decodeValue t (← Step.ofReading (j.need "value")))
  let provenance ← match j.field? "provenance" with
    | none => pure .defined
    | some given =>
      match given.str?.bind Provenance.ofName? with
      | some pr => pure pr
      | none => throw (.unknown "provenance" given)
  return ⟨p, v, provenance⟩

def Step.propertyValues (items : List Json) : Step (List PropertyValue) :=
  items.mapM Step.propertyValue

/-- One operation on a container being built: the first of `set`, `unset`, `extend`, `remove`,
`parent`, `no_parent` and `meta` it gives. -/
def Step.containerOp (c : Container) (op : Json) : Step Container := do
  if (op.field? "set").isSome then
    return c.setValue (← Step.propertyValue op)
  if let some v := op.field? "unset" then
    return c.setValue (.notDefined (← Step.namedProperty (some v)))
  if let some v := op.field? "extend" then
    return c.extend (← Step.propertyValues (← Step.ofReading (Json.listAt "extend" v)))
  if let some v := op.field? "remove" then
    return c.remove (← Step.namedProperty (some v))
  if let some v := op.field? "parent" then
    match v with
    | .str id => return { c with parent := some (← Step.container id) }
    | _ => throw (.invalid "container id")
  if (op.field? "no_parent").isSome then
    return { c with parent := none }
  if let some item := op.field? "meta" then
    let (_, m) ← Step.metadataItem none item
    return { c with metadata := c.metadata.set m }
  throw (.unknown "container op" op)

def Step.containerInfo (c : Container) : Step Json := do
  return c.info (← Step.ruleIds)

def stepContainer (req : Json) : Step Json := do
  let start ← match ← Step.ofReading (req.optStr "from") with
    | some other => Step.container other
    | none =>
      match req.field? "start" with
      | none | some .null | some (.str "builder") | some (.str "new") | some (.str "empty") => pure {}
      | some other => throw (.unknown "start" other)
  let start ← match req.field? "from_values" with
    | none => pure start
    | some v => do
      let values ← Step.propertyValues (← Step.ofReading (Json.listAt "from_values" v))
      pure (({} : Container).extend values)
  let mut c := start
  for op in ← Step.ofReading (req.optArr "ops") do
    c ← Step.containerOp c op
  let id ← Step.ofReading (req.needStr "id")
  modify fun w => { w with containers := w.containers.bind id c }
  Step.containerInfo c

def stepContainerInfo (req : Json) : Step Json := do
  let c ← Step.container (← Step.ofReading (req.needStr "container"))
  match ← Step.containerInfo c with
  | .obj fields =>
    if ← Step.ofReading (req.flag "detail" false) then
      return .obj (fields ++ [("properties", .arr (c.values.map fun v => .str v.property.name)),
        ("borrowed_iter", Json.nat c.len), ("debug", .str c.debug)])
    else return .obj fields
  | other => return other

def stepFind (req : Json) : Step Json := do
  let c ← Step.container (← Step.ofReading (req.needStr "container"))
  let p ← Step.property (← Step.ofReading (req.needStr "property"))
  let comparer := (← Step.ofReading (req.optComparer "comparer")).getD .byReference
  return .obj [("found", Json.opt PropertyValue.toJson (c.find? p comparer)),
               ("contains", .bool (c.contains p))]

/-- The resolver a request asks for: over a container, with search options. -/
def Step.resolver (req : Json) (containerKey : String) : Step Resolver := do
  let c ← Step.container (← Step.ofReading (req.needStr containerKey))
  let options ← Step.ofReading (readOptions (req.field? "options"))
  return ⟨c, options, (← get).catalog⟩

def resolvedJson (result : Except ResolveError (Option PropertyValue)) : Json :=
  match result with
  | .ok v => Json.opt PropertyValue.toJson v
  | .error e => e.toJson

def stepResolve (req : Json) : Step Json := do
  let r ← Step.resolver req "container"
  let p ← Step.property (← Step.ofReading (req.needStr "property"))
  return resolvedJson (← r.resolve p)

def stepResolveSeq (req : Json) : Step Json := do
  let r ← Step.resolver req "container"
  let names ← Step.ofReading (req.needArr "properties")
  let mut answers := []
  for n in names do
    let p ← Step.namedProperty (some n)
    answers := answers ++ [resolvedJson (← r.resolve p)]
  return .arr answers

/-- `get`: the resolved value of a property's own type, with the standard options. -/
def stepGet (req : Json) : Step Json := do
  let c ← Step.container (← Step.ofReading (req.needStr "container"))
  let p ← Step.property (← Step.ofReading (req.needStr "property"))
  let r : Resolver := ⟨c, .standard, (← get).catalog⟩
  match ← r.get p with
  | .ok v => return .obj [("value", Json.opt Value.toJson v)]
  | .error e => return e.toJson

/-- `value`: the resolved value of a property's own type, or its zero. -/
def stepValue (req : Json) : Step Json := do
  let r ← Step.resolver req "container"
  let p ← Step.property (← Step.ofReading (req.needStr "property"))
  match ← r.value p with
  | .ok v => return .obj [("value", v.toJson)]
  | .error e => return e.toJson

/-- `get_local`: the container's own value of a property identity, if of the property's type. -/
def stepGetLocal (req : Json) : Step Json := do
  let c ← Step.container (← Step.ofReading (req.needStr "container"))
  let p ← Step.property (← Step.ofReading (req.needStr "property"))
  let own := (c.find? p .byReference).bind fun v => if v.value.type == p.type then some v.value else none
  return .obj [("value", Json.opt Value.toJson own)]

end Schemata
