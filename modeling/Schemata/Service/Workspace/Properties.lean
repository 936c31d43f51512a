import Schemata.Service.Workspace.Basic

/-!
Steps on properties, schemas and metadata.

Declaring a property attaches its metadata items in order and keeps the first failed check;
a property that fails is not stored. Attaching to an existing property, directly or by
changing the value of one kind of metadata, yields a copy with the same identity under a new
name. Components are looked up in an object's own metadata first, then through its schema
reference, and so on along the chain of referenced schemas. Schemas and containers take only
unnamed metadata, so a name given with an item for them is not used.
-/

namespace Schemata

/-- The metadata kind keys of requests, in the order they are looked for. -/
def metadataKeys : List String :=
  ["description", "default", "calculated", "nullable", "length", "allowed", "interval", "schema",
   "rules", "marker"]

def Step.ruleLink (name : String) : Step RuleLink := do
  return ⟨(← Step.rule name).1⟩

def metadataText (key : String) : Json → Reading String
  | .str text => .ok text
  | _ => .error (.invalid (key ++ " must be a string"))

/-- A metadata item of a request, with its name: the first kind key it gives decides its kind.
`target` is the type of the property it is for, the type that values are read in unless the
item gives one; a calculator is only for a property. -/
def Step.metadataItem (target : Option ValueType) (j : Json) : Step (Option String × Metadata) := do
  let name ← Step.ofReading (j.optStr "name")
  let valueType : Step ValueType := do
    match ← Step.ofReading (j.optType "type") with
    | some t => pure t
    | none =>
      match target with
      | some t => pure t
      | none => throw (.missingField "type")
  let key ← match metadataKeys.find? (j.field? · |>.isSome) with
    | some key => pure key
    | none => throw (.unknown "metadata" j)
  let v := (j.field? key).getD .null
  let m : Metadata ← match key with
    | "description" => .description <$> Step.ofReading (metadataText key v)
    | "default" => do .defaultValue <$> Step.ofReading (decodeValue (← valueType) v)
    | "calculated" =>
      match target with
      | some t => .calculator <$> Step.ofReading (readCalculator t v)
      | none => throw (.invalid "calculated needs a property type")
    | "nullable" =>
      match v with
      | .bool b => pure (.nullability ⟨b⟩)
      | _ => throw (.invalid "nullable must be a bool")
    | "length" => .stringLength <$> Step.ofReading (readLength v)
    | "allowed" => do
      let t ← valueType
      let items ← Step.ofReading (Json.listAt key v)
      let values ← items.mapM fun item => Step.ofReading (decodeValue t item)
      pure (.allowedValues ⟨values⟩)
    | "interval" => .numericInterval <$> Step.ofReading (readInterval v)
    | "schema" =>
      match v with
      | .str id => do
        let s ← Step.schema id
        pure (.schemaRef ⟨s.object, s.name⟩)
      | _ => throw (.invalid "schema must be an id")
    | "rules" => do
      let names ← Step.ofReading (Json.listAt key v)
      .validationRules <$> names.mapM fun n => match n with
        | .str n => Step.ruleLink n
        | _ => throw (.invalid "rule id")
    | _ => .marker <$> Step.ofReading (metadataText key v)
  return (name, m)

def Step.metadataItems (target : Option ValueType) (j : Json) (key : String) :
    Step (List (Option String × Metadata)) := do
  (← Step.ofReading (j.optArr key)).mapM (Step.metadataItem target)

def Step.propertyInfo (p : Property) : Step Json := do
  return p.info (← Step.ruleIds)

def Step.keepProperty (name : String) (p : Property) : Step Json := do
  modify fun w => { w with properties := w.properties.bind name p }
  Step.propertyInfo p

/-- `property`: a property declared with its metadata. A property that builds takes the next
identity, even when the request then names no id for it. -/
def stepProperty (req : Json) : Step Json := do
  let t ← Step.ofReading (req.needType "type")
  let mut b : PropertyBuilder :=
    { name := ← Step.ofReading (req.needStr "name"), aliasName := ← Step.ofReading (req.optStr "alias"),
      type := t }
  for (name, m) in ← Step.metadataItems (some t) req "metadata" do
    b := b.attach name m
  let debug ← Step.ofReading (req.flag "debug" false)
  let builderDebug := b.debug
  match b.error with
  | some e => return e.toJson
  | none =>
    let pid ← Step.newPropertyId
    match b.build pid with
    | .error e => return e.toJson
    | .ok p =>
      let id ← Step.ofReading (req.needStr "id")
      match ← Step.keepProperty id p with
      | .obj fields =>
        if debug then return .obj (fields ++ [("builder_debug", .str builderDebug)])
        else return .obj fields
      | other => return other

def stepNewProperty (req : Json) : Step Json := do
  let name ← Step.ofReading (req.needStr "name")
  let t ← Step.ofReading (req.needType "type")
  let pid ← Step.newPropertyId
  let id ← Step.ofReading (req.needStr "id")
  Step.keepProperty id { id := pid, name, type := t }

def stepTypedInfo (req : Json) : Step Json := do
  let p ← Step.property (← Step.ofReading (req.needStr "property"))
  let t := (← Step.ofReading (req.optType "type")).getD p.type
  if t != p.type then return .obj [("typed", .null)]
  return .obj [("name", .str p.name), ("alias", Json.opt .str p.aliasName),
    ("type", .str p.type.shortName), ("display", .str p.name), ("debug", .str p.debug),
    ("id", .str ("PropertyId(" ++ toString p.id ++ ")")), ("same_as_untyped", .bool true),
    ("default_value", Json.opt Value.toJson p.defaultValue?)]

def Step.keepAttached (req : Json) (result : Except SchemaError Property) : Step Json := do
  match result with
  | .ok p => Step.keepProperty (← Step.ofReading (req.needStr "id")) p
  | .error e => pure e.toJson

def stepWithMetadata (req : Json) : Step Json := do
  let p ← Step.property (← Step.ofReading (req.needStr "from"))
  let (name, m) ← Step.metadataItem (some p.type) (← Step.ofReading (req.need "meta"))
  Step.keepAttached req (p.attach name m)

/-- A bound changed by a request field: absent keeps it, `null` clears it. -/
def Step.changedBound (j : Json) (key : String) (current : Option Binary64) :
    Step (Option Binary64) :=
  match j.field? key with
  | none => pure current
  | some .null => pure none
  | some v => some <$> Step.ofReading v.toF64

def Step.changedCount (j : Json) (key : String) (current : Option Nat) : Step (Option Nat) :=
  match j.field? key with
  | none => pure current
  | some .null => pure none
  | some v => some <$> Step.ofReading (Json.count v)

def changedFlag (j : Json) (key : String) (current : Bool) : Bool :=
  match j.field? key with
  | some (.bool b) => b
  | _ => current

/-- `configure`: a copy of a property with the value of one kind of metadata changed,
starting from its current value or the kind's default; the first of `interval`, `length`,
`nullable`, `allowed_add` and `rules_add` the request gives is the change. -/
def stepConfigure (req : Json) : Step Json := do
  let p ← Step.property (← Step.ofReading (req.needStr "from"))
  let m : Metadata ← match req.field? "interval", req.field? "length", req.field? "nullable",
      req.field? "allowed_add", req.field? "rules_add" with
    | some j, _, _, _, _ => do
      let i := (p.metadata.getAs? .numericInterval).getD {}
      pure (.numericInterval
        { minimum := ← Step.changedBound j "min" i.minimum,
          exclusiveMinimum := changedFlag j "min_exclusive" i.exclusiveMinimum,
          maximum := ← Step.changedBound j "max" i.maximum,
          exclusiveMaximum := changedFlag j "max_exclusive" i.exclusiveMaximum })
    | none, some j, _, _, _ => do
      let l := (p.metadata.getAs? .stringLength).getD {}
      pure (.stringLength { min := ← Step.changedCount j "min" l.min,
                            max := ← Step.changedCount j "max" l.max })
    | none, none, some v, _, _ =>
      match v with
      | .bool b => pure (.nullability ⟨b⟩)
      | _ => throw (.invalid "nullable must be a bool")
    | none, none, none, some v, _ => do
      let t := (← Step.ofReading (req.optType "type")).getD p.type
      let items ← Step.ofReading (Json.listAt "allowed_add" v)
      let added ← items.mapM fun item => Step.ofReading (decodeValue t item)
      let a := (p.metadata.getAs? .allowedValues).getD {}
      pure (.allowedValues ⟨a.values ++ added⟩)
    | none, none, none, none, some v => do
      let names ← Step.ofReading (Json.listAt "rules_add" v)
      let added ← names.mapM fun n => match n with
        | .str n => Step.ruleLink n
        | _ => throw (.invalid "rule id")
      let links := (p.metadata.getAs? .validationRules).getD []
      pure (.validationRules (links ++ added))
    | none, none, none, none, none => throw (.invalid "nothing to configure")
  Step.keepAttached req (p.attach none m)

def stepInfo (req : Json) : Step Json := do
  Step.propertyInfo (← Step.property (← Step.ofReading (req.needStr "property")))

def stepCompare (req : Json) : Step Json := do
  let a ← Step.property (← Step.ofReading (req.needStr "a"))
  let b ← Step.property (← Step.ofReading (req.needStr "b"))
  let c ← Step.ofReading (readComparer (← Step.ofReading (req.need "comparer")))
  return .obj [("eq", .bool (c.same a b)), ("hash_eq", .bool (c.sameBucket a b)),
               ("same", .bool (a.id == b.id))]

def Step.schemaInfo (s : Schema) : Step Json := do
  return .obj [("name", .str s.name), ("len", Json.nat s.len), ("is_empty", .bool s.properties.isEmpty),
    ("properties", .arr (s.properties.map Property.summary)),
    ("metadata", s.metadata.toJson (← Step.ruleIds))]

/-- `schema`: a schema of properties with metadata; adding the properties one by one or all
at once builds the same schema. -/
def stepSchema (req : Json) : Step Json := do
  let name ← Step.ofReading (req.needStr "name")
  let names ← Step.ofReading (req.optArr "properties")
  let properties ← names.mapM fun n => Step.namedProperty (some n)
  let _ ← Step.ofReading (req.flag "bulk" false)
  let mut metadata : MetadataStore := {}
  for (_, m) in ← Step.metadataItems none req "metadata" do
    metadata := metadata.set m
  let b : SchemaBuilder := { name, properties, metadata }
  let object ← freshObject
  match b.build object with
  | .error e => return e.toJson
  | .ok s =>
    let debug ← Step.ofReading (req.flag "debug" false)
    let id ← Step.ofReading (req.needStr "id")
    modify fun w => { w with schemas := w.schemas.bind id s, builtSchemas := w.builtSchemas ++ [s] }
    match ← Step.schemaInfo s with
    | .obj fields =>
      if debug then
        return .obj (fields ++ [("builder_debug", .str b.debug), ("debug", .str s.debug)])
      else return .obj fields
    | other => return other

/-- `schema_eq`: a schema is equal only to itself. -/
def stepSchemaEq (req : Json) : Step Json := do
  let a ← Step.schema (← Step.ofReading (req.needStr "a"))
  let b ← Step.schema (← Step.ofReading (req.needStr "b"))
  return .obj [("eq", .bool (a.object == b.object)), ("ne", .bool (a.object != b.object)),
               ("clone_eq", .bool true)]

def stepSchemaInfo (req : Json) : Step Json := do
  Step.schemaInfo (← Step.schema (← Step.ofReading (req.needStr "schema")))

def stepSchemaFind (req : Json) : Step Json := do
  let s ← Step.schema (← Step.ofReading (req.needStr "schema"))
  return Json.opt Property.summary (s.find? (← Step.ofReading (req.needStr "name")))

def stepSchemaContains (req : Json) : Step Json := do
  let s ← Step.schema (← Step.ofReading (req.needStr "schema"))
  let p ← Step.property (← Step.ofReading (req.needStr "property"))
  return .bool (s.contains p)

def stepMarkerComponent (req : Json) : Step Json := do
  return .obj [("marker", .str (← Step.ofReading (req.needStr "text"))), ("description", .null)]

def Step.targetMetadata (req : Json) : Step MetadataStore := do
  let id ← Step.ofReading (req.needStr "id")
  match ← Step.ofReading (req.needStr "target") with
  | "property" => return (← Step.property id).metadata
  | "schema" => return (← Step.schema id).metadata
  | "container" => return (← Step.container id).metadata
  | other => throw (.unknownName "target" other)

def Step.kind (name : String) : Step MetadataKind :=
  match MetadataKind.ofName? name with
  | some k => pure k
  | none => throw (.unknownName "metadata kind" name)

/-- The kinds that can be looked up under a name: the description, the default value, the
nullability, the string length, the numeric interval and the marker. -/
def MetadataKind.namedLookup : MetadataKind → Bool
  | .description | .defaultValue | .nullability | .stringLength | .numericInterval | .marker => true
  | _ => false

def Step.namedKind (name : String) : Step MetadataKind :=
  let unsupported : RequestError := .invalid ("unsupported named kind " ++ (Json.str name).render)
  match MetadataKind.ofName? name with
  | some k => if k.namedLookup then pure k else throw unsupported
  | none => throw unsupported

/-- A component: the holder's own metadata of a kind, or else its referenced schema's
component, following at most `fuel` references. -/
def Workspace.component (w : Workspace) : Nat → MetadataStore → MetadataKind → Option Metadata
  | 0, _, _ => none
  | fuel + 1, store, kind =>
    match store.get? kind with
    | some m => some m
    | none =>
      match store.get? .schemaRef with
      | some (.schemaRef link) =>
        (w.schemaObject? link.object).bind fun s => w.component fuel s.metadata kind
      | _ => none

def stepComponent (req : Json) : Step Json := do
  let store ← Step.targetMetadata req
  let kind ← Step.kind (← Step.ofReading (req.needStr "kind"))
  let w ← get
  return Json.opt (Metadata.componentJson w.ruleId?)
    (w.component (w.builtSchemas.length + 1) store kind)

def stepMetadata (req : Json) : Step Json := do
  return (← Step.targetMetadata req).toJson (← Step.ruleIds)

def stepNamed (req : Json) : Step Json := do
  let store ← Step.targetMetadata req
  let kind ← Step.namedKind (← Step.ofReading (req.needStr "kind"))
  let name ← Step.ofReading (req.needStr "name")
  return Json.opt (Metadata.toJson (← Step.ruleIds)) (store.getNamed? kind name)

/-- The kinds a metadata store is asked about: those looked up under a name, and the allowed
values. -/
def Step.storeKind (name : String) : Step MetadataKind :=
  match MetadataKind.ofName? name with
  | some k => if k.namedLookup || k == .allowedValues then pure k else throw (.unknownName "metadata kind" name)
  | none => throw (.unknownName "metadata kind" name)

/-- One operation on a metadata store, and its answer: the first of `set`, `get`, `get_named`,
`remove`, `contains`, `all` (each with a kind name), `configure_nullable` (with a truth value)
and `configure_length_max` the operation gives. -/
def Step.storeOp (store : MetadataStore) (op : Json) : Step (MetadataStore × Json) := do
  let ruleIds ← Step.ruleIds
  let render : Option Metadata → Json := Json.opt (Metadata.toJson ruleIds)
  if let some item := op.field? "set" then
    let (name, m) ← Step.metadataItem none item
    let (store, old) := store.put name m
    return (store, .obj [("replaced", render old)])
  if let some (.str k) := op.field? "get" then
    return (store, .obj [("get", render (store.get? (← Step.storeKind k)))])
  if let some (.str k) := op.field? "get_named" then
    let kind ← Step.storeKind k
    let name ← Step.ofReading (op.needStr "name")
    return (store, .obj [("get_named", render (store.getNamed? kind name))])
  if let some (.str k) := op.field? "remove" then
    let (store, old) := store.remove (← Step.storeKind k)
    return (store, .obj [("removed", render old)])
  if let some (.str k) := op.field? "contains" then
    return (store, .obj [("contains", .bool (store.contains (← Step.storeKind k)))])
  if let some (.str k) := op.field? "all" then
    return (store, .obj [("all", .arr ((store.all (← Step.storeKind k)).map (Metadata.toJson ruleIds)))])
  if let some (.bool b) := op.field? "configure_nullable" then
    let store := store.configure .nullability {} fun n => ⟨b || n.allowNull⟩
    return (store, .obj [("get", render (store.get? .nullability))])
  if let some n := op.field? "configure_length_max" then
    let max ← Step.ofReading (Json.count n)
    let store := store.configure .stringLength {} fun l => { l with max := some max }
    return (store, .obj [("get", render (store.get? .stringLength))])
  throw (.unknown "store op" op)

def stepStore (req : Json) : Step Json := do
  let mut store : MetadataStore := {}
  let mut answers := []
  for op in ← Step.ofReading (req.needArr "ops") do
    let (next, answer) ← Step.storeOp store op
    store := next
    answers := answers ++ [answer]
  let final := Json.obj [("final", store.toJson (← Step.ruleIds)), ("len", Json.nat store.len),
    ("is_empty", .bool store.entries.isEmpty)]
  return .arr (answers ++ [final])

end Schemata
