import Schemata.Service.Request
import Schemata.Container.Basic
import Schemata.Validation.Synthesizer

/-!
The JSON forms of the library's objects in answers.

Floats are written as their debugging text; metadata entries as their kind, name and value;
property values with the value in its own type and its text in the property's type. A stored
validation rule is written as the id it was declared under, when it still has one.
-/

namespace Schemata

def floatText (x : Option Binary64) : Json := Json.opt (fun x => .str (FloatLayout.value.render x)) x

def parseOutcome (t : ValueType) (result : Except ParseError Value) : Json :=
  match result with
  | .ok v => .obj [("value", v.toJson), ("formatted", .str (t.format v))]
  | .error e => e.toJson

def checkOutcome (result : Except SchemaError Unit) : Json :=
  match result with
  | .ok () => .str "ok"
  | .error e => e.toJson

def StringLength.toJson (l : StringLength) : Json :=
  .obj [("min", Json.opt Json.nat l.min), ("max", Json.opt Json.nat l.max)]

def NumericInterval.toJson (i : NumericInterval) : Json :=
  .obj [("min", floatText i.minimum), ("min_exclusive", .bool i.exclusiveMinimum),
        ("max", floatText i.maximum), ("max_exclusive", .bool i.exclusiveMaximum)]

def Message.toJson (m : Message) : Json :=
  .obj [("severity", .str m.severity.name), ("template", .str m.template),
        ("formatted", .str m.formatted), ("property", Json.opt .str m.property),
        ("args", .arr (m.args.map fun a => .arr [.str a.1, .str a.2]))]

/-- The value of a piece of metadata; stored rules are written by `ruleId`. -/
def Metadata.toJson (ruleId : Nat → Option String) : Metadata → Json
  | .description text => .str text
  | .defaultValue v => v.toJson
  | .calculator _ => .null
  | .nullability n => .bool n.allowNull
  | .stringLength l => l.toJson
  | .allowedValues a => .arr (a.values.map Value.toJson)
  | .numericInterval i => i.toJson
  | .schemaRef link => .str link.name
  | .validationRules links => .arr (links.map fun link => Json.opt .str (ruleId link.object))
  | .marker text => .str text

/-- The value of a piece of metadata found as a component: a calculator is written `true`. -/
def Metadata.componentJson (ruleId : Nat → Option String) : Metadata → Json
  | .calculator _ => .bool true
  | m => m.toJson ruleId

def MetadataStore.toJson (ruleId : Nat → Option String) (s : MetadataStore) : Json :=
  .arr (s.entries.map fun e =>
    .obj [("kind", .str e.kind.name), ("name", Json.opt .str e.name),
          ("value", e.value.toJson ruleId)])

def Property.info (ruleId : Nat → Option String) (p : Property) : Json :=
  .obj [("name", .str p.name), ("alias", Json.opt .str p.aliasName),
        ("names", .arr (p.names.map .str)), ("display", .str p.name),
        ("type", .str p.type.shortName), ("kind", .str p.type.kind.name),
        ("metadata", p.metadata.toJson ruleId),
        ("default_value", Json.opt Value.toJson p.defaultValue?)]

def Property.summary (p : Property) : Json :=
  .obj [("name", .str p.name), ("alias", Json.opt .str p.aliasName), ("type", .str p.type.shortName)]

def PropertyValue.toJson (v : PropertyValue) : Json :=
  .obj [("property", .str v.property.name), ("value", v.value.toJson),
        ("provenance", .str v.provenance.name), ("has_value", .bool v.hasValue),
        ("formatted", .str v.format)]

def Container.info (ruleId : Nat → Option String) (c : Container) : Json :=
  .obj [("len", Json.nat c.len), ("is_empty", .bool c.values.isEmpty),
        ("values", .arr (c.values.map PropertyValue.toJson)), ("has_parent", .bool c.parent.isSome),
        ("depth", Json.nat c.depth), ("metadata", c.metadata.toJson ruleId)]

def ValidationResult.toJson (r : ValidationResult) : Json :=
  .obj [("messages", .arr (r.messages.map Message.toJson)), ("valid", .bool r.isValid),
        ("errors", Json.nat r.errors), ("at_least_warning", Json.nat (r.atLeast .warning)),
        ("len", Json.nat r.len)]

end Schemata
