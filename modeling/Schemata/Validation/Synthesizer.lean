import Schemata.Validation.Rule
import Schemata.Schema

/-!
Rules from metadata, and the validator that runs rules over a container.

The synthesizer reads a property's metadata entries in order. A nullability that forbids
`null` yields a not-null rule; a length, allowed values and an interval yield the rules that
check them; a list of validation rules yields those very rules. These built-in kinds come
first. Any other entry goes to the rule factory taught for its kind, when there is one, and
otherwise yields nothing and is reported at trace level.

Rules stored in metadata are referred to by their identity; `stored` finds a rule by it.
-/

namespace Schemata

/-- A rule yielded by the synthesizer, with its identity when it is a stored rule. -/
structure SynthesizedRule where
  object : Option Nat
  rule : ValidationRule

def synthesizerTarget : String := "understory_validation::synthesizer"

def validatorTarget : String := "understory_validation::validator"

/-- A synthesizer: the rule factory taught for each kind of metadata, if any. -/
structure Synthesizer where
  extension? : MetadataKind → Option (Property → Metadata → List SynthesizedRule) := fun _ => none

namespace Synthesizer

/-- Teaches `factory` for metadata of `kind`, in place of any factory taught for it before. -/
def withExtension (s : Synthesizer) (kind : MetadataKind)
    (factory : Property → Metadata → List SynthesizedRule) : Synthesizer :=
  ⟨fun k => if k = kind then some factory else s.extension? k⟩

def extensionCount (s : Synthesizer) : Nat :=
  (MetadataKind.all.filter fun k => (s.extension? k).isSome).length

def extensionRules? (s : Synthesizer) (p : Property) (m : Metadata) :
    Option (List SynthesizedRule) :=
  (s.extension? m.kind).map fun factory => factory p m

/-- The fresh rules of a rule list's metadata, and the stored ones it refers to. -/
def storedRules (stored : Nat → Option ValidationRule) (links : List RuleLink) :
    List SynthesizedRule :=
  links.filterMap fun link => (stored link.object).map (⟨some link.object, ·⟩)

/-- The rules a constraint asks for, or `none` when the metadata is no constraint. -/
def visit (stored : Nat → Option ValidationRule) (p : Property) :
    Metadata → Option (Except SchemaError (List SynthesizedRule))
  | .nullability n => some (.ok (if n.allowNull then [] else [⟨none, .notNull p⟩]))
  | .stringLength l => some ((ValidationRule.lengthOf p l).map fun r => [⟨none, r⟩])
  | .allowedValues a => some ((ValidationRule.allowedOf p a).map fun r => [⟨none, r⟩])
  | .numericInterval i => some ((ValidationRule.rangeOf p i).map fun r => [⟨none, r⟩])
  | .validationRules links => some (.ok (storedRules stored links))
  | _ => none

def rulesForEntry (s : Synthesizer) (stored : Nat → Option ValidationRule) (p : Property)
    (e : MetadataEntry) : Traced (List SynthesizedRule) :=
  match visit stored p e.value with
  | some (.ok rules) => pure rules
  | some (.error err) => do
    emit .warn synthesizerTarget "skipping ill-typed constraint"
      [("property", p.name), ("err", err.message)]
    pure []
  | none =>
    match s.extensionRules? p e.value with
    | some rules => pure rules
    | none => unknown
where
  unknown : Traced (List SynthesizedRule) := do
    emit .trace synthesizerTarget "no rules for metadata"
      [("property", p.name), ("metadata", e.kind.fullName)]
    pure []

def rulesFor (s : Synthesizer) (stored : Nat → Option ValidationRule) (p : Property) :
    Traced (List SynthesizedRule) := do
  let mut rules := []
  for e in p.metadata.entries do
    rules := rules ++ (← s.rulesForEntry stored p e)
  return rules

def rulesForSchema (s : Synthesizer) (stored : Nat → Option ValidationRule) (schema : Schema) :
    Traced (List SynthesizedRule) := do
  let mut rules := []
  for p in schema.properties do
    rules := rules ++ (← s.rulesFor stored p)
  return rules

def debug (s : Synthesizer) : String :=
  debugRecord "ValidationSynthesizer" [("extensions", toString s.extensionCount)]

end Synthesizer

structure ValidationResult where
  messages : List Message := []

namespace ValidationResult

def len (r : ValidationResult) : Nat := r.messages.length

def isValid (r : ValidationResult) : Bool := !r.messages.any (·.isError)

def errors (r : ValidationResult) : Nat := (r.messages.filter (·.isError)).length

def atLeast (r : ValidationResult) (s : Severity) : Nat :=
  (r.messages.filter fun m => s.rank ≤ m.severity.rank).length

def debug (r : ValidationResult) : String :=
  debugRecord "ValidationResult" [("messages", "[" ++ ", ".intercalate (r.messages.map (·.debug)) ++ "]")]

end ValidationResult

structure Validator where
  options : SearchOptions := .standard
  formatter : ValueFormatter := .standard

namespace Validator

def context (v : Validator) (container : Container) (catalog : List (String × Property)) :
    ValidationContext :=
  ⟨⟨container, v.options, catalog⟩, v.formatter⟩

/-- The messages of every rule in order, reported at trace level with their counts. -/
def validate (v : Validator) (container : Container) (catalog : List (String × Property))
    (rules : List ValidationRule) : Traced ValidationResult := do
  let cx := v.context container catalog
  let mut messages := []
  for r in rules do
    messages := messages ++ (← r.validate cx)
  emit .trace validatorTarget "validated"
    [("rules", toString rules.length), ("messages", toString messages.length)]
  return ⟨messages⟩

def validateRule (v : Validator) (container : Container) (catalog : List (String × Property))
    (rule : ValidationRule) : Traced ValidationResult := do
  return ⟨← rule.validate (v.context container catalog)⟩

/-- The rules synthesized for a property, each entry's rules run as soon as they are
synthesized. -/
def validateProperty (v : Validator) (container : Container) (catalog : List (String × Property))
    (s : Synthesizer) (stored : Nat → Option ValidationRule) (p : Property) :
    Traced ValidationResult := do
  let cx := v.context container catalog
  let mut messages := []
  let mut count := 0
  for e in p.metadata.entries do
    for r in ← s.rulesForEntry stored p e do
      messages := messages ++ (← r.rule.validate cx)
      count := count + 1
  emit .trace validatorTarget "validated"
    [("rules", toString count), ("messages", toString messages.length)]
  return ⟨messages⟩

/-- The rules synthesized for a schema, all synthesized before any runs. -/
def validateSchema (v : Validator) (container : Container) (catalog : List (String × Property))
    (s : Synthesizer) (stored : Nat → Option ValidationRule) (schema : Schema) :
    Traced ValidationResult := do
  let rules ← s.rulesForSchema stored schema
  v.validate container catalog (rules.map (·.rule))

def debug (v : Validator) : String :=
  debugRecordPartial "Validator" [("options", v.options.debug)]

end Validator

end Schemata
