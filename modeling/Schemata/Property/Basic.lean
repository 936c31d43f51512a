import Schemata.Property.Metadata
import Schemata.Text.Lowercase

/-!
Properties: named, typed slots for values, with metadata.

A property has an identity (`id`), a name, an optional alias, a value type and its metadata.
Attaching metadata checks it against the name and type first and yields a copy with the same
identity. A builder collects metadata the same way but keeps only the first failed check,
which `build` then reports instead of a property.

Comparers decide when two properties are the same: by identity, by name and type, or when any
name or alias of one equals one of the other ignoring case.
-/

namespace Schemata

structure Property where
  id : Nat
  name : String
  aliasName : Option String := none
  type : ValueType
  metadata : MetadataStore := {}

namespace Property

def names (p : Property) : List String := p.name :: p.aliasName.toList

/-- A copy with metadata attached under `name` (unnamed for `none`), after its check. -/
def attach (p : Property) (name : Option String) (m : Metadata) : Except SchemaError Property :=
  match m.check p.name p.type with
  | .error e => .error e
  | .ok () => .ok { p with metadata := (p.metadata.put name m).1 }

/-- A copy after a read-modify-write of one kind of metadata: `f` changes the unnamed value of
the kind, or `default` when there is none, and the result is attached after its check. -/
def configure {α : Type} (p : Property) (T : MetadataType α) (default : α) (f : α → α) :
    Except SchemaError Property :=
  p.attach none (T.wrap (f ((p.metadata.getAs? T).getD default)))

def debug (p : Property) : String :=
  debugRecordPartial "Property"
    [("id", toString p.id), ("name", quoteText p.name), ("type", quoteText p.type.shortName)]

/-- The default value, when the property has one of its own type. -/
def defaultValue? (p : Property) : Option Value :=
  match p.metadata.get? .defaultValue with
  | some (.defaultValue v) => if v.type == p.type then some v else none
  | _ => none

end Property

/-- A property being declared: metadata is checked as it is attached, and the first failed
check is kept. -/
structure PropertyBuilder where
  name : String
  aliasName : Option String := none
  type : ValueType
  metadata : MetadataStore := {}
  error : Option SchemaError := none

namespace PropertyBuilder

/-- Attaches metadata under `name`, unless an earlier check failed. -/
def attach (b : PropertyBuilder) (name : Option String) (m : Metadata) : PropertyBuilder :=
  if b.error.isSome then b
  else match m.check b.name b.type with
    | .error e => { b with error := some e }
    | .ok () => { b with metadata := (b.metadata.put name m).1 }

/-- The property with identity `id`, or the first failed check. -/
def build (b : PropertyBuilder) (id : Nat) : Except SchemaError Property :=
  match b.error with
  | some e => .error e
  | none => .ok { id, name := b.name, aliasName := b.aliasName, type := b.type, metadata := b.metadata }

def debug (b : PropertyBuilder) : String :=
  debugRecordPartial "PropertyBuilder"
    [("name", quoteText b.name),
     ("alias", match b.aliasName with | some a => "Some(" ++ quoteText a ++ ")" | none => "None"),
     ("metadata", b.metadata.debug),
     ("error", match b.error with | some e => "Some(" ++ e.debug ++ ")" | none => "None")]

end PropertyBuilder

inductive Comparer where
  | byReference
  | byNameAndType
  | byNameOrAliasIgnoreCase
  deriving DecidableEq, Repr, Inhabited

namespace Comparer

def name : Comparer → String
  | .byReference => "ByReference"
  | .byNameAndType => "ByNameAndType"
  | .byNameOrAliasIgnoreCase => "ByNameOrAliasIgnoreCase"

def ofName? : String → Option Comparer
  | "ByReference" => some .byReference
  | "ByNameAndType" => some .byNameAndType
  | "ByNameOrAliasIgnoreCase" => some .byNameOrAliasIgnoreCase
  | _ => none

/-- Whether two properties are the same under this comparer. -/
def same (c : Comparer) (a b : Property) : Bool :=
  match c with
  | .byReference => a.id == b.id
  | .byNameAndType => a.name == b.name && a.type == b.type
  | .byNameOrAliasIgnoreCase => a.names.any fun n => b.names.any fun m => equalIgnoringCase n m

/-- Whether two properties fall in the same hash bucket of this comparer: equal identities,
equal names and types, or always when names are compared ignoring case. -/
def sameBucket (c : Comparer) (a b : Property) : Bool :=
  match c with
  | .byReference => a.id == b.id
  | .byNameAndType => a.name == b.name && a.type == b.type
  | .byNameOrAliasIgnoreCase => true

end Comparer

end Schemata
