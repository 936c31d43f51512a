import Schemata.Property.Basic
import Schemata.Text.Words

/-!
Schemas: named lists of properties, found by name.

Building a schema keys every name and alias of its properties by its lower case. Two
different properties whose names or aliases share a key make the schema fail, naming the
second name as written; a property whose own name and alias share a key is fine. Finding a
property looks up the lower case of the name asked for. A schema is equal only to itself: two
builds of the same content are different schemas.
-/

namespace Schemata

/-- A built schema; `object` is its identity. -/
structure Schema where
  object : Nat
  name : String
  properties : List Property
  keys : List (String × Nat)
  metadata : MetadataStore

structure SchemaBuilder where
  name : String
  properties : List Property := []
  metadata : MetadataStore := {}

namespace SchemaBuilder

/-- Keys the name `n` of the property at position `index` by its lower case; a key that
another position already holds is the error. -/
def keyName (schema : String) (index : Nat) (acc : List (String × Nat)) (n : String) :
    Except SchemaError (List (String × Nat)) :=
  let key := lowercaseText n
  match acc.find? (·.1 == key) with
  | some (_, previous) =>
    if previous != index then .error (.duplicateProperty schema n)
    else .ok acc
  | none => .ok ((key, index) :: acc)

/-- Keys the names of the properties by their lower case, from position `index` on; the first
name whose key another property already holds is the error. -/
def keyNames (schema : String) (keys : List (String × Nat)) :
    Nat → List Property → Except SchemaError (List (String × Nat))
  | _, [] => .ok keys
  | index, p :: rest =>
    match p.names.foldlM (keyName schema index) keys with
    | .error e => .error e
    | .ok keys => keyNames schema keys (index + 1) rest

/-- The schema with identity `object`, or the first repeated name. -/
def build (b : SchemaBuilder) (object : Nat) : Except SchemaError Schema :=
  match keyNames b.name [] 0 b.properties with
  | .error e => .error e
  | .ok keys => .ok ⟨object, b.name, b.properties, keys, b.metadata⟩

def debug (b : SchemaBuilder) : String :=
  debugRecordPartial "SchemaBuilder" [("name", quoteText b.name), ("len", toString b.properties.length)]

end SchemaBuilder

namespace Schema

def len (s : Schema) : Nat := s.properties.length

/-- The property with a name or alias of the same lower case. -/
def find? (s : Schema) (name : String) : Option Property :=
  let key := lowercaseText name
  (s.keys.find? (·.1 == key)).bind fun entry => s.properties[entry.2]?

def contains (s : Schema) (p : Property) : Bool := s.properties.any (·.id == p.id)

def debug (s : Schema) : String :=
  debugRecordPartial "Schema"
    [("name", quoteText s.name), ("properties", debugTextList (s.properties.map (·.name)))]

end Schema

end Schemata
