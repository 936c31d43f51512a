import Schemata.Property.Basic

/-!
Containers of property values.

A property value pairs a property with a value and says where the value came from: defined,
calculated, taken from the default, or not defined at all (then it holds the type's zero).
A container holds property values in order, at most one per property identity, an optional
parent container, and metadata. Setting a value for a property that already has one replaces
it in place; a new property goes to the end.
-/

namespace Schemata

/-- Where a property value came from. -/
inductive Provenance where
  | defined
  | calculated
  | defaultValue
  | notDefined
  deriving DecidableEq, Repr, Inhabited

namespace Provenance

def name : Provenance → String
  | .defined => "Defined"
  | .calculated => "Calculated"
  | .defaultValue => "DefaultValue"
  | .notDefined => "NotDefined"

def ofName? : String → Option Provenance
  | "Defined" => some .defined
  | "Calculated" => some .calculated
  | "DefaultValue" => some .defaultValue
  | "NotDefined" => some .notDefined
  | _ => none

end Provenance

structure PropertyValue where
  property : Property
  value : Value
  provenance : Provenance

namespace PropertyValue

/-- The value standing for "not defined": the type's zero. -/
def notDefined (p : Property) : PropertyValue := ⟨p, p.type.zero, .notDefined⟩

def hasValue (v : PropertyValue) : Bool := v.provenance != .notDefined

def format (v : PropertyValue) : String := v.property.type.format v.value

def debug (v : PropertyValue) : String :=
  debugRecord "PropertyValue"
    [("property", quoteText v.property.name), ("value", quoteText v.format),
     ("provenance", v.provenance.name)]

end PropertyValue

structure Container where
  values : List PropertyValue := []
  parent : Option Container := none
  metadata : MetadataStore := {}

namespace Container

def len (c : Container) : Nat := c.values.length

/-- The place of the first value of a property identity. -/
def position (c : Container) (p : Property) : Option Nat :=
  c.values.findIdx? (·.property.id == p.id)

/-- Sets a property value: at the place of the first value of the same property identity, or at
the end. -/
def setValue (c : Container) (v : PropertyValue) : Container :=
  match c.position v.property with
  | some i => { c with values := c.values.set i v }
  | none => { c with values := c.values ++ [v] }

/-- Removes the first value of a property identity. -/
def remove (c : Container) (p : Property) : Container :=
  match c.position p with
  | some i => { c with values := c.values.eraseIdx i }
  | none => c

def extend (c : Container) (vs : List PropertyValue) : Container := vs.foldl setValue c

/-- The first value whose property is the same as `p` under `comparer`. -/
def find? (c : Container) (p : Property) (comparer : Comparer) : Option PropertyValue :=
  c.values.find? fun v => comparer.same v.property p

def contains (c : Container) (p : Property) : Bool := (c.find? p .byReference).isSome

def ancestors : Container → List Container
  | ⟨_, some parent, _⟩ => parent :: ancestors parent
  | ⟨_, none, _⟩ => []

def depth (c : Container) : Nat := c.ancestors.length + 1

def debug (c : Container) : String :=
  debugRecord "PropertyContainer"
    [("values", "[" ++ ", ".intercalate (c.values.map PropertyValue.debug) ++ "]"),
     ("has_parent", if c.parent.isSome then "true" else "false"),
     ("metadata", c.metadata.debug)]

end Container

end Schemata
