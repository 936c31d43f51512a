import Schemata.Property.Constraint

/-!
Metadata: what properties, containers and schemas carry besides their values.

A store keeps entries in the order they were first set. An entry is a piece of metadata of
some kind, unnamed or under a name; there is at most one entry per kind and name, and setting
one again replaces its value in place. The plain lookups (`get?`, `contains`, `remove`) see
unnamed entries only; `getNamed?` sees one name; `all` sees every entry of a kind.

The kinds are a description, a default value, a calculator, the four constraints, a reference
to a schema whose metadata stands behind the holder's own, a list of validation rules, and a
marker text that no constraint knows.
-/

namespace Schemata

inductive CalcPart where
  | literal (text : String)
  | ref (id : String)
  deriving DecidableEq, Repr

/-- How a calculated property computes its value; properties are named by their ids. -/
inductive Calculator where
  /-- A fixed value. -/
  | const (v : Value)
  /-- The value of another property, converted to this property's type through its JSON form. -/
  | ref (id : String)
  /-- The number of another property plus a constant. -/
  | add (id : String) (amount : Binary64)
  /-- Texts and formatted values of other properties, joined. -/
  | concat (parts : List CalcPart)

structure SchemaLink where
  object : Nat
  name : String
  deriving DecidableEq, Repr

structure RuleLink where
  object : Nat
  deriving DecidableEq, Repr

inductive MetadataKind where
  | description | defaultValue | calculator | nullability | stringLength
  | allowedValues | numericInterval | schemaRef | validationRules | marker
  deriving DecidableEq, Repr

namespace MetadataKind

def name : MetadataKind → String
  | .description => "Description"
  | .defaultValue => "DefaultValue"
  | .calculator => "Calculator"
  | .nullability => "Nullability"
  | .stringLength => "StringLength"
  | .allowedValues => "AllowedValues"
  | .numericInterval => "NumericInterval"
  | .schemaRef => "SchemaRef"
  | .validationRules => "ValidationRules"
  | .marker => "Marker"

def fullName : MetadataKind → String
  | .description => "understory_schema::metadata::Description"
  | .defaultValue => "understory_schema::metadata::DefaultValue"
  | .calculator => "understory_schema::metadata::Calculator"
  | .schemaRef => "understory_schema::metadata::SchemaRef"
  | .nullability => "understory_schema::constraint::Nullability"
  | .stringLength => "understory_schema::constraint::StringLength"
  | .allowedValues => "understory_schema::constraint::AllowedValues"
  | .numericInterval => "understory_schema::constraint::NumericInterval"
  | .validationRules => "understory_validation::synthesizer::ValidationRules"
  | .marker => "driver::types::Marker"

def all : List MetadataKind :=
  [.description, .defaultValue, .calculator, .nullability, .stringLength, .allowedValues,
   .numericInterval, .schemaRef, .validationRules, .marker]

def ofName? (s : String) : Option MetadataKind := all.find? (·.name == s)

end MetadataKind

inductive Metadata where
  | description (text : String)
  | defaultValue (v : Value)
  | calculator (c : Calculator)
  | nullability (n : Nullability)
  | stringLength (l : StringLength)
  | allowedValues (a : AllowedValues)
  | numericInterval (i : NumericInterval)
  | schemaRef (s : SchemaLink)
  | validationRules (rules : List RuleLink)
  | marker (text : String)

namespace Metadata

def kind : Metadata → MetadataKind
  | .description _ => .description
  | .defaultValue _ => .defaultValue
  | .calculator _ => .calculator
  | .nullability _ => .nullability
  | .stringLength _ => .stringLength
  | .allowedValues _ => .allowedValues
  | .numericInterval _ => .numericInterval
  | .schemaRef _ => .schemaRef
  | .validationRules _ => .validationRules
  | .marker _ => .marker

/-- The check made when metadata is attached to a property of type `t`: a default value must
be of the type, and each constraint must fit it. -/
def check (m : Metadata) (property : String) (t : ValueType) : Except SchemaError Unit :=
  match m with
  | .defaultValue v =>
    if v.type == t then .ok () else .error (.defaultValueType property t.shortName v.type.fullName)
  | .stringLength l => l.check property t
  | .allowedValues a => a.check property t
  | .numericInterval i => i.check property t
  | _ => .ok ()

end Metadata

structure MetadataEntry where
  name : Option String
  value : Metadata

namespace MetadataEntry

def kind (e : MetadataEntry) : MetadataKind := e.value.kind

def debug (e : MetadataEntry) : String :=
  debugRecordPartial "MetadataEntry" [("type", quoteText e.kind.fullName),
    ("name", match e.name with | some n => "Some(" ++ quoteText n ++ ")" | none => "None")]

end MetadataEntry

/-- A kind of metadata seen as the values it holds: `wrap` makes metadata of the kind from a
value, and `unwrap?` reads the value back. -/
structure MetadataType (α : Type) where
  kind : MetadataKind
  wrap : α → Metadata
  unwrap? : Metadata → Option α
  wrap_kind : ∀ a, (wrap a).kind = kind
  unwrap_wrap : ∀ a, unwrap? (wrap a) = some a

namespace MetadataType

def nullability : MetadataType Nullability where
  kind := .nullability
  wrap := .nullability
  unwrap? | .nullability n => some n | _ => none
  wrap_kind _ := rfl
  unwrap_wrap _ := rfl

def stringLength : MetadataType StringLength where
  kind := .stringLength
  wrap := .stringLength
  unwrap? | .stringLength l => some l | _ => none
  wrap_kind _ := rfl
  unwrap_wrap _ := rfl

def allowedValues : MetadataType AllowedValues where
  kind := .allowedValues
  wrap := .allowedValues
  unwrap? | .allowedValues a => some a | _ => none
  wrap_kind _ := rfl
  unwrap_wrap _ := rfl

def numericInterval : MetadataType NumericInterval where
  kind := .numericInterval
  wrap := .numericInterval
  unwrap? | .numericInterval i => some i | _ => none
  wrap_kind _ := rfl
  unwrap_wrap _ := rfl

def validationRules : MetadataType (List RuleLink) where
  kind := .validationRules
  wrap := .validationRules
  unwrap? | .validationRules rules => some rules | _ => none
  wrap_kind _ := rfl
  unwrap_wrap _ := rfl

end MetadataType

structure MetadataStore where
  entries : List MetadataEntry := []

namespace MetadataStore

def empty : MetadataStore := ⟨[]⟩

def len (s : MetadataStore) : Nat := s.entries.length

def lookup? (s : MetadataStore) (kind : MetadataKind) (name : Option String) : Option Metadata :=
  (s.entries.find? fun e => e.kind == kind && e.name == name).map (·.value)

def position (s : MetadataStore) (kind : MetadataKind) (name : Option String) : Option Nat :=
  s.entries.findIdx? fun e => e.kind == kind && e.name == name

/-- Sets the entry of the value's kind under `name`: the value of the first such entry is
replaced in place, or a new entry goes at the end; returns the value it replaced. -/
def put (s : MetadataStore) (name : Option String) (m : Metadata) : MetadataStore × Option Metadata :=
  match s.position m.kind name with
  | some i => (⟨s.entries.modify i fun e => { e with value := m }⟩, s.entries[i]?.map (·.value))
  | none => (⟨s.entries ++ [⟨name, m⟩]⟩, none)

def set (s : MetadataStore) (m : Metadata) : MetadataStore := (s.put none m).1

def get? (s : MetadataStore) (kind : MetadataKind) : Option Metadata := s.lookup? kind none

def getNamed? (s : MetadataStore) (kind : MetadataKind) (name : String) : Option Metadata :=
  s.lookup? kind (some name)

def contains (s : MetadataStore) (kind : MetadataKind) : Bool := (s.get? kind).isSome

/-- Removes the first unnamed entry of a kind; returns its value. -/
def remove (s : MetadataStore) (kind : MetadataKind) : MetadataStore × Option Metadata :=
  match s.position kind none with
  | some i => (⟨s.entries.eraseIdx i⟩, s.entries[i]?.map (·.value))
  | none => (s, none)

def getAs? {α : Type} (s : MetadataStore) (T : MetadataType α) : Option α :=
  (s.get? T.kind).bind T.unwrap?

/-- Read-modify-write of the unnamed entry of a kind: `f` changes its value, or `default` when
there is none, and the result is set. -/
def configure {α : Type} (s : MetadataStore) (T : MetadataType α) (default : α) (f : α → α) :
    MetadataStore :=
  s.set (T.wrap (f ((s.getAs? T).getD default)))

def all (s : MetadataStore) (kind : MetadataKind) : List Metadata :=
  (s.entries.filter (·.kind == kind)).map (·.value)

def debug (s : MetadataStore) : String :=
  "[" ++ ", ".intercalate (s.entries.map MetadataEntry.debug) ++ "]"

end MetadataStore

end Schemata
