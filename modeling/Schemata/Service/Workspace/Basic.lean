import Schemata.Service.Reading
import Schemata.Service.Render
import Schemata.Rules.Cache

/-!
A workspace: the objects a scenario creates under its own names, and what they share.

Names are scoped to one scenario; naming an object again rebinds the name. Rule sources live
on a shelf by identity, since caches are shared and fill as they are used. Validation rules
are kept by identity too, so that metadata can refer to them. Property identities are handed
out in order from zero; other identities come from the journal.

Handlers appear in answers by the name they were declared under; any other handler (one the
library synthesized, or a standard rule's) is written `synth#k`, numbered by first appearance.

A step runs in `Step`: it may fail with a request error. What it did before failing stays
done, as it would in place: identities handed out, caches filled, handlers numbered, events
reported. Steps bind the objects they create to names only after reading all of the request,
so a step that fails creates nothing under a name.
-/

namespace Schemata

/-- Objects of one kind under names; each name is bound to its latest object. -/
structure Registry (α : Type) where
  entries : List (String × α) := []

namespace Registry

def find? {α : Type} (r : Registry α) (name : String) : Option α :=
  (r.entries.find? (·.1 == name)).map (·.2)

/-- Binds a name, in place when it is bound already. -/
def bind {α : Type} (r : Registry α) (name : String) (a : α) : Registry α :=
  if r.entries.any (·.1 == name) then
    ⟨r.entries.map fun entry => if entry.1 == name then (name, a) else entry⟩
  else ⟨r.entries ++ [(name, a)]⟩

def nameOf? {α : Type} (r : Registry α) (p : α → Bool) : Option String :=
  (r.entries.find? (p ·.2)).map (·.1)

end Registry

structure Workspace where
  properties : Registry Property := {}
  containers : Registry Container := {}
  schemas : Registry Schema := {}
  builtSchemas : List Schema := []
  handlers : Registry Handler := {}
  sources : Registry Nat := {}
  shelf : SourceShelf := {}
  rules : Registry Nat := {}
  storedRules : List (Nat × ValidationRule) := []
  nextProperty : Nat := 0
  unnamedHandlers : List Nat := []

namespace Workspace

def storedRule? (w : Workspace) (object : Nat) : Option ValidationRule :=
  (w.storedRules.find? (·.1 == object)).map (·.2)

def ruleId? (w : Workspace) (object : Nat) : Option String := w.rules.nameOf? (· == object)

/-- A built schema by its identity, whether or not a name is still bound to it. -/
def schemaObject? (w : Workspace) (object : Nat) : Option Schema :=
  w.builtSchemas.find? (·.object == object)

def catalog (w : Workspace) : List (String × Property) := w.properties.entries

end Workspace

abbrev Step := ExceptT RequestError (StateT Workspace Traced)

def Step.ofReading {α : Type} (r : Reading α) : Step α :=
  match r with
  | .ok a => pure a
  | .error e => throw e

/-- Looks up a name, failing with a request error that names the kind of object. -/
def Step.lookup {α : Type} (kind : String) (registry : Workspace → Registry α) (name : String) :
    Step α := do
  match (registry (← get)).find? name with
  | some a => pure a
  | none => throw (.unknownName kind name)

def Step.property (name : String) : Step Property := Step.lookup "property" (·.properties) name

def Step.namedProperty : Option Json → Step Property
  | some (.str name) => Step.property name
  | _ => throw (.invalid "property id")

def Step.container (name : String) : Step Container := Step.lookup "container" (·.containers) name

def Step.schema (name : String) : Step Schema := Step.lookup "schema" (·.schemas) name

def Step.handler (name : String) : Step Handler := Step.lookup "handler" (·.handlers) name

def Step.source (name : String) : Step Nat := Step.lookup "resolver" (·.sources) name

def Step.rule (name : String) : Step (Nat × ValidationRule) := do
  let object ← Step.lookup "rule" (·.rules) name
  match (← get).storedRule? object with
  | some r => pure (object, r)
  | none => throw (.unknownName "rule" name)

def Step.newPropertyId : Step Nat :=
  modifyGet fun w => (w.nextProperty, { w with nextProperty := w.nextProperty + 1 })

/-- The name of a handler in answers: its declared name, or its `synth#k` number. -/
def Step.handlerName (h : Handler) : Step String := do
  let w ← get
  match w.handlers.nameOf? (·.object == h.object) with
  | some name => pure name
  | none =>
    match w.unnamedHandlers.idxOf? h.object with
    | some k => pure ("synth#" ++ toString k)
    | none =>
      set { w with unnamedHandlers := w.unnamedHandlers ++ [h.object] }
      pure ("synth#" ++ toString w.unnamedHandlers.length)

def Step.ruleIds : Step (Nat → Option String) := do
  let w ← get
  pure w.ruleId?

end Schemata
