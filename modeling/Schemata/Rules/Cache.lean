import Schemata.Rules.Provider

/-!
Rule sources: providers, and caches that memoize the answers of another source.

A cache remembers the answer to every lookup it passes on, misses included: type lookups by
the exact type, property lookups by the declared type and the inner source's comparer, so
that two properties of one type that the comparer finds the same share one answer. A cached
answer is returned without asking the inner source again, and so without its events.

Caches are shared: a cache over another cache fills the inner one too, and every holder of a
cache sees what it has remembered. Sources are therefore kept on a shelf under their
identities, and a cache names its inner source by identity. A cache is always made after its
inner source, so following inner sources ends after at most as many steps as the shelf holds.
-/

namespace Schemata

/-- A memo of another source's answers. -/
structure RuleCache where
  inner : Nat
  comparer : Comparer
  byType : List (ValueType × Option Handler) := []
  byProperty : List (Property × Option Handler) := []

namespace RuleCache

/-- The number of remembered answers, misses included. -/
def len (c : RuleCache) : Nat := c.byType.length + c.byProperty.length

def typeHit? (c : RuleCache) (t : ValueType) : Option (Option Handler) :=
  (c.byType.find? (·.1 == t)).map (·.2)

/-- The remembered answer for a property: one for a property of the same type that the
comparer finds the same. -/
def propertyHit? (c : RuleCache) (p : Property) : Option (Option Handler) :=
  -- Several remembered properties can be the same as `p`, since comparing names and aliases
  -- ignoring case is not transitive. A hash table answers with the first its probe order meets,
  -- an order of hashing that no answer fixes; the earliest remembered is the one taken here.
  (c.byProperty.find? fun entry => entry.1.type == p.type && c.comparer.same entry.1 p).map (·.2)

def clear (c : RuleCache) : RuleCache := { c with byType := [], byProperty := [] }

end RuleCache

inductive RuleSource where
  | provider (pv : Provider)
  | cache (c : RuleCache)

namespace RuleSource

def comparer : RuleSource → Comparer
  | .provider pv => pv.config.comparer
  | .cache c => c.comparer

end RuleSource

structure SourceShelf where
  sources : List (Nat × RuleSource) := []

namespace SourceShelf

def get? (s : SourceShelf) (object : Nat) : Option RuleSource :=
  (s.sources.find? (·.1 == object)).map (·.2)

def put (s : SourceShelf) (object : Nat) (source : RuleSource) : SourceShelf :=
  if s.sources.any (·.1 == object) then
    ⟨s.sources.map fun entry => if entry.1 == object then (object, source) else entry⟩
  else ⟨s.sources ++ [(object, source)]⟩

def updateCache (s : SourceShelf) (object : Nat) (f : RuleCache → RuleCache) : SourceShelf :=
  match s.get? object with
  | some (.cache c) => s.put object (.cache (f c))
  | _ => s

/-- Enough steps to follow any chain of inner sources. -/
def fuel (s : SourceShelf) : Nat := s.sources.length + 1

/-- The handler a source finds for a type, and the shelf with what its caches remembered. -/
def ruleForTypeWith : Nat → SourceShelf → Nat → ValueType → Traced (Option Handler × SourceShelf)
  | 0, s, _, _ => pure (none, s)
  | fuel + 1, s, object, t =>
    match s.get? object with
    | some (.provider pv) => do return (← pv.ruleForType t, s)
    | some (.cache c) =>
      match c.typeHit? t with
      | some hit => pure (hit, s)
      | none => do
        let (found, s) ← ruleForTypeWith fuel s c.inner t
        return (found, s.updateCache object fun c => { c with byType := c.byType ++ [(t, found)] })
    | none => pure (none, s)

def ruleForPropertyWith : Nat → SourceShelf → Nat → Property → Traced (Option Handler × SourceShelf)
  | 0, s, _, _ => pure (none, s)
  | fuel + 1, s, object, p =>
    match s.get? object with
    | some (.provider pv) => do return (← pv.ruleForProperty p, s)
    | some (.cache c) =>
      match c.propertyHit? p with
      | some hit => pure (hit, s)
      | none => do
        let (found, s) ← ruleForPropertyWith fuel s c.inner p
        return (found, s.updateCache object fun c =>
          { c with byProperty := c.byProperty ++ [(p, found)] })
    | none => pure (none, s)

def ruleForType (s : SourceShelf) (object : Nat) (t : ValueType) :
    Traced (Option Handler × SourceShelf) :=
  ruleForTypeWith s.fuel s object t

def ruleForProperty (s : SourceShelf) (object : Nat) (p : Property) :
    Traced (Option Handler × SourceShelf) :=
  ruleForPropertyWith s.fuel s object p

def debugWith : Nat → SourceShelf → Nat → String
  | 0, _, _ => ""
  | fuel + 1, s, object =>
    match s.get? object with
    | some (.provider pv) => pv.debug
    | some (.cache c) =>
      debugRecordPartial "RuleCache"
        [("inner", debugWith fuel s c.inner), ("comparer", c.comparer.name),
         ("cached_types", toString c.byType.length),
         ("cached_properties", toString c.byProperty.length)]
    | none => ""

def debug (s : SourceShelf) (object : Nat) : String := debugWith s.fuel s object

end SourceShelf

end Schemata
