import Schemata.Container.Basic
import Schemata.Value.Json
import Schemata.Trace

/-!
Resolving the value of a property in a container.

Resolution tries five sources in order and takes the first that answers: a value in the
container itself, a value in the nearest ancestor that has one (when searching parents), the
property's calculator (when calculating), its default value (when using defaults), and the
"not defined" value (when asked to return it). Otherwise there is no value.

A calculator may read other properties through the same resolution. Calculations in progress
form a stack; entering a calculation for a property whose identity is already on the stack is
a cycle, reported with the chain of names from the outermost calculation to the repeated one.
Since a calculation is only entered for an identity not yet on the stack, calculations nest at
most as deep as there are calculated properties; the fuel given to `resolve` covers that depth.
-/

namespace Schemata

structure SearchOptions where
  searchInParent : Bool := true
  calculateValue : Bool := true
  useDefaultValue : Bool := true
  returnNotDefined : Bool := true
  comparer : Comparer := .byReference
  deriving DecidableEq, Repr

namespace SearchOptions

def standard : SearchOptions := {}

def existingOnly : SearchOptions :=
  { searchInParent := false, calculateValue := false, useDefaultValue := false,
    returnNotDefined := false }

def debug (o : SearchOptions) : String :=
  let flag : Bool → String := fun b => if b then "true" else "false"
  debugRecord "SearchOptions"
    [("search_in_parent", flag o.searchInParent), ("calculate_value", flag o.calculateValue),
     ("use_default_value", flag o.useDefaultValue),
     ("return_not_defined", flag o.returnNotDefined), ("property_comparer", o.comparer.name)]

end SearchOptions

/-- Resolution over a container with options; calculators name other properties by id and
find them in `catalog`, the most recent declaration of an id first. -/
structure Resolver where
  container : Container
  options : SearchOptions
  catalog : List (String × Property)

def resolveTarget : String := "understory_schema::resolve"

/-- A value of another type read into type `t` through its JSON form, or `t`'s zero. -/
def ValueType.convert (t : ValueType) (v : Value) : Value := (t.decode? v.toJson).getD t.zero

/-- The whole part of a double as a 64-bit integer: toward zero and saturating; NaN and the
infinities have none. -/
def BinaryFloat.toI64? (x : Binary64) : Option Int :=
  x.truncate?.map fun n => max IntType.i64.min (min IntType.i64.max n)

namespace Resolver

def property? (r : Resolver) (id : String) : Option Property :=
  (r.catalog.find? (·.1 == id)).map (·.2)

def calculatorOf? (p : Property) : Option Calculator :=
  match p.metadata.get? .calculator with
  | some (.calculator c) => some c
  | _ => none

def defaultOf? (p : Property) : Option Value :=
  match p.metadata.get? .defaultValue with
  | some (.defaultValue v) => some v
  | _ => none

/-- The value `add` computes for a property of type `t` from the sum: for an integer type the
sum's whole part, for any other type the sum's text, read into `t`; `t`'s zero when that
fails. -/
def sumInto (t : ValueType) (sum : Binary64) : Value :=
  let given : Json := match t with
    | .int _ => match sum.toI64? with
      | some n => .int n
      | none => .null
    | _ => .str (FloatLayout.value.render sum)
  (t.decode? given).getD t.zero

/-- The properties a calculator reads, in order: those its ids name in the catalog. An id the
catalog does not know is read as absent, so nothing is read for it. -/
def reads (r : Resolver) : Calculator → List Property
  | .const _ => []
  | .ref id => (r.property? id).toList
  | .add id _ => (r.property? id).toList
  | .concat parts => parts.filterMap fun
    | .literal _ => none
    | .ref id => r.property? id

def concatText (r : Resolver) : List CalcPart → List (Property × Value) → String
  | [], _ => ""
  | .literal s :: rest, values => s ++ r.concatText rest values
  | .ref id :: rest, values =>
    match r.property? id, values with
    | some _, (q, v) :: more => q.type.format v ++ r.concatText rest more
    | _, _ => r.concatText rest values

def combine (r : Resolver) (p : Property) : Calculator → List (Property × Value) → Value
  | .const v, _ => v
  | .ref _, (_, v) :: _ => p.type.convert v
  | .ref _, [] => p.type.zero
  | .add _ amount, (q, v) :: _ => sumInto p.type (((q.type.toF64 v).getD (.zero false)).add amount)
  | .add _ amount, [] => sumInto p.type ((BinaryFloat.zero false).add amount)
  | .concat parts, values => (p.type.decode? (.str (r.concatText parts values))).getD p.type.zero

/-- Reads properties in order, pairing each with its value, and stops at the first error. -/
def readEach (read : Property → Traced (Except ResolveError Value)) :
    List Property → Traced (Except ResolveError (List (Property × Value)))
  | [] => return .ok []
  | q :: rest => do
    match ← read q with
    | .error e => return .error e
    | .ok v =>
      match ← readEach read rest with
      | .error e => return .error e
      | .ok more => return .ok ((q, v) :: more)

mutual

/-- Resolves `p` with calculations `stack` in progress (innermost first). -/
def resolveWith (r : Resolver) (fuel : Nat) (stack : List Property) (p : Property) :
    Traced (Except ResolveError (Option PropertyValue)) := do
  let o := r.options
  match r.container.find? p o.comparer with
  | some v => return .ok (some v)
  | none =>
  let inherited := if o.searchInParent then
      r.container.ancestors.findSome? (·.find? p o.comparer) else none
  match inherited with
  | some v =>
    emit .trace resolveTarget "resolved from parent" [("property", p.name)]
    return .ok (some v)
  | none =>
  match (if o.calculateValue then calculatorOf? p else none) with
  | some calculator =>
    match ← r.calculate fuel stack p calculator with
    | .error e => return .error e
    | .ok v => return .ok (some ⟨p, v, .calculated⟩)
  | none =>
  match (if o.useDefaultValue then defaultOf? p else none) with
  | some v => return .ok (some ⟨p, v, .defaultValue⟩)
  | none => return .ok (if o.returnNotDefined then some (.notDefined p) else none)
termination_by (fuel, 1)

/-- Runs the calculator of `p`, unless `p` is already being calculated: reads what it reads
through this resolution, stopping at the first error, and combines the values. -/
def calculate (r : Resolver) (fuel : Nat) (stack : List Property) (p : Property)
    (calculator : Calculator) : Traced (Except ResolveError Value) := do
  if stack.any (·.id == p.id) then
    let path := (stack.reverse.map (·.name)) ++ [p.name]
    emit .warn resolveTarget "calculated property depends on itself"
      [("property", p.name), ("path", " -> ".intercalate path)]
    return .error (.cycle p.name path)
  match fuel with
  | 0 => return .error (.cycle p.name ((stack.reverse.map (·.name)) ++ [p.name]))
  | fuel + 1 =>
  emit .trace resolveTarget "calculating value" [("property", p.name)]
  match ← readEach (r.read fuel (p :: stack)) (r.reads calculator) with
  | .error e => return .error e
  | .ok values => return .ok (r.combine p calculator values)
termination_by (fuel, 0)

/-- The value a calculation reads for `q`: its resolved value when it has one, else its
type's zero. -/
def read (r : Resolver) (fuel : Nat) (stack : List Property) (q : Property) :
    Traced (Except ResolveError Value) := do
  match ← r.resolveWith fuel stack q with
  | .error e => return .error e
  | .ok (some v) => return .ok (if v.hasValue then v.value else q.type.zero)
  | .ok none => return .ok q.type.zero
termination_by (fuel, 2)

end

/-- Enough fuel for every nesting of calculations: one level per declared property, and one
for the property asked about. -/
def fuel (r : Resolver) : Nat := r.catalog.length + 2

def resolve (r : Resolver) (p : Property) : Traced (Except ResolveError (Option PropertyValue)) :=
  r.resolveWith r.fuel [] p

/-- The resolved value of a property of its own type, when it has one. -/
def get (r : Resolver) (p : Property) : Traced (Except ResolveError (Option Value)) := do
  match ← r.resolve p with
  | .error e => return .error e
  | .ok (some v) => return .ok (if v.hasValue && v.value.type == p.type then some v.value else none)
  | .ok none => return .ok none

def value (r : Resolver) (p : Property) : Traced (Except ResolveError Value) := do
  match ← r.get p with
  | .error e => return .error e
  | .ok v => return .ok (v.getD p.type.zero)

def debug (r : Resolver) : String :=
  debugRecordPartial "Resolver"
    [("options", r.options.debug), ("container_len", toString r.container.len)]

end Resolver

end Schemata
