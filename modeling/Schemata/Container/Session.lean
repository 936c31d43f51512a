import Schemata.Container.Resolve

/-!
Resolution with the stack of calculations kept as shared state.

One resolver answers every query made through it, and the calculations in progress are state
that all those queries share: a calculation pushes its property before it runs and pops it when
it ends, with a value or with an error, and a property already on the stack is a cycle. The
stack is never handed to a query; each finds it where the previous one left it.

A calculator receives that same resolver and may do anything with it: resolve a property, look
at the outcome, pass an error on or swallow it, resolve something else, and end with a value or
an error. `Calculation` is such a program, each next step chosen from the outcome of the last
read. The calculators of the driver read a list of properties in order, stop at the first error
and combine what they read (`Resolver.program`).

`Resolver.resolveWith` passes the stack as an argument instead; for the driver's calculators the
two are the same computation, and the shared stack is where it was after every query.
-/

namespace Schemata

/-- What a calculator does with the resolver it is handed: resolve a property and continue from
the outcome, or end. -/
inductive Calculation where
  | finish (outcome : Except ResolveError Value)
  | resolve (q : Property) (next : Except ResolveError (Option PropertyValue) → Calculation)

/-- Computations of a resolver that keeps its calculations in progress (innermost first) as
state shared by all its queries. -/
abbrev Session := StateT (List Property) Traced

abbrev Resolution := Session (Except ResolveError (Option PropertyValue))

namespace Session

@[simp] theorem run_getThe (stack : List Property) :
    (getThe (List Property) : Session (List Property)).run stack = pure (stack, stack) := rfl

end Session

namespace Calculation

/-- Runs a calculation, resolving what it reads with `resolveQ`. -/
def run (resolveQ : Property → Resolution) : Calculation → Session (Except ResolveError Value)
  | finish outcome => pure outcome
  | resolve q next => do run resolveQ (next (← resolveQ q))

/-- The value a driver calculator reads for `q`: its resolved value when it has one, else its
type's zero. -/
def valueRead (q : Property) : Option PropertyValue → Value
  | some v => if v.hasValue then v.value else q.type.zero
  | none => q.type.zero

/-- Reads properties in order, stopping at the first error, and continues with what was read. -/
def readAll : List Property → (List (Property × Value) → Calculation) → Calculation
  | [], k => k []
  | q :: rest, k => resolve q fun
    | .error e => finish (.error e)
    | .ok found => readAll rest fun more => k ((q, valueRead q found) :: more)

end Calculation

namespace Resolver

/-- The calculation a driver calculator runs for `p`. -/
def program (r : Resolver) (p : Property) (c : Calculator) : Calculation :=
  Calculation.readAll (r.reads c) fun values => .finish (.ok (r.combine p c values))

/-- Runs the calculator of `p` as `behaviour` says, unless `p` is already being calculated; the
reads go to `deeper`, and with no level left (`none`) the calculation fails as a cycle. -/
def calculateShared (behaviour : Property → Calculator → Calculation)
    (deeper : Option (Property → Resolution)) (p : Property) (calculator : Calculator) :
    Session (Except ResolveError Value) := do
  let stack ← getThe (List Property)
  if stack.any (·.id == p.id) then
    let path := (stack.reverse.map (·.name)) ++ [p.name]
    emit .warn resolveTarget "calculated property depends on itself"
      [("property", p.name), ("path", " -> ".intercalate path)]
    return .error (.cycle p.name path)
  match deeper with
  | none => return .error (.cycle p.name ((stack.reverse.map (·.name)) ++ [p.name]))
  | some resolveQ =>
    set (p :: stack)
    emit .trace resolveTarget "calculating value" [("property", p.name)]
    let result ← (behaviour p calculator).run resolveQ
    modify List.tail
    return result

/-- The five sources of `p`, in order, with its calculation run by `calculateShared`. -/
def resolveSharedWith (r : Resolver) (behaviour : Property → Calculator → Calculation)
    (deeper : Option (Property → Resolution)) (p : Property) : Resolution := do
  let o := r.options
  match r.container.find? p o.comparer with
  | some v => return .ok (some v)
  | none =>
  let inherited := if o.searchInParent then
      r.container.ancestors.findSome? (·.find? p o.comparer) else none
  match inherited with
  | some v =>
    emit .trace resolveTarget "resolved from parent" [("property", p.name)]
    return .ok (some v)
  | none =>
  match (if o.calculateValue then calculatorOf? p else none) with
  | some calculator =>
    match ← calculateShared behaviour deeper p calculator with
    | .error e => return .error e
    | .ok v => return .ok (some ⟨p, v, .calculated⟩)
  | none =>
  match (if o.useDefaultValue then defaultOf? p else none) with
  | some v => return .ok (some ⟨p, v, .defaultValue⟩)
  | none => return .ok (if o.returnNotDefined then some (.notDefined p) else none)

/-- Resolution in a session, with room for calculations nested `depth` deep. -/
def resolveShared (r : Resolver) (behaviour : Property → Calculator → Calculation) :
    Nat → Property → Resolution
  | 0 => r.resolveSharedWith behaviour none
  | depth + 1 => r.resolveSharedWith behaviour (some (r.resolveShared behaviour depth))

end Resolver

end Schemata
