import Schemata.Container.Resolve
import Schemata.Proofs.Traced

/-!
Resolution takes the first source that answers.

The sources of a property, in order, are the stored values that match it (in the container,
then in each ancestor nearest first when searching parents), its calculator (when calculating)
and its default (when using defaults). Resolution reports the first of them and stops there: a
stored value answers as soon as the comparer matches it, whatever its provenance or type. The
typed read `get` keeps that answer only when it is a value of the property's own type, so a
matching value that is not defined hides everything behind it, inherited values included.

The first lemmas say once what each branch of `resolveWith` returns; later proofs cite them
instead of unfolding resolution again.
-/

namespace Schemata.Resolver

open Traced

/-- The stored value resolution takes for `p`: the first value of the container that the
comparer matches with `p`, else, when searching parents, the first match of the nearest ancestor
that has one. -/
def stored? (r : Resolver) (p : Property) : Option PropertyValue :=
  (r.container.find? p r.options.comparer).or
    (if r.options.searchInParent then
      r.container.ancestors.findSome? (·.find? p r.options.comparer) else none)

def calculatorFor? (r : Resolver) (p : Property) : Option Calculator :=
  if r.options.calculateValue then calculatorOf? p else none

def defaultFor? (r : Resolver) (p : Property) : Option Value :=
  if r.options.useDefaultValue then defaultOf? p else none

section Branches

variable {r : Resolver} {p : Property} {fuel : Nat} {stack : List Property} {j : Journal}

theorem resolveWith_stored {v : PropertyValue} (found : r.stored? p = some v) :
    (r.resolveWith fuel stack p).result j = .ok (some v) := by
  rw [resolveWith]
  cases here : r.container.find? p r.options.comparer with
  | some w =>
    simp only [stored?, here, Option.some_or, Option.some.injEq] at found
    simp [found]
  | none =>
    simp only [stored?, here, Option.none_or] at found
    simp [found]

theorem resolveWith_calculated {c : Calculator} (unstored : r.stored? p = none)
    (calculated : r.calculatorFor? p = some c) :
    (r.resolveWith fuel stack p).result j =
      ((r.calculate fuel stack p c).result j).map fun v => some ⟨p, v, .calculated⟩ := by
  simp only [stored?, Option.or_eq_none_iff] at unstored
  simp only [calculatorFor?] at calculated
  rw [resolveWith]
  simp only [unstored.1, unstored.2, calculated, result_bind]
  cases (r.calculate fuel stack p c).result j <;> rfl

theorem resolveWith_uncalculated (unstored : r.stored? p = none)
    (uncalculated : r.calculatorFor? p = none) :
    (r.resolveWith fuel stack p).result j =
      .ok (((r.defaultFor? p).map fun v => ⟨p, v, .defaultValue⟩).or
        (if r.options.returnNotDefined then some (.notDefined p) else none)) := by
  simp only [stored?, Option.or_eq_none_iff] at unstored
  simp only [calculatorFor?] at uncalculated
  rw [resolveWith]
  simp only [unstored.1, unstored.2, uncalculated]
  cases given : r.defaultFor? p <;> simp only [defaultFor?] at given <;> simp [given]

theorem read_result {q : Property} :
    (r.read fuel stack q).result j =
      ((r.resolveWith fuel stack q).result j).map fun found =>
        match found with
        | some v => if v.hasValue then v.value else q.type.zero
        | none => q.type.zero := by
  rw [read]
  simp only [result_bind]
  cases (r.resolveWith fuel stack q).result j with
  | error e => rfl
  | ok found => cases found <;> rfl

theorem get_result : (r.get p).result j =
    ((r.resolve p).result j).map fun found =>
      match found with
      | some v => if v.hasValue && v.value.type == p.type then some v.value else none
      | none => none := by
  simp only [get, result_bind]
  cases (r.resolve p).result j with
  | error e => rfl
  | ok found => cases found <;> rfl

end Branches

theorem readEach_nil (read : Property → Traced (Except ResolveError Value)) (j : Journal) :
    (readEach read []).result j = .ok [] := rfl

theorem readEach_cons (read : Property → Traced (Except ResolveError Value)) (q : Property)
    (rest : List Property) (j : Journal) :
    (readEach read (q :: rest)).result j =
      match (read q).result j with
      | .error e => .error e
      | .ok v => ((readEach read rest).result ((read q).after j)).map ((q, v) :: ·) := by
  simp only [readEach, result_bind]
  cases (read q).result j with
  | error e => rfl
  | ok v =>
    simp only [result_bind]
    cases (readEach read rest).result ((read q).after j) <;> rfl

end Resolver

def Container.matching (c : Container) (p : Property) (comparer : Comparer) :
    List PropertyValue :=
  c.values.filter fun v => comparer.same v.property p

theorem Container.find_eq_head_matching (c : Container) (p : Property) (comparer : Comparer) :
    c.find? p comparer = (c.matching p comparer).head? := by
  simp [Container.find?, Container.matching]

/-- A source of a property's value. -/
inductive Source where
  | stored (v : PropertyValue)
  | calculated (x : Value)
  | byDefault (x : Value)

namespace Source

/-- The value a source supplies as a value of type `t`: a stored value only when it is defined,
and any value only when it is of type `t`. -/
def supplies (t : ValueType) : Source → Option Value
  | .stored v => if v.hasValue && v.value.type == t then some v.value else none
  | .calculated x => if x.type == t then some x else none
  | .byDefault x => if x.type == t then some x else none

def reported (p : Property) : Source → PropertyValue
  | .stored v => v
  | .calculated x => ⟨p, x, .calculated⟩
  | .byDefault x => ⟨p, x, .defaultValue⟩

-- The typed read of a reported value is what the source supplies.
theorem supplies_eq_reported (p : Property) (t : ValueType) (s : Source) :
    s.supplies t =
      if (s.reported p).hasValue && (s.reported p).value.type == t then
        some (s.reported p).value else none := by
  cases s <;> simp [supplies, reported, PropertyValue.hasValue]

end Source

namespace Resolver

/-- The stored values resolution may take for `p`, in order: those of the container that match
`p`, then, when searching parents, those of each ancestor, nearest first. -/
def storedChain (r : Resolver) (p : Property) : List PropertyValue :=
  r.container.matching p r.options.comparer ++
    if r.options.searchInParent then
      r.container.ancestors.flatMap (·.matching p r.options.comparer) else []

/-- The sources of `p` in resolution order, the calculator's value being `calculated`: the
stored chain, the calculated value when calculating and `p` has a calculator, and the default
when using defaults and `p` has one. -/
def sources (r : Resolver) (p : Property) (calculated : Value) : List Source :=
  (r.storedChain p).map .stored ++
    ((r.calculatorFor? p).map fun _ => Source.calculated calculated).toList ++
    ((r.defaultFor? p).map .byDefault).toList

theorem stored_eq_head_storedChain (r : Resolver) (p : Property) :
    r.stored? p = (r.storedChain p).head? := by
  rw [stored?, storedChain, List.head?_append, Container.find_eq_head_matching]
  congr 1
  split
  · rw [List.head?_flatMap]
    simp only [Container.find_eq_head_matching]
  · rfl

theorem resolve_reports_first_source {r : Resolver} {p : Property} {j : Journal}
    {calculated : Value}
    (calculates : ∀ c, r.calculatorFor? p = some c →
      (r.calculate r.fuel [] p c).result j = .ok calculated) :
    (r.resolve p).result j =
      .ok (((r.sources p calculated).head?.map (·.reported p)).or
        (if r.options.returnNotDefined then some (.notDefined p) else none)) := by
  rw [resolve]
  cases found : r.stored? p with
  | some v =>
    obtain ⟨rest, chain⟩ : ∃ rest, r.storedChain p = v :: rest :=
      List.head?_eq_some_iff.mp ((stored_eq_head_storedChain r p) ▸ found)
    rw [resolveWith_stored found]
    simp [sources, chain, Source.reported]
  | none =>
    have empty : r.storedChain p = [] := by
      simpa [stored_eq_head_storedChain] using found
    cases calculator : r.calculatorFor? p with
    | some c =>
      rw [resolveWith_calculated found calculator, calculates c calculator]
      simp [sources, empty, calculator, Source.reported, Except.map]
    | none =>
      rw [resolveWith_uncalculated found calculator]
      cases given : r.defaultFor? p <;> simp [sources, empty, calculator, given, Source.reported]

/-- The typed read answers with the first source of the property and keeps its value only when
that source supplies one of the property's type; resolution reports that first source, with
provenance `Calculated` or `DefaultValue` for the calculator and the default. -/
theorem get_takes_first_source {r : Resolver} {p : Property} {j : Journal} {calculated : Value}
    (calculates : ∀ c, r.calculatorFor? p = some c →
      (r.calculate r.fuel [] p c).result j = .ok calculated) :
    (r.get p).result j = .ok ((r.sources p calculated).head?.bind (·.supplies p.type)) ∧
    (r.resolve p).result j =
      .ok (((r.sources p calculated).head?.map (·.reported p)).or
        (if r.options.returnNotDefined then some (.notDefined p) else none)) := by
  have resolved := resolve_reports_first_source calculates
  refine ⟨?_, resolved⟩
  rw [get_result, resolved]
  cases (r.sources p calculated).head? with
  | none => split <;> simp [PropertyValue.notDefined, PropertyValue.hasValue, Except.map]
  | some s => simp [Source.supplies_eq_reported p, Except.map]

end Resolver

namespace Resolver

-- A leaf container that stores `A : i32` as not defined, over a parent that holds `A = 5`.
def shadowed : Property := { id := 0, name := "A", type := .int .i32 }

def undefinedOverParent : Resolver where
  container := { values := [.notDefined shadowed],
                 parent := some { values := [⟨shadowed, .int .i32 5, .defined⟩] } }
  options := .standard
  catalog := [("a", shadowed)]

-- An inherited 5 is a source that supplies an `i32`, yet the typed read finds nothing.
theorem undefined_entry_hides_inherited_value :
    (undefinedOverParent.sources shadowed (.int .i32 0)).findSome? (·.supplies (.int .i32)) =
      some (.int .i32 5) ∧
    (undefinedOverParent.get shadowed).result {} = .ok none := by
  constructor
  · rfl
  · rw [get_result, resolve, resolveWith_stored rfl]
    rfl

-- `N : i32` calculated as the constant 7, read from an empty container with every source.
def constantSeven : Property :=
  { id := 1, name := "N", type := .int .i32,
    metadata := ⟨[⟨none, .calculator (.const (.int .i32 7))⟩]⟩ }

def overEmpty : Resolver := { container := {}, options := .standard, catalog := [] }

theorem calculated_seven_comes_first :
    (∀ c, overEmpty.calculatorFor? constantSeven = some c →
      (overEmpty.calculate overEmpty.fuel [] constantSeven c).result {} = .ok (.int .i32 7)) ∧
    (overEmpty.get constantSeven).result {} =
      .ok ((overEmpty.sources constantSeven (.int .i32 7)).head?.bind
        (·.supplies constantSeven.type)) ∧
    (overEmpty.resolve constantSeven).result {} =
      .ok (((overEmpty.sources constantSeven (.int .i32 7)).head?.map
        (·.reported constantSeven)).or
        (if overEmpty.options.returnNotDefined then some (.notDefined constantSeven) else none)) :=
  have calculates : ∀ c, overEmpty.calculatorFor? constantSeven = some c →
      (overEmpty.calculate overEmpty.fuel [] constantSeven c).result {} = .ok (.int .i32 7) := by
    intro c chosen
    cases chosen
    rw [calculate.eq_def]
    simp [reads, readEach, combine, fuel]
  ⟨calculates, get_takes_first_source calculates⟩

end Resolver

end Schemata
