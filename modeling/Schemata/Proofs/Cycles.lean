import Mathlib.Data.List.Perm.Subperm
import Schemata.Proofs.Resolution

/-!
Cycles among calculated values.

A calculation reads other properties through the resolution that runs it. Following those reads
from the property asked about is a depth-first walk: a property stored in the container or an
ancestor, or one that resolution does not calculate, is read without descending; a calculated one
is entered with itself pushed on the stack of calculations in progress; and the first property
met whose identity is already on that stack is a cycle, named with the stack, outermost first,
and the repeated property. `Walk` states that walk on its own.

Main statement: resolution fails exactly with the cycle the walk meets first and succeeds when
the walk finishes. Resolution is given fuel for one level of calculation per declared property;
it never runs out, because the identities on the stack are distinct and all but the outermost
were declared.
-/

namespace Schemata.Resolver

open Traced

def failure {α : Type} : Except ResolveError α → Option ResolveError
  | .error e => some e
  | .ok _ => none

/-- The cycle reported when `q` is met while `stack` (innermost first) is being calculated. -/
def cycleAt (stack : List Property) (q : Property) : ResolveError :=
  .cycle q.name (stack.reverse.map (·.name) ++ [q.name])

/-- The depth-first walk of calculations: reading `pending` in order while `stack` is being
calculated meets the cycle `out` first, or none. -/
inductive Walk (r : Resolver) : List Property → List Property → Option ResolveError → Prop
  | done {stack : List Property} : Walk r stack [] none
  | stored {stack rest : List Property} {q : Property} {out : Option ResolveError}
      (v : PropertyValue) :
      r.stored? q = some v → Walk r stack rest out → Walk r stack (q :: rest) out
  | plain {stack rest : List Property} {q : Property} {out : Option ResolveError} :
      r.stored? q = none → r.calculatorFor? q = none → Walk r stack rest out →
      Walk r stack (q :: rest) out
  | cycle {stack rest : List Property} {q : Property} (c : Calculator) :
      r.stored? q = none → r.calculatorFor? q = some c → q.id ∈ stack.map (·.id) →
      Walk r stack (q :: rest) (some (cycleAt stack q))
  | failed {stack rest : List Property} {q : Property} {e : ResolveError} (c : Calculator) :
      r.stored? q = none → r.calculatorFor? q = some c → q.id ∉ stack.map (·.id) →
      Walk r (q :: stack) (r.reads c) (some e) → Walk r stack (q :: rest) (some e)
  | calculated {stack rest : List Property} {q : Property} {out : Option ResolveError}
      (c : Calculator) :
      r.stored? q = none → r.calculatorFor? q = some c → q.id ∉ stack.map (·.id) →
      Walk r (q :: stack) (r.reads c) none → Walk r stack rest out → Walk r stack (q :: rest) out

def declared (r : Resolver) : List Property := r.catalog.map (·.2)

theorem property_mem_declared {r : Resolver} {id : String} {q : Property}
    (found : r.property? id = some q) : q ∈ r.declared := by
  simp only [property?, Option.map_eq_some_iff] at found
  obtain ⟨entry, member, rfl⟩ := found
  exact List.mem_map.mpr ⟨entry, List.mem_of_find?_eq_some member, rfl⟩

theorem reads_declared (r : Resolver) (c : Calculator) : ∀ q ∈ r.reads c, q ∈ r.declared := by
  intro q member
  cases c with
  | const v => cases member
  | ref id =>
    cases found : r.property? id with
    | none => simp [reads, found] at member
    | some q' =>
      simp only [reads, found, Option.toList_some, List.mem_singleton] at member
      exact member ▸ property_mem_declared found
  | add id amount =>
    cases found : r.property? id with
    | none => simp [reads, found] at member
    | some q' =>
      simp only [reads, found, Option.toList_some, List.mem_singleton] at member
      exact member ▸ property_mem_declared found
  | concat parts =>
    simp only [reads, List.mem_filterMap] at member
    obtain ⟨part, _, read⟩ := member
    cases part with
    | literal s => cases read
    | ref id => exact property_mem_declared read

section Steps

variable {r : Resolver} {fuel : Nat} {stack : List Property} {q : Property} {c : Calculator}
  {j : Journal}

theorem calculate_on_stack (onStack : q.id ∈ stack.map (·.id)) :
    (r.calculate fuel stack q c).result j = .error (cycleAt stack q) := by
  have repeated : (stack.any fun s => s.id == q.id) = true := by simpa using onStack
  cases fuel <;> rw [calculate] <;> simp [repeated, cycleAt]

theorem calculate_enters (fresh : q.id ∉ stack.map (·.id)) :
    ∃ j', (r.calculate (fuel + 1) stack q c).result j =
      ((readEach (r.read fuel (q :: stack)) (r.reads c)).result j').map (r.combine q c) := by
  have unrepeated : (stack.any fun s => s.id == q.id) = false := by simpa using fresh
  refine ⟨(emit .trace resolveTarget "calculating value" [("property", q.name)]).after j, ?_⟩
  rw [calculate]
  simp only [unrepeated, Bool.false_eq_true, ↓reduceIte, result_bind]
  cases (readEach (r.read fuel (q :: stack)) (r.reads c)).result _ <;> rfl

theorem failure_map {α β : Type} (f : α → β) (outcome : Except ResolveError α) :
    failure (outcome.map f) = failure outcome := by
  cases outcome <;> rfl

theorem failure_read :
    failure ((r.read fuel stack q).result j) = failure ((r.resolveWith fuel stack q).result j) := by
  rw [read_result, failure_map]

theorem failure_readEach_cons (read : Property → Traced (Except ResolveError Value))
    (rest : List Property) :
    failure ((readEach read (q :: rest)).result j) =
      match failure ((read q).result j) with
      | some e => some e
      | none => failure ((readEach read rest).result ((read q).after j)) := by
  rw [readEach_cons]
  cases (read q).result j with
  | error e => rfl
  | ok v => exact failure_map _ _

end Steps

/-- The calculations `stack` that may be in progress, with `fuel` left, while `q` is read: their
identities are distinct, all of `q` and the stack but the outermost were declared, and fuel and
stack together cover one level per declared property and two more. -/
structure Fits (r : Resolver) (fuel : Nat) (stack : List Property) (q : Property) : Prop where
  distinct : (stack.map (·.id)).Nodup
  declaredBelow : ∀ s ∈ (q :: stack).dropLast, s ∈ r.declared
  covered : r.catalog.length + 2 ≤ fuel + stack.length

theorem fits_start (r : Resolver) (p : Property) : r.Fits r.fuel [] p :=
  ⟨List.nodup_nil, by simp, by simp [fuel]⟩

section Fuel

variable {r : Resolver} {fuel : Nat} {stack : List Property} {q : Property}

-- Distinct declared identities are at most as many as the catalog's entries, so the stack
-- below a fresh property is never as deep as the fuel would need to be exhausted.
theorem Fits.fuel_pos (fits : r.Fits fuel stack q) (fresh : q.id ∉ stack.map (·.id)) :
    0 < fuel := by
  have ids : ((q :: stack).map (·.id)).Nodup := List.nodup_cons.mpr ⟨fresh, fits.distinct⟩
  have below : ((q :: stack).dropLast.map (·.id)).Nodup :=
    ids.sublist ((List.dropLast_sublist _).map _)
  have within : (q :: stack).dropLast.map (·.id) ⊆ r.declared.map (·.id) := by
    intro i member
    obtain ⟨s, inside, rfl⟩ := List.mem_map.mp member
    exact List.mem_map.mpr ⟨s, fits.declaredBelow s inside, rfl⟩
  have bound : stack.length ≤ r.catalog.length := by
    simpa [declared] using (below.subperm within).length_le
  have covered := fits.covered
  omega

theorem Fits.enter (fits : r.Fits (fuel + 1) stack q) (fresh : q.id ∉ stack.map (·.id))
    (c : Calculator) : ∀ q' ∈ r.reads c, r.Fits fuel (q :: stack) q' := by
  intro q' member
  refine ⟨List.nodup_cons.mpr ⟨fresh, fits.distinct⟩, ?_, ?_⟩
  · intro s below
    rw [List.dropLast_cons_cons, List.mem_cons] at below
    rcases below with rfl | inside
    · exact reads_declared r c s member
    · exact fits.declaredBelow s inside
  · have covered := fits.covered
    simp only [List.length_cons]
    omega

end Fuel

section Reading

variable {r : Resolver} {fuel : Nat} {stack : List Property} {q : Property} {j : Journal}

theorem failure_read_stored {v : PropertyValue} (found : r.stored? q = some v) :
    failure ((r.read fuel stack q).result j) = none := by
  rw [failure_read, resolveWith_stored found]
  rfl

theorem failure_read_plain (unstored : r.stored? q = none)
    (uncalculated : r.calculatorFor? q = none) :
    failure ((r.read fuel stack q).result j) = none := by
  rw [failure_read, resolveWith_uncalculated unstored uncalculated]
  rfl

theorem failure_read_calculated {c : Calculator} (unstored : r.stored? q = none)
    (calculated : r.calculatorFor? q = some c) :
    failure ((r.read fuel stack q).result j) = failure ((r.calculate fuel stack q c).result j) := by
  rw [failure_read, resolveWith_calculated unstored calculated, failure_map]

end Reading

/-- Reading properties in order fails as the walk from them does; the recursion follows the
resolver's own, on the fuel and then along the properties read. -/
theorem walk_readEach {r : Resolver} : ∀ (fuel : Nat) (stack pending : List Property)
    (j : Journal), (∀ q ∈ pending, r.Fits fuel stack q) →
    r.Walk stack pending (failure ((readEach (r.read fuel stack) pending).result j))
  | fuel, stack, [], j, _ => by
    rw [readEach_nil]
    exact .done
  | fuel, stack, q :: rest, j, fits => by
    have later : ∀ j', r.Walk stack rest (failure ((readEach (r.read fuel stack) rest).result j')) :=
      fun j' => walk_readEach fuel stack rest j' fun q' inside =>
        fits q' (List.mem_cons_of_mem q inside)
    have head := fits q List.mem_cons_self
    rw [failure_readEach_cons]
    cases found : r.stored? q with
    | some v =>
      rw [failure_read_stored found]
      exact .stored v found (later _)
    | none =>
      cases calculator : r.calculatorFor? q with
      | none =>
        rw [failure_read_plain found calculator]
        exact .plain found calculator (later _)
      | some c =>
        rw [failure_read_calculated found calculator]
        by_cases onStack : q.id ∈ stack.map (·.id)
        · rw [calculate_on_stack onStack]
          exact .cycle c found calculator onStack
        · obtain ⟨below, rfl⟩ := Nat.exists_eq_add_one.mpr (head.fuel_pos onStack)
          obtain ⟨j', entered⟩ := calculate_enters (r := r) (c := c) (j := j) onStack
          have inner := walk_readEach below (q :: stack) (r.reads c) j' (head.enter onStack c)
          rw [entered, failure_map]
          cases outcome : failure ((readEach (r.read below (q :: stack)) (r.reads c)).result j') with
          | some e =>
            rw [outcome] at inner
            exact .failed c found calculator onStack inner
          | none =>
            rw [outcome] at inner
            exact .calculated c found calculator onStack inner (later _)
termination_by fuel _ pending => (fuel, pending.length)

-- A walk says how reading its properties fails, with any fuel that fits.
theorem failure_readEach_of_walk {r : Resolver} {stack pending : List Property}
    {out : Option ResolveError} (walk : r.Walk stack pending out) :
    ∀ fuel j, (∀ q ∈ pending, r.Fits fuel stack q) →
      failure ((readEach (r.read fuel stack) pending).result j) = out := by
  induction walk with
  | done =>
    intro fuel j _
    rfl
  | stored v found _ ih =>
    intro fuel j fits
    rw [failure_readEach_cons, failure_read_stored found]
    exact ih fuel _ fun q' inside => fits q' (List.mem_cons_of_mem _ inside)
  | plain unstored uncalculated _ ih =>
    intro fuel j fits
    rw [failure_readEach_cons, failure_read_plain unstored uncalculated]
    exact ih fuel _ fun q' inside => fits q' (List.mem_cons_of_mem _ inside)
  | cycle c unstored calculated onStack =>
    intro fuel j _
    rw [failure_readEach_cons, failure_read_calculated unstored calculated,
      calculate_on_stack onStack]
    rfl
  | failed c unstored calculated fresh _ ih =>
    intro fuel j fits
    have head := fits _ List.mem_cons_self
    obtain ⟨below, rfl⟩ := Nat.exists_eq_add_one.mpr (head.fuel_pos fresh)
    obtain ⟨j', entered⟩ := calculate_enters (r := r) (c := c) (j := j) fresh
    rw [failure_readEach_cons, failure_read_calculated unstored calculated, entered, failure_map,
      ih below j' (head.enter fresh c)]
  | calculated c unstored calculated fresh _ _ inner ih =>
    intro fuel j fits
    have head := fits _ List.mem_cons_self
    obtain ⟨below, rfl⟩ := Nat.exists_eq_add_one.mpr (head.fuel_pos fresh)
    obtain ⟨j', entered⟩ := calculate_enters (r := r) (c := c) (j := j) fresh
    rw [failure_readEach_cons, failure_read_calculated unstored calculated, entered, failure_map,
      inner below j' (head.enter fresh c)]
    exact ih (below + 1) _ fun q' inside => fits q' (List.mem_cons_of_mem _ inside)

theorem failure_resolve (r : Resolver) (p : Property) (j : Journal) :
    failure ((r.resolve p).result j) = failure ((readEach (r.read r.fuel []) [p]).result j) := by
  rw [failure_readEach_cons, failure_read, resolve]
  cases (r.resolveWith r.fuel [] p).result j <;> rfl

/-- Properties of one identity have one name, as all handles of one declaration do. -/
def IdsKeepNames (props : List Property) : Prop :=
  ∀ a ∈ props, ∀ b ∈ props, a.id = b.id → a.name = b.name

instance (props : List Property) : Decidable (IdsKeepNames props) :=
  inferInstanceAs (Decidable (∀ a ∈ props, ∀ b ∈ props, a.id = b.id → a.name = b.name))

-- The repeated property's identity is on the stack, so its name is too, once identities keep
-- names among the properties the walk meets.
theorem Walk.cycle_repeats {r : Resolver} {known : List Property} (keep : IdsKeepNames known)
    (readsKnown : ∀ c, ∀ q ∈ r.reads c, q ∈ known) {stack pending : List Property}
    {out : Option ResolveError} (walk : r.Walk stack pending out) :
    (∀ s ∈ stack, s ∈ known) → (∀ q ∈ pending, q ∈ known) → ∀ e, out = some e →
      ∃ name earlier, e = .cycle name (earlier ++ [name]) ∧ name ∈ earlier := by
  induction walk with
  | done =>
    intro _ _ e absent
    cases absent
  | stored v _ _ ih =>
    intro stackKnown pendingKnown
    exact ih stackKnown fun q inside => pendingKnown q (List.mem_cons_of_mem _ inside)
  | plain _ _ _ ih =>
    intro stackKnown pendingKnown
    exact ih stackKnown fun q inside => pendingKnown q (List.mem_cons_of_mem _ inside)
  | cycle c _ _ onStack =>
    intro stackKnown pendingKnown e reported
    cases reported
    obtain ⟨s, inside, sameId⟩ := List.mem_map.mp onStack
    have sameName := keep s (stackKnown s inside) _ (pendingKnown _ List.mem_cons_self) sameId
    exact ⟨_, _, rfl, List.mem_map.mpr ⟨s, List.mem_reverse.mpr inside, sameName⟩⟩
  | @failed stack rest q e c _ _ _ _ ih =>
    intro stackKnown pendingKnown
    have pushed : ∀ s ∈ q :: stack, s ∈ known := by
      intro s inside
      rcases List.mem_cons.mp inside with rfl | below
      · exact pendingKnown s List.mem_cons_self
      · exact stackKnown s below
    exact ih pushed (readsKnown c)
  | calculated c _ _ _ _ _ _ ih =>
    intro stackKnown pendingKnown
    exact ih stackKnown fun q inside => pendingKnown q (List.mem_cons_of_mem _ inside)

/-- Resolution fails exactly with the first cycle of the depth-first walk of calculations from
the property, and succeeds exactly when that walk finishes. The path of the cycle ends with the
repeated property's name, which occurs in it before. -/
theorem resolve_fails_at_first_cycle (r : Resolver) (p : Property) (j : Journal) :
    (∀ e, (r.resolve p).result j = .error e ↔ r.Walk [] [p] (some e)) ∧
    ((∃ found, (r.resolve p).result j = .ok found) ↔ r.Walk [] [p] none) ∧
    (IdsKeepNames (p :: r.declared) → ∀ name path,
      (r.resolve p).result j = .error (.cycle name path) →
        ∃ earlier, path = earlier ++ [name] ∧ name ∈ earlier) := by
  have start : ∀ q ∈ [p], r.Fits r.fuel [] q := by
    intro q inside
    rw [List.mem_singleton] at inside
    exact inside ▸ fits_start r p
  have sound : r.Walk [] [p] (failure ((r.resolve p).result j)) := by
    rw [failure_resolve]
    exact walk_readEach r.fuel [] [p] j start
  have complete : ∀ out, r.Walk [] [p] out → failure ((r.resolve p).result j) = out := by
    intro out walk
    rw [failure_resolve]
    exact failure_readEach_of_walk walk r.fuel j start
  have fails : ∀ e, (r.resolve p).result j = .error e ↔ r.Walk [] [p] (some e) := by
    intro e
    constructor
    · intro failed
      simpa [failed, failure] using sound
    · intro walk
      have reported := complete _ walk
      cases outcome : (r.resolve p).result j with
      | error e' => simpa [outcome, failure] using reported
      | ok found => simp [outcome, failure] at reported
  refine ⟨fails, ⟨?_, ?_⟩, ?_⟩
  · rintro ⟨found, succeeded⟩
    simpa [succeeded, failure] using sound
  · intro walk
    have reported := complete _ walk
    cases outcome : (r.resolve p).result j with
    | error e => simp [outcome, failure] at reported
    | ok found => exact ⟨found, rfl⟩
  · intro keep name path failed
    have readsKnown : ∀ c, ∀ q ∈ r.reads c, q ∈ p :: r.declared :=
      fun c q inside => List.mem_cons_of_mem p (reads_declared r c q inside)
    obtain ⟨name', earlier, reported, repeated⟩ :=
      ((fails _).mp failed).cycle_repeats keep readsKnown (by simp) (by simp) _ rfl
    cases reported
    exact ⟨earlier, rfl, repeated⟩

-- `A` and `B` calculated from each other, over an empty container.
def loopA : Property :=
  { id := 0, name := "A", type := .int .i32, metadata := ⟨[⟨none, .calculator (.ref "b")⟩]⟩ }

def loopB : Property :=
  { id := 1, name := "B", type := .int .i32, metadata := ⟨[⟨none, .calculator (.ref "a")⟩]⟩ }

def twoStepLoop : Resolver :=
  { container := {}, options := .standard, catalog := [("a", loopA), ("b", loopB)] }

theorem two_step_loop_reports_path :
    IdsKeepNames (loopA :: twoStepLoop.declared) ∧
    (twoStepLoop.resolve loopA).result {} = .error (.cycle "A" ["A", "B", "A"]) ∧
    ∃ earlier, ["A", "B", "A"] = earlier ++ ["A"] ∧ "A" ∈ earlier := by
  have keep : IdsKeepNames (loopA :: twoStepLoop.declared) := by decide
  have walk : twoStepLoop.Walk [] [loopA] (some (.cycle "A" ["A", "B", "A"])) :=
    .failed (.ref "b") rfl rfl (by decide)
      (.failed (.ref "a") rfl rfl (by decide) (.cycle (.ref "b") rfl rfl (by decide)))
  have failed := ((resolve_fails_at_first_cycle twoStepLoop loopA {}).1 _).mpr walk
  exact ⟨keep, failed, (resolve_fails_at_first_cycle twoStepLoop loopA {}).2.2 keep _ _ failed⟩

end Schemata.Resolver
