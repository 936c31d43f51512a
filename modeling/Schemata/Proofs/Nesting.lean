import Mathlib.Data.List.Dedup
import Schemata.Proofs.SharedStack

/-!
How deep calculations nest.

A calculation is entered only for a property whose identity is not on the stack of calculations
in progress, so the stack holds distinct identities of properties that carry a calculator. When
the calculators of a finite list of properties read, among the properties that carry a
calculator, only properties of that list, no stack is longer than the number of distinct
identities of the list's calculated properties.

Main statement: resolution with room for that many nested calculations computes what it computes
with any more room, events included. Entering a calculation records an event, and running out
of room does not, so no calculation is ever refused for lack of room: calculations never nest
deeper, and resolution never recurses without end, even through a calculator that reads its own
property. For the driver's calculators the list is the property asked about and the declared
properties, so `resolve`, whose room is one level per declared property and two more, computes
exactly what resolution without a bound would.
-/

namespace Schemata

open Traced

/-- Every property a calculation may resolve, whatever the outcomes it is handed, satisfies
`known`. -/
def Calculation.ReadsWithin (known : Property → Prop) : Calculation → Prop
  | .finish _ => True
  | .resolve q next => known q ∧ ∀ outcome, (next outcome).ReadsWithin known

theorem Calculation.readAll_readsWithin {known : Property → Prop} :
    ∀ (qs : List Property) (k : List (Property × Value) → Calculation),
      (∀ q ∈ qs, known q) → (∀ values, (k values).ReadsWithin known) →
        (readAll qs k).ReadsWithin known
  | [], _, _, done => done []
  | q :: rest, k, reads, done => by
    refine ⟨reads q List.mem_cons_self, fun outcome => ?_⟩
    cases outcome with
    | error e => trivial
    | ok found =>
      exact readAll_readsWithin rest _ (fun q' inside => reads q' (List.mem_cons_of_mem q inside))
        fun more => done _

namespace Resolver

/-- The distinct identities of the properties of `props` that carry a calculator. -/
def calculatedIds (props : List Property) : List Nat :=
  ((props.filter fun q => (calculatorOf? q).isSome).map (·.id)).dedup

/-- A property that carries a calculator is one of `props`. -/
def CalculatedAmong (props : List Property) (q : Property) : Prop :=
  (calculatorOf? q).isSome → q ∈ props

/-- The calculators of the properties of `props` read, among the properties that carry a
calculator, only properties of `props`. -/
def ClosedCalculations (behaviour : Property → Calculator → Calculation)
    (props : List Property) : Prop :=
  ∀ q ∈ props, ∀ c, calculatorOf? q = some c →
    (behaviour q c).ReadsWithin (CalculatedAmong props)

/-- Calculations in progress among `props`: distinct identities, each of a property of `props`
that carries a calculator. -/
structure StackAmong (props stack : List Property) : Prop where
  distinct : (stack.map (·.id)).Nodup
  calculated : ∀ s ∈ stack, s ∈ props ∧ (calculatorOf? s).isSome

theorem stackAmong_nil (props : List Property) : StackAmong props [] :=
  ⟨List.nodup_nil, fun _ absent => nomatch absent⟩

section Stack

variable {props stack : List Property} {q : Property}

theorem StackAmong.push (among : StackAmong props stack) (member : q ∈ props)
    (carries : (calculatorOf? q).isSome) (fresh : q.id ∉ stack.map (·.id)) :
    StackAmong props (q :: stack) := by
  refine ⟨List.nodup_cons.mpr ⟨fresh, among.distinct⟩, fun s inside => ?_⟩
  rcases List.mem_cons.mp inside with rfl | below
  · exact ⟨member, carries⟩
  · exact among.calculated s below

-- Distinct identities of calculated properties of `props` are at most as many as there are.
theorem StackAmong.length_le (among : StackAmong props stack) :
    stack.length ≤ (calculatedIds props).length := by
  have within : stack.map (·.id) ⊆ calculatedIds props := by
    intro i member
    obtain ⟨s, inside, rfl⟩ := List.mem_map.mp member
    obtain ⟨listed, carries⟩ := among.calculated s inside
    exact List.mem_dedup.mpr (List.mem_map.mpr ⟨s, List.mem_filter.mpr ⟨listed, carries⟩, rfl⟩)
  simpa using (among.distinct.subperm within).length_le

theorem calculatedIds_length_le (props : List Property) :
    (calculatedIds props).length ≤ props.length :=
  calc (calculatedIds props).length
      ≤ ((props.filter fun q => (calculatorOf? q).isSome).map (·.id)).length :=
        (List.dedup_sublist _).length_le
    _ ≤ props.length := by simpa using List.length_filter_le _ props

end Stack

section Agreement

variable {r : Resolver} {behaviour : Property → Calculator → Calculation}
  {stack : List Property} {q : Property} {c : Calculator}

-- Two resolvers that agree on the stack a program runs on run it alike: after each read the
-- stack is back, so the next read is on the same stack.
theorem run_agrees {known : Property → Prop} {resolveQ resolveQ' : Property → Resolution}
    (agree : ∀ q, known q → (resolveQ q).run stack = (resolveQ' q).run stack)
    (keeps : ∀ q, (resolveQ q).KeepsStack) :
    ∀ calculation : Calculation, calculation.ReadsWithin known →
      (calculation.run resolveQ).run stack = (calculation.run resolveQ').run stack
  | .finish _, _ => rfl
  | .resolve q next, ⟨read, later⟩ => by
    simp only [Calculation.run, StateT.run_bind, ← agree q read,
      Session.KeepsStack.run_eq (keeps q) stack, bind_map_left]
    exact congrArg _ (funext fun outcome => run_agrees agree keeps (next outcome) (later outcome))

theorem calculateShared_on_stack (onStack : q.id ∈ stack.map (·.id))
    (deeper deeper' : Option (Property → Resolution)) :
    (calculateShared behaviour deeper q c).run stack =
      (calculateShared behaviour deeper' q c).run stack := by
  have repeated : (stack.any fun s => s.id == q.id) = true := by simpa using onStack
  simp only [calculateShared, StateT.run_bind, Session.run_getThe, pure_bind, repeated,
    ↓reduceIte]

theorem calculateShared_agrees {resolveQ resolveQ' : Property → Resolution}
    (inner : ((behaviour q c).run resolveQ).run (q :: stack) =
      ((behaviour q c).run resolveQ').run (q :: stack)) :
    (calculateShared behaviour (some resolveQ) q c).run stack =
      (calculateShared behaviour (some resolveQ') q c).run stack := by
  simp only [calculateShared, StateT.run_bind, Session.run_getThe, pure_bind]
  split
  · rfl
  · simp only [StateT.run_bind, StateT.run_set, pure_bind, liftM, StateT.run_monadLift,
      monadLift_self, bind_assoc, inner]

theorem resolveSharedWith_agrees {deeper deeper' : Option (Property → Resolution)}
    (calculation : ∀ c, calculatorOf? q = some c →
      (calculateShared behaviour deeper q c).run stack =
        (calculateShared behaviour deeper' q c).run stack) :
    (r.resolveSharedWith behaviour deeper q).run stack =
      (r.resolveSharedWith behaviour deeper' q).run stack := by
  rw [resolveSharedWith, resolveSharedWith]
  cases r.container.find? q r.options.comparer with
  | some v => rfl
  | none =>
    simp only
    cases (if r.options.searchInParent then
        r.container.ancestors.findSome? (·.find? q r.options.comparer) else none) with
    | some v => rfl
    | none =>
      simp only
      cases calculator : (if r.options.calculateValue then calculatorOf? q else none) with
      | some c =>
        have carried : calculatorOf? q = some c := by
          split at calculator
          · exact calculator
          · cases calculator
        simp only [StateT.run_bind, calculation c carried]
      | none => rfl

end Agreement

/-- One more level of room changes nothing once the room and the stack together cover the
calculated identities: the recursion is on the room, and a fresh calculation takes one level
from the room and adds one to the stack. -/
theorem resolveShared_succ_agrees {r : Resolver} {behaviour : Property → Calculator → Calculation}
    {props : List Property} (closed : ClosedCalculations behaviour props) (depth : Nat) :
    ∀ stack, StackAmong props stack → (calculatedIds props).length ≤ depth + stack.length →
      ∀ q, CalculatedAmong props q →
        (r.resolveShared behaviour (depth + 1) q).run stack =
          (r.resolveShared behaviour depth q).run stack := by
  induction depth with
  | zero =>
    intro stack among room q known
    refine resolveSharedWith_agrees fun c carried => ?_
    by_cases onStack : q.id ∈ stack.map (·.id)
    · exact calculateShared_on_stack onStack _ _
    · -- a fresh calculation would need a level the room does not have
      have pushed := among.push (known (by simp [carried])) (by simp [carried]) onStack
      have bound := pushed.length_le
      simp only [List.length_cons] at bound
      omega
  | succ depth ih =>
    intro stack among room q known
    refine resolveSharedWith_agrees fun c carried => ?_
    by_cases onStack : q.id ∈ stack.map (·.id)
    · exact calculateShared_on_stack onStack _ _
    · have member := known (by simp [carried])
      have pushed := among.push member (by simp [carried]) onStack
      have agree : ∀ q', CalculatedAmong props q' →
          (r.resolveShared behaviour (depth + 1) q').run (q :: stack) =
            (r.resolveShared behaviour depth q').run (q :: stack) := fun q' known' =>
        ih (q :: stack) pushed (by simp only [List.length_cons]; omega) q' known'
      exact calculateShared_agrees (run_agrees agree
        (resolveShared_keepsStack r behaviour (depth + 1)) _ (closed q member c carried))

/-- Calculations nest at most as deep as there are calculated identities: resolution with room
for that many nested calculations computes what it computes with any more room, events
included. -/
theorem resolveShared_room_enough {r : Resolver} {behaviour : Property → Calculator → Calculation}
    {props : List Property} (closed : ClosedCalculations behaviour props) {p : Property}
    (known : CalculatedAmong props p) (depth : Nat) (room : (calculatedIds props).length ≤ depth) :
    (r.resolveShared behaviour depth p).run [] =
      (r.resolveShared behaviour (calculatedIds props).length p).run [] := by
  obtain ⟨extra, rfl⟩ := Nat.exists_eq_add_of_le room
  induction extra with
  | zero => rfl
  | succ extra ih =>
    rw [← Nat.add_assoc, resolveShared_succ_agrees closed _ [] (stackAmong_nil props)
      (by simp) p known, ih (Nat.le_add_right _ _)]

/-- The driver's calculators read declared properties only. -/
theorem program_closed (r : Resolver) (p : Property) :
    ClosedCalculations r.program (p :: r.declared) := by
  intro q _ c _
  refine Calculation.readAll_readsWithin _ _ (fun q' inside _ => ?_) fun _ => trivial
  exact List.mem_cons_of_mem p (reads_declared r c q' inside)

/-- `resolve` is given room enough: resolution of `p` with any room that covers the distinct
calculated identities of `p` and the declared properties is `resolve`. -/
theorem resolveWith_room_enough (r : Resolver) (p : Property) (depth : Nat)
    (room : (calculatedIds (p :: r.declared)).length ≤ depth) :
    r.resolveWith depth [] p = r.resolve p := by
  show r.resolveWith depth [] p = r.resolveWith r.fuel [] p
  have closed := program_closed r p
  have known : CalculatedAmong (p :: r.declared) p := fun _ => List.mem_cons_self
  have given : (calculatedIds (p :: r.declared)).length ≤ r.fuel := by
    have bound := calculatedIds_length_le (p :: r.declared)
    have sized : r.declared.length = r.catalog.length := by simp [declared]
    simp only [List.length_cons] at bound
    simp only [fuel]
    omega
  have same : (r.resolveShared r.program depth p).run [] =
      (r.resolveShared r.program r.fuel p).run [] := by
    rw [resolveShared_room_enough closed known depth room,
      resolveShared_room_enough closed known r.fuel given]
  rw [resolveShared_program, resolveShared_program] at same
  have unpaired := congrArg (Prod.fst <$> ·) same
  simpa only [Functor.map_map, id_map'] using unpaired

/-- Calculations never nest deeper than the number of distinct identities of the calculated
properties involved. For calculators of any behaviour whose reads stay, among calculated
properties, within a list of properties, resolution from a fresh session with room for that
many nested calculations computes, events included, what it computes with any more room; no
calculation is refused for lack of room. For the driver's calculators, resolution with such room
is `resolve`. -/
theorem calculations_nest_at_most_calculated_ids (r : Resolver) :
    (∀ (behaviour : Property → Calculator → Calculation) (props : List Property),
      ClosedCalculations behaviour props → ∀ p, CalculatedAmong props p →
        ∀ depth, (calculatedIds props).length ≤ depth →
          (r.resolveShared behaviour depth p).run [] =
            (r.resolveShared behaviour (calculatedIds props).length p).run []) ∧
    (∀ p depth, (calculatedIds (p :: r.declared)).length ≤ depth →
      r.resolveWith depth [] p = r.resolve p) :=
  ⟨fun _ _ closed _ known depth room => resolveShared_room_enough closed known depth room,
    resolveWith_room_enough r⟩

-- A property calculated from itself, over an empty container.
def selfLoop : Property :=
  { id := 0, name := "Loop", type := .int .i32, metadata := ⟨[⟨none, .calculator (.ref "loop")⟩]⟩ }

def selfLoopResolver : Resolver :=
  { container := {}, options := .standard, catalog := [("loop", selfLoop)] }

theorem self_loop_needs_one_level :
    ClosedCalculations selfLoopResolver.program (selfLoop :: selfLoopResolver.declared) ∧
    CalculatedAmong (selfLoop :: selfLoopResolver.declared) selfLoop ∧
    (calculatedIds (selfLoop :: selfLoopResolver.declared)).length = 1 ∧
    (selfLoopResolver.resolveShared selfLoopResolver.program 5 selfLoop).run [] =
      (selfLoopResolver.resolveShared selfLoopResolver.program 1 selfLoop).run [] ∧
    selfLoopResolver.resolveWith 1 [] selfLoop = selfLoopResolver.resolve selfLoop := by
  have closed := program_closed selfLoopResolver selfLoop
  have known : CalculatedAmong (selfLoop :: selfLoopResolver.declared) selfLoop :=
    fun _ => List.mem_cons_self
  have ids : (calculatedIds (selfLoop :: selfLoopResolver.declared)).length = 1 := by decide
  refine ⟨closed, known, ids, ?_, ?_⟩
  · have nests := (calculations_nest_at_most_calculated_ids selfLoopResolver).1 _ _ closed
      selfLoop known 5 (by omega)
    rwa [ids] at nests
  · exact (calculations_nest_at_most_calculated_ids selfLoopResolver).2 selfLoop 1 (by omega)

end Resolver

end Schemata
