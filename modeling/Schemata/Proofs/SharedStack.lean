import Schemata.Container.Session
import Schemata.Validation.Synthesizer
import Schemata.Proofs.Combinators

/-!
The shared stack of calculations.

A session keeps the calculations in progress as state, and every query leaves that stack as it
found it. A calculation pushes its property and pops it once its program ends, whatever the
program did with the outcomes of its reads (passed an error on, swallowed it, read something
else) and however it ended; the cycle branch and the branch with no level left push nothing.
So a query made after others, cycles among them, answers as it would in a fresh session.

For the driver's calculators a session computes what `resolveWith` computes with the stack as an
argument; in particular `resolve`, which starts from the empty stack, answers every query of a
shared session. The validator runs all its rules against one context, and its messages are
those of each rule run alone, in rule order.
-/

namespace Schemata

open Traced

namespace Session

variable {α β : Type}

/-- A computation that hands back the stack it was given, whatever it returns. -/
def KeepsStack (x : Session α) : Prop := ∀ stack j, ((x.run stack).result j).2 = stack

theorem keepsStack_pure (a : α) : (pure a : Session α).KeepsStack := fun _ _ => rfl

theorem keepsStack_lift (t : Traced α) : (liftM t : Session α).KeepsStack := fun _ _ => rfl

theorem KeepsStack.bind {x : Session α} {f : α → Session β} (first : x.KeepsStack)
    (rest : ∀ a, (f a).KeepsStack) : (x >>= f).KeepsStack := by
  intro stack j
  simp only [StateT.run_bind, result_bind]
  rw [rest _ _ _, first]

-- Keeping the stack makes the run on a stack the plain computation paired with that stack.
theorem KeepsStack.run_eq {x : Session α} (keeps : x.KeepsStack) (stack : List Property) :
    x.run stack = (fun a => (a, stack)) <$> x.run' stack := by
  funext j
  have kept := keeps stack j
  simp only [Traced.result] at kept
  show (x.run stack).run j = ((fun a => (a, stack)) <$> (Prod.fst <$> x.run stack)).run j
  rw [Functor.map_map, StateT.run_map]
  generalize (x.run stack).run j = outcome at kept ⊢
  obtain ⟨⟨a, after⟩, journal⟩ := outcome
  cases kept
  rfl

/-- Queries one after another in one session answer, and report, what each answers alone on the
stack the session started with. -/
theorem mapM_run {f : α → Session β} (each : ∀ a, (f a).KeepsStack) (stack : List Property) :
    ∀ xs : List α,
      (xs.mapM f).run stack = (fun bs => (bs, stack)) <$> xs.mapM fun a => (f a).run' stack
  | [] => by simp
  | a :: rest => by
    simp only [List.mapM_cons, StateT.run_bind, KeepsStack.run_eq (each a) stack, bind_map_left,
      mapM_run each stack rest]
    simp

end Session

theorem Calculation.run_keepsStack {resolveQ : Property → Resolution}
    (each : ∀ q, (resolveQ q).KeepsStack) :
    ∀ calculation : Calculation, (calculation.run resolveQ).KeepsStack
  | .finish outcome => Session.keepsStack_pure outcome
  | .resolve q next => (each q).bind fun outcome => run_keepsStack each (next outcome)

namespace Resolver

section Balance

variable {r : Resolver} {behaviour : Property → Calculator → Calculation}
  {deeper : Option (Property → Resolution)} {p : Property} {c : Calculator}

-- The push and the pop enclose the program, and the program hands back the pushed stack.
theorem calculateShared_keepsStack
    (deeperKeeps : ∀ resolveQ, deeper = some resolveQ → ∀ q, (resolveQ q).KeepsStack) :
    (calculateShared behaviour deeper p c).KeepsStack := by
  intro stack j
  simp only [calculateShared, StateT.run_bind, result_bind, Session.run_getThe]
  split
  · simp
  · split
    · simp
    · rename_i resolveQ
      have inner := Calculation.run_keepsStack (deeperKeeps resolveQ rfl) (behaviour p c)
      simp [StateT.run_bind, inner _ _]

theorem resolveSharedWith_keepsStack
    (calculation : ∀ c, (calculateShared behaviour deeper p c).KeepsStack) :
    (r.resolveSharedWith behaviour deeper p).KeepsStack := by
  rw [resolveSharedWith]
  cases r.container.find? p r.options.comparer with
  | some v => exact Session.keepsStack_pure _
  | none =>
    cases (if r.options.searchInParent then
        r.container.ancestors.findSome? (·.find? p r.options.comparer) else none) with
    | some v => exact (Session.keepsStack_lift _).bind fun _ => Session.keepsStack_pure _
    | none =>
      cases (if r.options.calculateValue then calculatorOf? p else none) with
      | some c =>
        refine (calculation c).bind fun outcome => ?_
        cases outcome <;> exact Session.keepsStack_pure _
      | none =>
        cases (if r.options.useDefaultValue then defaultOf? p else none) <;>
          exact Session.keepsStack_pure _

end Balance

/-- Every query of a session hands back the stack it was given, for calculators of any
behaviour and at any depth. -/
theorem resolveShared_keepsStack (r : Resolver) (behaviour : Property → Calculator → Calculation) :
    ∀ depth p, (r.resolveShared behaviour depth p).KeepsStack
  | 0, _ => resolveSharedWith_keepsStack fun _ =>
      calculateShared_keepsStack fun _ absent => nomatch absent
  | depth + 1, _ => resolveSharedWith_keepsStack fun _ =>
      calculateShared_keepsStack fun _ given => by
        cases given
        exact resolveShared_keepsStack r behaviour depth

section Driver

variable {r : Resolver} {behaviour : Property → Calculator → Calculation}
  {deeper : Option (Property → Resolution)} {p : Property} {c : Calculator}

theorem read_eq_map {fuel : Nat} {stack : List Property} (q : Property) :
    r.read fuel stack q =
      Except.map (Calculation.valueRead q) <$> r.resolveWith fuel stack q := by
  rw [read]
  simp only [map_eq_pure_bind]
  refine congrArg _ (funext fun outcome => ?_)
  rcases outcome with e | _ | v <;> rfl

-- By induction on the properties read; the continuation grows by the value just read.
theorem run_readAll {resolveQ : Property → Resolution} {fuel : Nat} {stack : List Property}
    (below : ∀ q, (resolveQ q).run stack =
      (fun a => (a, stack)) <$> r.resolveWith fuel stack q) :
    ∀ (qs : List Property) (g : List (Property × Value) → Value),
      ((Calculation.readAll qs fun vs => .finish (.ok (g vs))).run resolveQ).run stack =
        (fun a => (a, stack)) <$> (Except.map g <$> readEach (r.read fuel stack) qs)
  | [], g => by simp [Calculation.readAll, Calculation.run, readEach, Except.map]
  | q :: rest, g => by
    simp only [Calculation.readAll, Calculation.run, StateT.run_bind, below, bind_map_left,
      readEach, read_eq_map, map_bind]
    refine congrArg _ (funext fun outcome => ?_)
    cases outcome with
    | error e => simp [Calculation.run, Except.map]
    | ok found =>
      simp only [Except.map]
      rw [run_readAll below rest]
      simp only [map_eq_pure_bind, bind_assoc, pure_bind]
      refine congrArg _ (funext fun more => ?_)
      cases more <;> rfl

theorem calculateShared_exhausted (stack : List Property) :
    (calculateShared behaviour none p c).run stack =
      (fun a => (a, stack)) <$> r.calculate 0 stack p c := by
  rw [calculateShared, calculate]
  simp only [StateT.run_bind, Session.run_getThe, pure_bind]
  split <;> simp

theorem calculateShared_program {resolveQ : Property → Resolution} {fuel : Nat}
    {stack : List Property}
    (below : ∀ q, (resolveQ q).run (p :: stack) =
      (fun a => (a, p :: stack)) <$> r.resolveWith fuel (p :: stack) q) :
    (calculateShared r.program (some resolveQ) p c).run stack =
      (fun a => (a, stack)) <$> r.calculate (fuel + 1) stack p c := by
  rw [calculateShared, calculate]
  simp only [StateT.run_bind, Session.run_getThe, pure_bind]
  split
  · simp
  · -- pushed: the reads run on the pushed stack, which the pop then takes back
    simp only [program, StateT.run_bind, StateT.run_set, pure_bind, liftM, StateT.run_monadLift,
      bind_assoc, monadLift_self]
    rw [run_readAll below (r.reads c) (r.combine p c)]
    simp
    refine congrArg _ (funext fun _ => ?_)
    simp only [map_eq_pure_bind]
    refine congrArg _ (funext fun outcome => ?_)
    cases outcome <;> rfl

theorem resolveSharedWith_run {fuel : Nat} {stack : List Property}
    (calculation : ∀ c, (calculateShared behaviour deeper p c).run stack =
      (fun a => (a, stack)) <$> r.calculate fuel stack p c) :
    (r.resolveSharedWith behaviour deeper p).run stack =
      (fun a => (a, stack)) <$> r.resolveWith fuel stack p := by
  rw [resolveSharedWith, resolveWith]
  cases r.container.find? p r.options.comparer with
  | some v => simp
  | none =>
    simp only
    cases (if r.options.searchInParent then
        r.container.ancestors.findSome? (·.find? p r.options.comparer) else none) with
    | some v => simp
    | none =>
      simp only
      cases (if r.options.calculateValue then calculatorOf? p else none) with
      | some c =>
        simp only [calculation c, StateT.run_bind, bind_map_left, map_bind]
        refine congrArg _ (funext fun outcome => ?_)
        cases outcome <;> rfl
      | none =>
        simp only
        cases (if r.options.useDefaultValue then defaultOf? p else none) <;> simp

end Driver

/-- With the driver's calculators, a session computes what resolution with the stack as an
argument computes, and hands the stack back. -/
theorem resolveShared_program (r : Resolver) : ∀ depth stack p,
    (r.resolveShared r.program depth p).run stack =
      (fun a => (a, stack)) <$> r.resolveWith depth stack p
  | 0, stack, _ => resolveSharedWith_run fun _ => calculateShared_exhausted stack
  | depth + 1, stack, p => resolveSharedWith_run fun _ =>
      calculateShared_program fun q => resolveShared_program r depth (p :: stack) q

end Resolver

theorem Traced.foldlM_append_result {α β : Type} {f : α → Traced (List β)}
    (ignores : ∀ a, (f a).IgnoresJournal) :
    ∀ (xs : List α) (acc : List β) (j : Journal),
      (xs.foldlM (fun b a => (b ++ ·) <$> f a) acc).result j =
        acc ++ xs.flatMap fun a => (f a).result j
  | [], acc, j => by simp
  | a :: rest, acc, j => by
    rw [List.foldlM_cons, result_bind, result_map, foldlM_append_result ignores rest,
      List.flatMap_cons, List.append_assoc]
    congr 2
    exact List.flatMap_congr fun x _ => ignores x _ _

/-- The messages of a validation are those of each rule validated alone, in rule order. -/
theorem Validator.validate_eq_flatMap (v : Validator) (container : Container)
    (catalog : List (String × Property)) (rules : List ValidationRule) (j : Journal) :
    (v.validate container catalog rules).result j =
      ⟨rules.flatMap fun rule => ((v.validateRule container catalog rule).result j).messages⟩ := by
  simp only [Validator.validate, Validator.validateRule, bind_pure_comp,
    List.forIn_yield_eq_foldlM, result_bind, result_map]
  rw [Traced.foldlM_append_result (ValidationRule.validate_ignoresJournal _)]
  rfl

/-- The stack of calculations is restored on every exit: every query of a session, with
calculators of any behaviour, hands back the stack it was given, so queries made one after
another, after cycles or not, answer as each would in a fresh session. With the driver's
calculators, a session that starts empty answers each query as `resolve` does. Validating rules
against one shared context gives the messages of each rule validated alone, in rule order. -/
theorem shared_stack_restored_on_every_exit (r : Resolver) :
    (∀ behaviour depth p, (r.resolveShared behaviour depth p).KeepsStack) ∧
    (∀ behaviour depth stack (ps : List Property),
      (ps.mapM (r.resolveShared behaviour depth)).run stack =
        (fun answers => (answers, stack)) <$>
          ps.mapM fun p => (r.resolveShared behaviour depth p).run' stack) ∧
    (∀ ps : List Property, (ps.mapM (r.resolveShared r.program r.fuel)).run [] =
      (fun answers => (answers, [])) <$> ps.mapM r.resolve) ∧
    (∀ (v : Validator) container catalog rules j,
      (v.validate container catalog rules).result j =
        ⟨rules.flatMap fun rule => ((v.validateRule container catalog rule).result j).messages⟩) := by
  have keeps := r.resolveShared_keepsStack
  refine ⟨keeps, fun behaviour depth stack ps => Session.mapM_run (keeps behaviour depth) stack ps,
    fun ps => ?_, Validator.validate_eq_flatMap⟩
  have fresh : ∀ p, (r.resolveShared r.program r.fuel p).run' [] = r.resolve p := by
    intro p
    show Prod.fst <$> (r.resolveShared r.program r.fuel p).run [] = r.resolve p
    rw [r.resolveShared_program r.fuel [] p, Functor.map_map]
    exact id_map _
  rw [Session.mapM_run (keeps r.program r.fuel) [] ps]
  simp only [fresh]

end Schemata
