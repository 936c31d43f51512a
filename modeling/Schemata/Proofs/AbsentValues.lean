import Schemata.Proofs.SharedStack

/-!
Validation and the choice between "no value" and "not defined".

Resolution ends with nothing when no source answers, or with the "not defined" value when the
search options ask for it. A validation context turns nothing into that same "not defined"
value (`seenAs`), so every rule sees the same values whichever way the options choose; and a
calculator sees them the same way when it reads values as the driver's calculators do, or
through `get` (hence `value`), which cannot tell the two apart either.

Main statement: the validator's messages, and the events it reports, are the same for both
settings of `returnNotDefined`, for every rule and container; and for calculators of any
behaviour that read through `get`, resolution in a session gives outcomes that a validation
context sees alike, with the same stack and the same events.
-/

namespace Schemata

/-- What a validation context makes of the outcome of resolving `p`: no value is the "not
defined" value of `p`. -/
def seenAs (p : Property) : Except ResolveError (Option PropertyValue) →
    Except ResolveError PropertyValue
  | .ok (some v) => .ok v
  | .ok none => .ok (.notDefined p)
  | .error e => .error e

/-- What `get` makes of the outcome of resolving `p`: its value when it has one of `p`'s type. -/
def gotten (p : Property) : Except ResolveError (Option PropertyValue) →
    Except ResolveError (Option Value)
  | .ok (some v) => .ok (if v.hasValue && v.value.type == p.type then some v.value else none)
  | .ok none => .ok none
  | .error e => .error e

-- A continuation that treats no value as "not defined" goes on from what the context sees.
theorem bind_seenAs {m : Type → Type} [Monad m] [LawfulMonad m] {β : Type} {p : Property}
    {x x' : m (Except ResolveError (Option PropertyValue))} (same : seenAs p <$> x = seenAs p <$> x')
    {f : Except ResolveError (Option PropertyValue) → m β}
    (alike : f (.ok none) = f (.ok (some (.notDefined p)))) : x >>= f = x' >>= f := by
  obtain ⟨g, factors⟩ : ∃ g : Except ResolveError PropertyValue → m β, f = g ∘ seenAs p := by
    refine ⟨fun seen => match seen with
      | .ok v => f (.ok (some v))
      | .error e => f (.error e), funext fun outcome => ?_⟩
    rcases outcome with e | _ | v
    · rfl
    · exact alike
    · rfl
  calc x >>= f = (seenAs p <$> x) >>= g := by rw [factors, bind_map_left]; rfl
    _ = (seenAs p <$> x') >>= g := by rw [same]
    _ = x' >>= f := by rw [factors, bind_map_left]; rfl

namespace Resolver

/-- The same resolver, answering a miss with "not defined" exactly when `flag` is set. -/
def withReturnNotDefined (r : Resolver) (flag : Bool) : Resolver :=
  { r with options := { r.options with returnNotDefined := flag } }

theorem get_eq_map (r : Resolver) (p : Property) : r.get p = gotten p <$> r.resolve p := by
  rw [get, map_eq_pure_bind]
  refine congrArg _ (funext fun outcome => ?_)
  rcases outcome with e | _ | v <;> rfl

end Resolver

namespace Calculation

/-- A calculation that cannot tell a property with no value from one resolved to "not
defined": after each read it goes on alike for the two. -/
def Blind : Calculation → Prop
  | .finish _ => True
  | .resolve q next => next (.ok none) = next (.ok (some (.notDefined q))) ∧ ∀ outcome, (next outcome).Blind

/-- A calculation that reads each property through `get`: after each read it goes on from what
`get` makes of the outcome. -/
def ReadsThroughGet : Calculation → Prop
  | .finish _ => True
  | .resolve q next =>
    (∃ k : Except ResolveError (Option Value) → Calculation, next = fun outcome => k (gotten q outcome)) ∧
      ∀ outcome, (next outcome).ReadsThroughGet

-- `get` sees no value in "not defined".
theorem ReadsThroughGet.blind : ∀ c : Calculation, c.ReadsThroughGet → c.Blind
  | .finish _, _ => trivial
  | .resolve q next, ⟨⟨k, factors⟩, each⟩ => by
    refine ⟨?_, fun outcome => blind (next outcome) (each outcome)⟩
    rw [factors]
    rfl

/-- Reads `q` as `Resolver.value` does: its value through `get`, or its type's zero. -/
def valueOf (q : Property) : Calculation :=
  .resolve q fun outcome => .finish ((gotten q outcome).map fun found => found.getD q.type.zero)

theorem valueOf_readsThroughGet (q : Property) : (valueOf q).ReadsThroughGet :=
  ⟨⟨fun got => .finish (got.map fun found => found.getD q.type.zero), rfl⟩, fun _ => trivial⟩

-- The driver's calculators read the type's zero for both.
theorem readAll_blind : ∀ (qs : List Property) (k : List (Property × Value) → Calculation),
    (∀ values, (k values).Blind) → (readAll qs k).Blind
  | [], k, done => done []
  | q :: rest, k, done => by
    refine ⟨rfl, fun outcome => ?_⟩
    cases outcome with
    | error e => trivial
    | ok found => exact readAll_blind rest _ fun more => done _

/-- Two ways of resolving reads that a validation context sees alike, with the same stack and
the same events. -/
def SeenAlike (resolveQ resolveQ' : Property → Resolution) : Prop :=
  ∀ q, seenAs q <$> resolveQ q = seenAs q <$> resolveQ' q

-- By induction on the calculation: each read's outcomes differ at most where it is blind.
theorem Blind.run_eq {resolveQ resolveQ' : Property → Resolution} (alike : SeenAlike resolveQ resolveQ') :
    ∀ c : Calculation, c.Blind → c.run resolveQ = c.run resolveQ'
  | .finish _, _ => rfl
  | .resolve q next, ⟨blindHere, each⟩ => by
    have later : (fun outcome => (next outcome).run resolveQ) =
        fun outcome => (next outcome).run resolveQ' :=
      funext fun outcome => Blind.run_eq alike (next outcome) (each outcome)
    simp only [run]
    rw [later]
    exact bind_seenAs (alike q) (congrArg (run resolveQ') blindHere)

end Calculation

namespace Resolver

theorem program_blind (r : Resolver) (p : Property) (c : Calculator) : (r.program p c).Blind :=
  Calculation.readAll_blind _ _ fun _ => trivial

section Flag

variable (r : Resolver) (flag : Bool) (behaviour : Property → Calculator → Calculation)

-- The driver's calculators read only the catalog, which the flag leaves alone.
theorem concatText_withReturnNotDefined : ∀ parts values,
    (r.withReturnNotDefined flag).concatText parts values = r.concatText parts values
  | [], _ => rfl
  | .literal s :: rest, values => by
    rw [concatText, concatText, concatText_withReturnNotDefined rest]
  | .ref id :: rest, values => by
    simp only [concatText, concatText_withReturnNotDefined rest]
    rfl

theorem combine_withReturnNotDefined (p : Property) (c : Calculator)
    (values : List (Property × Value)) :
    (r.withReturnNotDefined flag).combine p c values = r.combine p c values := by
  cases c with
  | concat parts => rw [combine, combine, concatText_withReturnNotDefined]
  | _ => cases values <;> rfl

theorem program_withReturnNotDefined : (r.withReturnNotDefined flag).program = r.program := by
  funext p c
  simp only [program, combine_withReturnNotDefined]
  cases c <;> rfl

-- Only the last source reads the flag, and a validation context sees its two answers alike.
theorem resolveSharedWith_withReturnNotDefined {deeper deeper' : Option (Property → Resolution)}
    (p : Property)
    (calculation : ∀ c, calculateShared behaviour deeper' p c = calculateShared behaviour deeper p c) :
    seenAs p <$> (r.withReturnNotDefined flag).resolveSharedWith behaviour deeper' p =
      seenAs p <$> r.resolveSharedWith behaviour deeper p := by
  simp only [resolveSharedWith, calculation]
  -- every other field is the same; `rw` replaces each one everywhere, decisions included
  rw [show (r.withReturnNotDefined flag).container = r.container from rfl,
    show (r.withReturnNotDefined flag).options.comparer = r.options.comparer from rfl,
    show (r.withReturnNotDefined flag).options.searchInParent = r.options.searchInParent from rfl,
    show (r.withReturnNotDefined flag).options.calculateValue = r.options.calculateValue from rfl,
    show (r.withReturnNotDefined flag).options.useDefaultValue = r.options.useDefaultValue from rfl,
    show (r.withReturnNotDefined flag).options.returnNotDefined = flag from rfl]
  cases r.container.find? p r.options.comparer with
  | some v => rfl
  | none =>
    simp only
    cases (if r.options.searchInParent then
        r.container.ancestors.findSome? (·.find? p r.options.comparer) else none) with
    | some v => rfl
    | none =>
      simp only
      cases (if r.options.calculateValue then calculatorOf? p else none) with
      | some c => rfl
      | none =>
        simp only
        cases (if r.options.useDefaultValue then defaultOf? p else none) with
        | some v => rfl
        | none => cases flag <;> cases r.options.returnNotDefined <;> rfl

theorem calculateShared_seenAlike {resolveQ resolveQ' : Property → Resolution}
    (blind : ∀ p c, (behaviour p c).Blind) (alike : Calculation.SeenAlike resolveQ resolveQ')
    (p : Property) (c : Calculator) :
    calculateShared behaviour (some resolveQ) p c = calculateShared behaviour (some resolveQ') p c := by
  simp only [calculateShared, Calculation.Blind.run_eq alike (behaviour p c) (blind p c)]

/-- With blind calculators, resolution in a session with either setting of the flag gives
outcomes a validation context sees alike, at every depth: the recursion is on the depth, each
level reading through the one below. -/
theorem resolveShared_withReturnNotDefined (blind : ∀ p c, (behaviour p c).Blind) :
    ∀ depth, Calculation.SeenAlike ((r.withReturnNotDefined flag).resolveShared behaviour depth)
      (r.resolveShared behaviour depth)
  | 0 => fun p => resolveSharedWith_withReturnNotDefined r flag behaviour p fun _ => rfl
  | depth + 1 => fun p => resolveSharedWith_withReturnNotDefined r flag behaviour p fun c =>
      calculateShared_seenAlike behaviour blind
        (resolveShared_withReturnNotDefined blind depth) p c

-- The driver's resolution is the session's with its own calculators, started on no stack.
theorem resolve_withReturnNotDefined (p : Property) :
    seenAs p <$> (r.withReturnNotDefined flag).resolve p = seenAs p <$> r.resolve p := by
  have fromSession : ∀ r : Resolver, seenAs p <$> r.resolve p =
      Prod.fst <$> (seenAs p <$> r.resolveShared r.program r.fuel p).run [] := by
    intro r
    rw [StateT.run_map, resolveShared_program, Functor.map_map, Functor.map_map]
    rfl
  rw [fromSession, fromSession, program_withReturnNotDefined,
    show (r.withReturnNotDefined flag).fuel = r.fuel from rfl]
  exact congrArg (fun x => Prod.fst <$> x.run [])
    (resolveShared_withReturnNotDefined r flag r.program (program_blind r) r.fuel p)

end Flag

end Resolver

-- `value` reads no value as "not defined" itself.
theorem ValidationContext.value_withReturnNotDefined (cx : ValidationContext) (flag : Bool)
    (p : Property) :
    ({ cx with resolver := cx.resolver.withReturnNotDefined flag } : ValidationContext).value p =
      cx.value p := by
  unfold value
  exact bind_seenAs (cx.resolver.resolve_withReturnNotDefined flag p) rfl

-- Rules read the container only through `value`, and write values only through the formatter.
theorem ValidationRule.validate_congr {cx cx' : ValidationContext}
    (values : ∀ p, cx.value p = cx'.value p) (formatter : cx.formatter = cx'.formatter)
    (rule : ValidationRule) : validate cx rule = validate cx' rule := by
  induction rule with
  | notNull p => simp only [validate, values]
  | notDefault p => simp only [validate, values, ValidationContext.formatted, formatter]
  | predicate p test => simp only [validate, values, ValidationContext.formatted, formatter]
  | length p bounds => simp only [validate, values, ValidationContext.formatted, formatter]
  | allowed p allowedValues => simp only [validate, values, ValidationContext.formatted, formatter]
  | range p interval => simp only [validate, values, ValidationContext.formatted, formatter]
  | both first last breakOnFirstError firstSame lastSame =>
    simp only [validate, firstSame, lastSame]
  | either first last firstSame lastSame => simp only [validate, firstSame, lastSame]
  | customized inner template severity innerSame => simp only [validate, innerSame]

namespace Validator

variable (v : Validator) (flag : Bool) (container : Container) (catalog : List (String × Property))

theorem context_values_withReturnNotDefined (p : Property) :
    (({ v with options := { v.options with returnNotDefined := flag } } : Validator).context
      container catalog).value p = (v.context container catalog).value p :=
  (v.context container catalog).value_withReturnNotDefined flag p

theorem validateRule_withReturnNotDefined (rule : ValidationRule) :
    ({ v with options := { v.options with returnNotDefined := flag } } : Validator).validateRule
      container catalog rule = v.validateRule container catalog rule := by
  rw [validateRule, validateRule,
    ValidationRule.validate_congr (context_values_withReturnNotDefined v flag container catalog) rfl]

theorem validate_withReturnNotDefined (rules : List ValidationRule) :
    ({ v with options := { v.options with returnNotDefined := flag } } : Validator).validate
      container catalog rules = v.validate container catalog rules := by
  simp only [validate,
    ValidationRule.validate_congr (context_values_withReturnNotDefined v flag container catalog) rfl]

end Validator

/-- Validation does not see `returnNotDefined`: flipping it leaves every rule's messages and
events, and the whole validator's, as they are; and calculators of any behaviour that read through
`get` resolve, in a session with either setting, to outcomes a validation context sees alike. -/
theorem validation_ignores_return_not_defined :
    (∀ (v : Validator) (o : SearchOptions) (container : Container)
      (catalog : List (String × Property)) (rule : ValidationRule),
      ({ v with options := { o with returnNotDefined := !o.returnNotDefined } } : Validator).validateRule
        container catalog rule = ({ v with options := o } : Validator).validateRule container catalog rule) ∧
    (∀ (v : Validator) (o : SearchOptions) (container : Container)
      (catalog : List (String × Property)) (rules : List ValidationRule),
      ({ v with options := { o with returnNotDefined := !o.returnNotDefined } } : Validator).validate
        container catalog rules = ({ v with options := o } : Validator).validate container catalog rules) ∧
    (∀ (r : Resolver) (flag : Bool) (behaviour : Property → Calculator → Calculation),
      (∀ p c, (behaviour p c).ReadsThroughGet) → ∀ depth,
        Calculation.SeenAlike ((r.withReturnNotDefined flag).resolveShared behaviour depth)
          (r.resolveShared behaviour depth)) := by
  refine ⟨fun v o container catalog rule => ?_, fun v o container catalog rules => ?_,
    fun r flag behaviour reads => ?_⟩
  · exact Validator.validateRule_withReturnNotDefined { v with options := o } _ container catalog rule
  · exact Validator.validate_withReturnNotDefined { v with options := o } _ container catalog rules
  · exact Resolver.resolveShared_withReturnNotDefined r flag behaviour
      fun p c => (reads p c).blind

/-- A calculator that reads its own property as `Resolver.value` does, on an empty container,
resolves to outcomes seen alike with the flag set and unset. -/
theorem reading_through_get_sees_alike :
    Calculation.SeenAlike
      (({ container := {}, options := .standard, catalog := [] } : Resolver).withReturnNotDefined true
        |>.resolveShared (fun p _ => .valueOf p) 2)
      (({ container := {}, options := .standard, catalog := [] } : Resolver).resolveShared
        (fun p _ => .valueOf p) 2) :=
  validation_ignores_return_not_defined.2.2 _ true _ (fun p _ => Calculation.valueOf_readsThroughGet p) 2

end Schemata
