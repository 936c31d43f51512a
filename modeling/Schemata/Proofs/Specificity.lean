import Schemata.Proofs.Providers

/-!
Rules bound to properties: the most specific, and invisible to type lookups.

A type lookup reads the rules through two scans only, for the first rule bound to exactly the
type and for the first rule bound to nothing, and a rule bound to a property matches neither.
So a type lookup, with the lookups it makes for the type inside a nullable type and for the
element of a collection, the events it reports and the handlers it makes, is the same for any
two rule lists whose rules not bound to properties are the same in the same order: rules bound
to properties may be removed, or inserted anywhere.

A property lookup answers with the first rule bound to a property of the same type that the
comparer finds the same, wherever it stands among the other rules, and otherwise looks up the
property's type. The type guard applies under every comparer, so a property of another type is
never answered, however the comparer matches it.
-/

namespace Schemata

/-- A scan for the first hit of `f` is the first element that `keep` selects, when `f` hits
exactly the elements `keep` selects. -/
theorem findSome?_eq_find?_map {α β : Type} {f : α → Option β} {keep : α → Bool} {g : α → β}
    (hits : ∀ x, f x = if keep x then some (g x) else none) :
    ∀ xs : List α, xs.findSome? f = (xs.find? keep).map g
  | [] => rfl
  | x :: rest => by
    rw [List.findSome?_cons, List.find?_cons, hits x]
    cases keep x <;> simp [findSome?_eq_find?_map hits rest]

namespace Rule

/-- Whether a rule is bound to a property. -/
def boundToProperty (r : Rule) : Bool :=
  match r.target with
  | .property _ => true
  | _ => false

/-- Whether a rule is bound to a property of `p`'s type that `comparer` finds the same as `p`. -/
def answersProperty (comparer : Comparer) (p : Property) (r : Rule) : Bool :=
  match r.target with
  | .property q => q.type == p.type && comparer.same q p
  | _ => false

/-- Whether a rule is bound to exactly the type `t`. -/
def boundToType (t : ValueType) (r : Rule) : Bool :=
  match r.target with
  | .type u => u == t
  | _ => false

/-- Whether a rule is bound to nothing. -/
def unbound (r : Rule) : Bool :=
  match r.target with
  | .untargeted => true
  | _ => false

theorem boundToProperty_of_answersProperty {comparer : Comparer} {p : Property} {r : Rule}
    (answers : r.answersProperty comparer p = true) : r.boundToProperty = true := by
  obtain ⟨target, handler, source⟩ := r
  cases target with
  | property q => rfl
  | type u => cases answers
  | untargeted => cases answers

theorem not_boundToProperty_of_boundToType {t : ValueType} {r : Rule}
    (bound : r.boundToType t = true) : r.boundToProperty = false := by
  obtain ⟨target, handler, source⟩ := r
  cases target with
  | property q => cases bound
  | type u => rfl
  | untargeted => cases bound

theorem not_boundToProperty_of_unbound {r : Rule} (bound : r.unbound = true) :
    r.boundToProperty = false := by
  obtain ⟨target, handler, source⟩ := r
  cases target with
  | property q => cases bound
  | type u => cases bound
  | untargeted => rfl

end Rule

namespace Provider

/-- The first rule in declaration order bound to a matching property of the same type answers
a property rule lookup. -/
theorem propertyRule?_eq_find (pv : Provider) (p : Property) :
    pv.propertyRule? p =
      (pv.rules.find? (Rule.answersProperty pv.config.comparer p)).map (·.handler) := by
  refine findSome?_eq_find?_map (fun r => ?_) pv.rules
  obtain ⟨target, handler, source⟩ := r
  cases target <;> simp [Rule.answersProperty]

/-- The first rule in declaration order bound to exactly the type answers a type rule lookup. -/
theorem typeRule?_eq_find (pv : Provider) (t : ValueType) :
    pv.typeRule? t = (pv.rules.find? (Rule.boundToType t)).map (·.handler) := by
  refine findSome?_eq_find?_map (fun r => ?_) pv.rules
  obtain ⟨target, handler, source⟩ := r
  cases target <;> simp [Rule.boundToType]

/-- The first rule in declaration order bound to nothing answers an untargeted lookup. -/
theorem untargetedRule?_eq_find (pv : Provider) :
    pv.untargetedRule? = (pv.rules.find? Rule.unbound).map (·.handler) := by
  refine findSome?_eq_find?_map (fun r => ?_) pv.rules
  obtain ⟨target, handler, source⟩ := r
  cases target <;> simp [Rule.unbound]

section Unbound

variable {rules rules' : List Rule} {fallbacks : Fallbacks} {config : ProviderConfig}

-- A scan for rules that are never bound to properties sees the same rules in a list and in the
-- list's rules not bound to properties.
theorem find?_unbound_part {keep : Rule → Bool}
    (unboundOnly : ∀ r, keep r = true → r.boundToProperty = false) (rules : List Rule) :
    rules.find? keep = (rules.filter (!·.boundToProperty)).find? keep := by
  rw [List.find?_filter]
  congr 1
  funext r
  cases kept : keep r with
  | false => simp
  | true => simp [unboundOnly r kept]

theorem typeRule?_of_unbound_part
    (same : rules.filter (!·.boundToProperty) = rules'.filter (!·.boundToProperty))
    (t : ValueType) :
    (Provider.mk rules fallbacks config).typeRule? t =
      (Provider.mk rules' fallbacks config).typeRule? t := by
  simp only [typeRule?_eq_find]
  rw [find?_unbound_part (fun _ => Rule.not_boundToProperty_of_boundToType) rules, same,
    ← find?_unbound_part (fun _ => Rule.not_boundToProperty_of_boundToType) rules']

theorem untargetedRule?_of_unbound_part
    (same : rules.filter (!·.boundToProperty) = rules'.filter (!·.boundToProperty)) :
    (Provider.mk rules fallbacks config).untargetedRule? =
      (Provider.mk rules' fallbacks config).untargetedRule? := by
  simp only [untargetedRule?_eq_find]
  rw [find?_unbound_part (fun _ => Rule.not_boundToProperty_of_unbound) rules, same,
    ← find?_unbound_part (fun _ => Rule.not_boundToProperty_of_unbound) rules']

theorem propertyRule?_of_bound_part
    (same : rules.filter (·.boundToProperty) = rules'.filter (·.boundToProperty))
    (p : Property) :
    (Provider.mk rules fallbacks config).propertyRule? p =
      (Provider.mk rules' fallbacks config).propertyRule? p := by
  have bound : ∀ rules : List Rule, rules.find? (Rule.answersProperty config.comparer p) =
      (rules.filter (·.boundToProperty)).find? (Rule.answersProperty config.comparer p) := by
    intro rules
    rw [List.find?_filter]
    congr 1
    funext r
    cases answers : r.answersProperty config.comparer p with
    | false => simp
    | true => simp [Rule.boundToProperty_of_answersProperty answers]
  simp only [propertyRule?_eq_find]
  rw [bound rules, same, ← bound rules']

end Unbound

/-- A type lookup reads nothing of the provider but its exact type rules, its untargeted rules,
its configuration and its fallbacks; by induction on the type, since a made parser wraps the
lookup of the type inside. -/
theorem ruleForType_congr {pv pv' : Provider} (sameConfig : pv.config = pv'.config)
    (sameFallbacks : pv.fallbacks = pv'.fallbacks)
    (sameType : ∀ t, pv.typeRule? t = pv'.typeRule? t)
    (sameUntargeted : pv.untargetedRule? = pv'.untargetedRule?) :
    ∀ t, pv.ruleForType t = pv'.ruleForType t := by
  intro t
  induction t with
  | nullable _ ih | collection _ _ ih =>
    rw [ruleForType, ruleForType, synthesizedRule.eq_def, synthesizedRule.eq_def]
    simp only [sameType, sameUntargeted, sameConfig, sameFallbacks, ih]
  | _ =>
    rw [ruleForType, ruleForType, synthesizedRule.eq_def, synthesizedRule.eq_def]
    simp only [sameType, sameUntargeted, sameConfig, sameFallbacks]

theorem ruleForProperty_result_find (pv : Provider) (p : Property) (j : Journal) :
    (pv.ruleForProperty p).result j =
      match pv.rules.find? (Rule.answersProperty pv.config.comparer p) with
      | some r => some r.handler
      | none => (pv.ruleForType p.type).result j := by
  rw [ruleForProperty_result, propertyRule?_eq_find]
  cases pv.rules.find? (Rule.answersProperty pv.config.comparer p) <;> rfl

/-- Property-bound rules are the most specific and never reach type lookups. A type lookup,
with every lookup nested in it, is the same for two rule lists with the same rules not bound to
properties in the same order. A property lookup is the same for two rule lists with the same
rules bound to properties and the same other rules, each in the same order, however the two
kinds are interleaved; it answers with the first rule bound to a property of the same type that
the comparer finds the same, else with the type lookup. The type lookup takes the first rule
bound to exactly the type, and the untargeted step the first rule bound to nothing. -/
theorem property_rules_stay_out_of_type_lookups :
    (∀ (rules rules' : List Rule) (fallbacks : Fallbacks) (config : ProviderConfig),
      rules.filter (!·.boundToProperty) = rules'.filter (!·.boundToProperty) → ∀ t,
        (Provider.mk rules fallbacks config).ruleForType t =
          (Provider.mk rules' fallbacks config).ruleForType t) ∧
    (∀ (rules rules' : List Rule) (fallbacks : Fallbacks) (config : ProviderConfig),
      rules.filter (·.boundToProperty) = rules'.filter (·.boundToProperty) →
      rules.filter (!·.boundToProperty) = rules'.filter (!·.boundToProperty) → ∀ p,
        (Provider.mk rules fallbacks config).ruleForProperty p =
          (Provider.mk rules' fallbacks config).ruleForProperty p) ∧
    (∀ (pv : Provider) (p : Property) (j : Journal),
      (pv.ruleForProperty p).result j =
        match pv.rules.find? (Rule.answersProperty pv.config.comparer p) with
        | some r => some r.handler
        | none => (pv.ruleForType p.type).result j) ∧
    (∀ (pv : Provider) (t : ValueType),
      pv.typeRule? t = (pv.rules.find? (Rule.boundToType t)).map (·.handler)) ∧
    (∀ pv : Provider, pv.untargetedRule? = (pv.rules.find? Rule.unbound).map (·.handler)) := by
  have types : ∀ (rules rules' : List Rule) (fallbacks : Fallbacks) (config : ProviderConfig),
      rules.filter (!·.boundToProperty) = rules'.filter (!·.boundToProperty) → ∀ t,
        (Provider.mk rules fallbacks config).ruleForType t =
          (Provider.mk rules' fallbacks config).ruleForType t :=
    fun _ _ _ _ same => ruleForType_congr rfl rfl (typeRule?_of_unbound_part same)
      (untargetedRule?_of_unbound_part same)
  refine ⟨types, fun rules rules' fallbacks config bound unbound p => ?_,
    ruleForProperty_result_find, typeRule?_eq_find, untargetedRule?_eq_find⟩
  rw [ruleForProperty, ruleForProperty, propertyRule?_of_bound_part bound,
    types rules rules' fallbacks config unbound]

-- An integer property with a rule of its own, declared after the rule for its type or before.
def ageProperty : Property := { id := 7, name := "Age", type := .int .i32 }

def typeRuleFirst : List Rule :=
  [{ target := .type (.int .i32), handler := ⟨0, .standard (.int .i32)⟩ },
   { target := .property ageProperty, handler := ⟨1, .constant (.int .i32) (.int .i32 30)⟩ }]

def propertyRuleFirst : List Rule := typeRuleFirst.reverse

theorem property_rule_wins_wherever_it_stands :
    typeRuleFirst.filter (·.boundToProperty) = propertyRuleFirst.filter (·.boundToProperty) ∧
    typeRuleFirst.filter (!·.boundToProperty) = propertyRuleFirst.filter (!·.boundToProperty) ∧
    (Provider.mk typeRuleFirst .parsers {}).ruleForProperty ageProperty =
      (Provider.mk propertyRuleFirst .parsers {}).ruleForProperty ageProperty ∧
    (Provider.mk typeRuleFirst .parsers {}).ruleForType (.nullable (.int .i32)) =
      (Provider.mk (typeRuleFirst.filter (!·.boundToProperty)) .parsers {}).ruleForType
        (.nullable (.int .i32)) := by
  have bound : typeRuleFirst.filter (·.boundToProperty) =
      propertyRuleFirst.filter (·.boundToProperty) := rfl
  have unbound : typeRuleFirst.filter (!·.boundToProperty) =
      propertyRuleFirst.filter (!·.boundToProperty) := rfl
  refine ⟨bound, unbound,
    property_rules_stay_out_of_type_lookups.2.1 _ _ _ _ bound unbound ageProperty,
    property_rules_stay_out_of_type_lookups.1 _ _ _ _ ?_ _⟩
  rfl

end Provider

end Schemata
