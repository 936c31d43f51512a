import Schemata.Proofs.Providers

/-!
Which types a provider of the standard rules can read.

Take the standard rules with parser fallbacks and any configuration. The rules bind the
scalars and text, each to its standard parser, and nothing else; the fallbacks build parsers
for the other types out of the parsers found for the types inside. `Parseable` is the least set
of types that this can reach, one constructor per way the provider can answer.

Main statement: a type lookup finds a parser exactly for the types of `Parseable`, from any
journal. So a nullable enumeration has no parser when the enumeration fallback is off, even with
nullable fallbacks on, and a wrapper type without a standard parser never has one.
-/

namespace Schemata.Provider

open Traced

/-- The types the standard rules with parser fallbacks read under `config`: the scalars and
text, which the standard rules read; an enumeration and a nullable enumeration, when the
enumeration fallback is on; a nullable type around a readable type, when the nullable fallback
is on; a collection of a readable type, when the collection fallback is on. -/
inductive Parseable (config : ProviderConfig) : ValueType → Prop where
  | bool : Parseable config .bool
  | char : Parseable config .char
  | int (it : IntType) : Parseable config (.int it)
  | float (ft : FloatType) : Parseable config (.float ft)
  | text : Parseable config .text
  | enum (e : EnumType) : config.enumFallback = true → Parseable config (.enum e)
  | nullableEnum (e : EnumType) : config.enumFallback = true →
      Parseable config (.nullable (.enum e))
  | nullable {inner : ValueType} : config.nullableFallback = true → Parseable config inner →
      Parseable config (.nullable inner)
  | collection (shape : CollectionShape) {element : ValueType} :
      config.collectionFallback = true → Parseable config element →
      Parseable config (.collection shape element)

/-- The provider of the standard rules made from journal `j`, with parser fallbacks. -/
def standardWith (j : Journal) (config : ProviderConfig) : Provider :=
  { rules := standardRules.result j, fallbacks := .parsers, config }

section Parseable

variable {config : ProviderConfig}

theorem mem_standardTypes {t : ValueType} : t ∈ standardTypes ↔ hasStandardReading t = true := by
  cases t with
  | int it => cases it <;> decide
  | float ft => cases ft <;> decide
  | _ => simp [standardTypes, hasStandardReading]

theorem parseable_of_standard {t : ValueType} (standard : hasStandardReading t = true) :
    Parseable config t := by
  cases t <;> simp only [hasStandardReading, Bool.false_eq_true] at standard
  · exact .bool
  · exact .char
  · exact .int _
  · exact .float _
  · exact .text

-- Each kind of type is reached by its own constructors only.
theorem parseable_enum_iff (e : EnumType) :
    Parseable config (.enum e) ↔ config.enumFallback = true := by
  constructor
  · intro readable
    cases readable with
    | enum _ on => exact on
  · exact .enum e

theorem parseable_nullable_iff (inner : ValueType) :
    Parseable config (.nullable inner) ↔
      (config.enumFallback = true ∧ inner.isEnum = true) ∨
        (config.nullableFallback = true ∧ Parseable config inner) := by
  constructor
  · intro readable
    cases readable with
    | nullableEnum e on => exact .inl ⟨on, rfl⟩
    | nullable on inside => exact .inr ⟨on, inside⟩
  · rintro (⟨on, enumInner⟩ | ⟨on, inside⟩)
    · cases inner <;> simp [ValueType.isEnum, ValueType.kind] at enumInner
      exact .nullableEnum _ on
    · exact .nullable on inside

theorem parseable_collection_iff (shape : CollectionShape) (element : ValueType) :
    Parseable config (.collection shape element) ↔
      config.collectionFallback = true ∧ Parseable config element := by
  constructor
  · intro readable
    cases readable with
    | collection _ on inside => exact ⟨on, inside⟩
  · exact fun ⟨on, inside⟩ => .collection shape on inside

-- The remaining types are read by the standard rules or not at all.
theorem parseable_iff_standard {t : ValueType} (notEnum : ∀ e, t ≠ .enum e)
    (notNullable : ∀ inner, t ≠ .nullable inner)
    (notCollection : ∀ shape element, t ≠ .collection shape element) :
    Parseable config t ↔ hasStandardReading t = true := by
  refine ⟨fun readable => ?_, parseable_of_standard⟩
  cases readable <;> simp_all [hasStandardReading]

end Parseable

section Standard

variable {j : Journal} {config : ProviderConfig}

theorem targets_standardRules (j : Journal) :
    (standardRules.result j).map (·.target) = standardTypes.map .type := by
  unfold standardRules
  generalize standardTypes = types
  induction types generalizing j with
  | nil => rfl
  | cons t rest ih =>
    simp only [List.mapM_cons, result_bind, result_pure, result_freshObject, List.map_cons]
    rw [ih]

@[simp] theorem standardWith_fallbacks : (standardWith j config).fallbacks = .parsers := rfl

@[simp] theorem standardWith_config : (standardWith j config).config = config := rfl

theorem standardWith_rules : (standardWith j config).rules = standardRules.result j := rfl

-- A provider has an exact rule for a type when one of its rules is bound to that type.
theorem typeRule?_isSome_iff (pv : Provider) (t : ValueType) :
    (pv.typeRule? t).isSome ↔ RuleTarget.type t ∈ pv.rules.map (·.target) := by
  rw [typeRule?, List.findSome?_isSome_iff, List.mem_map]
  constructor
  · rintro ⟨r, member, hit⟩
    refine ⟨r, member, ?_⟩
    split at hit
    · rename_i u bound
      split at hit
      · rename_i same
        rw [bound, eq_of_beq same]
      · cases hit
    · cases hit
  · rintro ⟨r, member, bound⟩
    exact ⟨r, member, by rw [bound]; simp⟩

theorem typeRule?_isSome_standard (j : Journal) (config : ProviderConfig) (t : ValueType) :
    ((standardWith j config).typeRule? t).isSome = hasStandardReading t := by
  rw [Bool.eq_iff_iff, typeRule?_isSome_iff, ← mem_standardTypes]
  rw [standardWith_rules, targets_standardRules j, List.mem_map]
  constructor
  · rintro ⟨u, member, same⟩
    cases same
    exact member
  · exact fun member => ⟨t, member, rfl⟩

theorem untargetedRule?_standard : (standardWith j config).untargetedRule? = none := by
  apply List.findSome?_eq_none_iff.mpr
  intro r member
  rw [standardWith_rules] at member
  obtain ⟨t, object, rfl⟩ := mem_standardRules member
  rfl

theorem typeRule?_standard_eq_none {t : ValueType} (unread : hasStandardReading t = false) :
    (standardWith j config).typeRule? t = none := by
  have typed := typeRule?_isSome_standard j config t
  rw [unread] at typed
  exact Option.not_isSome_iff_eq_none.mp (by simp [typed])

theorem originForType_isSome_iff_parseable (t : ValueType) :
    ((standardWith j config).originForType t).isSome ↔ Parseable config t := by
  -- on the structure of the type, as the fallbacks build parsers from the types inside
  induction t with
  | enum e =>
    rw [parseable_enum_iff]
    simp [originForType, typeRule?_standard_eq_none (t := .enum e) rfl, untargetedRule?_standard]
  | nullable inner ih =>
    rw [parseable_nullable_iff, ← ih]
    simp [originForType, typeRule?_standard_eq_none (t := .nullable inner) rfl,
      untargetedRule?_standard, enumInner_eq]
    split_ifs <;> simp_all [Option.isSome_bind, Option.any_true]
  | collection shape element ih =>
    rw [parseable_collection_iff, ← ih]
    cases on : config.collectionFallback <;>
      simp [originForType, typeRule?_standard_eq_none (t := .collection shape element) rfl,
        untargetedRule?_standard, on, Option.isSome_bind, Option.any_true]
  | _ =>
    rw [parseable_iff_standard (by simp) (by simp) (by simp),
      ← typeRule?_isSome_standard j config]
    simp [originForType, untargetedRule?_standard]

end Standard

theorem ruleForType_isSome (pv : Provider) (t : ValueType) (j : Journal) :
    ((pv.ruleForType t).result j).isSome = (pv.originForType t).isSome := by
  have related := ruleForType_gives pv t j
  revert related
  generalize pv.originForType t = origin
  generalize (pv.ruleForType t).result j = found
  intro related
  cases related <;> rfl

/-- A type lookup in the standard rules with parser fallbacks finds a parser exactly for the
readable types, from any journal and under any configuration. In particular a nullable
enumeration has none while the enumeration fallback is off, and neither has a type of kind
`Other` nor a number or text type that the standard rules do not read. -/
theorem standard_rules_read_exactly_parseable :
    (∀ j j' config t,
      (((standardWith j config).ruleForType t).result j').isSome ↔ Parseable config t) ∧
    (∀ j j' config e, config.enumFallback = false →
      ((standardWith j config).ruleForType (.nullable (.enum e))).result j' = none) ∧
    (∀ j j' config t,
      t.kind = .other ∨ ((t.kind = .number ∨ t.kind = .text) ∧ t ∉ standardTypes) →
      ((standardWith j config).ruleForType t).result j' = none) := by
  have exactly : ∀ j j' config t,
      (((standardWith j config).ruleForType t).result j').isSome ↔ Parseable config t := by
    intro j j' config t
    rw [ruleForType_isSome]
    exact originForType_isSome_iff_parseable t
  refine ⟨exactly, ?_, ?_⟩
  · intro j j' config e off
    apply Option.not_isSome_iff_eq_none.mp
    rw [exactly, parseable_nullable_iff, parseable_enum_iff]
    simp [off]
  · intro j j' config t unread
    apply Option.not_isSome_iff_eq_none.mp
    rw [exactly]
    intro readable
    cases readable <;> simp_all [ValueType.kind, mem_standardTypes, hasStandardReading]

-- Without the enumeration fallback, `Option<Color>` has no parser although nullable types do.
theorem nullable_color_needs_enum_fallback :
    ({ enumFallback := false } : ProviderConfig).enumFallback = false ∧
    ({ enumFallback := false } : ProviderConfig).nullableFallback = true ∧
    ((standardWith {} { enumFallback := false }).ruleForType (.nullable (.enum .color))).result {} =
      none :=
  ⟨rfl, rfl, standard_rules_read_exactly_parseable.2.1 {} {} _ .color rfl⟩

end Schemata.Provider
