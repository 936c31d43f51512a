import Schemata.Proofs.Combinators

/-!
Constraint rules on absent values and on `None`.

A rule reads its property's value, a resolution that finds nothing standing for the "not
defined" value. When that value is absent (not defined, or nothing at all), the length,
allowed-values, range and predicate rules report nothing. A defined `None` of a nullable type is
another matter: the length and range rules find no text and no number in it and pass, but the
allowed-values rule and the predicate only ask whether the value is defined. So the allowed
values pass a `None` only when their list holds it, and a predicate only when it accepts `null`
(or the value is not of the property's type).
-/

namespace Schemata

open Traced

theorem ValidationContext.value_of_resolved {cx : ValidationContext} {p : Property} {j : Journal}
    {found : Option PropertyValue} (resolved : (cx.resolver.resolve p).result j = .ok found) :
    (cx.value p).result j = .ok (found.getD (.notDefined p)) := by
  rw [ValidationContext.value, result_bind, resolved]
  cases found <;> rfl

namespace ValidationRule

-- A rule's messages unfold by simp once its constructor is known.
attribute [local simp] validate

section Read

variable {cx : ValidationContext} {p : Property} {j : Journal} {v : PropertyValue}

-- A `None` holds neither a text nor a number, whatever type reads it.
theorem textLength_none (t inner : ValueType) : t.textLength (.nullable inner none) = none := by
  cases t <;> simp [ValueType.textLength, ValueType.kind, ValueType.admits, Value.type]

theorem toF64_none (t inner : ValueType) : t.toF64 (.nullable inner none) = none := by
  cases t <;> simp [ValueType.toF64, ValueType.kind, ValueType.admits, Value.type]

section Absent

variable (valued : (cx.value p).result j = .ok v) (absent : v.hasValue = false)
include valued absent

theorem length_absent (bounds : StringLength) : (validate cx (.length p bounds)).result j = [] := by
  simp [valued, PropertyValue.isPresent, absent]

theorem allowed_absent (values : AllowedValues) :
    (validate cx (.allowed p values)).result j = [] := by
  simp [valued, absent]

theorem range_absent (interval : NumericInterval) :
    (validate cx (.range p interval)).result j = [] := by
  simp [valued, absent]

theorem predicate_absent (test : ValueTest) : (validate cx (.predicate p test)).result j = [] := by
  simp [valued, absent]

end Absent

section DefinedNone

variable {inner : ValueType} (valued : (cx.value p).result j = .ok v)
  (isNone : v.value = .nullable inner none)
include valued isNone

theorem length_none (bounds : StringLength) : (validate cx (.length p bounds)).result j = [] := by
  by_cases present : v.isPresent
  · simp [valued, present, isNone, textLength_none]
  · simp [valued, present]

variable (defined : v.hasValue = true)
include defined

theorem range_none (interval : NumericInterval) :
    (validate cx (.range p interval)).result j = [] := by
  simp [valued, defined, isNone, toF64_none]

-- Only definedness is asked, so the `None` is looked up in the list.
theorem allowed_none_iff (values : AllowedValues) :
    (validate cx (.allowed p values)).result j = [] ↔
      values.contains (.nullable inner none) p.type = true := by
  by_cases listed : values.contains (.nullable inner none) p.type <;>
    simp [valued, defined, isNone, listed]

-- Likewise the test is handed the `None`, as `null`.
theorem predicate_none_iff (test : ValueTest) :
    (validate cx (.predicate p test)).result j = [] ↔
      ValueType.nullable inner ≠ p.type ∨ test.holds (Value.nullable inner none).toJson = true := by
  by_cases typed : ValueType.nullable inner = p.type <;>
    by_cases accepted : test.holds (Value.nullable inner none).toJson <;>
    simp [valued, defined, isNone, typed, accepted, Value.type]

end DefinedNone

end Read

/-- Constraint rules pass absent values, and a defined `None` only in part. When a property
resolves without error to an absent value, its length, allowed-values, range and predicate rules
report nothing. When it resolves to a defined `None` of a nullable type, its length and range
rules report nothing, its allowed-values rule reports nothing exactly when the `None` is listed,
and its predicate exactly when the `None` is not of the property's type or the test accepts
`null`. -/
theorem constraint_rules_on_absent_and_none {cx : ValidationContext} {p : Property} {j : Journal}
    {found : Option PropertyValue} (resolved : (cx.resolver.resolve p).result j = .ok found) :
    ((found.getD (.notDefined p)).hasValue = false →
      (∀ bounds, (validate cx (.length p bounds)).result j = []) ∧
      (∀ values, (validate cx (.allowed p values)).result j = []) ∧
      (∀ interval, (validate cx (.range p interval)).result j = []) ∧
      (∀ test, (validate cx (.predicate p test)).result j = [])) ∧
    (∀ inner, (found.getD (.notDefined p)).hasValue = true →
      (found.getD (.notDefined p)).value = .nullable inner none →
      (∀ bounds, (validate cx (.length p bounds)).result j = []) ∧
      (∀ interval, (validate cx (.range p interval)).result j = []) ∧
      (∀ values, (validate cx (.allowed p values)).result j = [] ↔
        values.contains (.nullable inner none) p.type = true) ∧
      (∀ test, (validate cx (.predicate p test)).result j = [] ↔
        ValueType.nullable inner ≠ p.type ∨
          test.holds (Value.nullable inner none).toJson = true)) := by
  have valued := ValidationContext.value_of_resolved resolved
  refine ⟨fun absent => ?_, fun inner defined isNone => ?_⟩
  · exact ⟨length_absent valued absent, allowed_absent valued absent, range_absent valued absent,
      predicate_absent valued absent⟩
  · exact ⟨length_none valued isNone, range_none valued isNone defined,
      allowed_none_iff valued isNone defined, predicate_none_iff valued isNone defined⟩

-- `P : Option<i32>` is set to `None` in a container; its allowed values are 1 and 2.
def optionalP : Property := { id := 0, name := "P", type := .nullable (.int .i32) }

def definedNone : PropertyValue := ⟨optionalP, .nullable (.int .i32) none, .defined⟩

def noneContext : ValidationContext :=
  { resolver := { container := { values := [definedNone] }, options := .standard,
                  catalog := [("p", optionalP)] } }

def oneOrTwo : AllowedValues :=
  ⟨[.nullable (.int .i32) (some (.int .i32 1)), .nullable (.int .i32) (some (.int .i32 2))]⟩

-- The range rule passes the `None`, the allowed values report it.
theorem defined_none_fails_allowed_values :
    (noneContext.resolver.resolve optionalP).result {} = .ok (some definedNone) ∧
    (validate noneContext (.range optionalP { minimum := some (.ofInt 1) })).result {} = [] ∧
    (validate noneContext (.allowed optionalP oneOrTwo)).result {} ≠ [] := by
  have resolved : (noneContext.resolver.resolve optionalP).result {} = .ok (some definedNone) :=
    Resolver.resolveWith_stored rfl
  obtain ⟨-, inRange, allowed, -⟩ :=
    (constraint_rules_on_absent_and_none resolved).2 (.int .i32) rfl rfl
  refine ⟨resolved, inRange _, fun passes => ?_⟩
  have listed := (allowed oneOrTwo).mp passes
  exact absurd listed (by decide)

end ValidationRule

end Schemata
