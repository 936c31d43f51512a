import Schemata.Validation.Synthesizer
import Schemata.Proofs.SharedStack
import Schemata.Proofs.Positions

/-!
Rules synthesized from the metadata of declared properties.

A property is declared without metadata, built from a builder, or copied with one more piece
of metadata; a configured value is attached the same way. Each piece passed the check of the
property's name and type when it was attached, and attaching never changes the name or the
type. The rule constructors the synthesizer calls repeat that very check, so no constraint of a
declared property fails to give its rules, the warning for an ill-typed constraint is never
reported, and the rules are those `Synthesizer.entryRules` gives, entry by entry.
-/

namespace Schemata

namespace Traced

variable {α β : Type} {P : Event → Prop}

/-- The computation keeps the events it finds and appends only events that satisfy `P`. -/
def AddsOnly (P : Event → Prop) (x : Traced α) : Prop :=
  ∀ j, ∃ added : List Event,
    (x.after j).events.toList = j.events.toList ++ added ∧ ∀ ev ∈ added, P ev

theorem addsOnly_pure (a : α) : (pure a : Traced α).AddsOnly P :=
  fun _ => ⟨[], by simp, by simp⟩

theorem after_emit (level : Level) (target message : String) (fields : List (String × String))
    (j : Journal) :
    (emit level target message fields).after j =
      { j with events := j.events.push ⟨level, target, message, fields⟩ } := rfl

theorem addsOnly_emit {level : Level} {target message : String} {fields : List (String × String)}
    (holds : P ⟨level, target, message, fields⟩) :
    (emit level target message fields).AddsOnly P :=
  fun j => ⟨[⟨level, target, message, fields⟩], by simp [after_emit], by simpa using holds⟩

theorem AddsOnly.bind {x : Traced α} {f : α → Traced β} (first : x.AddsOnly P)
    (rest : ∀ a, (f a).AddsOnly P) : (x >>= f).AddsOnly P := by
  intro j
  obtain ⟨added, events, holds⟩ := first j
  obtain ⟨more, moreEvents, moreHolds⟩ := rest (x.result j) (x.after j)
  refine ⟨added ++ more, ?_, ?_⟩
  · rw [after_bind, moreEvents, events, List.append_assoc]
  · intro ev member
    rcases List.mem_append.mp member with early | late
    · exact holds ev early
    · exact moreHolds ev late

theorem AddsOnly.map {x : Traced α} (f : α → β) (adds : x.AddsOnly P) :
    (f <$> x).AddsOnly P := by
  intro j
  simpa using adds j

-- The loops of the library gather lists step by step; a step that appends only such events
-- leaves a loop that does too.
theorem addsOnly_foldlM_append {f : α → Traced (List β)} :
    ∀ (xs : List α), (∀ a ∈ xs, (f a).AddsOnly P) →
      ∀ acc : List β, (xs.foldlM (fun b a => (b ++ ·) <$> f a) acc).AddsOnly P
  | [], _, acc => addsOnly_pure acc
  | a :: rest, each, acc => by
    rw [List.foldlM_cons]
    exact ((each a List.mem_cons_self).map _).bind fun more =>
      addsOnly_foldlM_append rest (fun b member => each b (List.mem_cons_of_mem a member)) more

end Traced

namespace MetadataStore

/-- Every entry passes the check made when metadata is attached to a property of the given
name and type. -/
def Checked (s : MetadataStore) (name : String) (t : ValueType) : Prop :=
  ∀ e ∈ s.entries, e.value.check name t = .ok ()

theorem checked_empty (name : String) (t : ValueType) : ({} : MetadataStore).Checked name t :=
  fun _ member => nomatch member

-- Setting replaces the value of the first entry of the key in place, or appends an entry.
theorem Checked.put {s : MetadataStore} {name : String} {t : ValueType} (checked : s.Checked name t)
    {m : Metadata} (passes : m.check name t = .ok ()) (key : Option String) :
    (s.put key m).1.Checked name t := by
  intro e member
  unfold MetadataStore.put at member
  cases found : s.position m.kind key with
  | none =>
    rw [found] at member
    rcases List.mem_append.mp member with kept | added
    · exact checked e kept
    · rw [List.mem_singleton.mp added]
      exact passes
  | some i =>
    obtain ⟨pre, d, post, split, rfl, -, -⟩ := findIdx?_eq_some_split found
    rw [found] at member
    dsimp only at member
    rw [split, modify_split] at member
    simp only [List.mem_append, List.mem_cons] at member
    rcases member with inPre | rfl | inPost
    · exact checked e (by simp [split, inPre])
    · exact passes
    · exact checked e (by simp [split, inPost])

end MetadataStore

namespace PropertyBuilder

/-- Builders as a declaration makes them: started from a name, an alias and a type, then given
an alias or a piece of metadata at a time. -/
inductive Reachable : PropertyBuilder → Prop
  | start (name : String) (aliasName : Option String) (type : ValueType) :
      Reachable { name, aliasName, type }
  | rename {b : PropertyBuilder} (aliasName : String) :
      Reachable b → Reachable { b with aliasName := some aliasName }
  | attach {b : PropertyBuilder} (key : Option String) (m : Metadata) :
      Reachable b → Reachable (b.attach key m)

-- A builder that has failed a check keeps its metadata as it was.
theorem Reachable.checked {b : PropertyBuilder} (reachable : b.Reachable) :
    b.metadata.Checked b.name b.type := by
  induction reachable with
  | start name aliasName type => exact MetadataStore.checked_empty name type
  | rename _ _ checked => exact checked
  | attach key m _ checked =>
    unfold PropertyBuilder.attach
    split
    · exact checked
    · split
      · exact checked
      · next passes => exact checked.put passes key

end PropertyBuilder

namespace Property

/-- Properties as the library makes them: declared without metadata, built from a builder, or
copied with a piece of metadata attached. -/
inductive Declared : Property → Prop
  | new (id : Nat) (name : String) (aliasName : Option String) (type : ValueType) :
      Declared { id, name, aliasName, type }
  | build {b : PropertyBuilder} {id : Nat} {p : Property} :
      b.Reachable → b.build id = .ok p → Declared p
  | attach {p q : Property} {key : Option String} {m : Metadata} :
      Declared p → p.attach key m = .ok q → Declared q

theorem Declared.checked {p : Property} (declared : p.Declared) :
    p.metadata.Checked p.name p.type := by
  induction declared with
  | new id name aliasName type => exact MetadataStore.checked_empty name type
  | build reachable built =>
    unfold PropertyBuilder.build at built
    split at built
    · cases built
    · cases built
      exact reachable.checked
  | attach _ attached checked =>
    unfold Property.attach at attached
    split at attached
    · cases attached
    · next passes =>
      cases attached
      exact checked.put passes _

end Property

namespace Synthesizer

open Traced

variable (s : Synthesizer) (stored : Nat → Option ValidationRule) (p : Property)

/-- The rules a piece of metadata of a declared property gives: none for a nullability that
allows `null`, a not-null rule for one that does not; the length, allowed-values or range rule
carrying the constraint itself; the rules a rule list refers to, in order; and for every other
kind what the factory taught for it derives, or none. -/
def entryRules (m : Metadata) : List SynthesizedRule :=
  match m with
  | .nullability n => if n.allowNull then [] else [⟨none, .notNull p⟩]
  | .stringLength l => [⟨none, .length p l⟩]
  | .allowedValues a => [⟨none, .allowed p a⟩]
  | .numericInterval i => [⟨none, .range p i⟩]
  | .validationRules links => storedRules stored links
  | _ => (s.extensionRules? p m).getD []

-- The rule constructors repeat the check that attaching made.
theorem visit_of_checked {m : Metadata} (passes : m.check p.name p.type = .ok ()) :
    ∀ r, visit stored p m = some r → r = .ok (s.entryRules stored p m) := by
  intro r visited
  cases m with
  | stringLength c | allowedValues c | numericInterval c =>
    -- the constraint's own check is the one `passes` records
    simp only [Metadata.check] at passes
    simp [visit, ValidationRule.lengthOf, ValidationRule.allowedOf, ValidationRule.rangeOf,
      passes, Except.map] at visited
    simp [← visited, entryRules]
  | nullability c | validationRules c =>
    simp only [visit, Option.some.injEq] at visited
    simp [← visited, entryRules]
  | description | defaultValue | calculator | schemaRef | marker => simp [visit] at visited

-- Metadata no constraint knows goes to the factory taught for its kind.
theorem entryRules_of_visit_none {m : Metadata} (unknown : visit stored p m = none) :
    s.entryRules stored p m = (s.extensionRules? p m).getD [] := by
  cases m <;> simp_all [visit, entryRules]

/-- Built-in kinds come first: whatever factories are taught, a constraint or a rule list gives
the same rules. -/
theorem entryRules_of_visit_isSome {m : Metadata} (known : (visit stored p m).isSome)
    (other : Synthesizer) : s.entryRules stored p m = other.entryRules stored p m := by
  cases m <;> simp_all [visit, entryRules]

theorem rulesForEntry_ignoresJournal (e : MetadataEntry) :
    (s.rulesForEntry stored p e).IgnoresJournal := by
  intro j j'
  unfold rulesForEntry rulesForEntry.unknown
  split
  · rfl
  · rfl
  · split <;> rfl

-- An entry no rule comes from is reported at trace level, with nothing else.
theorem unknown_result (e : MetadataEntry) (j : Journal) :
    (rulesForEntry.unknown p e).result j = [] := rfl

theorem unknown_addsOnly (e : MetadataEntry) :
    (rulesForEntry.unknown p e).AddsOnly
      fun ev => ev.level = .trace ∧ ev.message = "no rules for metadata" :=
  (addsOnly_emit ⟨rfl, rfl⟩).bind fun _ => addsOnly_pure _

section Checked

variable {e : MetadataEntry} (passes : e.value.check p.name p.type = .ok ())
include passes

theorem rulesForEntry_result (j : Journal) :
    (s.rulesForEntry stored p e).result j = s.entryRules stored p e.value := by
  unfold rulesForEntry
  cases visited : visit stored p e.value with
  | some r =>
    rw [visit_of_checked s stored p passes r visited]
    rfl
  | none =>
    simp only
    rw [entryRules_of_visit_none s stored p visited]
    cases s.extensionRules? p e.value <;> rfl

theorem rulesForEntry_addsOnly :
    (s.rulesForEntry stored p e).AddsOnly
      fun ev => ev.level = .trace ∧ ev.message = "no rules for metadata" := by
  unfold rulesForEntry
  cases visited : visit stored p e.value with
  | some r =>
    rw [visit_of_checked s stored p passes r visited]
    exact addsOnly_pure _
  | none =>
    simp only
    split
    · exact addsOnly_pure _
    · exact unknown_addsOnly p e

end Checked

section Declared

variable {p} (checked : p.metadata.Checked p.name p.type)
include checked

theorem rulesFor_result (j : Journal) :
    (s.rulesFor stored p).result j =
      p.metadata.entries.flatMap fun e => s.entryRules stored p e.value := by
  simp only [rulesFor, bind_pure_comp, List.forIn_yield_eq_foldlM, bind_pure]
  rw [Traced.foldlM_append_result (rulesForEntry_ignoresJournal s stored p), List.nil_append]
  exact List.flatMap_congr fun e member => rulesForEntry_result s stored p (checked e member) j

theorem rulesFor_addsOnly :
    (s.rulesFor stored p).AddsOnly
      fun ev => ev.level = .trace ∧ ev.message = "no rules for metadata" := by
  simp only [rulesFor, bind_pure_comp, List.forIn_yield_eq_foldlM, bind_pure]
  exact addsOnly_foldlM_append p.metadata.entries
    (fun e member => rulesForEntry_addsOnly s stored p (checked e member)) []

end Declared

/-- Synthesis is faithful and drops nothing. For a declared property, every constraint in its
metadata gives its rules without error, exactly those `entryRules` names; the synthesized rules
are the rules of the entries in attachment order; and the only events reported are the traces
of entries that give no rule, never the warning for an ill-typed constraint. -/
theorem synthesis_keeps_every_constraint {p : Property} (declared : p.Declared) :
    (∀ e ∈ p.metadata.entries, ∀ r, visit stored p e.value = some r →
      r = .ok (s.entryRules stored p e.value)) ∧
    (∀ j, (s.rulesFor stored p).result j =
      p.metadata.entries.flatMap fun e => s.entryRules stored p e.value) ∧
    (s.rulesFor stored p).AddsOnly
      fun ev => ev.level = .trace ∧ ev.message = "no rules for metadata" := by
  have checked := declared.checked
  exact ⟨fun e member => visit_of_checked s stored p (checked e member),
    rulesFor_result s stored checked, rulesFor_addsOnly s stored checked⟩

/-- `Age`: an `i32` that must not be null, at least zero, with a description. -/
def ageBuilder : PropertyBuilder :=
  ({ name := "Age", type := .int .i32 } : PropertyBuilder)
    |>.attach none (.nullability ⟨false⟩)
    |>.attach none (.numericInterval { minimum := some (.zero false) })
    |>.attach none (.description "Age in years")

def age : Property := { id := 0, name := "Age", type := .int .i32, metadata := ageBuilder.metadata }

/-- The built `Age` gives a not-null rule and a range rule, and the description gives none. -/
theorem age_rules_follow_its_metadata :
    age.Declared ∧
    (({} : Synthesizer).rulesFor (fun _ => none) age).result {} =
      [⟨none, .notNull age⟩, ⟨none, .range age { minimum := some (.zero false) }⟩] := by
  have reachable : ageBuilder.Reachable :=
    .attach _ _ (.attach _ _ (.attach _ _ (.start "Age" none (.int .i32))))
  have built : ageBuilder.build 0 = .ok age := rfl
  have declared : age.Declared := .build reachable built
  refine ⟨declared, ?_⟩
  rw [(synthesis_keeps_every_constraint {} (fun _ => none) declared).2.1]
  rfl

end Synthesizer

end Schemata
