import Mathlib.Data.List.Forall2
import Schemata.Rules.Cache
import Schemata.Proofs.Providers

/-!
A cache over a provider answers as the provider does, exactly when its comparer is an
equivalence.

A cache remembers each answer of the provider under its key: a type, or a property compared
by declared type and the provider's comparer. Every remembered answer is one the provider gives
for its key, and this survives every lookup and every clear. A lookup that hits an entry
therefore gets the provider's answer for the entry's key; it is the provider's answer for the
lookup itself when the comparer finds the same properties as the same others, as comparing by
identity or by name and type does. Comparing by name or alias is not transitive: a miss
remembered for a property named `y` answers a later lookup of a property named `x` with alias
`y`, for which the provider has a rule bound to `x`.

Lookups of one key between two clears are answered from one entry, so with the very same
handler, synthesized handlers included.
-/

namespace Schemata

open Traced

namespace SourceShelf

@[simp] theorem put_key (object : Nat) (source : RuleSource) (entry : Nat × RuleSource) :
    (if entry.1 == object then (object, source) else entry).1 = entry.1 := by
  split
  · rename_i same
    exact (eq_of_beq same).symm
  · rfl

theorem get?_put_self (s : SourceShelf) (object : Nat) (source : RuleSource) :
    (s.put object source).get? object = some source := by
  unfold put get?
  split
  · rename_i present
    rw [List.find?_map]
    simp only [Function.comp_def, put_key]
    cases found : s.sources.find? (·.1 == object) with
    | none =>
      obtain ⟨e, member, hit⟩ := List.any_eq_true.mp present
      exact absurd hit (List.find?_eq_none.mp found e member)
    | some e =>
      have hit := List.find?_some found
      simp only [beq_iff_eq] at hit
      simp [hit]
  · rename_i absent
    have missing : s.sources.find? (·.1 == object) = none :=
      List.find?_eq_none.mpr fun e member hit => absent (List.any_eq_true.mpr ⟨e, member, hit⟩)
    simp [List.find?_append, missing]

theorem get?_put_other (s : SourceShelf) {object other : Nat} (different : other ≠ object)
    (source : RuleSource) : (s.put object source).get? other = s.get? other := by
  unfold put get?
  split
  · rw [List.find?_map]
    simp only [Function.comp_def, put_key]
    cases found : s.sources.find? (·.1 == other) with
    | none => rfl
    | some e =>
      have hit := List.find?_some found
      simp only [beq_iff_eq] at hit
      have kept : e.1 ≠ object := hit ▸ different
      simp [kept]
  · have skipped : [(object, source)].find? (·.1 == other) = none := by
      simp [Ne.symm different]
    simp [List.find?_append, skipped]

theorem length_succ_of_get? {s : SourceShelf} {object : Nat} {held : RuleSource}
    (found : s.get? object = some held) : ∃ n, s.sources.length = n + 1 := by
  cases sources : s.sources with
  | nil => simp [get?, sources] at found
  | cons entry rest => exact ⟨rest.length, rfl⟩

theorem get?_updateCache_self {s : SourceShelf} {object : Nat} {c : RuleCache}
    (atCache : s.get? object = some (.cache c)) (f : RuleCache → RuleCache) :
    (s.updateCache object f).get? object = some (.cache (f c)) := by
  simp only [updateCache, atCache]
  exact get?_put_self s object _

theorem get?_updateCache_other (s : SourceShelf) {object other : Nat} (different : other ≠ object)
    (f : RuleCache → RuleCache) : (s.updateCache object f).get? other = s.get? other := by
  unfold updateCache
  split
  · exact get?_put_other s different _
  · rfl

-- A lookup at a cache over a provider: a remembered answer, or the provider's answer, then
-- remembered.
theorem ruleForType_cached {s : SourceShelf} {object : Nat} {c : RuleCache} {pv : Provider}
    (atCache : s.get? object = some (.cache c))
    (atProvider : s.get? c.inner = some (.provider pv)) (t : ValueType) (j : Journal) :
    (s.ruleForType object t).result j =
      match c.typeHit? t with
      | some hit => (hit, s)
      | none =>
        ((pv.ruleForType t).result j, s.updateCache object fun c =>
          { c with byType := c.byType ++ [(t, (pv.ruleForType t).result j)] }) := by
  obtain ⟨n, length⟩ := length_succ_of_get? atProvider
  rw [ruleForType, fuel, length, ruleForTypeWith]
  simp only [atCache]
  cases c.typeHit? t with
  | some hit => rfl
  | none => simp [ruleForTypeWith, atProvider]

theorem ruleForProperty_cached {s : SourceShelf} {object : Nat} {c : RuleCache}
    {pv : Provider} (atCache : s.get? object = some (.cache c))
    (atProvider : s.get? c.inner = some (.provider pv)) (p : Property) (j : Journal) :
    (s.ruleForProperty object p).result j =
      match c.propertyHit? p with
      | some hit => (hit, s)
      | none =>
        ((pv.ruleForProperty p).result j, s.updateCache object fun c =>
          { c with byProperty := c.byProperty ++ [(p, (pv.ruleForProperty p).result j)] }) := by
  obtain ⟨n, length⟩ := length_succ_of_get? atProvider
  rw [ruleForProperty, fuel, length, ruleForPropertyWith]
  simp only [atCache]
  cases c.propertyHit? p with
  | some hit => rfl
  | none => simp [ruleForPropertyWith, atProvider]

end SourceShelf

/-- A query to a cache: a type lookup, a property lookup, or forgetting every answer. -/
inductive CacheQuery where
  | type (t : ValueType)
  | property (p : Property)
  | clear

namespace SourceShelf

/-- One query to the cache held at `object`: a lookup answers with what it finds, a clear
answers nothing. -/
def query (s : SourceShelf) (object : Nat) :
    CacheQuery → Traced (Option (Option Handler) × SourceShelf)
  | .type t => do
    let (found, s) ← s.ruleForType object t
    return (some found, s)
  | .property p => do
    let (found, s) ← s.ruleForProperty object p
    return (some found, s)
  | .clear => pure (none, s.updateCache object RuleCache.clear)

/-- The answers of the cache held at `object` to a history of queries, and the shelf after it. -/
def run (s : SourceShelf) (object : Nat) :
    List CacheQuery → Traced (List (Option (Option Handler)) × SourceShelf)
  | [] => pure ([], s)
  | q :: rest => do
    let (answer, s) ← s.query object q
    let (answers, s) ← s.run object rest
    return (answer :: answers, s)

theorem answers_cons (s : SourceShelf) (object : Nat) (q : CacheQuery) (rest : List CacheQuery)
    (j : Journal) :
    ((s.run object (q :: rest)).result j).1 =
      ((s.query object q).result j).1 ::
        ((((s.query object q).result j).2.run object rest).result ((s.query object q).after j)).1 :=
  rfl

end SourceShelf

namespace CacheQuery

/-- A query answered as the provider answers it: a lookup with the handler of the rule the
provider finds, or with a handler of the parser the provider makes for it, or with nothing
when the provider finds nothing; a clear with no answer. -/
def Answered (pv : Provider) : CacheQuery → Option (Option Handler) → Prop
  | .type t, some found => Option.Rel Origin.Gives (pv.originForType t) found
  | .property p, some found => Option.Rel Origin.Gives (pv.originForProperty p) found
  | .clear, none => True
  | _, _ => False

end CacheQuery

namespace Comparer

-- Comparing by identity or by name and type is an equivalence.
theorem same_congr {c : Comparer} (notAlias : c ≠ .byNameOrAliasIgnoreCase) {q p : Property}
    (matched : c.same q p = true) (r : Property) : c.same r q = c.same r p := by
  cases c with
  | byReference =>
    simp only [Comparer.same, beq_iff_eq] at matched ⊢
    simp [matched]
  | byNameAndType =>
    simp only [Comparer.same, Bool.and_eq_true, beq_iff_eq] at matched ⊢
    simp [matched.1, matched.2]
  | byNameOrAliasIgnoreCase => exact absurd rfl notAlias

theorem same_self (c : Comparer) (p : Property) : c.same p p = true := by
  cases c <;> simp [Comparer.same, Property.names, equalIgnoringCase]

end Comparer

namespace Provider

variable {pv : Provider}

theorem propertyRule?_congr {q p : Property} (sameType : q.type = p.type)
    (equivalent : ∀ r, pv.config.comparer.same r q = pv.config.comparer.same r p) :
    pv.propertyRule? q = pv.propertyRule? p := by
  simp only [propertyRule?, sameType, equivalent]

theorem originForProperty_congr (notAlias : pv.config.comparer ≠ .byNameOrAliasIgnoreCase)
    {q p : Property} (sameType : q.type = p.type)
    (matched : pv.config.comparer.same q p = true) :
    pv.originForProperty q = pv.originForProperty p := by
  rw [originForProperty, originForProperty, sameType,
    propertyRule?_congr sameType (Comparer.same_congr notAlias matched)]

end Provider

namespace RuleCache

theorem typeHit?_mem {c : RuleCache} {t : ValueType} {found : Option Handler}
    (hit : c.typeHit? t = some found) : (t, found) ∈ c.byType := by
  simp only [typeHit?, Option.map_eq_some_iff] at hit
  obtain ⟨entry, first, rfl⟩ := hit
  have key := List.find?_some first
  simp only [beq_iff_eq] at key
  rw [← key]
  exact List.mem_of_find?_eq_some first

theorem propertyHit?_mem {c : RuleCache} {p : Property} {found : Option Handler}
    (hit : c.propertyHit? p = some found) :
    ∃ q, (q, found) ∈ c.byProperty ∧ q.type = p.type ∧ c.comparer.same q p = true := by
  simp only [propertyHit?, Option.map_eq_some_iff] at hit
  obtain ⟨entry, first, rfl⟩ := hit
  have key := List.find?_some first
  simp only [Bool.and_eq_true, beq_iff_eq] at key
  exact ⟨entry.1, List.mem_of_find?_eq_some first, key.1, key.2⟩

/-- A cache faithful to the provider `pv`: it compares properties as the provider does, and
every answer it remembers is one the provider gives for its key. -/
structure Faithful (pv : Provider) (c : RuleCache) : Prop where
  comparer : c.comparer = pv.config.comparer
  types : ∀ t found, (t, found) ∈ c.byType → Option.Rel Origin.Gives (pv.originForType t) found
  properties : ∀ p found, (p, found) ∈ c.byProperty →
    Option.Rel Origin.Gives (pv.originForProperty p) found

section Faithful

variable {pv : Provider} {c : RuleCache}

theorem Faithful.recordType (faithful : c.Faithful pv) {t : ValueType} {found : Option Handler}
    (related : Option.Rel Origin.Gives (pv.originForType t) found) :
    Faithful pv { c with byType := c.byType ++ [(t, found)] } := by
  refine ⟨faithful.comparer, ?_, faithful.properties⟩
  intro u answer member
  rcases List.mem_append.mp member with old | new
  · exact faithful.types u answer old
  · simp only [List.mem_singleton, Prod.mk.injEq] at new
    obtain ⟨rfl, rfl⟩ := new
    exact related

theorem Faithful.recordProperty (faithful : c.Faithful pv) {p : Property}
    {found : Option Handler} (related : Option.Rel Origin.Gives (pv.originForProperty p) found) :
    Faithful pv { c with byProperty := c.byProperty ++ [(p, found)] } := by
  refine ⟨faithful.comparer, faithful.types, ?_⟩
  intro q answer member
  rcases List.mem_append.mp member with old | new
  · exact faithful.properties q answer old
  · simp only [List.mem_singleton, Prod.mk.injEq] at new
    obtain ⟨rfl, rfl⟩ := new
    exact related

theorem Faithful.clear (faithful : c.Faithful pv) : c.clear.Faithful pv :=
  ⟨faithful.comparer, nofun, nofun⟩

end Faithful

/-- What a cache remembers for a lookup, and nothing for a clear. -/
def remembered (c : RuleCache) : CacheQuery → Option (Option Handler)
  | .type t => c.typeHit? t
  | .property p => c.propertyHit? p
  | .clear => none

section Remembering

variable {c : RuleCache}

theorem typeHit?_record_self {t : ValueType} (miss : c.typeHit? t = none)
    (found : Option Handler) :
    { c with byType := c.byType ++ [(t, found)] }.typeHit? t = some found := by
  simp only [typeHit?, Option.map_eq_none_iff] at miss
  simp [typeHit?, List.find?_append, miss]

theorem propertyHit?_record_self {p : Property} (miss : c.propertyHit? p = none)
    (found : Option Handler) :
    { c with byProperty := c.byProperty ++ [(p, found)] }.propertyHit? p = some found := by
  simp only [propertyHit?, Option.map_eq_none_iff] at miss
  simp [propertyHit?, List.find?_append, miss, Comparer.same_self]

-- New answers are remembered after the old ones, so an old one still answers its lookup.
theorem remembered_recordType {q : CacheQuery} {answer : Option Handler}
    (kept : c.remembered q = some answer) (entry : ValueType × Option Handler) :
    { c with byType := c.byType ++ [entry] }.remembered q = some answer := by
  cases q with
  | type t =>
    simp only [remembered, typeHit?, Option.map_eq_some_iff] at kept ⊢
    obtain ⟨first, found, rfl⟩ := kept
    exact ⟨first, by simp [List.find?_append, found], rfl⟩
  | property p => exact kept
  | clear => cases kept

theorem remembered_recordProperty {q : CacheQuery} {answer : Option Handler}
    (kept : c.remembered q = some answer) (entry : Property × Option Handler) :
    { c with byProperty := c.byProperty ++ [entry] }.remembered q = some answer := by
  cases q with
  | type t => exact kept
  | property p =>
    simp only [remembered, propertyHit?, Option.map_eq_some_iff] at kept ⊢
    obtain ⟨first, found, rfl⟩ := kept
    exact ⟨first, by simp [List.find?_append, found], rfl⟩
  | clear => cases kept

end Remembering

end RuleCache

namespace SourceShelf

/-- The shelf holds the cache `c` at `object`, over the provider `pv`. -/
structure CachesOver (s : SourceShelf) (object : Nat) (pv : Provider) (c : RuleCache) :
    Prop where
  cache : s.get? object = some (.cache c)
  provider : s.get? c.inner = some (.provider pv)

theorem CachesOver.update {s : SourceShelf} {object : Nat} {pv : Provider} {c : RuleCache}
    (holds : s.CachesOver object pv c) (f : RuleCache → RuleCache)
    (keepsInner : (f c).inner = c.inner) :
    (s.updateCache object f).CachesOver object pv (f c) := by
  -- the provider is held elsewhere than the cache, and updating the cache leaves it in place
  have elsewhere : c.inner ≠ object := by
    intro same
    have both := holds.provider
    rw [same, holds.cache] at both
    cases both
  refine ⟨get?_updateCache_self holds.cache f, ?_⟩
  rw [keepsInner, get?_updateCache_other s elsewhere]
  exact holds.provider

section Queries

variable {s : SourceShelf} {object : Nat} {pv : Provider} {c : RuleCache}

theorem query_type_faithful (holds : s.CachesOver object pv c) (faithful : c.Faithful pv)
    (t : ValueType) (j : Journal) :
    (CacheQuery.type t).Answered pv ((s.query object (.type t)).result j).1 ∧
    ∃ c', ((s.query object (.type t)).result j).2.CachesOver object pv c' ∧ c'.Faithful pv := by
  simp only [query, result_bind, result_pure, ruleForType_cached holds.cache holds.provider]
  cases hit : c.typeHit? t with
  | some found => exact ⟨faithful.types t found (RuleCache.typeHit?_mem hit), c, holds, faithful⟩
  | none =>
    have related := Provider.ruleForType_gives pv t j
    exact ⟨related, _, holds.update _ rfl, faithful.recordType related⟩

theorem query_property_faithful (notAlias : pv.config.comparer ≠ .byNameOrAliasIgnoreCase)
    (holds : s.CachesOver object pv c) (faithful : c.Faithful pv) (p : Property) (j : Journal) :
    (CacheQuery.property p).Answered pv ((s.query object (.property p)).result j).1 ∧
    ∃ c', ((s.query object (.property p)).result j).2.CachesOver object pv c' ∧
      c'.Faithful pv := by
  simp only [query, result_bind, result_pure, ruleForProperty_cached holds.cache holds.provider]
  cases hit : c.propertyHit? p with
  | some found =>
    -- the entry hit is the provider's answer for its own key, which is the answer for `p`
    obtain ⟨q, member, sameType, matched⟩ := RuleCache.propertyHit?_mem hit
    rw [faithful.comparer] at matched
    have related := faithful.properties q found member
    rw [Provider.originForProperty_congr notAlias sameType matched] at related
    exact ⟨related, c, holds, faithful⟩
  | none =>
    have related := Provider.ruleForProperty_gives pv p j
    exact ⟨related, _, holds.update _ rfl, faithful.recordProperty related⟩

theorem query_clear_faithful (holds : s.CachesOver object pv c) (faithful : c.Faithful pv)
    (j : Journal) :
    CacheQuery.clear.Answered pv ((s.query object .clear).result j).1 ∧
    ∃ c', ((s.query object .clear).result j).2.CachesOver object pv c' ∧ c'.Faithful pv :=
  ⟨trivial, c.clear, holds.update RuleCache.clear rfl, faithful.clear⟩

theorem query_faithful (notAlias : pv.config.comparer ≠ .byNameOrAliasIgnoreCase)
    (holds : s.CachesOver object pv c) (faithful : c.Faithful pv) (q : CacheQuery)
    (j : Journal) :
    q.Answered pv ((s.query object q).result j).1 ∧
    ∃ c', ((s.query object q).result j).2.CachesOver object pv c' ∧ c'.Faithful pv := by
  cases q with
  | type t => exact query_type_faithful holds faithful t j
  | property p => exact query_property_faithful notAlias holds faithful p j
  | clear => exact query_clear_faithful holds faithful j

-- Each query keeps the cache faithful for the next.
theorem run_answered (notAlias : pv.config.comparer ≠ .byNameOrAliasIgnoreCase)
    (queries : List CacheQuery) :
    ∀ {s : SourceShelf} {c : RuleCache} (j : Journal), s.CachesOver object pv c →
      c.Faithful pv →
      List.Forall₂ (CacheQuery.Answered pv) queries ((s.run object queries).result j).1 := by
  -- on the history: each query keeps the cache faithful for the next
  induction queries with
  | nil => intro s c j _ _; exact .nil
  | cons q rest ih =>
    intro s c j holds faithful
    obtain ⟨answered, c', holds', faithful'⟩ := query_faithful notAlias holds faithful q j
    rw [answers_cons]
    exact .cons answered (ih _ holds' faithful')

end Queries

section Memo

variable {s : SourceShelf} {object : Nat} {pv : Provider} {c : RuleCache}

theorem query_cachesOver (holds : s.CachesOver object pv c) (x : CacheQuery) (j : Journal) :
    ∃ c', ((s.query object x).result j).2.CachesOver object pv c' := by
  cases x with
  | type t =>
    simp only [query, result_bind, result_pure, ruleForType_cached holds.cache holds.provider]
    cases c.typeHit? t with
    | some found => exact ⟨c, holds⟩
    | none => exact ⟨_, holds.update _ rfl⟩
  | property p =>
    simp only [query, result_bind, result_pure,
      ruleForProperty_cached holds.cache holds.provider]
    cases c.propertyHit? p with
    | some found => exact ⟨c, holds⟩
    | none => exact ⟨_, holds.update _ rfl⟩
  | clear => exact ⟨_, holds.update RuleCache.clear rfl⟩

theorem query_of_remembered (holds : s.CachesOver object pv c) {q : CacheQuery}
    {answer : Option Handler} (kept : c.remembered q = some answer) (j : Journal) :
    ((s.query object q).result j).1 = some answer := by
  cases q with
  | type t =>
    change c.typeHit? t = some answer at kept
    simp [query, ruleForType_cached holds.cache holds.provider, kept]
  | property p =>
    change c.propertyHit? p = some answer at kept
    simp [query, ruleForProperty_cached holds.cache holds.provider, kept]
  | clear => cases kept

theorem query_remembers (holds : s.CachesOver object pv c) {q : CacheQuery}
    (lookup : q ≠ .clear) (j : Journal) :
    ∃ answer c', ((s.query object q).result j).1 = some answer ∧
      ((s.query object q).result j).2.CachesOver object pv c' ∧
      c'.remembered q = some answer := by
  cases q with
  | type t =>
    simp only [query, result_bind, result_pure, ruleForType_cached holds.cache holds.provider]
    cases hit : c.typeHit? t with
    | some found => exact ⟨found, c, rfl, holds, hit⟩
    | none =>
      exact ⟨_, _, rfl, holds.update _ rfl, RuleCache.typeHit?_record_self hit _⟩
  | property p =>
    simp only [query, result_bind, result_pure,
      ruleForProperty_cached holds.cache holds.provider]
    cases hit : c.propertyHit? p with
    | some found => exact ⟨found, c, rfl, holds, hit⟩
    | none =>
      exact ⟨_, _, rfl, holds.update _ rfl, RuleCache.propertyHit?_record_self hit _⟩
  | clear => exact absurd rfl lookup

theorem query_keeps_remembered (holds : s.CachesOver object pv c) {x : CacheQuery}
    (lookup : x ≠ .clear) {q : CacheQuery} {answer : Option Handler}
    (kept : c.remembered q = some answer) (j : Journal) :
    ∃ c', ((s.query object x).result j).2.CachesOver object pv c' ∧
      c'.remembered q = some answer := by
  cases x with
  | type t =>
    simp only [query, result_bind, result_pure, ruleForType_cached holds.cache holds.provider]
    cases c.typeHit? t with
    | some found => exact ⟨c, holds, kept⟩
    | none => exact ⟨_, holds.update _ rfl, RuleCache.remembered_recordType kept _⟩
  | property p =>
    simp only [query, result_bind, result_pure,
      ruleForProperty_cached holds.cache holds.provider]
    cases c.propertyHit? p with
    | some found => exact ⟨c, holds, kept⟩
    | none => exact ⟨_, holds.update _ rfl, RuleCache.remembered_recordProperty kept _⟩
  | clear => exact absurd rfl lookup

theorem shelf_cons (s : SourceShelf) (q : CacheQuery) (rest : List CacheQuery)
    (j : Journal) :
    ((s.run object (q :: rest)).result j).2 =
      ((((s.query object q).result j).2.run object rest).result
        ((s.query object q).after j)).2 := rfl

theorem run_cachesOver (history : List CacheQuery) :
    ∀ {s : SourceShelf} {c : RuleCache} (j : Journal), s.CachesOver object pv c →
      ∃ c', ((s.run object history).result j).2.CachesOver object pv c' := by
  induction history with
  | nil => intro s c j holds; exact ⟨c, holds⟩
  | cons x rest ih =>
    intro s c j holds
    obtain ⟨c', holds'⟩ := query_cachesOver holds x j
    rw [shelf_cons]
    exact ih _ holds'

theorem run_keeps_remembered {q : CacheQuery} {answer : Option Handler}
    (history : List CacheQuery) (noClear : CacheQuery.clear ∉ history) :
    ∀ {s : SourceShelf} {c : RuleCache} (j : Journal), s.CachesOver object pv c →
      c.remembered q = some answer →
      ∃ c', ((s.run object history).result j).2.CachesOver object pv c' ∧
        c'.remembered q = some answer := by
  induction history with
  | nil => intro s c j holds kept; exact ⟨c, holds, kept⟩
  | cons x rest ih =>
    intro s c j holds kept
    have lookup : x ≠ .clear := fun isClear => noClear (isClear ▸ List.mem_cons_self)
    obtain ⟨c', holds', kept'⟩ := query_keeps_remembered holds lookup kept j
    rw [shelf_cons]
    exact ih (fun cleared => noClear (List.mem_cons_of_mem x cleared)) _ holds' kept'

theorem answers_length (history : List CacheQuery) :
    ∀ (s : SourceShelf) (j : Journal), ((s.run object history).result j).1.length =
      history.length := by
  induction history with
  | nil => intro s j; rfl
  | cons x rest ih =>
    intro s j
    rw [answers_cons, List.length_cons, List.length_cons, ih]

theorem answers_append (first rest : List CacheQuery) :
    ∀ (s : SourceShelf) (j : Journal), ((s.run object (first ++ rest)).result j).1 =
      ((s.run object first).result j).1 ++
        ((((s.run object first).result j).2.run object rest).result
          ((s.run object first).after j)).1 := by
  induction first with
  | nil => intro s j; rfl
  | cons x more ih =>
    intro s j
    rw [List.cons_append, answers_cons, answers_cons, ih]
    rfl

/-- Two lookups of one key with no clear between them are answered with the very same
handler: the second is answered from the entry the first one found or made. -/
theorem lookups_between_clears_agree (holds : s.CachesOver object pv c)
    (before : List CacheQuery) {q : CacheQuery} (lookup : q ≠ .clear)
    (between after : List CacheQuery) (noClear : CacheQuery.clear ∉ between) (j : Journal) :
    ((s.run object (before ++ q :: (between ++ q :: after))).result j).1[before.length]? =
      ((s.run object (before ++ q :: (between ++ q :: after))).result j).1[
        before.length + 1 + between.length]? := by
  -- the first lookup of `q` is made from the shelf and journal `before` leaves
  obtain ⟨c₁, holds₁⟩ := run_cachesOver before j holds
  set s₁ := ((s.run object before).result j).2
  set j₁ := (s.run object before).after j
  obtain ⟨answer, c₂, first, holds₂, kept⟩ := query_remembers holds₁ lookup j₁
  -- what it remembers survives the lookups between, and answers the second lookup of `q`
  set s₂ := ((s₁.query object q).result j₁).2
  set j₂ := (s₁.query object q).after j₁
  obtain ⟨c₃, holds₃, kept₃⟩ := run_keeps_remembered between noClear j₂ holds₂ kept
  have second := query_of_remembered holds₃ kept₃ ((s₂.run object between).after j₂)
  have lengthBefore : ((s.run object before).result j).1.length = before.length :=
    answers_length before s j
  have lengthBetween : ((s₂.run object between).result j₂).1.length = between.length :=
    answers_length between s₂ j₂
  have index : before.length + 1 + between.length - before.length = between.length + 1 := by
    omega
  rw [answers_append, answers_cons, answers_append, answers_cons, first, second,
    List.getElem?_append_right (Nat.le_of_eq lengthBefore), List.getElem?_append_right (by omega),
    lengthBefore, Nat.sub_self, index, List.getElem?_cons_zero, List.getElem?_cons_succ,
    List.getElem?_append_right (Nat.le_of_eq lengthBetween), lengthBetween, Nat.sub_self,
    List.getElem?_cons_zero]

end Memo

-- A provider comparing by name or alias whose only rule is bound to `x`, held at 0 under a
-- fresh cache held at 1; `y`, and `x` with alias `y`, are looked up in turn.
def boundX : Property := { id := 0, name := "x", type := .int .i32 }

def plainY : Property := { id := 1, name := "y", type := .int .i32 }

def xAliasY : Property := { id := 2, name := "x", aliasName := some "y", type := .int .i32 }

def aliasProvider : Provider :=
  { rules := [{ target := .property boundX, handler := ⟨0, .failing (.int .i32) "xrule"⟩ }],
    config := { comparer := .byNameOrAliasIgnoreCase } }

def aliasShelf : SourceShelf :=
  ⟨[(0, .provider aliasProvider), (1, .cache { inner := 0, comparer := .byNameOrAliasIgnoreCase })]⟩

-- The miss remembered for `y` answers `x` with alias `y`, which the rule bound to `x` serves.
theorem alias_cache_hides_property_rule :
    ¬ List.Forall₂ (CacheQuery.Answered aliasProvider) [.property plainY, .property xAliasY]
      ((aliasShelf.run 1 [.property plainY, .property xAliasY]).result {}).1 := by
  have holds : aliasShelf.CachesOver 1 aliasProvider
      { inner := 0, comparer := .byNameOrAliasIgnoreCase } := ⟨rfl, rfl⟩
  have nothingForY : (aliasProvider.ruleForProperty plainY).result {} = none := by
    have related := Provider.ruleForProperty_gives aliasProvider plainY {}
    have noOrigin : aliasProvider.originForProperty plainY = none := rfl
    rw [noOrigin] at related
    exact Origin.found_none related
  -- the first lookup misses, and the provider's nothing for `y` is remembered
  let recordY := fun c : RuleCache => { c with byProperty := c.byProperty ++ [(plainY, none)] }
  have remembered := holds.update recordY rfl
  have first : (aliasShelf.query 1 (.property plainY)).result {} =
      (some none, aliasShelf.updateCache 1 recordY) := by
    simp only [query, result_bind, result_pure,
      ruleForProperty_cached holds.cache holds.provider, nothingForY]
    rfl
  -- the second hits that entry, since `x` with alias `y` and `y` share a name
  have second (j : Journal) :
      (((aliasShelf.updateCache 1 recordY).query 1 (.property xAliasY)).result j).1 =
        some none := by
    simp only [query, result_bind, result_pure,
      ruleForProperty_cached remembered.cache remembered.provider]
    rfl
  have ruleForX : aliasProvider.originForProperty xAliasY =
      some (.declared ⟨0, .failing (.int .i32) "xrule"⟩) := rfl
  intro answered
  rw [answers_cons, first, answers_cons, second] at answered
  obtain ⟨-, rest⟩ := List.forall₂_cons.mp answered
  obtain ⟨hidden, -⟩ := List.forall₂_cons.mp rest
  change Option.Rel Origin.Gives (aliasProvider.originForProperty xAliasY) none at hidden
  rw [ruleForX] at hidden
  cases hidden

end SourceShelf

theorem cache_answers_as_provider_iff (comparer : Comparer) :
    (∀ pv : Provider, pv.config.comparer = comparer →
      ∀ (s : SourceShelf) (inner object : Nat), s.get? inner = some (.provider pv) →
        s.get? object = some (.cache { inner, comparer }) →
        ∀ queries j, List.Forall₂ (CacheQuery.Answered pv) queries
          ((s.run object queries).result j).1) ↔
    comparer ≠ .byNameOrAliasIgnoreCase := by
  constructor
  · intro answersAsProvider byAlias
    subst byAlias
    exact SourceShelf.alias_cache_hides_property_rule
      (answersAsProvider SourceShelf.aliasProvider rfl SourceShelf.aliasShelf 0 1 rfl rfl _ {})
  · intro notAlias pv sameComparer s inner object atProvider atCache queries j
    subst sameComparer
    exact SourceShelf.run_answered notAlias queries j ⟨atCache, atProvider⟩ ⟨rfl, nofun, nofun⟩

/-- A cache made over a provider with the provider's comparer answers every history of lookups
and clears as the provider does, for every provider, exactly when the comparer is not the
comparison by name or alias; and with any comparer, two lookups of one key with no clear
between them are answered with the very same handler. -/
theorem rule_cache_transparent_iff_not_alias (comparer : Comparer) :
    ((∀ pv : Provider, pv.config.comparer = comparer →
      ∀ (s : SourceShelf) (inner object : Nat), s.get? inner = some (.provider pv) →
        s.get? object = some (.cache { inner, comparer }) →
        ∀ queries j, List.Forall₂ (CacheQuery.Answered pv) queries
          ((s.run object queries).result j).1) ↔
      comparer ≠ .byNameOrAliasIgnoreCase) ∧
    ∀ pv : Provider, pv.config.comparer = comparer →
      ∀ (s : SourceShelf) (inner object : Nat), s.get? inner = some (.provider pv) →
        s.get? object = some (.cache { inner, comparer }) →
        ∀ before q between after j, q ≠ .clear → CacheQuery.clear ∉ between →
          ((s.run object (before ++ q :: (between ++ q :: after))).result j).1[before.length]? =
            ((s.run object (before ++ q :: (between ++ q :: after))).result j).1[
              before.length + 1 + between.length]? := by
  refine ⟨cache_answers_as_provider_iff comparer, ?_⟩
  intro pv _ s inner object atProvider atCache before q between after j lookup noClear
  exact SourceShelf.lookups_between_clears_agree ⟨atCache, atProvider⟩ before lookup between
    after noClear j

-- The standard provider held at 0 under a fresh cache comparing by identity, held at 1.
def standardShelf : SourceShelf :=
  ⟨[(0, .provider Provider.standardProvider), (1, .cache { inner := 0, comparer := .byReference })]⟩

theorem standard_cache_repeats_made_handler :
    List.Forall₂ (CacheQuery.Answered Provider.standardProvider)
      [.type Provider.optionalIntList, .clear, .type Provider.optionalIntList]
      ((standardShelf.run 1
        [.type Provider.optionalIntList, .clear, .type Provider.optionalIntList]).result {}).1 ∧
    ((standardShelf.run 1 [.type Provider.optionalIntList, .type .bool,
        .type Provider.optionalIntList]).result {}).1[0]? =
      ((standardShelf.run 1 [.type Provider.optionalIntList, .type .bool,
        .type Provider.optionalIntList]).result {}).1[2]? :=
  ⟨(rule_cache_transparent_iff_not_alias .byReference).1.mpr nofun Provider.standardProvider rfl
      standardShelf 0 1 rfl rfl _ {},
    (rule_cache_transparent_iff_not_alias .byReference).2 Provider.standardProvider rfl
      standardShelf 0 1 rfl rfl [] (.type Provider.optionalIntList) [.type .bool] [] {} nofun
      (by simp)⟩

end Schemata
