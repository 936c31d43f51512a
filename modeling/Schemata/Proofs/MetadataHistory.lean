import Mathlib.Data.List.Induction
import Mathlib.Data.List.Nodup
import Schemata.Proofs.Positions

/-!
What a metadata store holds after any history of operations, and what a property builder
builds after any sequence of metadata calls.

An entry is keyed by its kind and its name. Read through its keys and lookups, a store is a
register per key: setting or configuring a key gives it a value, and removing it takes the
value away. `keyHistory` is that register, computed from the history alone: the value of the
last set (or configure, applied to that value or to the default) since the key was last
removed, and the position in the history of the first set since then. The store holds one
entry for exactly the keys that have a value, ordered by those positions: setting a key again
keeps its place, and removing one closes the gap it leaves. `all` lists the values of one kind
in that order.

A builder checks each piece of metadata as it comes. The first failed check is the answer of
`build`, whatever comes after it; with no failed check, the property gets the store the calls
build one after another.
-/

namespace Schemata

/-- The key of a metadata entry: its kind and its name, `none` when unnamed. -/
abbrev MetadataKey := MetadataKind × Option String

namespace MetadataEntry

def key (e : MetadataEntry) : MetadataKey := (e.kind, e.name)

@[simp] theorem key_mk (name : Option String) (m : Metadata) :
    (MetadataEntry.mk name m).key = (m.kind, name) := rfl

/-- The test the store makes of an entry is a test of its key. -/
theorem target_eq_key (e : MetadataEntry) (kind : MetadataKind) (name : Option String) :
    (e.kind == kind && e.name == name) = decide (e.key = (kind, name)) := by
  simp only [key, Prod.mk.injEq, beq_eq_decide, Bool.decide_and]

theorem key_eq_of_target {e : MetadataEntry} {kind : MetadataKind} {name : Option String}
    (target : (e.kind == kind && e.name == name) = true) : e.key = (kind, name) := by
  simpa [target_eq_key] using target

-- Setting a key replaces values of its own kind, so every entry keeps its key.
@[simp] theorem key_replaceAt (e : MetadataEntry) (m : Metadata) (name : Option String) :
    (if e.key = (m.kind, name) then { e with value := m } else e).key = e.key := by
  by_cases same : e.key = (m.kind, name)
  · rw [if_pos same, same]
    exact congrArg (Prod.mk m.kind) (congrArg Prod.snd same)
  · rw [if_neg same]

end MetadataEntry

namespace MetadataStore

/-- The keys of the entries, in order. -/
def keys (s : MetadataStore) : List MetadataKey := s.entries.map (·.key)

section Steps

variable (s : MetadataStore)

theorem lookup?_eq_find? (k : MetadataKey) :
    s.lookup? k.1 k.2 = (s.entries.find? fun e => decide (e.key = k)).map (·.value) := by
  simp only [lookup?, MetadataEntry.target_eq_key]

theorem find?_key_isSome {k : MetadataKey} :
    (s.entries.find? fun e => decide (e.key = k)).isSome ↔ k ∈ s.keys := by
  simp [keys, List.find?_isSome]

theorem find?_key_eq_none {k : MetadataKey} :
    (s.entries.find? fun e => decide (e.key = k)) = none ↔ k ∉ s.keys := by
  rw [← find?_key_isSome, Option.not_isSome_iff_eq_none]

theorem position_eq_none_iff {kind : MetadataKind} {name : Option String} :
    s.position kind name = none ↔ (kind, name) ∉ s.keys := by
  simp [position, List.findIdx?_eq_none_iff, keys, MetadataEntry.target_eq_key]

section Distinct

variable {s} (distinct : s.keys.Nodup)
include distinct

-- With distinct keys, nothing after the first entry of a key has it.
theorem after_first {pre post : List MetadataEntry} {e : MetadataEntry} {kind : MetadataKind}
    {name : Option String} (split : s.entries = pre ++ e :: post)
    (keyed : (e.kind == kind && e.name == name) = true) :
    ∀ d ∈ post, (d.kind == kind && d.name == name) = false := by
  have apart : ((pre ++ e :: post).map MetadataEntry.key).Nodup := split ▸ distinct
  intro d member
  have other := after_of_nodup apart d member
  rw [MetadataEntry.key_eq_of_target keyed] at other
  simpa [MetadataEntry.target_eq_key] using other

/-- With distinct keys, setting a key that has an entry replaces its value in place, and a new
key goes to the end. -/
theorem put_eq (name : Option String) (m : Metadata) :
    (s.put name m).1 = if (m.kind, name) ∈ s.keys then
        ⟨s.entries.map fun e => if e.key = (m.kind, name) then { e with value := m } else e⟩
      else ⟨s.entries ++ [⟨name, m⟩]⟩ := by
  cases found : s.position m.kind name with
  | none => rw [put, found, if_neg ((position_eq_none_iff s).mp found)]
  | some i =>
    obtain ⟨pre, e, post, split, rfl, matched, before⟩ := findIdx?_eq_some_split found
    have present : (m.kind, name) ∈ s.keys := by
      rw [← MetadataEntry.key_eq_of_target matched, keys]
      exact List.mem_map_of_mem (by simp [split])
    rw [put, found, if_pos present]
    simp only [split, modify_split]
    have updated := update_split_eq_map before matched (after_first distinct split matched)
      fun d => { d with value := m }
    simp only [MetadataEntry.target_eq_key, decide_eq_true_eq] at updated
    rw [updated]

/-- With distinct keys, removing a kind drops its unnamed entry. -/
theorem remove_eq (kind : MetadataKind) :
    (s.remove kind).1 = ⟨s.entries.filter fun e => !(e.kind == kind && e.name == none)⟩ := by
  cases found : s.position kind none with
  | none =>
    have absent := (position_eq_none_iff s).mp found
    have keeps : s.entries.filter (fun e => !(e.kind == kind && e.name == none)) = s.entries := by
      refine List.filter_eq_self.mpr fun e member => ?_
      have other : e.key ≠ (kind, none) := fun same => absent (same ▸ List.mem_map_of_mem member)
      rw [MetadataEntry.target_eq_key]
      simpa using other
    rw [remove, found, keeps]
  | some i =>
    obtain ⟨pre, e, post, split, rfl, matched, before⟩ := findIdx?_eq_some_split found
    rw [remove, found]
    simp only [split, eraseIdx_split]
    rw [eraseIdx_split_eq_filter before matched (after_first distinct split matched)]

theorem keys_put (name : Option String) (m : Metadata) :
    (s.put name m).1.keys =
      if (m.kind, name) ∈ s.keys then s.keys else s.keys ++ [(m.kind, name)] := by
  rw [put_eq distinct]
  split
  · rw [keys, keys, List.map_map]
    exact List.map_congr_left fun e _ => MetadataEntry.key_replaceAt e m name
  · simp [keys]

theorem lookup?_put (name : Option String) (m : Metadata) (k : MetadataKey) :
    (s.put name m).1.lookup? k.1 k.2 =
      if k = (m.kind, name) then some m else s.lookup? k.1 k.2 := by
  rw [put_eq distinct, lookup?_eq_find?, lookup?_eq_find?]
  split
  · rename_i present
    -- the replacement keeps every key, so the same entry is found, with its new value
    rw [List.find?_map]
    have keyKept : ((fun e : MetadataEntry => decide (e.key = k)) ∘
        fun e => if e.key = (m.kind, name) then { e with value := m } else e) =
        fun e => decide (e.key = k) := by
      funext e
      simp only [Function.comp_apply, MetadataEntry.key_replaceAt]
    rw [keyKept, Option.map_map]
    split
    · rename_i target
      subst target
      obtain ⟨e, found⟩ := Option.isSome_iff_exists.mp ((find?_key_isSome s).mpr present)
      have keyed : e.key = (m.kind, name) := by simpa using List.find?_some found
      simp [found, keyed]
    · rename_i other
      cases found : s.entries.find? fun e => decide (e.key = k) with
      | none => rfl
      | some e =>
        have keyed : e.key = k := by simpa using List.find?_some found
        simp [keyed, other]
  · rename_i absent
    rw [List.find?_append]
    by_cases target : k = (m.kind, name)
    · subst target
      simp [(find?_key_eq_none s).mpr absent]
    · simp [target, Ne.symm target]

theorem keys_remove (kind : MetadataKind) :
    (s.remove kind).1.keys = s.keys.filter (· ≠ (kind, none)) := by
  rw [remove_eq distinct]
  simp only [MetadataEntry.target_eq_key]
  simp [keys, List.filter_map, Function.comp_def]

theorem lookup?_remove (kind : MetadataKind) (k : MetadataKey) :
    (s.remove kind).1.lookup? k.1 k.2 = if k = (kind, none) then none else s.lookup? k.1 k.2 := by
  rw [remove_eq distinct]
  simp only [MetadataEntry.target_eq_key]
  rw [lookup?_eq_find?, lookup?_eq_find?, List.find?_filter]
  split
  · rename_i target
    subst target
    simp
  · rename_i other
    congr 2
    funext e
    by_cases keyed : e.key = k
    · simp [keyed, other]
    · simp [keyed]

end Distinct

-- With distinct keys, each entry is the first one of its key.
theorem lookup?_key_of_mem (distinct : s.keys.Nodup) {e : MetadataEntry} (member : e ∈ s.entries) :
    s.lookup? e.key.1 e.key.2 = some e.value := by
  rw [lookup?_eq_find?]
  cases found : s.entries.find? fun d => decide (d.key = e.key) with
  | none =>
    rw [List.find?_eq_none] at found
    exact absurd (found e member) (by simp)
  | some d =>
    have keyed : d.key = e.key := by simpa using List.find?_some found
    rw [List.inj_on_of_nodup_map distinct (List.mem_of_find?_eq_some found) member keyed]
    rfl

theorem all_eq_lookups (distinct : s.keys.Nodup) (kind : MetadataKind) :
    s.all kind = (s.keys.filter (·.1 = kind)).filterMap fun k => s.lookup? k.1 k.2 := by
  have sameKind : ((fun k : MetadataKey => decide (k.1 = kind)) ∘ MetadataEntry.key) =
      fun e => e.kind == kind := by
    funext e
    rw [Bool.eq_iff_iff, beq_iff_eq]
    exact ⟨of_decide_eq_true, decide_eq_true⟩
  rw [all, keys, List.filter_map, sameKind, List.filterMap_map]
  refine (List.filterMap_eq_map_iff_forall_eq_some.mpr fun e member => ?_).symm
  exact s.lookup?_key_of_mem distinct (List.mem_of_mem_filter member)

theorem configure_eq {α : Type} (T : MetadataType α) (default : α) (f : α → α) :
    s.configure T default f =
      (s.put none (T.wrap (f (((s.lookup? T.kind none).bind T.unwrap?).getD default)))).1 := rfl

end Steps

end MetadataStore

/-- What a history says of each key: nothing when the key has no value, else the position of
the operation since which it has had one, and its value. -/
abbrev KeyRecord := MetadataKey → Option (Nat × Metadata)

namespace KeyRecord

/-- The record after `key` is given the value `m` by the operation at position `i`: a key that
had a value keeps its position. -/
def settle (h : KeyRecord) (i : Nat) (key : MetadataKey) (m : Metadata) : KeyRecord :=
  fun k => if k = key then some (((h k).map (·.1)).getD i, m) else h k

/-- The record after `key` loses its value. -/
def clear (h : KeyRecord) (key : MetadataKey) : KeyRecord :=
  fun k => if k = key then none else h k

/-- Key `a` has had its value since an earlier operation than key `b`. -/
def Earlier (h : KeyRecord) (a b : MetadataKey) : Prop :=
  ∃ i v j w, h a = some (i, v) ∧ h b = some (j, w) ∧ i < j

variable {h : KeyRecord} {i : Nat} {key : MetadataKey} {m : Metadata}

theorem settle_of_some {k : MetadataKey} {j : Nat} {v : Metadata} (had : h k = some (j, v)) :
    ∃ w, h.settle i key m k = some (j, w) := by
  unfold settle
  split
  · exact ⟨m, by simp [had]⟩
  · exact ⟨v, had⟩

theorem settle_of_none (fresh : h key = none) : h.settle i key m key = some (i, m) := by
  simp [settle, fresh]

theorem Earlier.settle {a b : MetadataKey} (earlier : h.Earlier a b) :
    (h.settle i key m).Earlier a b := by
  obtain ⟨i, v, j, w, first, second, before⟩ := earlier
  obtain ⟨v', first'⟩ := settle_of_some first
  obtain ⟨w', second'⟩ := settle_of_some second
  exact ⟨i, v', j, w', first', second', before⟩

theorem Earlier.clear {a b : MetadataKey} (earlier : h.Earlier a b) (kept : a ≠ key)
    (keptToo : b ≠ key) : (h.clear key).Earlier a b := by
  obtain ⟨i, v, j, w, first, second, before⟩ := earlier
  exact ⟨i, v, j, w, by simp [KeyRecord.clear, kept, first],
    by simp [KeyRecord.clear, keptToo, second], before⟩

theorem Earlier.ne {a b : MetadataKey} (earlier : h.Earlier a b) : a ≠ b := by
  rintro rfl
  obtain ⟨i, v, j, w, first, second, before⟩ := earlier
  rw [first, Option.some.injEq, Prod.mk.injEq] at second
  omega

end KeyRecord

/-- An operation on a metadata store. -/
inductive StoreOp : Type 1 where
  | set (name : Option String) (m : Metadata)
  | remove (kind : MetadataKind)
  | configure {α : Type} (T : MetadataType α) (default : α) (f : α → α)

namespace StoreOp

def apply (s : MetadataStore) : StoreOp → MetadataStore
  | set name m => (s.put name m).1
  | remove kind => (s.remove kind).1
  | configure T default f => s.configure T default f

/-- What the operation at position `i` of a history does to the record of the keys. -/
def touch (i : Nat) (h : KeyRecord) : StoreOp → KeyRecord
  | set name m => h.settle i (m.kind, name) m
  | remove kind => h.clear (kind, none)
  | configure T default f =>
    h.settle i (T.kind, none)
      (T.wrap (f ((((h (T.kind, none)).map (·.2)).bind T.unwrap?).getD default)))

end StoreOp

/-- The store that operations build from an empty one. -/
def MetadataStore.after (ops : List StoreOp) : MetadataStore := ops.foldl StoreOp.apply {}

/-- What a history of operations says of each key. -/
def keyHistory (ops : List StoreOp) : KeyRecord :=
  ops.zipIdx.foldl (fun h step => step.1.touch step.2 h) fun _ => none

@[simp] theorem MetadataStore.after_append_single (ops : List StoreOp) (op : StoreOp) :
    MetadataStore.after (ops ++ [op]) = op.apply (MetadataStore.after ops) := by
  simp [MetadataStore.after]

@[simp] theorem keyHistory_append_single (ops : List StoreOp) (op : StoreOp) :
    keyHistory (ops ++ [op]) = op.touch ops.length (keyHistory ops) := by
  simp [keyHistory, List.zipIdx_append]

namespace MetadataStore

/-- A store agrees with a record of its keys, after `n` operations: it has the values the
record gives, an entry for exactly the keys the record gives a value, in the order of the
positions since which they have had one, and all those positions come before `n`. -/
structure Agrees (s : MetadataStore) (h : KeyRecord) (n : Nat) : Prop where
  values : ∀ k, s.lookup? k.1 k.2 = (h k).map (·.2)
  present : ∀ k, k ∈ s.keys ↔ (h k).isSome
  ordered : s.keys.Pairwise h.Earlier
  early : ∀ k i v, h k = some (i, v) → i < n

variable {s : MetadataStore} {h : KeyRecord} {n : Nat}

theorem agrees_empty : Agrees {} (fun _ => none) 0 where
  values _ := rfl
  present _ := by simp [keys]
  ordered := List.Pairwise.nil
  early _ _ _ none := nomatch none

theorem Agrees.nodup (agrees : s.Agrees h n) : s.keys.Nodup :=
  agrees.ordered.imp KeyRecord.Earlier.ne

-- A key that keeps its position keeps every comparison with the others.
theorem Agrees.put (agrees : s.Agrees h n) (name : Option String) (m : Metadata) :
    (s.put name m).1.Agrees (h.settle n (m.kind, name) m) (n + 1) where
  values k := by
    rw [lookup?_put agrees.nodup, agrees.values]
    by_cases target : k = (m.kind, name) <;> simp [KeyRecord.settle, target]
  present k := by
    rw [keys_put agrees.nodup]
    by_cases target : k = (m.kind, name)
    · subst target
      split <;> simp_all [KeyRecord.settle]
    · split <;> simp [KeyRecord.settle, target, agrees.present]
  ordered := by
    rw [keys_put agrees.nodup]
    split
    · exact agrees.ordered.imp KeyRecord.Earlier.settle
    · rename_i absent
      -- the new key takes position `n`, after every position so far
      have fresh : h (m.kind, name) = none := by
        simpa using mt (agrees.present (m.kind, name)).mpr absent
      refine List.pairwise_append.mpr ⟨agrees.ordered.imp KeyRecord.Earlier.settle,
        List.pairwise_singleton _ _, fun a member b added => ?_⟩
      rw [List.mem_singleton.mp added]
      obtain ⟨⟨j, v⟩, had⟩ := Option.isSome_iff_exists.mp ((agrees.present a).mp member)
      obtain ⟨v', settled⟩ : ∃ w, h.settle n (m.kind, name) m a = some (j, w) :=
        KeyRecord.settle_of_some had
      exact ⟨j, v', n, m, settled, KeyRecord.settle_of_none fresh, agrees.early a j v had⟩
  early k i v settled := by
    unfold KeyRecord.settle at settled
    split at settled
    · rename_i target
      subst target
      cases had : h (m.kind, name) with
      | none =>
        simp only [had, Option.map_none, Option.getD_none, Option.some.injEq, Prod.mk.injEq]
          at settled
        omega
      | some old =>
        simp only [had, Option.map_some, Option.getD_some, Option.some.injEq, Prod.mk.injEq]
          at settled
        have := agrees.early _ old.1 old.2 had
        omega
    · exact Nat.lt_succ_of_lt (agrees.early k i v settled)

theorem Agrees.remove (agrees : s.Agrees h n) (kind : MetadataKind) :
    (s.remove kind).1.Agrees (h.clear (kind, none)) (n + 1) where
  values k := by
    rw [lookup?_remove agrees.nodup, agrees.values]
    by_cases target : k = (kind, none) <;> simp [KeyRecord.clear, target]
  present k := by
    rw [keys_remove agrees.nodup, List.mem_filter, agrees.present]
    by_cases target : k = (kind, none) <;> simp [KeyRecord.clear, target]
  ordered := by
    rw [keys_remove agrees.nodup]
    refine (agrees.ordered.filter _).imp_of_mem fun aMember bMember earlier => ?_
    exact earlier.clear (by simpa using (List.mem_filter.mp aMember).2)
      (by simpa using (List.mem_filter.mp bMember).2)
  early k i v cleared := by
    unfold KeyRecord.clear at cleared
    split at cleared
    · cases cleared
    · exact Nat.lt_succ_of_lt (agrees.early k i v cleared)

-- A configure is a set of the value the record holds for its key, changed.
theorem Agrees.apply (agrees : s.Agrees h n) : ∀ op : StoreOp,
    (op.apply s).Agrees (op.touch n h) (n + 1)
  | .set name m => agrees.put name m
  | .remove kind => agrees.remove kind
  | .configure T default f => by
    have current : s.lookup? T.kind none = (h (T.kind, none)).map (·.2) :=
      agrees.values (T.kind, none)
    have put := agrees.put none (T.wrap (f ((((h (T.kind, none)).map (·.2)).bind T.unwrap?).getD
      default)))
    rw [T.wrap_kind] at put
    rw [StoreOp.apply, configure_eq, current]
    exact put

/-- Every history of operations leaves a store that agrees with what the history says of its
keys. -/
theorem agrees_after (ops : List StoreOp) :
    (MetadataStore.after ops).Agrees (keyHistory ops) ops.length := by
  induction ops using List.reverseRecOn with
  | nil => exact agrees_empty
  | append_singleton ops op agrees =>
    rw [after_append_single, keyHistory_append_single, List.length_append, List.length_singleton]
    exact agrees.apply op

theorem Agrees.all (agrees : s.Agrees h n) (kind : MetadataKind) :
    s.all kind = (s.keys.filter (·.1 = kind)).filterMap fun k => (h k).map (·.2) := by
  rw [all_eq_lookups s agrees.nodup]
  simp only [agrees.values]

end MetadataStore

namespace StoreOp

/-- The key an operation sets, configures or removes. -/
def key : StoreOp → MetadataKey
  | set name m => (m.kind, name)
  | remove kind => (kind, none)
  | configure T _ _ => (T.kind, none)

theorem touch_other {op : StoreOp} {k : MetadataKey} (other : k ≠ op.key) (i : Nat)
    (h : KeyRecord) : op.touch i h k = h k := by
  cases op <;> simp_all [touch, key, KeyRecord.settle, KeyRecord.clear]

end StoreOp

-- By induction on the later operations: none of them reads or writes the record of `k`.
theorem keyHistory_untouched (k : MetadataKey) :
    ∀ (later : List StoreOp) (i : Nat) (h : KeyRecord), (∀ op ∈ later, k ≠ op.key) →
      (later.zipIdx i).foldl (fun h step => step.1.touch step.2 h) h k = h k
  | [], _, _, _ => rfl
  | op :: later, i, h, untouched => by
    rw [List.zipIdx_cons, List.foldl_cons,
      keyHistory_untouched k later (i + 1) _ fun o member => untouched o (List.mem_cons_of_mem _ member)]
    exact StoreOp.touch_other (untouched op List.mem_cons_self) i h

/-- The last operation on a key decides what the history says of it. -/
theorem keyHistory_last (before : List StoreOp) (op : StoreOp) (later : List StoreOp)
    (untouched : ∀ o ∈ later, op.key ≠ o.key) :
    keyHistory (before ++ op :: later) op.key =
      op.touch before.length (keyHistory before) op.key := by
  rw [← List.singleton_append, ← List.append_assoc, keyHistory, List.zipIdx_append,
    List.foldl_append, keyHistory_untouched _ later _ _ untouched, ← keyHistory,
    keyHistory_append_single]

namespace PropertyBuilder

/-- Attaches pieces of metadata one after another. -/
def attachAll (b : PropertyBuilder) (calls : List (Option String × Metadata)) : PropertyBuilder :=
  calls.foldl (fun b call => b.attach call.1 call.2) b

@[simp] theorem attachAll_nil (b : PropertyBuilder) : b.attachAll [] = b := rfl

@[simp] theorem attachAll_cons (b : PropertyBuilder) (call : Option String × Metadata)
    (calls : List (Option String × Metadata)) :
    b.attachAll (call :: calls) = (b.attach call.1 call.2).attachAll calls := rfl

theorem attachAll_append (b : PropertyBuilder) (calls more : List (Option String × Metadata)) :
    b.attachAll (calls ++ more) = (b.attachAll calls).attachAll more := by
  simp [attachAll]

variable {b : PropertyBuilder}

-- After a failed check every call leaves the builder as it is.
theorem attachAll_of_failed {e : SchemaError} (failed : b.error = some e) :
    ∀ calls, b.attachAll calls = b
  | [] => rfl
  | call :: calls => by
    have kept : b.attach call.1 call.2 = b := by simp [attach, failed]
    rw [attachAll_cons, kept, attachAll_of_failed failed calls]

-- By induction on the calls, the builder's metadata growing by one call at a time.
theorem attachAll_of_passing (fresh : b.error = none) (calls : List (Option String × Metadata))
    (passing : ∀ c ∈ calls, c.2.check b.name b.type = .ok ()) :
    b.attachAll calls =
      { b with metadata := (calls.map fun c => StoreOp.set c.1 c.2).foldl StoreOp.apply b.metadata } := by
  induction calls generalizing b with
  | nil => rfl
  | cons call calls ih =>
    have attached : b.attach call.1 call.2 =
        { b with metadata := (b.metadata.put call.1 call.2).1 } := by
      simp [attach, fresh, passing call List.mem_cons_self]
    rw [attachAll_cons, attached,
      ih (b := { b with metadata := (b.metadata.put call.1 call.2).1 }) fresh
        fun c member => passing c (List.mem_cons_of_mem _ member)]
    rfl

end PropertyBuilder

/-- A metadata store after any history of operations has one entry per key, for exactly the
keys the history gives a value, ordered by the operation since which each has had its value;
`get?`, `getNamed?` and `all` read the values the history gives, and the last operation on a key
decides its value. A builder answers the first failed check of its metadata calls, whatever
follows it; with none, it builds the property whose store the calls build in order. -/
theorem store_and_builder_follow_their_calls :
    (∀ ops : List StoreOp,
      (MetadataStore.after ops).keys.Nodup ∧
      (∀ k, k ∈ (MetadataStore.after ops).keys ↔ (keyHistory ops k).isSome) ∧
      (MetadataStore.after ops).keys.Pairwise (keyHistory ops).Earlier ∧
      (∀ kind, (MetadataStore.after ops).get? kind = (keyHistory ops (kind, none)).map (·.2)) ∧
      (∀ kind name, (MetadataStore.after ops).getNamed? kind name =
        (keyHistory ops (kind, some name)).map (·.2)) ∧
      ∀ kind, (MetadataStore.after ops).all kind =
        ((MetadataStore.after ops).keys.filter (·.1 = kind)).filterMap
          fun k => (keyHistory ops k).map (·.2)) ∧
    (∀ (before : List StoreOp) (op : StoreOp) (later : List StoreOp),
      (∀ o ∈ later, op.key ≠ o.key) →
      (MetadataStore.after (before ++ op :: later)).lookup? op.key.1 op.key.2 =
        (op.touch before.length (keyHistory before) op.key).map (·.2)) ∧
    (∀ (name : String) (aliasName : Option String) (type : ValueType) (id : Nat)
      (pre : List (Option String × Metadata)) (key : Option String) (m : Metadata)
      (post : List (Option String × Metadata)) (e : SchemaError),
      (∀ c ∈ pre, c.2.check name type = .ok ()) → m.check name type = .error e →
      (({ name, aliasName, type } : PropertyBuilder).attachAll (pre ++ (key, m) :: post)).build id =
        .error e) ∧
    (∀ (name : String) (aliasName : Option String) (type : ValueType) (id : Nat)
      (calls : List (Option String × Metadata)),
      (∀ c ∈ calls, c.2.check name type = .ok ()) →
      (({ name, aliasName, type } : PropertyBuilder).attachAll calls).build id =
        .ok { id, name, aliasName, type,
              metadata := MetadataStore.after (calls.map fun c => .set c.1 c.2) }) := by
  refine ⟨fun ops => ?_, fun before op later untouched => ?_,
    fun name aliasName type id pre key m post e passing failing => ?_,
    fun name aliasName type id calls passing => ?_⟩
  · have agrees := MetadataStore.agrees_after ops
    exact ⟨agrees.nodup, agrees.present, agrees.ordered, fun kind => agrees.values (kind, none),
      fun kind name => agrees.values (kind, some name), agrees.all⟩
  · rw [(MetadataStore.agrees_after _).values, keyHistory_last before op later untouched]
  · -- the calls before pass, the failing one records its error, and the rest change nothing
    have passed := PropertyBuilder.attachAll_of_passing (b := { name, aliasName, type }) rfl pre passing
    have failed : ((({ name, aliasName, type } : PropertyBuilder).attachAll pre).attach key m).error =
        some e := by
      simp [passed, PropertyBuilder.attach, failing]
    rw [PropertyBuilder.attachAll_append, PropertyBuilder.attachAll_cons,
      PropertyBuilder.attachAll_of_failed failed, PropertyBuilder.build, failed]
  · rw [PropertyBuilder.attachAll_of_passing rfl calls passing]
    rfl

/-- A boolean property given a length and then an interval fails on the length, whatever the
interval. -/
theorem flag_keeps_length_error :
    (∀ c ∈ ([] : List (Option String × Metadata)), c.2.check "Flag" .bool = .ok ()) ∧
    (Metadata.stringLength ⟨some 1, some 2⟩).check "Flag" .bool =
      .error (.nonTextLength "Flag" "bool") ∧
    (({ name := "Flag", type := .bool } : PropertyBuilder).attachAll
      ([] ++ (none, .stringLength ⟨some 1, some 2⟩) ::
        [(none, .numericInterval { minimum := some (.zero false) })])).build 0 =
      .error (.nonTextLength "Flag" "bool") :=
  ⟨(fun _ member => nomatch member), rfl,
    store_and_builder_follow_their_calls.2.2.1 "Flag" none .bool 0 [] none _ _ _
      (fun _ member => nomatch member) rfl⟩

end Schemata
