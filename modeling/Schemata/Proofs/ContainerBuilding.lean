import Schemata.Proofs.Positions

/-!
Containers built call by call, against a declarative account of their values.

A builder call changes the values by setting one, by removing an identity's value, or not at
all (a parent or metadata). Read as a log of such changes, the values a builder ends with are
`settled`: the values set and not removed by a later change survive, and each identity among
them stands where its first surviving value was set, with the value of its last. This is what
setting in place or at the end, and removing, do one change at a time. So a builder that starts
from a container with one value per identity, as every built container has, ends with one
value per identity, in the order of the first sets since the last removal, each from its last
set; and `from_values` keeps the first position and the last value of every identity.
-/

namespace Schemata

section EraseDups

variable {α : Type} [BEq α] [LawfulBEq α]

theorem nodup_eraseDups : ∀ l : List α, l.eraseDups.Nodup
  | [] => List.nodup_nil
  | a :: rest => by
    rw [List.eraseDups_cons]
    refine List.nodup_cons.mpr ⟨fun member => ?_, nodup_eraseDups _⟩
    simp [List.mem_eraseDups, List.mem_filter] at member
termination_by l => l.length
decreasing_by exact Nat.lt_succ_of_le (List.length_filter_le _ _)

-- Dropping later repeats and filtering commute: a filter keeps or drops all copies alike.
theorem eraseDups_filter (p : α → Bool) :
    ∀ l : List α, (l.filter p).eraseDups = l.eraseDups.filter p
  | [] => rfl
  | a :: rest => by
    have later := eraseDups_filter p (rest.filter fun b => !b == a)
    rw [List.eraseDups_cons]
    by_cases kept : p a = true
    · rw [List.filter_cons_of_pos kept, List.eraseDups_cons, List.filter_cons_of_pos kept,
        ← later, List.filter_filter, List.filter_filter]
      simp only [Bool.and_comm]
    · rw [List.filter_cons_of_neg kept, List.filter_cons_of_neg kept, ← later,
        List.filter_filter]
      congr 1
      apply List.filter_congr
      intro b _
      by_cases same : b = a
      · simp [same, kept]
      · simp [same]
termination_by l => l.length
decreasing_by exact Nat.lt_succ_of_le (List.length_filter_le _ _)

theorem eraseDups_concat (l : List α) (a : α) :
    (l ++ [a]).eraseDups = if a ∈ l then l.eraseDups else l.eraseDups ++ [a] := by
  rw [List.eraseDups_append]
  by_cases present : a ∈ l <;> simp [List.removeAll, List.eraseDups_cons, present]

end EraseDups

namespace Container

/-- What a builder call does to the values: set a value, or remove an identity's value. -/
inductive Change where
  | set (v : PropertyValue)
  | remove (id : Nat)

/-- Whether the change removes the value of identity `k`. -/
def Change.removes (k : Nat) : Change → Bool
  | .remove id => id == k
  | .set _ => false

/-- The values set and not removed by a later change, in order. -/
def survivors : List Change → List PropertyValue
  | [] => []
  | .set v :: rest =>
    if rest.any (Change.removes v.property.id) then survivors rest else v :: survivors rest
  | .remove _ :: rest => survivors rest

/-- The last of the values of identity `k`. -/
def lastValueOf (values : List PropertyValue) (k : Nat) : Option PropertyValue :=
  (values.filter (·.property.id == k)).getLast?

/-- The values a log of changes leaves: every identity set since its last removal, where it
was first set since then, with the value it was last set to. -/
def settled (log : List Change) : List PropertyValue :=
  ((survivors log).map (·.property.id)).eraseDups.filterMap (lastValueOf (survivors log))

/-- A call on a container builder: `set` and `set_value`, `remove`, `extend`, `with_parent`,
`without_parent` and `metadata`. -/
inductive BuilderOp where
  | setValue (v : PropertyValue)
  | remove (p : Property)
  | extend (vs : List PropertyValue)
  | withParent (parent : Container)
  | withoutParent
  | metadata (m : Metadata)

/-- The container after a builder call. -/
def apply (c : Container) : BuilderOp → Container
  | .setValue v => c.setValue v
  | .remove p => c.remove p
  | .extend vs => c.extend vs
  | .withParent parent => { c with parent := some parent }
  | .withoutParent => { c with parent := none }
  | .metadata m => { c with metadata := c.metadata.set m }

/-- The changes a builder call makes to the values. -/
def BuilderOp.changes : BuilderOp → List Change
  | .setValue v => [.set v]
  | .remove p => [.remove p.id]
  | .extend vs => vs.map .set
  | .withParent _ | .withoutParent | .metadata _ => []

section Survivors

theorem survivors_append_set (log : List Change) (v : PropertyValue) :
    survivors (log ++ [.set v]) = survivors log ++ [v] := by
  induction log with
  | nil => simp [survivors]
  | cons change rest ih =>
    cases change with
    | set w => simp [survivors, ih, List.any_append, Change.removes]; split <;> rfl
    | remove k => simp [survivors, ih]

theorem survivors_append_remove (log : List Change) (k : Nat) :
    survivors (log ++ [.remove k]) = (survivors log).filter (·.property.id != k) := by
  induction log with
  | nil => rfl
  | cons change rest ih =>
    cases change with
    | remove j => simp [survivors, ih]
    | set w =>
      simp only [survivors, List.cons_append, List.any_append, List.any_cons, List.any_nil,
        Change.removes, Bool.or_false, ih]
      by_cases removed : rest.any (Change.removes w.property.id) = true
      · simp [removed]
      · by_cases same : k = w.property.id
        · simp [removed, same]
        · simp [removed, same, Ne.symm same]

theorem survivors_sets (vs : List PropertyValue) : survivors (vs.map .set) = vs := by
  induction vs with
  | nil => rfl
  | cons v rest ih => simp [survivors, ih, Change.removes]

end Survivors

section LastValue

variable {values : List PropertyValue}

theorem lastValueOf_concat (v : PropertyValue) (k : Nat) :
    lastValueOf (values ++ [v]) k =
      if v.property.id == k then some v else lastValueOf values k := by
  unfold lastValueOf
  by_cases same : v.property.id == k <;> simp [List.filter_append, same]

theorem lastValueOf_filter {k k' : Nat} (other : k' ≠ k) :
    lastValueOf (values.filter (·.property.id != k)) k' = lastValueOf values k' := by
  unfold lastValueOf
  rw [List.filter_filter]
  congr 1
  apply List.filter_congr
  intro w _
  by_cases same : w.property.id = k'
  · simp [same, other]
  · simp [same]

-- An identity among the values has a last value, of that identity.
theorem lastValueOf_of_mem {k : Nat} (present : k ∈ values.map (·.property.id)) :
    ∃ w, lastValueOf values k = some w ∧ w.property.id = k := by
  obtain ⟨w, member, rfl⟩ := List.mem_map.mp present
  have nonempty : values.filter (·.property.id == w.property.id) ≠ [] :=
    List.ne_nil_of_mem (List.mem_filter.mpr ⟨member, by simp⟩)
  obtain ⟨last, found⟩ := Option.isSome_iff_exists.mp (List.getLast?_isSome.mpr nonempty)
  refine ⟨last, found, ?_⟩
  simpa using (List.mem_filter.mp (List.mem_of_getLast? found)).2

variable {ks : List Nat} (among : ∀ k ∈ ks, k ∈ values.map (·.property.id))
include among

theorem filterMap_lastValueOf_ids :
    (ks.filterMap (lastValueOf values)).map (·.property.id) = ks := by
  induction ks with
  | nil => rfl
  | cons k rest ih =>
    obtain ⟨w, found, named⟩ := lastValueOf_of_mem (among k List.mem_cons_self)
    simp [found, named, ih fun k' member => among k' (List.mem_cons_of_mem k member)]

theorem filterMap_lastValueOf_concat (v : PropertyValue) :
    ks.filterMap (lastValueOf (values ++ [v])) =
      (ks.filterMap (lastValueOf values)).map
        fun w => if w.property.id == v.property.id then v else w := by
  induction ks with
  | nil => rfl
  | cons k rest ih =>
    obtain ⟨w, found, named⟩ := lastValueOf_of_mem (among k List.mem_cons_self)
    have tail := ih fun k' member => among k' (List.mem_cons_of_mem k member)
    rw [List.filterMap_cons, List.filterMap_cons, lastValueOf_concat, found, tail]
    by_cases same : v.property.id = k
    · simp [named, same]
    · simp [named, same, Ne.symm same]

theorem filterMap_lastValueOf_filter (k : Nat) :
    (ks.filter (· != k)).filterMap (lastValueOf (values.filter (·.property.id != k))) =
      (ks.filterMap (lastValueOf values)).filter (·.property.id != k) := by
  induction ks with
  | nil => rfl
  | cons k' rest ih =>
    obtain ⟨w, found, named⟩ := lastValueOf_of_mem (among k' List.mem_cons_self)
    have tail := ih fun k'' member => among k'' (List.mem_cons_of_mem k' member)
    by_cases same : k' = k
    · subst same
      simp [found, named, tail]
    · simp [found, named, same, lastValueOf_filter same, tail]

end LastValue

theorem settled_ids (log : List Change) :
    (settled log).map (·.property.id) = ((survivors log).map (·.property.id)).eraseDups :=
  filterMap_lastValueOf_ids fun _ member => List.mem_eraseDups.mp member

theorem settled_nodup (log : List Change) : ((settled log).map (·.property.id)).Nodup := by
  rw [settled_ids]
  exact nodup_eraseDups _

section Step

variable {c : Container} {log : List Change} (holds : c.values = settled log)
include holds

-- A set identity keeps its place and takes the new value; a new one goes to the end.
theorem setValue_settled (v : PropertyValue) :
    (c.setValue v).values = settled (log ++ [.set v]) := by
  have among : ∀ k ∈ ((survivors log).map (·.property.id)).eraseDups,
      k ∈ (survivors log).map (·.property.id) := fun _ member => List.mem_eraseDups.mp member
  have present : (settled log).any (·.property.id == v.property.id) = true ↔
      v.property.id ∈ (survivors log).map (·.property.id) := by
    rw [← List.mem_eraseDups, ← settled_ids]
    simp
  rw [setValue_of_nodup (holds ▸ settled_nodup log), holds]
  by_cases old : v.property.id ∈ (survivors log).map (·.property.id)
  · rw [if_pos (present.mpr old)]
    unfold settled
    rw [survivors_append_set, List.map_append, List.map_singleton, eraseDups_concat, if_pos old,
      filterMap_lastValueOf_concat among]
  · have fresh : ∀ w ∈ settled log, (w.property.id == v.property.id) = false := by
      simpa using mt present.mp old
    rw [if_neg (mt present.mp old)]
    have unchanged : (settled log).map (fun w => if w.property.id == v.property.id then v else w) =
        settled log := by
      rw [List.map_congr_left fun w member => by rw [fresh w member, if_neg Bool.false_ne_true],
        List.map_id']
    unfold settled at unchanged ⊢
    rw [survivors_append_set, List.map_append, List.map_singleton, eraseDups_concat, if_neg old,
      List.filterMap_append, filterMap_lastValueOf_concat among, unchanged]
    simp [lastValueOf_concat]

-- Removing deletes the identity's value and leaves the order of the others.
theorem remove_settled (p : Property) :
    (c.remove p).values = settled (log ++ [.remove p.id]) := by
  have among : ∀ k ∈ ((survivors log).map (·.property.id)).eraseDups,
      k ∈ (survivors log).map (·.property.id) := fun _ member => List.mem_eraseDups.mp member
  have keys : ((survivors log).filter (·.property.id != p.id)).map (·.property.id) =
      ((survivors log).map (·.property.id)).filter (· != p.id) := by
    rw [List.filter_map]
    rfl
  unfold settled
  rw [survivors_append_remove, keys, eraseDups_filter, filterMap_lastValueOf_filter among]
  rw [remove_of_nodup (holds ▸ settled_nodup log), holds]
  rfl

theorem extend_settled (vs : List PropertyValue) :
    (c.extend vs).values = settled (log ++ vs.map .set) := by
  induction vs generalizing c log with
  | nil => simpa [extend] using holds
  | cons v rest ih =>
    have regrouped : log ++ (v :: rest).map .set = (log ++ [.set v]) ++ rest.map .set := by simp
    rw [regrouped]
    exact ih (setValue_settled holds v)

theorem apply_settled (op : BuilderOp) : (c.apply op).values = settled (log ++ op.changes) := by
  cases op with
  | setValue v => exact setValue_settled holds v
  | remove p => exact remove_settled holds p
  | extend vs => exact extend_settled holds vs
  | withParent | withoutParent | metadata => simpa [apply, BuilderOp.changes] using holds

theorem foldl_apply_settled (ops : List BuilderOp) :
    (ops.foldl apply c).values = settled (log ++ ops.flatMap BuilderOp.changes) := by
  induction ops generalizing c log with
  | nil => simpa using holds
  | cons op rest ih =>
    rw [List.foldl_cons, List.flatMap_cons, ← List.append_assoc]
    exact ih (apply_settled holds op)

end Step

theorem empty_settled : ({} : Container).values = settled [] := rfl

-- Values of identities not yet present are appended one after another.
theorem extend_fresh : ∀ (c : Container) (vs : List PropertyValue),
    ((c.values ++ vs).map (·.property.id)).Nodup → (c.extend vs).values = c.values ++ vs
  | c, [], _ => by simp [extend]
  | c, v :: rest, distinct => by
    have apart := (List.nodup_append.mp (List.map_append ▸ distinct)).2.2
    have absent : c.values.any (·.property.id == v.property.id) = false := by
      simp only [List.any_eq_false, beq_iff_eq]
      intro w member same
      exact apart w.property.id (List.mem_map_of_mem member) v.property.id List.mem_cons_self same
    have appended : (c.setValue v).values = c.values ++ [v] := setValue_of_absent absent
    show ((c.setValue v).extend rest).values = c.values ++ v :: rest
    rw [extend_fresh (c.setValue v) rest (by simpa [appended] using distinct), appended,
      List.append_assoc, List.singleton_append]

-- A container with one value per identity is the settled account of setting its values.
theorem settled_of_nodup (start : Container)
    (distinct : (start.values.map (·.property.id)).Nodup) :
    start.values = settled (start.values.map .set) := by
  have built := extend_settled empty_settled start.values
  rw [extend_fresh {} start.values (by simpa using distinct)] at built
  simpa using built

/-- The container builder keeps its representation invariant. Started from a container with
one value per identity, as every built container has, any sequence of builder calls ends with
one value per identity, and the values are `settled` by the changes made since the start: each
identity set since its last removal, in the order of its first set since then, with the value
of its last set. From values alone, a container keeps the first position and the last value of
every identity. -/
theorem builder_values_are_settled (start : Container)
    (distinct : (start.values.map (·.property.id)).Nodup) (ops : List BuilderOp) :
    ((ops.foldl apply start).values.map (·.property.id)).Nodup ∧
    (ops.foldl apply start).values =
      settled (start.values.map .set ++ ops.flatMap BuilderOp.changes) ∧
    ∀ vs : List PropertyValue, (({} : Container).extend vs).values =
      (vs.map (·.property.id)).eraseDups.filterMap (lastValueOf vs) := by
  have values := foldl_apply_settled (settled_of_nodup start distinct) ops
  refine ⟨by rw [values]; exact settled_nodup _, values, fun vs => ?_⟩
  rw [extend_settled empty_settled vs, List.nil_append,
    settled, survivors_sets]

/-- `A` and `B`, two `i32` properties, and values of them. -/
def propertyA : Property := { id := 0, name := "A", type := .int .i32 }

def propertyB : Property := { id := 1, name := "B", type := .int .i32 }

def valueOf (p : Property) (n : Int) : PropertyValue := ⟨p, .int .i32 n, .defined⟩

/-- `A` is set, replaced, removed and set again; `B` is set and replaced. -/
def resetRun : List BuilderOp :=
  [.setValue (valueOf propertyA 1), .setValue (valueOf propertyB 2),
   .setValue (valueOf propertyA 3), .remove propertyA, .setValue (valueOf propertyA 4),
   .setValue (valueOf propertyB 5)]

-- `B` keeps its first place with its last value; `A`, set again after its removal, follows.
theorem reset_identity_moves_to_the_end :
    ((resetRun.foldl apply {}).values.map (·.property.id)).Nodup ∧
    (resetRun.foldl apply {}).values = [valueOf propertyB 5, valueOf propertyA 4] := by
  obtain ⟨distinct, values, -⟩ := builder_values_are_settled {} List.nodup_nil resetRun
  exact ⟨distinct, values.trans rfl⟩

end Container

end Schemata
