import Schemata.Trace

/-!
Reading traced computations through two projections: what a computation returns, and the
journal it leaves. Both are taken from a given journal, so a statement about a result holds for
every journal the computation may start from. The bind and pure laws below let `simp` open the
`do` blocks of the library's traced functions.

A computation ignores the journal when it returns the same from every journal: it may record
events, but reads neither them nor the counter of identities. Pure steps and events ignore it,
and so does a bind of computations that ignore it.
-/

namespace Schemata.Traced

variable {α β : Type}

/-- What a traced computation returns when started from journal `j`. -/
def result (x : Traced α) (j : Journal) : α := (x.run j).1

/-- The journal a traced computation leaves when started from journal `j`. -/
def after (x : Traced α) (j : Journal) : Journal := (x.run j).2

@[simp] theorem result_pure (a : α) (j : Journal) : (pure a : Traced α).result j = a := rfl

@[simp] theorem after_pure (a : α) (j : Journal) : (pure a : Traced α).after j = j := rfl

@[simp] theorem result_bind (x : Traced α) (f : α → Traced β) (j : Journal) :
    (x >>= f).result j = (f (x.result j)).result (x.after j) := rfl

@[simp] theorem after_bind (x : Traced α) (f : α → Traced β) (j : Journal) :
    (x >>= f).after j = (f (x.result j)).after (x.after j) := rfl

@[simp] theorem result_map (f : α → β) (x : Traced α) (j : Journal) :
    (f <$> x).result j = f (x.result j) := rfl

@[simp] theorem after_map (f : α → β) (x : Traced α) (j : Journal) :
    (f <$> x).after j = x.after j := rfl

@[simp] theorem result_emit (level : Level) (target message : String)
    (fields : List (String × String)) (j : Journal) :
    (emit level target message fields).result j = () := rfl

@[simp] theorem result_freshObject (j : Journal) : freshObject.result j = j.nextObject := rfl

/-- The computation returns the same from every journal. -/
def IgnoresJournal (x : Traced α) : Prop := ∀ j j', x.result j = x.result j'

theorem ignoresJournal_pure (a : α) : (pure a : Traced α).IgnoresJournal := fun _ _ => rfl

theorem ignoresJournal_emit (level : Level) (target message : String)
    (fields : List (String × String)) : (emit level target message fields).IgnoresJournal :=
  fun _ _ => rfl

-- The second computation starts from another journal on each side, so it must ignore the
-- journal for every value the first returns.
theorem IgnoresJournal.bind {x : Traced α} {f : α → Traced β} (first : x.IgnoresJournal)
    (rest : ∀ a, (f a).IgnoresJournal) : (x >>= f).IgnoresJournal := by
  intro j j'
  rw [result_bind, result_bind, first j j']
  exact rest _ _ _

end Schemata.Traced
