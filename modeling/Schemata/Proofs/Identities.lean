import Schemata.Property.Identity

/-!
What one identity says about the handles that hold it, over a whole run.

A declaration takes the counter's value as its identity; every other call copies the identity
of its source together with its name, alias and type. So handles of one identity agree on those
three for as long as no value of the counter is handed out twice. The counter is the number of
identities taken, wrapped to 32 bits (`counter_run`). The `2^32`-th taking is the one at
`lastIndex`: it panics with the counter already back at zero. Up to that call the identities
held are exactly the values handed out (`Numbered`); the taking after it hands out identity 0
again, which the run's first property holds (`Numbered.reissue`).
-/

namespace Schemata

theorem nextId_of_ne {counter : UInt32} (h : counter ≠ lastIndex) :
    nextId counter = (.ok counter.toNat, counter + 1) := by
  simp [nextId, h]

theorem nextId_last : nextId lastIndex = (.error "Too many properties declared", 0) := rfl

namespace Property

/-- What a declaration fixes of a property: its name, alias and type. -/
def declaration (p : Property) : String × Option String × ValueType := (p.name, p.aliasName, p.type)

theorem declaration_eq_iff {p q : Property} :
    p.declaration = q.declaration ↔
      p.name = q.name ∧ p.aliasName = q.aliasName ∧ p.type = q.type := by
  simp [declaration]

theorem attach_eq_ok {p q : Property} {name : Option String} {m : Metadata}
    (h : p.attach name m = .ok q) : q.id = p.id ∧ q.declaration = p.declaration := by
  unfold attach at h
  split at h
  · cases h
  · cases h
    exact ⟨rfl, rfl⟩

theorem declare_of_ne {name : String} {type : ValueType} {counter : UInt32}
    (h : counter ≠ lastIndex) :
    Property.declare name type counter = (.handle { id := counter.toNat, name, type }, counter + 1) := by
  rw [Property.declare, nextId_of_ne h]

end Property

theorem lastIndex_add_one : lastIndex + 1 = 0 := rfl

theorem lastIndex_toNat : lastIndex.toNat = UInt32.size - 1 := rfl

/-- The counter's value `k` read back, below `2^32`. -/
theorem toNat_ofNat_of_lt {k : Nat} (h : k < UInt32.size) : (UInt32.ofNat k).toNat = k := by
  rw [UInt32.toNat_ofNat']
  exact Nat.mod_eq_of_lt h

/-- Below `2^32`, the counter shows `lastIndex` only after `lastIndex` takings. -/
theorem ofNat_eq_lastIndex_iff {k : Nat} (h : k < UInt32.size) :
    UInt32.ofNat k = lastIndex ↔ k = lastIndex.toNat := by
  constructor
  · intro atLast
    rw [← atLast, toNat_ofNat_of_lt h]
  · intro atLast
    rw [atLast, UInt32.ofNat_toNat]

namespace Run

/-! ### What one call can do -/

/-- A call on the counter that takes one identity: it moves the counter on by one and makes a
handle under the counter's value, except at `lastIndex`, where it panics. -/
structure TakesOne (call : UInt32 → Outcome × UInt32) : Prop where
  counter : ∀ c, (call c).2 = c + 1
  handle : ∀ c, c ≠ lastIndex → ∃ p, (call c).1 = .handle p ∧ p.id = c.toNat
  panic : ∃ message, (call lastIndex).1 = .panicked message

/-- A way of deriving a handle from a source that keeps the source's identity and declaration. -/
def Keeps (f : Property → Outcome) : Prop :=
  ∀ p q, f p = .handle q → q.id = p.id ∧ q.declaration = p.declaration

theorem takesOne_declare (name : String) (type : ValueType) :
    TakesOne (Property.declare name type) where
  counter c := by
    by_cases last : c = lastIndex
    · subst last
      rfl
    · rw [Property.declare_of_ne last]
  handle c h := ⟨_, (congrArg Prod.fst (Property.declare_of_ne h)), rfl⟩
  panic := ⟨_, rfl⟩

theorem takesOne_build {b : PropertyBuilder} (h : b.error = none) : TakesOne b.declare where
  counter c := by
    by_cases last : c = lastIndex
    · simp [PropertyBuilder.declare, h, last, nextId_last, lastIndex_add_one]
    · simp [PropertyBuilder.declare, h, nextId_of_ne last]
  handle c hc := by
    have made : (b.declare c).1 = .handle
        { id := c.toNat, name := b.name, aliasName := b.aliasName, type := b.type,
          metadata := b.metadata } := by
      simp [PropertyBuilder.declare, h, nextId_of_ne hc, PropertyBuilder.build, Outcome.ofExcept]
    exact ⟨_, made, rfl⟩
  panic := ⟨"Too many properties declared", by simp [PropertyBuilder.declare, h, nextId_last]⟩

theorem keeps_attach (name : Option String) (m : Metadata) :
    Keeps fun p => .ofExcept (p.attach name m) := by
  intro p q h
  cases found : p.attach name m with
  | error e => simp [found, Outcome.ofExcept] at h
  | ok q' =>
    simp only [found, Outcome.ofExcept, Outcome.handle.injEq] at h
    subst h
    exact Property.attach_eq_ok found

-- `configure` attaches the value it computes, so it keeps what `attach` keeps.
theorem keeps_configure {α : Type} (T : MetadataType α) (default : α) (f : α → α) :
    Keeps fun p => .ofExcept (p.configure T default f) :=
  fun p q => keeps_attach none _ p q

theorem keeps_clone : Keeps .handle := by
  intro p q h
  cases h
  exact ⟨rfl, rfl⟩

section Calls

variable {r : Run}

@[simp] theorem keep_counter (o : Outcome) : (r.keep o).counter = r.counter := by
  cases o <;> rfl

theorem keep_handles (o : Outcome) :
    (r.keep o).handles = r.handles ∨ ∃ p, o = .handle p ∧ (r.keep o).handles = r.handles ++ [p] := by
  cases o with
  | handle p => exact .inr ⟨p, rfl, rfl⟩
  | refused e => exact .inl rfl
  | panicked message => exact .inl rfl

theorem take_counter {call : UInt32 → Outcome × UInt32} (h : TakesOne call) :
    (r.take call).counter = r.counter + 1 := by
  simp [take, h.counter]

theorem take_of_last {call : UInt32 → Outcome × UInt32} (h : TakesOne call)
    (last : r.counter = lastIndex) : (r.take call).handles = r.handles := by
  obtain ⟨message, panicked⟩ := h.panic
  simp [take, last, panicked, keep]

theorem take_of_ne {call : UInt32 → Outcome × UInt32} (h : TakesOne call)
    (below : r.counter ≠ lastIndex) :
    ∃ p, (r.take call).handles = r.handles ++ [p] ∧ p.id = r.counter.toNat := by
  obtain ⟨p, made, hp⟩ := h.handle r.counter below
  exact ⟨p, by simp [take, made, keep], hp⟩

theorem derive_counter (source : Nat) (f : Property → Outcome) :
    (r.derive source f).counter = r.counter := by
  unfold derive
  split <;> simp

theorem derive_handles (source : Nat) {f : Property → Outcome} (h : Keeps f) :
    (r.derive source f).handles = r.handles ∨
      ∃ p ∈ r.handles, ∃ q, (r.derive source f).handles = r.handles ++ [q] ∧
        q.id = p.id ∧ q.declaration = p.declaration := by
  unfold derive
  split
  · rename_i p found
    rcases keep_handles (r := r) (f p) with same | ⟨q, made, added⟩
    · exact .inl same
    · exact .inr ⟨p, List.mem_of_getElem? found, q, added, h p q made⟩
  · exact .inl rfl

/-- A call that takes an identity is a call on the counter that takes one. -/
theorem step_of_takesId {c : Call} (hc : c.takesId = true) :
    ∃ call, TakesOne call ∧ r.step c = r.take call := by
  cases c with
  | new name type => exact ⟨_, takesOne_declare name type, rfl⟩
  | build b =>
    have unchecked : b.error = none := by simpa [Call.takesId] using hc
    exact ⟨_, takesOne_build unchecked, rfl⟩
  | attach => cases hc
  | configure => cases hc
  | clone => cases hc

/-- A call that takes no identity changes nothing, or derives a handle that keeps its source's
identity and declaration. -/
theorem step_of_not_takesId {c : Call} (hc : c.takesId = false) :
    r.step c = r ∨ ∃ source f, Keeps f ∧ r.step c = r.derive source f := by
  cases c with
  | new => cases hc
  | build b =>
    -- a build with a failed check is refused before it reaches the counter
    have checked : b.error.isSome := by simpa [Call.takesId] using hc
    obtain ⟨e, failed⟩ := Option.isSome_iff_exists.mp checked
    left
    simp [step, take, PropertyBuilder.declare, failed, keep]
  | attach source name m => exact .inr ⟨source, _, keeps_attach name m, rfl⟩
  | configure source T default f => exact .inr ⟨source, _, keeps_configure T default f, rfl⟩
  | clone source => exact .inr ⟨source, _, keeps_clone, rfl⟩

theorem counter_step (c : Call) :
    (r.step c).counter = r.counter + if c.takesId then 1 else 0 := by
  cases hc : c.takesId with
  | true =>
    obtain ⟨call, takes, stepped⟩ := step_of_takesId (r := r) hc
    simp [stepped, take_counter takes]
  | false =>
    rcases step_of_not_takesId (r := r) hc with same | ⟨source, f, -, derived⟩
    · simp [same]
    · simp [derived, derive_counter]

theorem handles_prefix_step (c : Call) : r.handles <+: (r.step c).handles := by
  cases hc : c.takesId with
  | true =>
    obtain ⟨call, takes, stepped⟩ := step_of_takesId (r := r) hc
    rw [stepped]
    by_cases last : r.counter = lastIndex
    · simp only [take_of_last takes last, List.prefix_refl]
    · obtain ⟨p, added, -⟩ := take_of_ne takes last
      rw [added]
      exact List.prefix_append _ _
  | false =>
    rcases step_of_not_takesId (r := r) hc with same | ⟨source, f, keeps, derived⟩
    · simp only [same, List.prefix_refl]
    · rw [derived]
      rcases derive_handles (r := r) source keeps with same | ⟨-, -, q, added, -⟩
      · simp only [same, List.prefix_refl]
      · rw [added]
        exact List.prefix_append _ _

end Calls

/-! ### Whole runs -/

/-- The counter after a run is the number of identities taken, wrapped to 32 bits. -/
theorem counter_run (r : Run) (calls : List Call) :
    (r.run calls).counter = r.counter + UInt32.ofNat (idsTaken calls) := by
  induction calls generalizing r with
  | nil => simp [idsTaken]
  | cons c calls ih =>
    have taken : idsTaken (c :: calls) = idsTaken calls + if c.takesId then 1 else 0 :=
      List.countP_cons
    rw [run_cons, ih, counter_step, taken, UInt32.ofNat_add, UInt32.add_assoc]
    congr 1
    split <;> simp [UInt32.add_comm]

/-- A run never drops a handle. -/
theorem handles_prefix_run (r : Run) (calls : List Call) : r.handles <+: (r.run calls).handles := by
  induction calls generalizing r with
  | nil => exact List.prefix_refl _
  | cons c calls ih => exact (handles_prefix_step c).trans (ih (r.step c))

/-- Handles of one identity share their declaration. -/
def IdsAgree (hs : List Property) : Prop :=
  ∀ p ∈ hs, ∀ q ∈ hs, p.id = q.id → p.declaration = q.declaration

/-- A handle added to handles that agree keeps them agreeing when every handle of its identity
already shares its declaration. -/
theorem IdsAgree.append {hs : List Property} (agree : IdsAgree hs) {q : Property}
    (withNew : ∀ x ∈ hs, x.id = q.id → x.declaration = q.declaration) : IdsAgree (hs ++ [q]) := by
  intro x hx y hy ids
  simp only [List.mem_append, List.mem_singleton] at hx hy
  rcases hx with hx | rfl <;> rcases hy with hy | rfl
  · exact agree x hx y hy ids
  · exact withNew x hx ids
  · exact (withNew y hy ids.symm).symm
  · rfl

/-- A run after `k` takings of an identity, none past the `2^32`-th: the counter is `k` wrapped,
the identities held are exactly the values handed out (those below `k`, and below `lastIndex`,
which is never handed out), and handles of one identity share their declaration. -/
structure Numbered (k : Nat) (r : Run) : Prop where
  counter : r.counter = UInt32.ofNat k
  held : ∀ i, (∃ p ∈ r.handles, p.id = i) ↔ i < min k lastIndex.toNat
  agree : IdsAgree r.handles

theorem numbered_start : Numbered 0 start where
  counter := rfl
  held i := by simp [start]
  agree p hp := by simp [start] at hp

section Numbered

variable {k : Nat} {r r' : Run}

theorem exists_mem_append_singleton {hs : List Property} {q : Property} {i : Nat} :
    (∃ p ∈ hs ++ [q], p.id = i) ↔ (∃ p ∈ hs, p.id = i) ∨ q.id = i := by
  simp [or_and_right, exists_or]

/-- A copy of a handle held already changes nothing the invariant counts. -/
theorem Numbered.copy (hr : Numbered k r) {p q : Property} (hp : p ∈ r.handles)
    (same : q.id = p.id ∧ q.declaration = p.declaration)
    (hc : r'.counter = r.counter) (hh : r'.handles = r.handles ++ [q]) : Numbered k r' where
  counter := hc.trans hr.counter
  held i := by
    rw [hh, exists_mem_append_singleton, ← hr.held i]
    constructor
    · rintro (held | rfl)
      · exact held
      · exact ⟨p, hp, same.1.symm⟩
    · exact .inl
  agree := by
    rw [hh]
    -- the copy agrees with whatever its source agrees with
    refine hr.agree.append fun x hx ids => ?_
    rw [same.2]
    exact hr.agree x hx p hp (ids.trans same.1)

/-- The `k`-th taking, below `lastIndex`, adds a handle under the fresh identity `k`. -/
theorem Numbered.fresh (hr : Numbered k r) (below : k < lastIndex.toNat) {q : Property}
    (hq : q.id = k) (hc : r'.counter = r.counter + 1) (hh : r'.handles = r.handles ++ [q]) :
    Numbered (k + 1) r' where
  counter := by rw [hc, hr.counter, UInt32.ofNat_add, UInt32.ofNat_one]
  held i := by
    rw [hh, exists_mem_append_singleton, hr.held i, hq]
    omega
  agree := by
    rw [hh]
    -- no handle held before has the identity `k`
    refine hr.agree.append fun x hx same => absurd same ?_
    have := (hr.held x.id).mp ⟨x, hx, rfl⟩
    omega

/-- The taking at `lastIndex` panics: the counter wraps and no handle is added. -/
theorem Numbered.panic (hr : Numbered k r) (hk : k < UInt32.size) (last : r.counter = lastIndex)
    (hc : r'.counter = r.counter + 1) (hh : r'.handles = r.handles) : Numbered (k + 1) r' := by
  have atLast : k = lastIndex.toNat := (ofNat_eq_lastIndex_iff hk).mp (hr.counter ▸ last)
  refine ⟨?_, ?_, ?_⟩
  · rw [hc, hr.counter, UInt32.ofNat_add, UInt32.ofNat_one]
  · intro i
    rw [hh, hr.held i, atLast]
    omega
  · rw [hh]
    exact hr.agree

theorem Numbered.step_of_takesId (hr : Numbered k r) (hk : k < UInt32.size) {c : Call}
    (hc : c.takesId = true) : Numbered (k + 1) (r.step c) := by
  obtain ⟨call, takes, stepped⟩ := Run.step_of_takesId (r := r) hc
  rw [stepped]
  by_cases last : r.counter = lastIndex
  · exact hr.panic hk last (take_counter takes) (take_of_last takes last)
  · obtain ⟨q, added, hq⟩ := take_of_ne takes last
    have below : k < lastIndex.toNat := by
      have notLast : k ≠ lastIndex.toNat := fun atLast =>
        last (hr.counter.trans ((ofNat_eq_lastIndex_iff hk).mpr atLast))
      rw [lastIndex_toNat] at notLast ⊢
      omega
    exact hr.fresh below (by rw [hq, hr.counter, toNat_ofNat_of_lt hk]) (take_counter takes) added

theorem Numbered.step_of_not_takesId (hr : Numbered k r) {c : Call} (hc : c.takesId = false) :
    Numbered k (r.step c) := by
  rcases Run.step_of_not_takesId (r := r) hc with same | ⟨source, f, keeps, derived⟩
  · rwa [same]
  · rw [derived]
    rcases derive_handles (r := r) source keeps with same | ⟨p, hp, q, added, copied⟩
    · exact ⟨(derive_counter source f).trans hr.counter, same ▸ hr.held, same ▸ hr.agree⟩
    · exact hr.copy hp copied (derive_counter source f) added

/-- The invariant over a run, as long as the takings stay within `2^32`. -/
theorem Numbered.run (hr : Numbered k r) (calls : List Call)
    (hk : k + idsTaken calls ≤ UInt32.size) : Numbered (k + idsTaken calls) (r.run calls) := by
  induction calls generalizing k r with
  | nil => simpa [idsTaken] using hr
  | cons c calls ih =>
    have taken : idsTaken (c :: calls) = idsTaken calls + if c.takesId then 1 else 0 :=
      List.countP_cons
    rw [taken] at hk ⊢
    rw [run_cons]
    cases hc : c.takesId with
    | true =>
      simp only [hc, ↓reduceIte] at hk ⊢
      rw [show k + (idsTaken calls + 1) = k + 1 + idsTaken calls by omega]
      exact ih (hr.step_of_takesId (by omega) hc) (by omega)
    | false =>
      simp only [hc, Bool.false_eq_true, ↓reduceIte, Nat.add_zero] at hk ⊢
      exact ih (hr.step_of_not_takesId hc) hk

/-- After exactly `2^32` takings the counter is back at zero: the next declaration is given
identity 0, which a handle already holds. -/
theorem Numbered.reissue (hr : Numbered UInt32.size r) (name : String) (type : ValueType) :
    (∃ p ∈ r.handles, p.id = 0) ∧
      (r.step (.new name type)).handles = r.handles ++ [{ id := 0, name, type }] := by
  have zero : r.counter = 0 := by rw [hr.counter, UInt32.ofNat_size]
  refine ⟨(hr.held 0).mpr (by decide), ?_⟩
  have notLast : (0 : UInt32) ≠ lastIndex := by decide
  simp [step, take, zero, Property.declare_of_ne notLast, keep]

end Numbered

/-- Identities over every run: the counter is the number taken, wrapped to 32 bits; up to the
`2^32`-th taking (which panics, and may be caught), handles that are the same by reference have
the same name, alias and type, and so are the same by name and type; once `2^32` identities
have been taken, the next declaration is given identity 0 again, which the run already holds. -/
theorem identity_fixes_declaration_until_wrap (calls : List Call) :
    (start.run calls).counter = UInt32.ofNat (idsTaken calls) ∧
    (idsTaken calls ≤ UInt32.size →
      ∀ p ∈ (start.run calls).handles, ∀ q ∈ (start.run calls).handles,
        Comparer.same .byReference p q = true →
          (p.name = q.name ∧ p.aliasName = q.aliasName ∧ p.type = q.type) ∧
            Comparer.same .byNameAndType p q = true) ∧
    (idsTaken calls = UInt32.size → ∀ name type,
      (∃ p ∈ (start.run calls).handles, p.id = 0) ∧
        (start.run (calls ++ [.new name type])).handles =
          (start.run calls).handles ++ [{ id := 0, name, type }]) := by
  refine ⟨?_, ?_, ?_⟩
  · rw [counter_run]
    exact UInt32.zero_add _
  · intro within p hp q hq sameId
    have numbered := numbered_start.run calls (by simpa using within)
    rw [Nat.zero_add] at numbered
    have ids : p.id = q.id := by simpa [Comparer.same] using sameId
    have fields := Property.declaration_eq_iff.mp (numbered.agree p hp q hq ids)
    exact ⟨fields, by simp [Comparer.same, fields.1, fields.2.2]⟩
  · intro all name type
    have numbered := numbered_start.run calls (by omega)
    rw [Nat.zero_add, all] at numbered
    rw [run_append, run_cons, run_nil]
    exact numbered.reissue name type

/-- Declaring `A`, then `B` until the counter wraps (the last `B` panics at `lastIndex`, and the
panic is caught), then `C`: `C` is given identity 0 again, so the run holds two handles that are
the same by reference and not by name and type. -/
theorem identity_zero_reissued_after_caught_panic :
    let a : Property := { id := 0, name := "A", type := .int .i32 }
    let c : Property := { id := 0, name := "C", type := .int .i32 }
    [a, c].Sublist (start.run (.new "A" (.int .i32) ::
        List.replicate (UInt32.size - 1) (.new "B" (.int .i32)) ++ [.new "C" (.int .i32)])).handles ∧
      Comparer.same .byReference a c = true ∧ Comparer.same .byNameAndType a c = false := by
  intro a c
  have taken : idsTaken (.new "A" (.int .i32) ::
      List.replicate (UInt32.size - 1) (.new "B" (.int .i32))) = UInt32.size := by
    simp only [idsTaken, List.countP_cons, List.countP_replicate, Call.takesId, ↓reduceIte]
    rfl
  have added := ((identity_fixes_declaration_until_wrap _).2.2 taken "C" (.int .i32)).2
  -- `A` is the first handle made, and a run keeps it
  have startA : (start.step (.new "A" (.int .i32))).handles = [a] := by
    simp [step, take, start, Property.declare_of_ne (show (0 : UInt32) ≠ lastIndex by decide), keep,
      a]
  have madeA : [a].Sublist (start.run (.new "A" (.int .i32) ::
      List.replicate (UInt32.size - 1) (.new "B" (.int .i32)))).handles := by
    have kept := handles_prefix_run (start.step (.new "A" (.int .i32)))
      (List.replicate (UInt32.size - 1) (.new "B" (.int .i32)))
    rw [startA] at kept
    rw [run_cons]
    exact kept.sublist
  refine ⟨?_, by decide, by decide⟩
  rw [added]
  exact madeA.append (List.Sublist.refl [c])

end Run

end Schemata
