import Schemata.Container.Basic

/-!
Updates at the first matching place.

A container sets or removes the value of an identity at the first place that holds the
identity, and a metadata store does the same with the entry of a key. The first place a test
accepts splits a list into the part before it, which the test rejects throughout, the element
there, and the rest. Where the rest holds no other match, as in every container and store with
one entry per key, the update at the first place is the update of every match.
-/

namespace Schemata

section FirstMatch

variable {α : Type} {p : α → Bool}

theorem findIdx?_eq_some_split {l : List α} {i : Nat} (found : l.findIdx? p = some i) :
    ∃ pre a post, l = pre ++ a :: post ∧ pre.length = i ∧ p a = true ∧
      ∀ x ∈ pre, p x = false := by
  induction l generalizing i with
  | nil => cases found
  | cons b rest ih =>
    rw [List.findIdx?_cons] at found
    by_cases hit : p b = true
    · rw [if_pos hit] at found
      cases found
      exact ⟨[], b, rest, rfl, rfl, hit, by simp⟩
    · rw [if_neg hit] at found
      obtain ⟨j, later, rfl⟩ := Option.map_eq_some_iff.mp found
      obtain ⟨pre, a, post, split, length, matched, before⟩ := ih later
      refine ⟨b :: pre, a, post, by rw [split]; rfl, by simp [length], matched, ?_⟩
      intro x member
      rcases List.mem_cons.mp member with rfl | inPre
      · simpa using hit
      · exact before x inPre

theorem set_split (pre post : List α) (a x : α) :
    (pre ++ a :: post).set pre.length x = pre ++ x :: post := by
  simp

theorem modify_split (pre post : List α) (a : α) (f : α → α) :
    (pre ++ a :: post).modify pre.length f = pre ++ f a :: post := by
  induction pre with
  | nil => exact List.modify_zero_cons f a post
  | cons b rest ih => rw [List.cons_append, List.length_cons, List.modify_succ_cons, ih]; rfl

theorem eraseIdx_split (pre post : List α) (a : α) :
    (pre ++ a :: post).eraseIdx pre.length = pre ++ post := by
  rw [List.eraseIdx_append_of_length_le (Nat.le_refl _), Nat.sub_self, List.eraseIdx_cons_zero]

section OnlyMatch

variable {pre post : List α} {a : α} (before : ∀ x ∈ pre, p x = false) (matched : p a = true)
  (after : ∀ x ∈ post, p x = false)
include before matched after

-- The only match is the one at the first place, so updating it is updating every match.
theorem update_split_eq_map (f : α → α) :
    pre ++ f a :: post = (pre ++ a :: post).map fun y => if p y then f y else y := by
  have keepsPre : pre.map (fun y => if p y then f y else y) = pre :=
    List.map_congr_left (fun y member => by rw [before y member, if_neg Bool.false_ne_true])
      |>.trans (List.map_id' pre)
  have keepsPost : post.map (fun y => if p y then f y else y) = post :=
    List.map_congr_left (fun y member => by rw [after y member, if_neg Bool.false_ne_true])
      |>.trans (List.map_id' post)
  rw [List.map_append, List.map_cons, keepsPre, keepsPost, if_pos matched]

theorem eraseIdx_split_eq_filter :
    pre ++ post = (pre ++ a :: post).filter fun y => !p y := by
  have keepsPre : pre.filter (fun y => !p y) = pre := List.filter_eq_self.mpr (by simpa using before)
  have keepsPost : post.filter (fun y => !p y) = post := List.filter_eq_self.mpr (by simpa using after)
  rw [List.filter_append, List.filter_cons_of_neg (by simp [matched]), keepsPre, keepsPost]

end OnlyMatch

/-- With distinct keys, no element after the first of a key has that key. -/
theorem after_of_nodup {β : Type} {key : α → β} {pre post : List α} {a : α}
    (distinct : ((pre ++ a :: post).map key).Nodup) : ∀ x ∈ post, key x ≠ key a := by
  intro x member same
  rw [List.map_append, List.map_cons] at distinct
  have tail := (List.nodup_cons.mp (List.nodup_append.mp distinct).2.1).1
  exact tail (same ▸ List.mem_map_of_mem member)

end FirstMatch

namespace Container

variable {c : Container}

theorem position_eq_none {p : Property} :
    c.position p = none ↔ c.values.any (·.property.id == p.id) = false := by
  simp [position, List.findIdx?_eq_none_iff]

theorem setValue_of_absent {v : PropertyValue}
    (absent : c.values.any (·.property.id == v.property.id) = false) :
    (c.setValue v).values = c.values ++ [v] := by
  rw [setValue, position_eq_none.mpr absent]

section Distinct

variable (distinct : (c.values.map (·.property.id)).Nodup)
include distinct

-- With one value per identity, nothing after the first value of an identity has it.
theorem after_first {pre post : List PropertyValue} {a : PropertyValue} {k : Nat}
    (split : c.values = pre ++ a :: post) (keyed : (a.property.id == k) = true) :
    ∀ w ∈ post, (w.property.id == k) = false := by
  have apart : ((pre ++ a :: post).map (·.property.id)).Nodup := split ▸ distinct
  intro w member
  exact beq_eq_false_iff_ne.mpr (beq_iff_eq.mp keyed ▸ after_of_nodup apart w member)

/-- In a container with one value per identity, setting a value replaces every value of its
identity, or adds it at the end. -/
theorem setValue_of_nodup (v : PropertyValue) :
    (c.setValue v).values = if c.values.any (·.property.id == v.property.id) then
        c.values.map fun w => if w.property.id == v.property.id then v else w
      else c.values ++ [v] := by
  cases found : c.position v.property with
  | none =>
    have absent := position_eq_none.mp found
    rw [setValue_of_absent absent, if_neg (by simp [absent])]
  | some i =>
    obtain ⟨pre, a, post, split, rfl, matched, before⟩ := findIdx?_eq_some_split found
    have after := after_first distinct split matched
    rw [setValue, found, if_pos (List.any_eq_true.mpr ⟨a, by simp [split], matched⟩)]
    simp only [split, set_split]
    exact update_split_eq_map before matched after fun _ => v

/-- In a container with one value per identity, removing drops every value of the identity. -/
theorem remove_of_nodup (p : Property) :
    (c.remove p).values = c.values.filter (·.property.id != p.id) := by
  cases found : c.position p with
  | none =>
    have absent := position_eq_none.mp found
    rw [remove, found]
    exact (List.filter_eq_self.mpr (by simpa using absent)).symm
  | some i =>
    obtain ⟨pre, a, post, split, rfl, matched, before⟩ := findIdx?_eq_some_split found
    have after := after_first distinct split matched
    rw [remove, found]
    simp only [split, eraseIdx_split]
    exact eraseIdx_split_eq_filter before matched after

end Distinct

end Container

end Schemata
