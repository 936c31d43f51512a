import Schemata.Proofs.Rounding
import Schemata.Value.Text

/-!
The values of a type, and values with their NaNs made quiet.

`Value.OfType` says which values a type has, as its constructors build them: a sorted collection
holds its elements increasing and without repeats. Replacing each NaN by the quiet NaN keeps a
value's type, and the sorted set of an increasing list is the list itself when the order goes
one way only.
-/

namespace Schemata

namespace BinaryFloat

variable {fmt : BinaryFormat}

/-- The datum itself, or the quiet NaN for a NaN. -/
def quiet (x : BinaryFloat fmt) : BinaryFloat fmt := if x.isNaN then nan else x

theorem quiet_of_isNaN {x : BinaryFloat fmt} (number : x.isNaN = false) : x.quiet = x := by
  simp [quiet, number]

-- The comparisons hold between data that are no NaN, as their keys compare.
theorem lt_iff {x y : BinaryFloat fmt} :
    x.lt y = true ↔ x.isNaN = false ∧ y.isNaN = false ∧ x.orderKey < y.orderKey := by
  simp [lt, and_assoc]

theorem le_iff {x y : BinaryFloat fmt} :
    x.le y = true ↔ x.isNaN = false ∧ y.isNaN = false ∧ x.orderKey ≤ y.orderKey := by
  simp [le, and_assoc]

theorem sameValue_iff {x y : BinaryFloat fmt} :
    x.sameValue y = true ↔ x.isNaN = false ∧ y.isNaN = false ∧ x.orderKey = y.orderKey := by
  simp [sameValue, and_assoc]

-- An ordered pair of data holds no NaN, and the order goes one way only.
theorem lt_operands {x y : BinaryFloat fmt} (less : x.lt y = true) :
    x.isNaN = false ∧ y.isNaN = false ∧ x.orderKey < y.orderKey :=
  lt_iff.mp less

theorem lt_asymm {x y : BinaryFloat fmt} (less : x.lt y = true) :
    y.lt x = false ∧ y.sameValue x = false := by
  obtain ⟨-, -, keys⟩ := lt_operands less
  constructor
  · simp only [lt, Bool.and_eq_false_iff, decide_eq_false_iff_not]
    exact .inr (by omega)
  · simp only [sameValue, Bool.and_eq_false_iff, beq_eq_false_iff_ne]
    exact .inr (by omega)

theorem quiet_wellFormed {x : BinaryFloat fmt}
    (nanFits : (nan : BinaryFloat fmt).WellFormed) (hx : x.WellFormed) :
    x.quiet.WellFormed := by
  unfold quiet
  split
  · exact nanFits
  · exact hx

end BinaryFloat

namespace Value

/-- The value with each NaN it holds replaced by the quiet NaN. -/
def quietNaNs : Value → Value
  | .float32 x => .float32 x.quiet
  | .float64 x => .float64 x.quiet
  | .meters x => .meters x.quiet
  | .nullable inner (some v) => .nullable inner (some v.quietNaNs)
  | .collection shape element items => .collection shape element (quietItems items)
  | v => v
where
  quietItems : List Value → List Value
    | [] => []
    | v :: rest => quietNaNs v :: quietItems rest

@[simp] theorem quietItems_eq (items : List Value) :
    quietNaNs.quietItems items = items.map quietNaNs := by
  induction items with
  | nil => rfl
  | cons v rest ih => rw [quietNaNs.quietItems, ih, List.map_cons]

@[simp] theorem type_quietNaNs (v : Value) : v.quietNaNs.type = v.type := by
  cases v with
  | nullable inner held => cases held <;> rfl
  | _ => rfl

/-- The values of a type: integers within the type's range, floats and lengths of the format's
width, enumeration values at the position of a name, tags within 64 bits, and collections of
values of the element type, increasing and without repeats for the sorted shape. -/
inductive OfType : Value → ValueType → Prop where
  | bool (b : Bool) : OfType (.bool b) .bool
  | char (c : Char) : OfType (.char c) .char
  | int {t : IntType} {n : ℤ} : t.contains n = true → OfType (.int t n) (.int t)
  | float32 {x : Binary32} : x.WellFormed → OfType (.float32 x) (.float .f32)
  | float64 {x : Binary64} : x.WellFormed → OfType (.float64 x) (.float .f64)
  | text (s : String) : OfType (.text s) .text
  | enum {e : EnumType} {index : ℕ} : index < e.valueNames.length →
      OfType (.enum e index) (.enum e)
  | tag {n : ℤ} : IntType.i64.contains n = true → OfType (.tag n) .tag
  | meters {x : Binary32} : x.WellFormed → OfType (.meters x) .meters
  | label (s : String) : OfType (.label s) .label
  | none (inner : ValueType) : OfType (.nullable inner none) (.nullable inner)
  | some {inner : ValueType} {v : Value} : OfType v inner →
      OfType (.nullable inner (some v)) (.nullable inner)
  | collection {shape : CollectionShape} {element : ValueType} {items : List Value} :
      (∀ v ∈ items, OfType v element) →
      (shape.sorted = true → items.Pairwise fun a b => a.precedes b = true) →
      OfType (.collection shape element items) (.collection shape element)

theorem OfType.type_eq {v : Value} {t : ValueType} (typed : v.OfType t) : v.type = t := by
  cases typed <;> rfl

theorem OfType.format_eq {v : Value} {t : ValueType} (typed : v.OfType t) :
    t.format v = v.format := by
  simp [ValueType.format, ValueType.admits, typed.type_eq]

theorem insertSorted_of_later {v : Value} {acc : List Value}
    (later : ∀ w ∈ acc, v.sameAs w = false ∧ v.precedes w = false) :
    insertSorted v acc = acc ++ [v] := by
  induction acc with
  | nil => rfl
  | cons w rest ih =>
    obtain ⟨different, after⟩ := later w List.mem_cons_self
    rw [insertSorted, if_neg (by simp [different]), if_neg (by simp [after]),
      ih fun u member => later u (List.mem_cons_of_mem w member), List.cons_append]

theorem foldl_insertSorted {acc rest : List Value}
    (increasing : (acc ++ rest).Pairwise fun a b => a.precedes b = true)
    (asymm : ∀ a ∈ acc ++ rest, ∀ b ∈ acc ++ rest, a.precedes b = true →
      b.precedes a = false ∧ b.sameAs a = false) :
    rest.foldl (fun acc v => insertSorted v acc) acc = acc ++ rest := by
  -- on the values still to insert: each comes after all of those already in
  induction rest generalizing acc with
  | nil => simp
  | cons v rest ih =>
    have inserted : v ∈ acc ++ v :: rest := List.mem_append_right acc List.mem_cons_self
    have later : ∀ w ∈ acc, v.sameAs w = false ∧ v.precedes w = false := by
      intro w member
      have before : w.precedes v = true :=
        (List.pairwise_append.mp increasing).2.2 w member v List.mem_cons_self
      obtain ⟨after, different⟩ := asymm w (List.mem_append_left _ member) v inserted before
      exact ⟨different, after⟩
    have shape : acc ++ [v] ++ rest = acc ++ v :: rest := by simp
    rw [List.foldl_cons, insertSorted_of_later later, ih (shape ▸ increasing) (shape ▸ asymm),
      shape]

theorem sortedSet_of_increasing {items : List Value}
    (increasing : items.Pairwise fun a b => a.precedes b = true)
    (asymm : ∀ a ∈ items, ∀ b ∈ items, a.precedes b = true →
      b.precedes a = false ∧ b.sameAs a = false) :
    sortedSet items = items :=
  @foldl_insertSorted [] items increasing asymm

end Value

end Schemata
