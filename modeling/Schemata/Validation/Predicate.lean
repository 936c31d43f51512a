import Schemata.Value.Json

/-!
Tests of a value by its JSON form, the conditions of predicate rules.

Numeric comparisons read the value as a double (a JSON number, or text that reads as one) and
fail when it is not a number; the bound is a double already. Equality is equality of JSON
values: an integer never equals a double, and doubles are equal as IEEE 754 values. A length
is the number of characters of a text or of items of an array, and zero for anything else.
-/

namespace Schemata

/-- Structural equality of JSON values. -/
def Json.beq : Json → Json → Bool
  | .null, .null => true
  | .bool a, .bool b => a == b
  | .int m, .int n => m == n
  | .float x, .float y => x.sameValue y
  | .str a, .str b => a == b
  | .arr xs, .arr ys => beqItems xs ys
  | .obj xs, .obj ys => beqFields xs ys
  | _, _ => false
where
  beqItems : List Json → List Json → Bool
    | [], [] => true
    | x :: xs, y :: ys => Json.beq x y && beqItems xs ys
    | _, _ => false
  beqFields : List (String × Json) → List (String × Json) → Bool
    | [], [] => true
    | (k, x) :: xs, (l, y) :: ys => k == l && Json.beq x y && beqFields xs ys
    | _, _ => false

instance : BEq Json := ⟨Json.beq⟩

/-- The length of a JSON value: characters of a text, items of an array, else zero. -/
def Json.size : Json → Nat
  | .str s => s.length
  | .arr items => items.length
  | _ => 0

/-- A comparison of a number with a bound. -/
inductive Comparison where
  | greater
  | atLeast
  | less
  | atMost
  deriving DecidableEq, Repr

namespace Comparison

/-- Whether `x` compares so with `bound`; never when either is NaN. -/
def holds (c : Comparison) (x bound : Binary64) : Bool :=
  match c with
  | .greater => bound.lt x
  | .atLeast => bound.le x
  | .less => x.lt bound
  | .atMost => x.le bound

end Comparison

/-- A test of a value's JSON form. -/
inductive ValueTest where
  | constant (b : Bool)
  | compare (c : Comparison) (bound : Binary64)
  | equal (j : Json)
  | differs (j : Json)
  | oneOf (js : List Json)
  | lengthAtLeast (n : Nat)
  | lengthAtMost (n : Nat)
  | not (t : ValueTest)
  | all (ts : List ValueTest)
  | any (ts : List ValueTest)

namespace ValueTest

/-- Whether a JSON value passes the test. -/
def holds : ValueTest → Json → Bool
  | .constant b, _ => b
  | .compare c bound, j =>
    match (Json.float? j : Option Binary64) with
    | some x => c.holds x bound
    | none => false
  | .equal k, j => j == k
  | .differs k, j => j != k
  | .oneOf ks, j => ks.any (j == ·)
  | .lengthAtLeast n, j => decide (n ≤ j.size)
  | .lengthAtMost n, j => decide (j.size ≤ n)
  | .not t, j => !holds t j
  | .all ts, j => holdsAll ts j
  | .any ts, j => holdsAny ts j
where
  holdsAll : List ValueTest → Json → Bool
    | [], _ => true
    | t :: ts, j => holds t j && holdsAll ts j
  holdsAny : List ValueTest → Json → Bool
    | [], _ => false
    | t :: ts, j => holds t j || holdsAny ts j

end ValueTest

end Schemata
