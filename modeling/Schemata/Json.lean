import Schemata.Number.Binary

/-!
JSON values: requests are read from them and answers are written as them.

A number is either an integer or a double. A number written without fraction or exponent is an
integer when it lies in the range of 64-bit integers, signed or unsigned, and is not `-0`;
every other number is a double. An object is its list of fields.
-/

namespace Schemata

inductive Json where
  | null
  | bool (b : Bool)
  | int (n : Int)
  | float (x : Binary64)
  | str (s : String)
  | arr (items : List Json)
  | obj (fields : List (String × Json))
  deriving Inhabited

namespace Json

def nat (n : Nat) : Json := .int n

/-- An optional value, `null` when absent. -/
def opt {α : Type} (f : α → Json) : Option α → Json
  | some a => f a
  | none => .null

def field? (j : Json) (key : String) : Option Json :=
  match j with
  | .obj fields => (fields.find? (·.1 == key)).map (·.2)
  | _ => none

/-- A field of an object that is present and not `null`. -/
def given? (j : Json) (key : String) : Option Json :=
  match j.field? key with
  | some .null => none
  | other => other

def str? : Json → Option String
  | .str s => some s
  | _ => none

def bool? : Json → Option Bool
  | .bool b => some b
  | _ => none

def arr? : Json → Option (List Json)
  | .arr items => some items
  | _ => none

def int? : Json → Option Int
  | .int n => some n
  | _ => none

/-- A non-negative integer number. -/
def nat? (j : Json) : Option Nat :=
  match j.int? with
  | some n => if 0 ≤ n then some n.toNat else none
  | none => none

def isNull : Json → Bool
  | .null => true
  | _ => false

end Json

end Schemata
