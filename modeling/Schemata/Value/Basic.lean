import Schemata.Number.Binary
import Schemata.Value.Type

/-!
Values of the vocabulary's types.

Every value knows its type (`Value.type`): a nullable value and a collection carry the type of
what they hold, so that `None` and the empty collection have one. Equality of values
(`Value.sameAs`) is equality of the type's values: floats compare as IEEE 754 numbers (a NaN
equals nothing, the zeros are equal), nullable values and collections compare what they hold.
Sorted collections order their elements by `Value.precedes` and drop repeats.
-/

namespace Schemata

inductive Value where
  | bool (b : Bool)
  | char (c : Char)
  | int (t : IntType) (n : Int)
  | float32 (x : Binary32)
  | float64 (x : Binary64)
  | text (s : String)
  | enum (e : EnumType) (index : Nat)
  | tag (n : Int)
  | meters (x : Binary32)
  | label (s : String)
  | nullable (inner : ValueType) (held : Option Value)
  | collection (shape : CollectionShape) (element : ValueType) (items : List Value)
  deriving Inhabited

namespace Value

def type : Value → ValueType
  | .bool _ => .bool
  | .char _ => .char
  | .int t _ => .int t
  | .float32 _ => .float .f32
  | .float64 _ => .float .f64
  | .text _ => .text
  | .enum e _ => .enum e
  | .tag _ => .tag
  | .meters _ => .meters
  | .label _ => .label
  | .nullable inner _ => .nullable inner
  | .collection shape element _ => .collection shape element

/-- Equality of values of one type: IEEE 754 equality on floats, structural elsewhere. -/
def sameAs : Value → Value → Bool
  | .bool a, .bool b => a == b
  | .char a, .char b => a == b
  | .int s a, .int t b => s == t && a == b
  | .float32 a, .float32 b => a.sameValue b
  | .float64 a, .float64 b => a.sameValue b
  | .text a, .text b => a == b
  | .enum e i, .enum f j => e == f && i == j
  | .tag a, .tag b => a == b
  | .meters a, .meters b => a.sameValue b
  | .label a, .label b => a == b
  | .nullable s none, .nullable t none => s == t
  | .nullable s (some a), .nullable t (some b) => s == t && sameAs a b
  | .collection s e as, .collection t f bs => s == t && e == f && sameItems as bs
  | _, _ => false
where
  sameItems : List Value → List Value → Bool
    | [], [] => true
    | a :: as, b :: bs => sameAs a b && sameItems as bs
    | _, _ => false

/-- Order of the elements of sorted collections: numbers by value, texts and characters by code
point, enumeration values by declaration, `false` before `true`, absent before present, and
collections lexicographically. -/
def precedes : Value → Value → Bool
  | .bool a, .bool b => !a && b
  | .char a, .char b => a < b
  | .int _ a, .int _ b => a < b
  | .float32 a, .float32 b => a.lt b
  | .float64 a, .float64 b => a.lt b
  | .text a, .text b => decide (a < b)
  | .enum _ i, .enum _ j => i < j
  | .tag a, .tag b => a < b
  | .meters a, .meters b => a.lt b
  | .label a, .label b => decide (a < b)
  | .nullable _ none, .nullable _ (some _) => true
  | .nullable _ (some a), .nullable _ (some b) => precedes a b
  | .collection _ _ as, .collection _ _ bs => precedesItems as bs
  | _, _ => false
where
  precedesItems : List Value → List Value → Bool
    | [], _ :: _ => true
    | a :: as, b :: bs => precedes a b || (sameAs a b && precedesItems as bs)
    | _, _ => false

/-- Inserts into a sorted list without repeats, keeping the one already there. -/
def insertSorted (v : Value) : List Value → List Value
  | [] => [v]
  | w :: rest =>
    if sameAs v w then w :: rest
    else if precedes v w then v :: w :: rest
    else w :: insertSorted v rest

def sortedSet (items : List Value) : List Value :=
  items.foldl (fun acc v => insertSorted v acc) []

/-- A collection of `shape` holding `items`, sorted and without repeats for sorted shapes. -/
def collect (shape : CollectionShape) (element : ValueType) (items : List Value) : Value :=
  .collection shape element (if shape.sorted then sortedSet items else items)

end Value

namespace ValueType

/-- The zero value of a type: `false`, NUL, 0, `+0.0`, empty text, the first value of an
enumeration, `None` and the empty collection. -/
def zero : ValueType → Value
  | .bool => .bool false
  | .char => .char '\x00'
  | .int t => .int t 0
  | .float .f32 => .float32 (.zero false)
  | .float .f64 => .float64 (.zero false)
  | .text => .text ""
  | .enum e => .enum e 0
  | .tag => .tag 0
  | .meters => .meters (.zero false)
  | .label => .label ""
  | .nullable inner => .nullable inner none
  | .collection shape element => .collection shape element []

def admits (t : ValueType) (v : Value) : Bool := v.type == t

/-- Equality of two values as values of this type: values of another type are never equal. -/
def valuesEqual (t : ValueType) (a b : Value) : Bool := t.admits a && t.admits b && a.sameAs b

def isZero (t : ValueType) (v : Value) : Bool := t.valuesEqual v t.zero

/-- Whether a value is the `None` of this nullable type. A value of another type counts as
`None`, since nothing can be found inside it. -/
def isNull (t : ValueType) (v : Value) : Bool :=
  match t with
  | .nullable _ =>
    match v with
    | .nullable _ (some _) => !t.admits v
    | _ => true
  | _ => false

end ValueType

end Schemata
