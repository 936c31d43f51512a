import Schemata.Text.Quoted

/-!
Value types: the vocabulary of types whose values properties hold.

A value type is a scalar (truth value, character, machine integer, binary float, text), an
enumeration with its name and variants, one of three wrapper types (an opaque tag, a length in meters, a label), a
nullable type around another type, or a collection of elements of another type. Every type
has a short name (`Option<i32>`) and a full name with module paths
(`core::option::Option<i32>`), and falls into one of eight kinds.
-/

namespace Schemata

-- Arithmetic elaborates with the core instances, whatever else is imported.
attribute [local instance (high)] instPowNat

inductive IntType where
  | i8 | i16 | i32 | i64 | i128 | isize
  | u8 | u16 | u32 | u64 | u128 | usize
  deriving DecidableEq, Repr, Inhabited

namespace IntType

def name : IntType → String
  | .i8 => "i8" | .i16 => "i16" | .i32 => "i32" | .i64 => "i64" | .i128 => "i128"
  | .isize => "isize" | .u8 => "u8" | .u16 => "u16" | .u32 => "u32" | .u64 => "u64"
  | .u128 => "u128" | .usize => "usize"

def signed : IntType → Bool
  | .i8 | .i16 | .i32 | .i64 | .i128 | .isize => true
  | _ => false

/-- Width in bits; pointer-sized integers have 64. -/
def bits : IntType → Nat
  | .i8 | .u8 => 8
  | .i16 | .u16 => 16
  | .i32 | .u32 => 32
  | .i64 | .u64 | .isize | .usize => 64
  | .i128 | .u128 => 128

def min (t : IntType) : Int := if t.signed then -((2 ^ (t.bits - 1) : Nat) : Int) else 0

def max (t : IntType) : Int :=
  if t.signed then ((2 ^ (t.bits - 1) - 1 : Nat) : Int) else ((2 ^ t.bits - 1 : Nat) : Int)

def contains (t : IntType) (n : Int) : Bool := decide (t.min ≤ n) && decide (n ≤ t.max)

/-- Types wider than 32 bits, whose values JSON carries as decimal text. -/
def wide (t : IntType) : Bool := 32 < t.bits

/-- All integer types, in the order the standard parsers list them. -/
def all : List IntType := [.i8, .i16, .i32, .i64, .i128, .isize, .u8, .u16, .u32, .u64, .u128, .usize]

end IntType

inductive FloatType where
  | f32
  | f64
  deriving DecidableEq, Repr

namespace FloatType

def name : FloatType → String
  | .f32 => "f32"
  | .f64 => "f64"

end FloatType

/-- An enumeration: its name and the variants it lists, in declaration order. -/
structure EnumType where
  name : String
  variants : List String
  deriving DecidableEq, Repr

namespace EnumType

def color : EnumType := ⟨"Color", ["Red", "Green", "Blue"]⟩

def sex : EnumType := ⟨"Sex", ["Male", "Female"]⟩

-- A sharp s, a titlecase digraph, a dotted capital I, a final sigma and the Kelvin sign: names
-- on which case mapping goes beyond ASCII.
def letter : EnumType :=
  ⟨"Letter", ["Stra\u00dfe", "\u01c5emal", "\u0130stanbul", "\u039f\u0394\u039f\u03a3", "\u212aelvin"]⟩

/-- An enumeration that lists no variants; its one value is `Nothing`. -/
def noVariants : EnumType := ⟨"NoVariants", []⟩

def named : List EnumType := [color, sex, letter, noVariants]

/-- Names of the values, by position: the variants, or `Nothing` when none are listed. -/
def valueNames (e : EnumType) : List String :=
  if e.variants.isEmpty then ["Nothing"] else e.variants

def valueName (e : EnumType) (index : Nat) : String := e.valueNames.getD index ""

/-- Position of the value with exactly this name. -/
def indexOf? (e : EnumType) (name : String) : Option Nat := e.valueNames.idxOf? name

end EnumType

inductive CollectionShape where
  | vec
  | vecDeque
  | linkedList
  | btreeSet
  deriving DecidableEq, Repr

namespace CollectionShape

def name : CollectionShape → String
  | .vec => "Vec"
  | .vecDeque => "VecDeque"
  | .linkedList => "LinkedList"
  | .btreeSet => "BTreeSet"

def path : CollectionShape → String
  | .vec => "alloc::vec::"
  | .vecDeque => "alloc::collections::vec_deque::"
  | .linkedList => "alloc::collections::linked_list::"
  | .btreeSet => "alloc::collections::btree::set::"

/-- Whether the collection keeps its elements sorted and without repeats. -/
def sorted : CollectionShape → Bool
  | .btreeSet => true
  | _ => false

end CollectionShape

inductive ValueType where
  | bool
  | char
  | int (t : IntType)
  | float (t : FloatType)
  | text
  | enum (e : EnumType)
  /-- An opaque tag around a 64-bit integer. -/
  | tag
  /-- A length in meters: a number around a single-precision float. -/
  | meters
  /-- A label: text around a text. -/
  | label
  | nullable (inner : ValueType)
  | collection (shape : CollectionShape) (element : ValueType)
  deriving DecidableEq, Repr, Inhabited

inductive ValueKind where
  | bool | char | number | text | enum | nullable | collection | other
  deriving DecidableEq, Repr

namespace ValueKind

def name : ValueKind → String
  | .bool => "Bool" | .char => "Char" | .number => "Number" | .text => "Text"
  | .enum => "Enum" | .nullable => "Nullable" | .collection => "Collection" | .other => "Other"

end ValueKind

namespace ValueType

def kind : ValueType → ValueKind
  | .bool => .bool
  | .char => .char
  | .int _ | .float _ | .meters => .number
  | .text | .label => .text
  | .enum _ => .enum
  | .tag => .other
  | .nullable _ => .nullable
  | .collection _ _ => .collection

def shortName : ValueType → String
  | .bool => "bool"
  | .char => "char"
  | .int t => t.name
  | .float t => t.name
  | .text => "String"
  | .enum e => e.name
  | .tag => "Tag"
  | .meters => "Meters"
  | .label => "Label"
  | .nullable inner => "Option<" ++ inner.shortName ++ ">"
  | .collection shape element => shape.name ++ "<" ++ element.shortName ++ ">"

def localPath : String := "driver::types::"

def fullName : ValueType → String
  | .bool => "bool"
  | .char => "char"
  | .int t => t.name
  | .float t => t.name
  | .text => "alloc::string::String"
  | .enum e => localPath ++ e.name
  | .tag => localPath ++ "Tag"
  | .meters => localPath ++ "Meters"
  | .label => localPath ++ "Label"
  | .nullable inner => "core::option::Option<" ++ inner.fullName ++ ">"
  | .collection shape element => shape.path ++ shape.name ++ "<" ++ element.fullName ++ ">"

def isEnum (t : ValueType) : Bool := t.kind == .enum

def isNullable (t : ValueType) : Bool := t.kind == .nullable

def isText (t : ValueType) : Bool := t.kind == .text

/-- Text, or nullable text (one level only). -/
def isTextual : ValueType → Bool
  | .nullable inner => inner.isText
  | t => t.isText

/-- Numbers, and nullable numeric types at any depth. -/
def isNumeric : ValueType → Bool
  | .nullable inner => inner.isNumeric
  | t => t.kind == .number

def integral : ValueType → Bool
  | .int _ => true
  | _ => false

def variants : ValueType → List String
  | .enum e => e.variants
  | _ => []

def debug (t : ValueType) : String :=
  "ValueType \x7b name: " ++ quoteText t.fullName ++ ", kind: " ++ t.kind.name ++ ", .. \x7d"

/-- The debugging view of what the kind knows of the type: whether numbers are integral, the
names of an enumeration, the type inside a nullable type or a collection. -/
def kindDebug? : ValueType → Option String
  | .int _ => some "NumberKind \x7b integral: true, .. \x7d"
  | .float _ | .meters => some "NumberKind \x7b integral: false, .. \x7d"
  | .text | .label => some "TextKind \x7b .. \x7d"
  | .enum e => some ("EnumKind \x7b names: [" ++ ", ".intercalate (e.variants.map quoteText) ++ "], .. \x7d")
  | .nullable inner => some ("NullableKind \x7b inner: " ++ quoteText inner.fullName ++ ", .. \x7d")
  | .collection _ element => some ("CollectionKind \x7b element: " ++ quoteText element.fullName ++ ", .. \x7d")
  | _ => none

end ValueType

end Schemata
