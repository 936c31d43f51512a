import Schemata.Value.Json
import Schemata.Json.Render
import Schemata.Error

/-!
Requests: reading what a JSON request asks for.

A request that cannot be read (a missing field, an unknown operation or type, an id that names
nothing) is answered with a request error instead of running anything. Types are named in the
vocabulary's notation (`Option<Vec<i32>>`); only the types of the vocabulary are known.
-/

namespace Schemata

inductive RequestError where
  | missingField (name : String)
  /-- A value that names nothing of some sort (`container`, `comparer`, …), as it was given. -/
  | unknown (sort : String) (given : Json)
  | invalid (message : String)

namespace RequestError

def unknownName (sort name : String) : RequestError := .unknown sort (.str name)

def unknownOp (name : String) : RequestError := unknownName "op" name

def unknownStep (name : String) : RequestError := unknownName "step" name

def unknownType (name : String) : RequestError := unknownName "type" name

def message : RequestError → String
  | .missingField n => "missing field \"" ++ n ++ "\""
  | .unknown sort given => "unknown " ++ sort ++ " " ++ given.render
  | .invalid m => m

end RequestError

abbrev Reading := Except RequestError

/-- The answer to an error of the library: its family and variant, and its message. -/
def errorAnswer (family variant message : String) : Json :=
  .obj [("error", .str (family ++ "::" ++ variant)), ("message", .str message)]

def SchemaError.toJson (e : SchemaError) : Json := errorAnswer "SchemaError" e.variant e.message

def ResolveError.toJson (e : ResolveError) : Json := errorAnswer "ResolveError" e.variant e.message

def ParseError.toJson (e : ParseError) : Json := errorAnswer "ParseError" e.variant e.message

def RequestError.toJson (e : RequestError) : Json :=
  .obj [("error", .str "driver"), ("message", .str e.message)]

namespace Json

def need (j : Json) (key : String) : Reading Json :=
  match j.field? key with
  | some v => .ok v
  | none => .error (.missingField key)

def needStr (j : Json) (key : String) : Reading String := do
  match ← j.need key with
  | .str s => pure s
  | _ => throw (.invalid ("field \"" ++ key ++ "\" must be a string"))

def optStr (j : Json) (key : String) : Reading (Option String) :=
  match j.field? key with
  | none | some .null => .ok none
  | some (.str s) => .ok (some s)
  | some _ => .error (.invalid ("field \"" ++ key ++ "\" must be a string"))

/-- An optional truth-value field; `null` is absent. -/
def optBool (j : Json) (key : String) : Reading (Option Bool) :=
  match j.field? key with
  | none | some .null => .ok none
  | some (.bool b) => .ok (some b)
  | some _ => .error (.invalid ("field \"" ++ key ++ "\" must be a bool"))

def flag (j : Json) (key : String) (default : Bool) : Reading Bool :=
  (j.optBool key).map (·.getD default)

/-- A count: a non-negative JSON integer. -/
def count (v : Json) : Reading Nat :=
  match v.nat? with
  | some n => .ok n
  | none => .error (.invalid ("expected non-negative integer, got " ++ v.render))

def optNat (j : Json) (key : String) : Reading (Option Nat) :=
  match j.field? key with
  | none | some .null => .ok none
  | some v => some <$> count v

def listAt (key : String) : Json → Reading (List Json)
  | .arr items => .ok items
  | _ => .error (.invalid (key ++ " must be a list"))

def needArr (j : Json) (key : String) : Reading (List Json) := do
  listAt key (← j.need key)

/-- An optional list field: absent is empty, and anything else given, `null` too, must be a
list. -/
def optArr (j : Json) (key : String) : Reading (List Json) :=
  match j.field? key with
  | none => .ok []
  | some v => listAt key v

end Json

def namedType? : String → Option ValueType
  | "bool" => some .bool
  | "char" => some .char
  | "String" => some .text
  | "f32" => some (.float .f32)
  | "f64" => some (.float .f64)
  | "Tag" => some .tag
  | "Meters" => some .meters
  | "Label" => some .label
  | name => ((EnumType.named.find? (·.name == name)).map .enum).or
      ((IntType.all.find? (·.name == name)).map .int)

def namedConstructor? : String → Option (ValueType → ValueType)
  | "Option" => some .nullable
  | "Vec" => some (.collection .vec)
  | "VecDeque" => some (.collection .vecDeque)
  | "LinkedList" => some (.collection .linkedList)
  | "BTreeSet" => some (.collection .btreeSet)
  | _ => none

/-- Reads a type name from the front of `cs`, returning the rest. -/
def readTypeName : Nat → List Char → Option (ValueType × List Char)
  | 0, _ => none
  | fuel + 1, cs =>
    let name := String.ofList (cs.takeWhile fun c => c.isAlphanum || c == '_')
    let rest := cs.dropWhile fun c => c.isAlphanum || c == '_'
    match rest with
    | '<' :: more =>
      match namedConstructor? name, readTypeName fuel more with
      | some make, some (inner, '>' :: after) => some (make inner, after)
      | _, _ => none
    | _ => (namedType? name).map (·, rest)

/-- The types of the vocabulary that stand alone or inside `Option` and `Vec`. -/
def isBaseType : ValueType → Bool
  | .bool | .char | .int _ | .float _ | .text | .enum _ | .tag => true
  | _ => false

def isVocabularyType : ValueType → Bool
  | .meters | .label => true
  | .nullable .meters | .collection .vec .meters | .nullable .label => true
  | .nullable t => isBaseType t || t == .collection .vec (.int .i32) ||
      t == .nullable (.int .i32) || t == .nullable (.enum .color) || t == .nullable .text ||
      t == .collection .btreeSet (.int .u8)
  | .collection .vec t => isBaseType t || t == .nullable (.int .i64) ||
      t == .nullable (.enum .color) || t == .nullable .text || t == .collection .vec (.int .i32) ||
      t == .collection .btreeSet (.int .u8)
  | .collection .vecDeque t => t == .int .i32 || t == .text
  | .collection .linkedList t => t == .text || t == .bool
  | .collection .btreeSet t => t == .int .u8 || t == .int .i32 || t == .text || t == .enum .color
  | t => isBaseType t

def parseTypeName (name : String) : Reading ValueType :=
  match readTypeName (name.length + 1) name.toList with
  | some (t, []) => if isVocabularyType t then .ok t else .error (.unknownType name)
  | _ => .error (.unknownType name)

namespace Json

def needType (j : Json) (key : String) : Reading ValueType := do
  parseTypeName (← j.needStr key)

def optType (j : Json) (key : String) : Reading (Option ValueType) := do
  match ← j.optStr key with
  | some name => some <$> parseTypeName name
  | none => pure none

end Json

def decodeValue (t : ValueType) (j : Json) : Reading Value :=
  match t.decode j with
  | .ok v => .ok v
  | .error why => .error (.invalid why)

end Schemata
