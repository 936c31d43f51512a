import Schemata.Service.Request
import Schemata.Rules.Provider
import Schemata.Container.Resolve
import Schemata.Validation.Predicate
import Schemata.Validation.Message

/-!
Reading the library's settings and conditions from requests: intervals, collection formats,
provider configurations, comparers, severities, search options, calculators and value tests.
Absent fields keep the library's defaults.
-/

namespace Schemata

namespace Json

def toF64 (v : Json) : Reading Binary64 :=
  match v.float? with
  | some x => .ok x
  | none => .error (.invalid ("bad float " ++ v.render))

def optF64 (j : Json) (key : String) : Reading (Option Binary64) :=
  match j.field? key with
  | none | some .null => .ok none
  | some v => some <$> v.toF64

def mark (v : Json) : Reading Char :=
  match v.str?.bind singleChar? with
  | some c => .ok c
  | none => .error (.invalid ("expected one char, got " ++ v.render))

/-- A one-character text field, `null` for none; absent keeps `default`. -/
def optMark (j : Json) (key : String) (default : Option Char) : Reading (Option Char) :=
  match j.field? key with
  | none => .ok default
  | some .null => .ok none
  | some v => some <$> v.mark

/-- The number of nodes of a JSON value, a bound on how deeply it nests. -/
def weight : Json → Nat
  | .arr items => weightItems items + 1
  | .obj fields => weightFields fields + 1
  | _ => 1
where
  weightItems : List Json → Nat
    | [] => 0
    | j :: rest => weight j + weightItems rest
  weightFields : List (String × Json) → Nat
    | [] => 0
    | (_, j) :: rest => weight j + weightFields rest

end Json

/-- A numeric interval from its JSON form. Fields of anything but an object are absent, and
a bound's exclusivity is read only when the bound is given. -/
def readInterval (j : Json) : Reading NumericInterval := do
  let minimum ← j.optF64 "min"
  let exclusiveMinimum ← if minimum.isSome then j.flag "min_exclusive" false else pure false
  let maximum ← j.optF64 "max"
  let exclusiveMaximum ← if maximum.isSome then j.flag "max_exclusive" false else pure false
  return { minimum, exclusiveMinimum, maximum, exclusiveMaximum }

def readLength (j : Json) : Reading StringLength := do
  return { min := ← j.optNat "min", max := ← j.optNat "max" }

def readFormat (j : Json) : Reading CollectionFormat := do
  let d : CollectionFormat := {}
  let openMark ← j.optMark "open" d.openMark
  let closeMark ← j.optMark "close" d.closeMark
  let separators ← match j.field? "separators" with
    | none => pure d.separators
    | some v => (← Json.listAt "separators" v).mapM Json.mark
  return { openMark, closeMark, separators,
           splitOnBlanks := ← j.flag "split_on_whitespace" d.splitOnBlanks }

def readComparer (j : Json) : Reading Comparer :=
  match j.str?.bind Comparer.ofName? with
  | some c => .ok c
  | none => .error (.unknown "comparer" j)

def Json.optComparer (j : Json) (key : String) : Reading (Option Comparer) :=
  match j.field? key with
  | none => .ok none
  | some v => some <$> readComparer v

def readConfig (j : Json) : Reading ProviderConfig := do
  let d : ProviderConfig := {}
  let comparer := (← j.optComparer "comparer").getD d.comparer
  let enumFallback ← j.flag "enum_fallback" d.enumFallback
  let nullableFallback ← j.flag "nullable_fallback" d.nullableFallback
  let collectionFallback ← j.flag "collection_fallback" d.collectionFallback
  let untargetedFallback ← j.flag "untargeted_fallback" d.untargetedFallback
  let format ← match j.field? "format" with
    | none | some .null => pure d.format
    | some f => readFormat f
  return { comparer, format, enumFallback, nullableFallback, collectionFallback,
           untargetedFallback }

def readSeverity (j : Json) : Reading Severity :=
  match j.str?.bind Severity.ofName? with
  | some s => .ok s
  | none => .error (.unknown "severity" j)

def readPreset (j : Json) : Reading SearchOptions :=
  match j with
  | .str "DEFAULT" => .ok .standard
  | .str "EXISTING_ONLY" => .ok .existingOnly
  | _ => .error (.unknown "options preset" j)

/-- Search options: a preset by name, or a preset with some choices changed; anything else
given, or nothing, is the standard preset. -/
def readOptions : Option Json → Reading SearchOptions
  | some (.str name) => readPreset (.str name)
  | some (.obj fields) => do
    let j := Json.obj fields
    let base ← match j.field? "base" with
      | none | some .null => pure .standard
      | some name => readPreset name
    return { searchInParent := ← j.flag "search_in_parent" base.searchInParent,
             calculateValue := ← j.flag "calculate_value" base.calculateValue,
             useDefaultValue := ← j.flag "use_default_value" base.useDefaultValue,
             returnNotDefined := ← j.flag "return_not_defined" base.returnNotDefined,
             comparer := (← j.optComparer "comparer").getD base.comparer }
  | _ => .ok .standard

/-- The first field of an object in the order of its keys, the order objects keep. -/
def Json.firstField? : Json → Option (String × Json)
  | .obj fields =>
    fields.foldl (fun best field => match best with
      | some b => if field.1 < b.1 then some field else some b
      | none => some field) none
  | _ => none

def readBound (v : Json) : Reading Binary64 :=
  match v.float? with
  | some x => .ok x
  | none => .error (.invalid ("bad number " ++ v.render))

def readTestLength (v : Json) : Reading Nat :=
  match v.nat? with
  | some n => .ok n
  | none => .error (.invalid ("bad length " ++ v.render))

def readTestList : Json → Reading (List Json)
  | .arr items => .ok items
  | _ => .error (.invalid "expected list")

/-- A value test from its JSON form, nested at most `fuel` deep: `true`, `false`, or an object
read by its first field. -/
def readValueTest : Nat → Json → Reading ValueTest
  | 0, _ => .error (.invalid "predicate nests too deeply")
  | _ + 1, .bool b => .ok (.constant b)
  | fuel + 1, j@(.obj _) =>
    match j.firstField? with
    | none => .error (.invalid "empty predicate")
    | some (key, v) =>
      match key with
      | "gt" => (.compare .greater ·) <$> readBound v
      | "ge" => (.compare .atLeast ·) <$> readBound v
      | "lt" => (.compare .less ·) <$> readBound v
      | "le" => (.compare .atMost ·) <$> readBound v
      | "eq" => .ok (.equal v)
      | "ne" => .ok (.differs v)
      | "in" => .oneOf <$> readTestList v
      | "len_ge" => .lengthAtLeast <$> readTestLength v
      | "len_le" => .lengthAtMost <$> readTestLength v
      | "not" => .not <$> readValueTest fuel v
      | "all" => do .all <$> (← readTestList v).mapM (readValueTest fuel)
      | "any" => do .any <$> (← readTestList v).mapM (readValueTest fuel)
      | other => .error (.unknownName "predicate" other)
  | _ + 1, j => .error (.invalid ("bad predicate " ++ j.render))

/-- A calculator of a property of type `t` from its JSON form: the first of `const`, `ref`,
`add` and `concat` it gives. -/
def readCalculator (t : ValueType) (j : Json) : Reading Calculator := do
  if let some v := j.field? "const" then return .const (← decodeValue t v)
  if (j.field? "ref").isSome then return .ref (← j.needStr "ref")
  if let some v := j.field? "add" then
    match v with
    | .arr (.str id :: amount :: _) => return .add id (← amount.toF64)
    | _ => throw (.invalid "add: [property, number]")
  if let some v := j.field? "concat" then
    let parts ← Json.listAt "concat" v
    return .concat (← parts.mapM fun part => match part with
      | .str text => pure (.literal text)
      | other => .ref <$> other.needStr "ref")
  throw (.unknown "calculation" j)

end Schemata
