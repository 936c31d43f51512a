import Schemata.Text.Quoted

/-!
The library's errors, as causes.

Three families: errors in declaring a schema (a constraint that does not fit the property's
type, a constraint that admits nothing, rules over different properties, a repeated property
name), the error of resolving a calculated value that depends on itself, and the errors of
reading a value from text. Each error has one message (`message`), a debugging view listing
its fields (`debug`) and the name of its variant (`variant`).
-/

namespace Schemata

/-- Errors in declaring properties, rules and schemas. -/
inductive SchemaError where
  | nonNumericInterval (property typeName : String)
  | invalidInterval (property reason : String)
  | nonTextLength (property typeName : String)
  | allowedValueType (property typeName found : String)
  | defaultValueType (property typeName found : String)
  | propertyMismatch (first second : String)
  | duplicateProperty (schema property : String)
  deriving DecidableEq, Repr

/-- The error of a calculated value that depends on itself; `path` is the chain of
calculations from the outermost to the repeated property. -/
inductive ResolveError where
  | cycle (property : String) (path : List String)
  deriving DecidableEq, Repr

/-- Errors in reading a value from text. -/
inductive ParseError where
  | invalid (input typeName : String)
  | null (typeName : String)
  | unknownVariant (input typeName : String) (expected : List String)
  | typeMismatch (property expected found : String)
  deriving DecidableEq, Repr

/-- A struct-like debugging view: `Name { field: value, … }`. -/
def debugRecord (name : String) (fields : List (String × String)) : String :=
  name ++ " \x7b " ++ ", ".intercalate (fields.map fun f => f.1 ++ ": " ++ f.2) ++ " \x7d"

/-- A struct-like debugging view that hides some fields: `Name { field: value, …, .. }`. -/
def debugRecordPartial (name : String) (fields : List (String × String)) : String :=
  name ++ " \x7b " ++ String.join (fields.map fun f => f.1 ++ ": " ++ f.2 ++ ", ") ++ ".. \x7d"

/-- A list of texts in debugging view: `["a", "b"]`. -/
def debugTextList (items : List String) : String :=
  "[" ++ ", ".intercalate (items.map quoteText) ++ "]"

namespace SchemaError

def variant : SchemaError → String
  | .nonNumericInterval .. => "NonNumericInterval"
  | .invalidInterval .. => "InvalidInterval"
  | .nonTextLength .. => "NonTextLength"
  | .allowedValueType .. => "AllowedValueType"
  | .defaultValueType .. => "DefaultValueType"
  | .propertyMismatch .. => "PropertyMismatch"
  | .duplicateProperty .. => "DuplicateProperty"

def message : SchemaError → String
  | .nonNumericInterval p t =>
    "numeric interval on property '" ++ p ++ "' requires a numeric type, found " ++ t
  | .invalidInterval p r => "numeric interval on property '" ++ p ++ "' is invalid: " ++ r
  | .nonTextLength p t =>
    "length constraint on property '" ++ p ++ "' requires a text type, found " ++ t
  | .allowedValueType p t f =>
    "allowed value of type " ++ f ++ " on property '" ++ p ++ "' does not match " ++ t
  | .defaultValueType p t f =>
    "default value of type " ++ f ++ " on property '" ++ p ++ "' does not match " ++ t
  | .propertyMismatch a b => "rules target different properties: '" ++ a ++ "' and '" ++ b ++ "'"
  | .duplicateProperty s p => "schema '" ++ s ++ "' declares property '" ++ p ++ "' more than once"

def debug (e : SchemaError) : String :=
  debugRecord e.variant <| match e with
  | .nonNumericInterval p t => [("property", quoteText p), ("type_name", quoteText t)]
  | .invalidInterval p r => [("property", quoteText p), ("reason", quoteText r)]
  | .nonTextLength p t => [("property", quoteText p), ("type_name", quoteText t)]
  | .allowedValueType p t f =>
    [("property", quoteText p), ("type_name", quoteText t), ("found", quoteText f)]
  | .defaultValueType p t f =>
    [("property", quoteText p), ("type_name", quoteText t), ("found", quoteText f)]
  | .propertyMismatch a b => [("first", quoteText a), ("second", quoteText b)]
  | .duplicateProperty s p => [("schema", quoteText s), ("property", quoteText p)]

end SchemaError

namespace ResolveError

def variant : ResolveError → String
  | .cycle .. => "Cycle"

def message : ResolveError → String
  | .cycle p path => "calculated property '" ++ p ++ "' depends on itself (" ++ " -> ".intercalate path ++ ")"

def debug : ResolveError → String
  | .cycle p path => debugRecord "Cycle" [("property", quoteText p), ("path", debugTextList path)]

end ResolveError

namespace ParseError

def variant : ParseError → String
  | .invalid .. => "Invalid"
  | .null .. => "Null"
  | .unknownVariant .. => "UnknownVariant"
  | .typeMismatch .. => "TypeMismatch"

def message : ParseError → String
  | .invalid i t => "'" ++ i ++ "' is not a valid " ++ t
  | .null t => "null is not a valid " ++ t
  | .unknownVariant i t names =>
    "'" ++ i ++ "' is not a variant of " ++ t ++ "; expected one of: " ++ ", ".intercalate names
  | .typeMismatch p e f => "parser for property '" ++ p ++ "' produces " ++ f ++ ", expected " ++ e

def debug (e : ParseError) : String :=
  debugRecord e.variant <| match e with
  | .invalid i t => [("input", quoteText i), ("type_name", quoteText t)]
  | .null t => [("type_name", quoteText t)]
  | .unknownVariant i t names =>
    [("input", quoteText i), ("type_name", quoteText t), ("expected", debugTextList names)]
  | .typeMismatch p e f => [("property", quoteText p), ("expected", quoteText e), ("found", quoteText f)]

end ParseError

end Schemata
