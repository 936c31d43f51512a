import Schemata.Rules.Format
import Schemata.Value.Text
import Schemata.Number.Read
import Schemata.Text.Lowercase

/-!
Parsers: how text, or its absence, becomes a value.

The standard parser of a scalar reads its numeral, `true`/`false`, a single character, or any
text. An enumeration parser matches the trimmed text against the variant names ignoring case.
A nullable parser reads `None` from absent, blank or `null` text and hands everything else to
the parser of the inner type. A collection parser strips and splits the text by its format and
reads every piece with the element parser, failing with the first piece that fails. Two more
parsers stand for user code: one yields a fixed value for every input, one refuses every input.

Absent text is `null` and is refused by all parsers that do not expect it. A parser that gets
a value of the wrong type from the parser inside it refuses the whole text.
-/

namespace Schemata

inductive Parser where
  | standard (t : ValueType)
  /-- The names of an enumeration, or of a nullable enumeration. -/
  | enumeration (t : ValueType)
  | nullable (t : ValueType) (inner : Parser)
  | collection (t : ValueType) (element : Parser) (format : CollectionFormat)
  /-- A parser that yields `value` whatever it reads, and says it yields `declared`. -/
  | constant (declared : ValueType) (value : Value)
  /-- A parser that refuses everything, naming `label` as the type it could not read. -/
  | failing (declared : ValueType) (label : String)

/-- Whether text stands for `null`: absent, blank, or `null` in any case. -/
def isNullText : Option String → Bool
  | none => true
  | some text =>
    let t := trimBlanks text
    t.isEmpty || equalIgnoringCase t "null"

/-- The standard reading of a scalar or text type; `none` when the text is no value of it. -/
def readScalar (t : ValueType) (text : String) : Option Value :=
  match t with
  | .bool => if text == "true" then some (.bool true) else if text == "false" then some (.bool false) else none
  | .char => match text.toList with
    | [c] => some (.char c)
    | _ => none
  | .int it => (readInteger? it.signed text).bind fun n => if it.contains n then some (.int it n) else none
  | .float .f32 => (BinaryFloat.read? text).map .float32
  | .float .f64 => (BinaryFloat.read? text).map .float64
  | .text => some (.text text)
  | _ => none

def hasStandardReading : ValueType → Bool
  | .bool | .char | .int _ | .float _ | .text => true
  | _ => false

/-- The enumeration value whose name equals the trimmed text ignoring case. -/
def readVariant (e : EnumType) (text : String) : Option Value :=
  let name := trimBlanks text
  (e.variants.findIdx? fun v => equalIgnoringCase v name).map (.enum e)

namespace Parser

def valueType : Parser → ValueType
  | .standard t => t
  | .enumeration t => t
  | .nullable t _ => t
  | .collection t _ _ => t
  | .constant declared _ => declared
  | .failing declared _ => declared

def innerType : ValueType → ValueType
  | .nullable inner => inner
  | t => t

/-- The values of the pieces, or the first failure. -/
def parseAll (parse : Option String → Except ParseError Value) :
    List String → Except ParseError (List Value)
  | [] => .ok []
  | piece :: rest =>
    match parse (some piece) with
    | .error e => .error e
    | .ok v =>
      match parseAll parse rest with
      | .error e => .error e
      | .ok vs => .ok (v :: vs)

def parse : Parser → Option String → Except ParseError Value
  | .standard t, input =>
    match input with
    | none => .error (.null t.shortName)
    | some text =>
      match readScalar t text with
      | some v => .ok v
      | none => .error (.invalid text t.shortName)
  | .enumeration t, input =>
    let enumType := innerType t
    let variants := enumType.variants
    if t.isNullable && isNullText input then .ok (.nullable enumType none)
    else match input with
      | none => .error (.null t.shortName)
      | some text =>
        let found := match enumType with
          | .enum e => readVariant e text
          | _ => none
        match found with
        | none => .error (.unknownVariant text enumType.shortName variants)
        | some v => .ok (if t.isNullable then .nullable enumType (some v) else v)
  | .nullable t inner, input =>
    match input with
    | some text =>
      if isNullText input then .ok (.nullable (innerType t) none)
      else
        match inner.parse (some text) with
        | .error e => .error e
        | .ok v =>
          if v.type == innerType t then .ok (.nullable (innerType t) (some v))
          else .error (.invalid text t.shortName)
    | none => .ok (.nullable (innerType t) none)
  | .collection t element format, input =>
    match input with
    | none => .error (.null t.shortName)
    | some text =>
      match parseAll element.parse (format.split (format.strip text)) with
      | .error e => .error e
      | .ok items =>
        match t with
        | .collection shape elementType =>
          if items.all (·.type == elementType) then .ok (Value.collect shape elementType items)
          else .error (.invalid text t.shortName)
        | _ => .error (.invalid text t.shortName)
  | .constant _ value, _ => .ok value
  | .failing _ label, input =>
    match input with
    | none => .error (.null label)
    | some text => .error (.invalid text label)

def debug : Parser → String
  | .standard t => "FromStrParser(" ++ quoteText t.fullName ++ ")"
  | .enumeration t =>
    let nullableView := if t.isNullable then "Some(" ++ (t.kindDebug?.getD "") ++ ")" else "None"
    debugRecord "EnumParser"
      [("value_type", t.debug), ("kind", ((innerType t).kindDebug?).getD ""),
       ("nullable", nullableView)]
  | .nullable t inner =>
    debugRecord "NullableParser"
      [("value_type", t.debug), ("nullable", t.kindDebug?.getD ""), ("inner", debug inner)]
  | .collection t element format =>
    debugRecord "CollectionParser"
      [("value_type", t.debug), ("kind", t.kindDebug?.getD ""), ("element", debug element),
       ("format", format.debug)]
  | .constant declared value =>
    debugRecord "ConstParser"
      [("declared", declared.debug),
       ("value", debugRecordPartial "ErasedValue" [("type", quoteText value.type.fullName)])]
  | .failing declared label =>
    debugRecord "FailParser" [("declared", declared.debug), ("label", quoteText label)]

end Parser

end Schemata
