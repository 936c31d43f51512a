import Schemata.Json
import Schemata.Number.Text

/-!
Writing JSON text.

Values are written without blanks. A string escapes the quote, the backslash and the control
characters (`\n`, `\t` and the like by name, the others as `\u00XX`), and keeps every other
character as it is. A double is written in the JSON number layout, and as `null` when it is
NaN or infinite, since JSON has no number for those.
-/

namespace Schemata

/-- A hexadecimal digit in lower case. -/
def lowerHexDigit (n : Nat) : Char :=
  if n < 10 then Char.ofNat ('0'.toNat + n) else Char.ofNat ('a'.toNat + n - 10)

/-- The text of one character inside a JSON string. -/
def jsonCharText (c : Char) : String :=
  match c with
  | '"' => "\\\""
  | '\\' => "\\\\"
  | '\n' => "\\n"
  | '\r' => "\\r"
  | '\t' => "\\t"
  | _ =>
    if c.toNat = 8 then "\\b"
    else if c.toNat = 12 then "\\f"
    else if c.toNat < 0x20 then
      "\\u00" ++ String.ofList [lowerHexDigit (c.toNat / 16), lowerHexDigit (c.toNat % 16)]
    else String.singleton c

/-- A string as a JSON string literal. -/
def jsonStringText (s : String) : String :=
  "\"" ++ String.join (s.toList.map jsonCharText) ++ "\""

namespace Json

/-- The compact JSON text of a value. -/
def render : Json → String
  | .null => "null"
  | .bool b => if b then "true" else "false"
  | .int n => toString n
  | .float x => if x.isNaN || x.isInfinite then "null" else FloatLayout.jsonNumber.render x
  | .str s => jsonStringText s
  | .arr items => "[" ++ renderItems items ++ "]"
  | .obj fields => "\x7b" ++ renderFields fields ++ "\x7d"
where
  renderItems : List Json → String
    | [] => ""
    | [x] => render x
    | x :: rest => render x ++ "," ++ renderItems rest
  renderFields : List (String × Json) → String
    | [] => ""
    | [(k, v)] => jsonStringText k ++ ":" ++ render v
    | (k, v) :: rest => jsonStringText k ++ ":" ++ render v ++ "," ++ renderFields rest

end Json

end Schemata
