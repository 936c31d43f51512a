import Schemata.Json
import Schemata.Number.Read

/-!
Reading JSON text.

The reader takes one value from the text, with blanks (space, tab, line feed and carriage
return) around it, and stops at the first fault, which it reports with its place: the line,
counting from 1, and the column, the number of bytes of that line before the place. A fault
found in a character the reader has taken lies after it; a fault found by looking at the next
character lies after that one.

Numbers are read as follows. An integer written without fraction or exponent stays an integer
while it fits: up to `2 ^ 64 - 1`, or down to `-2 ^ 63` when negative. `-0` is the negative
zero double, and an integer beyond those bounds becomes a double. Any other number is the
double nearest to the decimal it writes; a decimal beyond the largest double is a fault, and
so is an exponent beyond 32-bit bounds that is positive on a non-zero significand (negative
ones make zero).

Objects keep their fields in order of first appearance, and a repeated name keeps its last
value. Lists and objects nest at most 127 deep.
-/

namespace Schemata

-- Arithmetic elaborates with the core instances, whatever else is imported.
attribute [local instance (high)] instPowNat
attribute [local instance (high)] Zero.ofOfNat0

inductive JsonFault where
  | eofWhileParsingList
  | eofWhileParsingObject
  | eofWhileParsingString
  | eofWhileParsingValue
  | expectedColon
  | expectedListCommaOrEnd
  | expectedObjectCommaOrEnd
  | expectedSomeIdent
  | expectedSomeValue
  | invalidEscape
  | invalidNumber
  | numberOutOfRange
  | controlCharacterWhileParsingString
  | keyMustBeAString
  | loneLeadingSurrogateInHexEscape
  | trailingComma
  | trailingCharacters
  | unexpectedEndOfHexEscape
  | recursionLimitExceeded
  deriving DecidableEq, Repr

namespace JsonFault

def text : JsonFault → String
  | .eofWhileParsingList => "EOF while parsing a list"
  | .eofWhileParsingObject => "EOF while parsing an object"
  | .eofWhileParsingString => "EOF while parsing a string"
  | .eofWhileParsingValue => "EOF while parsing a value"
  | .expectedColon => "expected \x60:\x60"
  | .expectedListCommaOrEnd => "expected \x60,\x60 or \x60]\x60"
  | .expectedObjectCommaOrEnd => "expected \x60,\x60 or \x60\x7d\x60"
  | .expectedSomeIdent => "expected ident"
  | .expectedSomeValue => "expected value"
  | .invalidEscape => "invalid escape"
  | .invalidNumber => "invalid number"
  | .numberOutOfRange => "number out of range"
  | .controlCharacterWhileParsingString =>
    "control character (\\u0000-\\u001F) found while parsing a string"
  | .keyMustBeAString => "key must be a string"
  | .loneLeadingSurrogateInHexEscape => "lone leading surrogate in hex escape"
  | .trailingComma => "trailing comma"
  | .trailingCharacters => "trailing characters"
  | .unexpectedEndOfHexEscape => "unexpected end of hex escape"
  | .recursionLimitExceeded => "recursion limit exceeded"

end JsonFault

/-- A fault and the byte offset of its place in the text. -/
structure JsonError where
  fault : JsonFault
  offset : Nat
  deriving Repr

/-- What is left of the text, and how many bytes were read before it. -/
structure JsonCursor where
  rest : List Char
  offset : Nat

abbrev JsonRead := StateT JsonCursor (Except JsonError)

namespace JsonRead

def peek? : JsonRead (Option Char) := do
  return (← get).rest.head?

def skip : JsonRead Unit :=
  modify fun c => match c.rest with
    | [] => c
    | ch :: rest => ⟨rest, c.offset + ch.utf8Size⟩

def next? : JsonRead (Option Char) := do
  let c ← peek?
  skip
  return c

def fail {α : Type} (fault : JsonFault) : JsonRead α := do
  throw ⟨fault, (← get).offset⟩

/-- A fault in the next character, which the reader only looked at. -/
def failAhead {α : Type} (fault : JsonFault) : JsonRead α := do
  let c ← get
  throw ⟨fault, if c.rest.isEmpty then c.offset else c.offset + 1⟩

def isBlank (c : Char) : Bool := c == ' ' || c == '\n' || c == '\t' || c == '\r'

def skipBlanks : JsonRead (Option Char) := do
  modify fun c =>
    let blanks := c.rest.takeWhile isBlank
    ⟨c.rest.drop blanks.length, c.offset + blanks.length⟩
  peek?

def word : List Char → JsonRead Unit
  | [] => pure ()
  | expected :: more => do
    match ← next? with
    | none => fail .eofWhileParsingValue
    | some c => if c == expected then word more else fail .expectedSomeIdent

def digitOf (c : Char) : Nat := c.toNat - '0'.toNat

def peekDigit? : JsonRead (Option Nat) := do
  match ← peek? with
  | some c => return if c.isDigit then some (digitOf c) else none
  | none => return none

def skipDigits : JsonRead Unit :=
  modify fun c =>
    let digits := c.rest.takeWhile Char.isDigit
    ⟨c.rest.drop digits.length, c.offset + digits.length⟩

end JsonRead

/-! ## Numbers -/

/-- The largest integer that a number without fraction or exponent stays. -/
def integerLimit : Nat := 2 ^ (64 : Nat) - 1

def exponentMax : Int := 2 ^ (31 : Nat) - 1
def exponentMin : Int := -2 ^ (31 : Nat)

def clampExponent (e : Int) : Int := max exponentMin (min exponentMax e)

def JsonRead.digits : JsonRead (List Char) := do
  let c ← get
  let ds := c.rest.takeWhile Char.isDigit
  set (⟨c.rest.drop ds.length, c.offset + ds.length⟩ : JsonCursor)
  return ds

/-- The double nearest to `± significand * 10 ^ exponent`; beyond the largest double it is a
fault. -/
def doubleOf (positive : Bool) (significand : Nat) (exponent : Int) : JsonRead Binary64 :=
  let f : Binary64 := .ofDecimal (!positive) significand exponent
  if f.isInfinite then JsonRead.fail .numberOutOfRange else pure f

/-- The digits of an exponent after its first, with the exponent so far; past the bounds of an
exponent, a positive exponent of a non-zero significand is out of range, and anything else is
zero. -/
def exponentDigits (significand : Nat) (positiveExp : Bool) :
    Nat → Int → JsonRead (Option Int)
  | 0, exp => pure (some exp)
  | fuel + 1, exp => do
    match ← JsonRead.peekDigit? with
    | none => pure (some exp)
    | some d =>
      JsonRead.skip
      if exponentMax < exp * 10 + d then
        if significand ≠ 0 ∧ positiveExp then JsonRead.fail .numberOutOfRange
        else
          JsonRead.skipDigits
          pure none
      else exponentDigits significand positiveExp fuel (exp * 10 + d)

def exponentPart (positive : Bool) (significand : Nat) (start : Int) : JsonRead Binary64 := do
  JsonRead.skip
  let positiveExp ← match ← JsonRead.peek? with
    | some '+' => do JsonRead.skip; pure true
    | some '-' => do JsonRead.skip; pure false
    | _ => pure true
  match ← JsonRead.next? with
  | none => JsonRead.fail .eofWhileParsingValue
  | some c =>
    unless c.isDigit do JsonRead.fail .invalidNumber
    let fuel := (← get).rest.length
    match ← exponentDigits significand positiveExp fuel (JsonRead.digitOf c) with
    | none => pure (BinaryFloat.zero (!positive))
    | some exp =>
      let final := if positiveExp then clampExponent (start + exp) else clampExponent (start - exp)
      doubleOf positive significand final

/-- The number after its integer digits: a fraction or exponent makes it a double; without
them it is an integer, unless it is `-0` or beyond the integers. -/
def integerEnd (positive : Bool) (significand : Nat) : JsonRead Json := do
  match ← JsonRead.peek? with
  | some '.' =>
    JsonRead.skip
    let fraction ← JsonRead.digits
    if fraction.isEmpty then
      match ← JsonRead.peek? with
      | some _ => JsonRead.failAhead .invalidNumber
      | none => JsonRead.failAhead .eofWhileParsingValue
    else
      let digits := significand * 10 ^ fraction.length + digitsValue fraction
      let exponent : Int := -(fraction.length : Int)
      match ← JsonRead.peek? with
      | some 'e' | some 'E' => .float <$> exponentPart positive digits exponent
      | _ => .float <$> doubleOf positive digits exponent
  | some 'e' | some 'E' => .float <$> exponentPart positive significand 0
  | _ =>
    if positive then
      if significand ≤ integerLimit then return .int significand
      else .float <$> doubleOf true significand 0
    else if significand = 0 then return .float (BinaryFloat.zero true)
    else if significand ≤ 2 ^ (63 : Nat) then return .int (-(significand : Int))
    else .float <$> doubleOf false significand 0

/-- A number, after its sign. A leading zero stands alone. -/
def readNumber (positive : Bool) : JsonRead Json := do
  match ← JsonRead.next? with
  | none => JsonRead.fail .eofWhileParsingValue
  | some '0' =>
    match ← JsonRead.peekDigit? with
    | some _ => JsonRead.failAhead .invalidNumber
    | none => integerEnd positive 0
  | some c =>
    if c.isDigit then integerEnd positive (digitsValue (c :: (← JsonRead.digits)))
    else JsonRead.fail .invalidNumber

/-! ## Strings -/

def hexDigit? (c : Char) : Option Nat :=
  if c.isDigit then some (c.toNat - '0'.toNat)
  else if 'a' ≤ c ∧ c ≤ 'f' then some (c.toNat - 'a'.toNat + 10)
  else if 'A' ≤ c ∧ c ≤ 'F' then some (c.toNat - 'A'.toNat + 10)
  else none

def hexQuad : JsonRead Nat := do
  let c ← get
  match c.rest with
  | a :: b :: d :: e :: rest =>
    set (⟨rest, c.offset + a.utf8Size + b.utf8Size + d.utf8Size + e.utf8Size⟩ : JsonCursor)
    match hexDigit? a, hexDigit? b, hexDigit? d, hexDigit? e with
    | some w, some x, some y, some z => pure (((w * 16 + x) * 16 + y) * 16 + z)
    | _, _, _, _ => JsonRead.fail .invalidEscape
  | rest =>
    set (⟨[], c.offset + (rest.map Char.utf8Size).sum⟩ : JsonCursor)
    JsonRead.fail .eofWhileParsingString

def isLeadingSurrogate (n : Nat) : Bool := 0xD800 ≤ n && n ≤ 0xDBFF
def isTrailingSurrogate (n : Nat) : Bool := 0xDC00 ≤ n && n ≤ 0xDFFF

/-- The character of a `\u` escape; a leading surrogate must be followed by an escaped
trailing one. -/
def unicodeEscape : JsonRead Char := do
  let n ← hexQuad
  if isTrailingSurrogate n then JsonRead.fail .loneLeadingSurrogateInHexEscape
  else if !isLeadingSurrogate n then return Char.ofNat n
  else
    let expect (c : Char) : JsonRead Unit := do
      match ← JsonRead.peek? with
      | none => JsonRead.fail .eofWhileParsingString
      | some d =>
        JsonRead.skip
        unless d == c do JsonRead.fail .unexpectedEndOfHexEscape
    expect '\\'
    expect 'u'
    let low ← hexQuad
    if isTrailingSurrogate low then
      return Char.ofNat (((n - 0xD800) * 0x400 + (low - 0xDC00)) + 0x10000)
    else JsonRead.fail .loneLeadingSurrogateInHexEscape

def escape : JsonRead Char := do
  match ← JsonRead.next? with
  | none => JsonRead.fail .eofWhileParsingString
  | some '"' => pure '"'
  | some '\\' => pure '\\'
  | some '/' => pure '/'
  | some 'b' => pure (Char.ofNat 8)
  | some 'f' => pure (Char.ofNat 12)
  | some 'n' => pure '\n'
  | some 'r' => pure '\r'
  | some 't' => pure '\t'
  | some 'u' => unicodeEscape
  | some _ => JsonRead.fail .invalidEscape

def stringChars : Nat → List Char → JsonRead String
  | 0, acc => pure (String.ofList acc.reverse)
  | fuel + 1, acc => do
    match ← JsonRead.next? with
    | none => JsonRead.fail .eofWhileParsingString
    | some '"' => pure (String.ofList acc.reverse)
    | some '\\' => do stringChars fuel ((← escape) :: acc)
    | some c =>
      if c.toNat < 0x20 then JsonRead.fail .controlCharacterWhileParsingString
      else stringChars fuel (c :: acc)

def readString : JsonRead String := do
  let fuel := (← get).rest.length + 1
  stringChars fuel []

/-! ## Values -/

/-- A field set in an object: a repeated name keeps its place and takes the new value. -/
def setField (fields : List (String × Json)) (name : String) (value : Json) :
    List (String × Json) :=
  if fields.any (·.1 == name) then fields.map fun f => if f.1 == name then (name, value) else f
  else fields ++ [(name, value)]

def listItems (item : JsonRead Json) : Nat → Bool → List Json → JsonRead (List Json)
  | 0, _, acc => pure acc.reverse
  | fuel + 1, first, acc => do
    let next ← match ← JsonRead.skipBlanks with
      | some ']' => do JsonRead.skip; return acc.reverse
      | some ',' => if first then pure (some ',') else do JsonRead.skip; JsonRead.skipBlanks
      | some c => if first then pure (some c) else JsonRead.failAhead .expectedListCommaOrEnd
      | none => JsonRead.failAhead .eofWhileParsingList
    match next with
    | some ']' => JsonRead.failAhead .trailingComma
    | some _ => listItems item fuel false ((← item) :: acc)
    | none => JsonRead.failAhead .eofWhileParsingValue

def objectFields (value : JsonRead Json) :
    Nat → Bool → List (String × Json) → JsonRead (List (String × Json))
  | 0, _, acc => pure acc
  | fuel + 1, first, acc => do
    let next ← match ← JsonRead.skipBlanks with
      | some '}' => do JsonRead.skip; return acc
      | some ',' => if first then pure (some ',') else do JsonRead.skip; JsonRead.skipBlanks
      | some c => if first then pure (some c) else JsonRead.failAhead .expectedObjectCommaOrEnd
      | none => JsonRead.failAhead .eofWhileParsingObject
    match next with
    | some '"' =>
      JsonRead.skip
      let name ← readString
      match ← JsonRead.skipBlanks with
      | some ':' => JsonRead.skip
      | some _ => JsonRead.failAhead .expectedColon
      | none => JsonRead.failAhead .eofWhileParsingObject
      objectFields value fuel false (setField acc name (← value))
    | some '}' => JsonRead.failAhead .trailingComma
    | some _ => JsonRead.failAhead .keyMustBeAString
    | none => JsonRead.failAhead .eofWhileParsingValue

/-- A value, after blanks; `depth` is how many more lists and objects may open. -/
def readValue : Nat → Nat → JsonRead Json
  | 0, _ => JsonRead.failAhead .recursionLimitExceeded
  | fuel + 1, depth => do
    match ← JsonRead.skipBlanks with
    | none => JsonRead.failAhead .eofWhileParsingValue
    | some 'n' => do JsonRead.skip; JsonRead.word ['u', 'l', 'l']; pure .null
    | some 't' => do JsonRead.skip; JsonRead.word ['r', 'u', 'e']; pure (.bool true)
    | some 'f' => do JsonRead.skip; JsonRead.word ['a', 'l', 's', 'e']; pure (.bool false)
    | some '-' => do JsonRead.skip; readNumber false
    | some '"' => do JsonRead.skip; .str <$> readString
    | some '[' =>
      if depth ≤ 1 then JsonRead.failAhead .recursionLimitExceeded
      else
        JsonRead.skip
        let rest := (← get).rest.length
        .arr <$> listItems (readValue fuel (depth - 1)) (rest + 1) true []
    | some '{' =>
      if depth ≤ 1 then JsonRead.failAhead .recursionLimitExceeded
      else
        JsonRead.skip
        let rest := (← get).rest.length
        .obj <$> objectFields (readValue fuel (depth - 1)) (rest + 1) true []
    | some c => if c.isDigit then readNumber true else JsonRead.failAhead .expectedSomeValue

/-- The line and column of a byte offset in a text: lines count from 1, and the column is the
number of bytes of the line before the offset. -/
def textPlace (text : List Char) (offset : Nat) : Nat × Nat :=
  let rec go : List Char → Nat → Nat → Nat → Nat × Nat
    | [], _, line, lineStart => (line, offset - lineStart)
    | c :: rest, here, line, lineStart =>
      if offset ≤ here then (line, offset - lineStart)
      else if c == '\n' then go rest (here + 1) (line + 1) (here + 1)
      else go rest (here + c.utf8Size) line lineStart
  go text 0 1 0

namespace JsonError

def message (text : String) (e : JsonError) : String :=
  let (line, column) := textPlace text.toList e.offset
  e.fault.text ++ " at line " ++ toString line ++ " column " ++ toString column

end JsonError

namespace Json

def parse (text : String) : Except JsonError Json :=
  let chars := text.toList
  let read : JsonRead Json := do
    let v ← readValue (2 * chars.length + 2) 128
    match ← JsonRead.skipBlanks with
    | some _ => JsonRead.failAhead .trailingCharacters
    | none => pure v
  (read.run ⟨chars, 0⟩).map (·.1)

end Json

end Schemata
