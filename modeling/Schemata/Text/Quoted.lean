import Schemata.Text.Printable

/-!
Texts and characters in quotes, as debugging output shows them.

Inside the quotes a character stands for itself unless it must be escaped: the NUL, tab,
carriage return and line feed become `\0`, `\t`, `\r`, `\n`; the backslash and the quote mark
in use are preceded by a backslash (the other quote mark is left alone); a character that
extends the grapheme before it or is not printable becomes `\u` followed by its code point in
lower-case hexadecimal, without leading zeros, in braces.
-/

namespace Schemata

/-- The quote mark around a quoted text: double for texts, single for characters. -/
inductive QuoteMark where
  | single
  | double
  deriving DecidableEq, Repr

namespace QuoteMark

def char : QuoteMark → Char
  | .single => '\''
  | .double => '"'

end QuoteMark

/-- The escape of a character as its code point: `\u`, then the lower-case hexadecimal digits
in braces. -/
def codePointEscape (c : Char) : List Char :=
  ['\\', 'u', '\x7b'] ++ Nat.toDigits 16 c.toNat ++ ['\x7d']

/-- How a character is written between quotes `q`. -/
def escapeChar (q : QuoteMark) (c : Char) : List Char :=
  if c = '\x00' then ['\\', '0']
  else if c = '\t' then ['\\', 't']
  else if c = '\r' then ['\\', 'r']
  else if c = '\n' then ['\\', 'n']
  else if c = '\\' then ['\\', '\\']
  else if c = q.char then ['\\', c]
  else if Char.extendsGrapheme c || !Char.isPrintable c then codePointEscape c
  else [c]

def quoteText (s : String) : String :=
  String.ofList ('"' :: s.toList.flatMap (escapeChar .double) ++ ['"'])

def quoteChar (c : Char) : String :=
  String.ofList ('\'' :: escapeChar .single c ++ ['\''])

end Schemata
