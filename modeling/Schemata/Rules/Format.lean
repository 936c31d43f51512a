import Schemata.Text.Blank
import Schemata.Text.Quoted
import Schemata.Error

/-!
The written form of collections: brackets around, separators between.

Reading a collection first strips it: the text is trimmed, the brackets are removed (as a pair
when both are set, so a text with only one of them keeps it; a lone opening or closing bracket
when only that one is set), and the body is trimmed again. Splitting cuts the body at every
separator, and at every blank when blanks separate too; the pieces are trimmed and the empty
ones dropped.
-/

namespace Schemata

structure CollectionFormat where
  openMark : Option Char := some '['
  closeMark : Option Char := some ']'
  separators : List Char := [',']
  splitOnBlanks : Bool := true
  deriving DecidableEq, Repr

/-- The pieces of a list of characters between the characters that satisfy `cut`. -/
def cutWhere (cut : Char → Bool) : List Char → List (List Char)
  | [] => [[]]
  | c :: rest =>
    if cut c then [] :: cutWhere cut rest
    else
      match cutWhere cut rest with
      | first :: more => (c :: first) :: more
      | [] => [[c]]

namespace CollectionFormat

def dropLeading (mark : Char) : List Char → Option (List Char)
  | c :: rest => if c = mark then some rest else none
  | [] => none

def dropTrailing (mark : Char) (cs : List Char) : Option (List Char) :=
  (dropLeading mark cs.reverse).map List.reverse

/-- The body of a written collection. -/
def stripChars (f : CollectionFormat) (cs : List Char) : List Char :=
  let body := trimChars cs
  let bracketed := match f.openMark, f.closeMark with
    | some o, some c => (dropLeading o body).bind (dropTrailing c)
    | some o, none => dropLeading o body
    | none, some c => dropTrailing c body
    | none, none => none
  trimChars (bracketed.getD body)

def strip (f : CollectionFormat) (s : String) : String := String.ofList (f.stripChars s.toList)

def separates (f : CollectionFormat) (c : Char) : Bool :=
  f.separators.contains c || (f.splitOnBlanks && Char.isBlank c)

/-- The trimmed, non-empty pieces of a body. -/
def splitChars (f : CollectionFormat) (cs : List Char) : List (List Char) :=
  ((cutWhere f.separates cs).map trimChars).filter (!·.isEmpty)

def split (f : CollectionFormat) (s : String) : List String :=
  (f.splitChars s.toList).map String.ofList

def debug (f : CollectionFormat) : String :=
  let mark : Option Char → String := fun
    | some c => "Some(" ++ quoteChar c ++ ")"
    | none => "None"
  debugRecord "CollectionFormat"
    [("open", mark f.openMark), ("close", mark f.closeMark),
     ("separators", "[" ++ ", ".intercalate (f.separators.map quoteChar) ++ "]"),
     ("split_on_whitespace", if f.splitOnBlanks then "true" else "false")]

end CollectionFormat

end Schemata
