/-!
Blank characters and trimming.

A blank is a character with the Unicode `White_Space` property: the ASCII tab, line feed,
vertical tab, form feed, carriage return and space, the next line U+0085, the no-break space,
the Ogham space mark, the spaces U+2000 to U+200A, the line and paragraph separators, the
narrow no-break space, the medium mathematical space and the ideographic space. Trimming removes
blanks from both ends of a text.
-/

namespace Schemata

/-- The ranges of code points with the `White_Space` property. -/
def blankRanges : List (Nat × Nat) :=
  [(0x9, 0xD), (0x20, 0x20), (0x85, 0x85), (0xA0, 0xA0), (0x1680, 0x1680), (0x2000, 0x200A),
   (0x2028, 0x2029), (0x202F, 0x202F), (0x205F, 0x205F), (0x3000, 0x3000)]

def Char.isBlank (c : Char) : Bool := blankRanges.any fun r => r.1 ≤ c.toNat && c.toNat ≤ r.2

def dropBlanks (cs : List Char) : List Char := cs.dropWhile (Char.isBlank ·)

def trimChars (cs : List Char) : List Char := (dropBlanks (dropBlanks cs).reverse).reverse

def trimBlanks (s : String) : String := String.ofList (trimChars s.toList)

end Schemata
