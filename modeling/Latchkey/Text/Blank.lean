/-
White space in the sense of the Unicode property White_Space: 25 characters, the no-break spaces
among them, but not the byte order mark.
-/
import Latchkey.Text.Ranges

namespace Latchkey.Text

/-- The ranges of White_Space, ends included. -/
def blankRanges : List (Nat × Nat) :=
  [(0x9, 0xD), (0x20, 0x20), (0x85, 0x85), (0xA0, 0xA0), (0x1680, 0x1680), (0x2000, 0x200A),
   (0x2028, 0x2029), (0x202F, 0x202F), (0x205F, 0x205F), (0x3000, 0x3000)]

def isBlankChar (c : Char) : Bool := isWithin blankRanges c

/-- Whether a text is empty or white space only. -/
def isBlank (s : String) : Bool := s.toList.all isBlankChar

/-- A text without the white space at its ends. -/
def trim (s : String) : String :=
  String.ofList (((s.toList.dropWhile isBlankChar).reverse.dropWhile isBlankChar).reverse)

end Latchkey.Text
