import QueryGate.Text.Ranges

/-!
# Blank characters

The twenty-five characters with the property White_Space, and the removal of
them from both ends of a text.
-/

set_option autoImplicit false

namespace QueryGate.Text

/-- The characters with the property White_Space. -/
def blankRanges : Ranges := [
  (0x9, 0xD), (0x20, 0x20), (0x85, 0x85), (0xA0, 0xA0), (0x1680, 0x1680),
  (0x2000, 0x200A), (0x2028, 0x2029), (0x202F, 0x202F), (0x205F, 0x205F), (0x3000, 0x3000)]

/-- Whether the character is blank. -/
def isBlank (character : Char) : Bool :=
  blankRanges.contains character

/-- The characters between the first and the last one that is not blank. -/
def trimBlanks (characters : List Char) : List Char :=
  ((characters.dropWhile isBlank).reverse.dropWhile isBlank).reverse

end QueryGate.Text
