import QueryGate.Text.WordTable

/-!
# Word characters

A word character is a letter, a mark, a decimal digit, a connector punctuation
such as the underscore, or a join control. Below U+0080 these are the ASCII
letters and digits and the underscore; from there on a table decides.
-/

set_option autoImplicit false

namespace QueryGate.Text

/-- Whether the character may stand in a word. -/
def isWord (character : Char) : Bool :=
  if character.toNat < 0x80 then character.isAlphanum || character == '_'
  else wordRanges.contains character

end QueryGate.Text
