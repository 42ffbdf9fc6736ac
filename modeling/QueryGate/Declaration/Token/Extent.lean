import QueryGate.Text.Blank

/-!
# Extents of words, numbers and comments

How many characters a lexeme takes at the front of a text. Beyond the first 128
characters, every one that leaves no gap is a letter. A number is digits, maybe
a fraction and an exponent, and a word that follows without a gap and names its
kind. A comment runs to the end of the line, or to the mark that closes it, and
comments of the second kind nest.
-/

set_option autoImplicit false

namespace QueryGate.Extent

/-- Whether a character leaves a gap: it is blank, or a mark of the direction of
writing. -/
def isGap (character : Char) : Bool :=
  Text.isBlank character || character == '\u200E' || character == '\u200F'

/-- Whether a character may stand in a word. -/
def inWord (character : Char) : Bool :=
  if character.toNat < 128 then character.isAlphanum || character == '_' else !isGap character

/-- Whether a character may begin a word. -/
def beginsWord (character : Char) : Bool :=
  inWord character && !character.isDigit

/-- Whether a character may stand among the digits of a number. -/
def inDigits (character : Char) : Bool :=
  character.isDigit || character == '_'

/-- The number of characters at the front of a text that have a property. -/
def run (property : Char → Bool) (characters : List Char) : Nat :=
  (characters.takeWhile property).length

/-- The extent of a word. The mark `r#` in front of a word belongs to it. -/
def word : List Char → Nat
  | 'r' :: '#' :: rest =>
      if rest.head?.any beginsWord then 2 + run inWord rest else 1
  | characters => run inWord characters

/-- The extent of the word that follows a literal without a gap. -/
def kind (characters : List Char) : Nat :=
  if characters.head?.any beginsWord then run inWord characters else 0

/-! ## Numbers -/

/-- The extent of a fraction. A point before a word or another point is not part
of the number. -/
def fraction : List Char → Nat
  | '.' :: rest =>
      if rest.head?.any fun next => next == '.' || beginsWord next then 0
      else 1 + run inDigits rest
  | _ => 0

/-- The extent of an exponent after its letter, which needs a digit. -/
def power (characters : List Char) : Nat :=
  let gap := run (· == '_') characters
  let signed := characters.drop gap
  let sign := if signed.head?.any fun next => next == '+' || next == '-' then 1 else 0
  let digits := (signed.drop sign).takeWhile inDigits
  if digits.any Char.isDigit then gap + sign + digits.length else 0

/-- The extent of an exponent. -/
def exponent : List Char → Nat
  | letter :: rest =>
      if (letter == 'e' || letter == 'E') && 0 < power rest then 1 + power rest else 0
  | [] => 0

/-- The extent of a number. -/
def number (characters : List Char) : Nat :=
  let whole := run inDigits characters
  let fractional := whole + fraction (characters.drop whole)
  let scaled := fractional + exponent (characters.drop fractional)
  scaled + kind (characters.drop scaled)

/-! ## Comments -/

/-- The extent of what follows the opening mark of a comment, when as many
comments inside it are open as `depth` says. -/
def nested : Nat → List Char → Nat
  | depth, '/' :: '*' :: rest => 2 + nested (depth + 1) rest
  | 0, '*' :: '/' :: _ => 2
  | depth + 1, '*' :: '/' :: rest => 2 + nested depth rest
  | depth, _ :: rest => 1 + nested depth rest
  | _, [] => 0

/-- The extent of a comment, if one stands at the front. -/
def comment? : List Char → Option Nat
  | '/' :: '/' :: rest => some (2 + run (· != '\n') rest)
  | '/' :: '*' :: rest => some (2 + nested 0 rest)
  | _ => none

/-- Whether a comment documents what holds it. -/
def isInnerNote : List Char → Bool
  | '/' :: '/' :: '!' :: _ => true
  | '/' :: '*' :: '!' :: _ => true
  | _ => false

/-- Whether a comment documents what follows it. -/
def isOuterNote : List Char → Bool
  | '/' :: '/' :: '/' :: rest => rest.head? != some '/'
  | '/' :: '*' :: '*' :: rest => rest.head? != some '*' && rest.head? != some '/'
  | _ => false

end QueryGate.Extent
