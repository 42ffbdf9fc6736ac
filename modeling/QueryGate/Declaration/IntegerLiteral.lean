import QueryGate.Declaration.Fault

/-!
# Integer literals of declarations

A number literal is an optional minus, an optional mark of the radix (`0x`, `0o`
or `0b`), digits with underscores between them, and a suffix that names its kind
and is not regarded. It is an integer unless a point or an exponent follows
decimal digits. A page size is a positive integer that fits an unsigned 64-bit
word.
-/

set_option autoImplicit false

namespace QueryGate.IntegerLiteral

/-- The radix that a literal is written in, and what follows its mark. -/
def takeRadix : List Char → Nat × List Char
  | '0' :: 'x' :: rest => (16, rest)
  | '0' :: 'o' :: rest => (8, rest)
  | '0' :: 'b' :: rest => (2, rest)
  | characters => (10, characters)

/-- The value of a digit in a radix. -/
def digit? (radix : Nat) (character : Char) : Option Nat :=
  let value? :=
    if '0' ≤ character ∧ character ≤ '9' then some (character.toNat - '0'.toNat)
    else if 'a' ≤ character ∧ character ≤ 'f' then some (character.toNat - 'a'.toNat + 10)
    else if 'A' ≤ character ∧ character ≤ 'F' then some (character.toNat - 'A'.toNat + 10)
    else none
  value?.filter (· < radix)

/-- Whether an exponent stands at the front: a sign or a digit, maybe after
underscores. -/
def startsExponent (characters : List Char) : Bool :=
  (characters.dropWhile (· == '_')).head?.any fun character =>
    character == '+' || character == '-' || character.isDigit

/-- Whether a character that is no digit makes decimal digits before it a real
number: a point, or the letter of an exponent. -/
def isFractional (character : Char) (rest : List Char) : Bool :=
  character == '.' || ((character == 'e' || character == 'E') && startsExponent rest)

/-- The number that the digits at the front spell, read on from `start`, or none
when they begin a real number. -/
def magnitude? (radix start : Nat) : List Char → Option Nat
  | [] => some start
  | '_' :: rest => magnitude? radix start rest
  | character :: rest =>
      match digit? radix character with
      | some value => magnitude? radix (radix * start + value) rest
      | none => if radix = 10 ∧ isFractional character rest then none else some start

/-- The page size that a number literal spells. -/
def pageLimit (written : List Char) : Except DeclarationFault UInt64 :=
  let negative := written.head? == some '-'
  let (radix, digits) := takeRadix (if negative then written.tail else written)
  match magnitude? radix 0 digits with
  | none => .error .unknownSetting
  | some value =>
      if negative then .error .limitInvalid
      else if UInt64.size ≤ value then .error .limitTooLarge
      else if value = 0 then .error .limitNotPositive
      else .ok (UInt64.ofNat value)

end QueryGate.IntegerLiteral
