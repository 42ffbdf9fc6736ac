import QueryGate.Text.UnprintableTable

/-!
# Quoted texts

A text between quotation marks with every character visible. The quotation mark
and the backslash are escaped by a backslash, four controls have a short form,
and every other character without a printed form of its own is spelt by its
number in lower-case hexadecimal digits.
-/

set_option autoImplicit false

namespace QueryGate.Text

/-- The hexadecimal digits of a number, without leading zeros. -/
def hexDigits (number : Nat) : List Char :=
  Nat.toDigits 16 number

/-- One character inside quotation marks. -/
def quotedForm (character : Char) : List Char :=
  match character with
  | '\x00' => ['\x5C', '0']
  | '\t' => ['\x5C', 't']
  | '\r' => ['\x5C', 'r']
  | '\n' => ['\x5C', 'n']
  | '\x22' => ['\x5C', '\x22']
  | '\x5C' => ['\x5C', '\x5C']
  | other =>
      if unprintableRanges.contains other then
        "\\u\x7b".toList ++ hexDigits other.toNat ++ ['}']
      else [other]

/-- The text between quotation marks. -/
def quoted (text : String) : String :=
  String.ofList ('\x22' :: text.toList.flatMap quotedForm ++ ['\x22'])

end QueryGate.Text
