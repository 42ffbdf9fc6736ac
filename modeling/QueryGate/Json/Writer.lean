import QueryGate.Json.Basic
import QueryGate.Number.Layout

/-!
# Writing JSON texts

The shortest text of a value: no blanks, the fields in their order. Inside
texts only the quotation mark, the backslash and the controls are escaped.
-/

set_option autoImplicit false

namespace QueryGate.Json

/-- Floats are written with a point between a hundred-thousandth and ten to the
sixteenth, where whole numbers end in `.0`, and with an exponent elsewhere. -/
def floatLayout : Number.Layout := ⟨.toEven, some (-5, 15), true⟩

/-- One character inside a text. -/
def writtenForm (character : Char) : List Char :=
  match character with
  | '\x22' => ['\x5C', '\x22']
  | '\x5C' => ['\x5C', '\x5C']
  | '\x08' => ['\x5C', 'b']
  | '\x0C' => ['\x5C', 'f']
  | '\n' => ['\x5C', 'n']
  | '\r' => ['\x5C', 'r']
  | '\t' => ['\x5C', 't']
  | other =>
      if other.toNat < 0x20 then
        ['\x5C', 'u', '0', '0', Nat.digitChar (other.toNat / 16), Nat.digitChar (other.toNat % 16)]
      else [other]

/-- A text between quotation marks. -/
def writeText (value : String) : String :=
  String.ofList ('\x22' :: value.toList.flatMap writtenForm ++ ['\x22'])

/-- A float; one that is not finite has no JSON form and is written as `null`. -/
def writeFloat (value : Float) : String :=
  if value.isFinite then floatLayout.text value else "null"

mutual

/-- The text of a value. -/
def write : Json → String
  | null => "null"
  | bool true => "true"
  | bool false => "false"
  | int value => toString value
  | float value => writeFloat value
  | text value => writeText value
  | array items => "[" ++ ",".intercalate (writeItems items) ++ "]"
  | object fields => "\x7b" ++ ",".intercalate (writeFields fields) ++ "\x7d"

/-- The texts of the items of an array. -/
def writeItems : List Json → List String
  | [] => []
  | item :: items => write item :: writeItems items

/-- The texts of the fields of an object. -/
def writeFields : List (String × Json) → List String
  | [] => []
  | (key, value) :: fields => (writeText key ++ ":" ++ write value) :: writeFields fields

end

end QueryGate.Json
