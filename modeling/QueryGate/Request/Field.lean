import QueryGate.Json.Basic
import QueryGate.Text.Segments
import QueryGate.Text.Word
import QueryGate.Violation

/-!
# Field names in requests

A field name is made of word characters, dots, dashes and the sign `>`, and the
arrow `->` of a path into a JSON column is not supported.
-/

set_option autoImplicit false

namespace QueryGate.Request

/-- Whether the character may stand in a field name. -/
def inFieldName (character : Char) : Bool :=
  Text.isWord character || ['.', '>', '-'].contains character

/-- Whether a text is made of the characters of field names, at least one. -/
def isFieldName (text : String) : Bool :=
  !text.toList.isEmpty && text.toList.all inFieldName

/-- The field name under the key `field` of the object at a place. -/
def fieldName (place : Place) (whenMissing : Reason) (fields : List (String × Json)) :
    Validated String :=
  let fieldPlace := place ++ [.key "field"]
  match Json.present? "field" fields with
  | none => .reject fieldPlace whenMissing
  | some (.text name) =>
      if Text.occursIn ['-', '>'] name.toList then .reject fieldPlace .structuredPath
      else if isFieldName name then .valid name
      else .reject fieldPlace .malformedField
  | some _ => .reject fieldPlace (.notText "field")

end QueryGate.Request
