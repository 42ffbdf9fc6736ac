import QueryGate.Json.Writer
import QueryGate.Number.Reader
import QueryGate.Sql.Basic

/-!
# Scalars

A scalar is a single value that a request supplies: a text, a signed 64-bit
integer, a double or a truth value. It can be bound to a statement as it is, as
the text of a pattern, or as JSON.
-/

set_option autoImplicit false

namespace QueryGate

/-- A single value of a filter or a scope. -/
inductive Scalar where
  | text (value : String)
  | int (value : Int64)
  | float (value : Float)
  | bool (value : Bool)

namespace Scalar

/-- The scalar of a JSON value. Missing values, containers and integers beyond
the signed 64-bit words are none. -/
def ofJson? : Json → Option Scalar
  | .text value => some (text value)
  | .bool value => some (bool value)
  | .float value => some (float value)
  | .int value => (Number.int64? value).map int
  | _ => none

/-- The JSON value of a scalar; a float that is not finite has none of its own. -/
def toJson : Scalar → Json
  | text value => .text value
  | int value => .int value.toInt
  | float value => if value.isFinite then .float value else .null
  | bool value => .bool value

/-- The scalar as a bound value. -/
def toValue : Scalar → Sql.Value
  | text value => .text value
  | int value => .int value.toInt
  | float value => .float value
  | bool value => .bool value

/-- Floats in patterns are written without an exponent and without `.0`. -/
def floatLayout : Number.Layout := ⟨.up, none, false⟩

/-- The scalar as a text to match against. -/
def toText : Scalar → String
  | text value => value
  | int value => toString value.toInt
  | float value => floatLayout.text value
  | bool value => if value then "true" else "false"

end Scalar

end QueryGate
