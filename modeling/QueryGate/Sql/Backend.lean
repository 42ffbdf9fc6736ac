import QueryGate.Sql.Basic

/-!
# Backends

What the three backends do differently. A `Backend` decides the marks of the
text (quotes, placeholders, the spelling of a backslash) and the forms that a
statement takes (dates, exact text matches, elements of JSON arrays).
-/

set_option autoImplicit false

namespace QueryGate.Sql

/-- A database that statements are written for. -/
inductive Backend where
  | sqlite
  | mysql
  | postgres
deriving DecidableEq, Repr

namespace Backend

/-- The mark around a name. -/
def quoteMark : Backend → Char
  | mysql => '\x60'
  | _ => '\x22'

/-- A name between quotes; a quote inside is written twice. -/
def quoteName (backend : Backend) (name : String) : String :=
  let mark := backend.quoteMark
  String.ofList
    (mark :: name.toList.flatMap (fun character =>
      if character = mark then [mark, mark] else [character]) ++ [mark])

/-- The placeholder of the value at a position, counted from one. -/
def placeholder (position : Nat) : Backend → String
  | postgres => "$" ++ toString position
  | _ => "?"

/-- A backslash as a text literal. -/
def backslashLiteral : Backend → String
  | sqlite => "'\\'"
  | mysql => "'\\\\'"
  | postgres => "E'\\\\'"

/-- The form in which dates are taken. -/
def dateForm : Backend → DateForm
  | postgres => .cast
  | _ => .call

/-- The form in which JSON arrays are asked for elements. -/
def containment : Backend → Containment
  | sqlite => .rows
  | mysql => .function
  | postgres => .operator

end Backend

end QueryGate.Sql
