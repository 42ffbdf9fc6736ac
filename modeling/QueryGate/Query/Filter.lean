import QueryGate.Query.Operator
import QueryGate.Query.Scalar

/-!
# Filters

A filter tests a field against a value, or groups further filters. The siblings
of a list are joined by their combinators with the precedence of SQL, so
`a, or b, c` means `a OR (b AND c)`.
-/

set_option autoImplicit false

namespace QueryGate

/-- How a filter joins the one before it. -/
inductive Combinator where
  | and
  | or
deriving DecidableEq, Repr, Inhabited

namespace Combinator

/-- The word for the combinator in a request. -/
def text : Combinator → String
  | and => "and"
  | or => "or"

/-- The combinator of a word. -/
def ofText? (word : String) : Option Combinator :=
  if word = "and" then some and else if word = "or" then some or else none

end Combinator

/-- The right-hand side of a filter. -/
inductive FilterValue where
  | null
  | scalar (value : Scalar)
  | list (values : List Scalar)

/-- A test of one field. -/
structure FieldTest where
  field : String
  operator : Operator
  value : FilterValue

/-- A filter: a test, or a group of filters. -/
inductive Filter where
  | test (combinator : Combinator) (test : FieldTest)
  | group (combinator : Combinator) (members : List Filter)

namespace Filter

/-- How the filter joins the one before it. -/
def combinator : Filter → Combinator
  | test combinator _ => combinator
  | group combinator _ => combinator

mutual

/-- How many groups lie around the innermost filter, counting empty groups. -/
def depth : Filter → Nat
  | test _ _ => 0
  | group _ members => 1 + listDepth members

/-- The greatest depth in a list, zero for the empty one. -/
def listDepth : List Filter → Nat
  | [] => 0
  | filter :: filters => max filter.depth (listDepth filters)

end

end Filter

end QueryGate
