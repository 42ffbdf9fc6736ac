import QueryGate.Query.Basic

/-!
# The shape of a query

Erasing a query puts one and the same scalar in place of every scalar of its filters, and
an empty term in place of the term of its search. What is left is its shape: the filter
trees with their combinators, fields and operators, whether each test has no value, a
single one or a list, and how long the list is; the orders, the visibility, the scopes
with their parameters, and whether there is a search and whether case counts in it.
-/

set_option autoImplicit false

namespace QueryGate

/-- The scalar that stands for every scalar. -/
def Scalar.standIn : Scalar := .text ""

/-- The value with every scalar erased. -/
def FilterValue.erased : FilterValue → FilterValue
  | .null => .null
  | .scalar _ => .scalar .standIn
  | .list values => .list (values.map fun _ => .standIn)

/-- The test with its value erased. -/
def FieldTest.erased (test : FieldTest) : FieldTest :=
  { test with value := test.value.erased }

namespace Filter

mutual

/-- The filter with the values of its tests erased. -/
def erased : Filter → Filter
  | .test combinator fieldTest => .test combinator fieldTest.erased
  | .group combinator members => .group combinator (listErased members)

/-- The filter list with the values of its tests erased. -/
def listErased : List Filter → List Filter
  | [] => []
  | filter :: filters => filter.erased :: listErased filters

end

theorem combinator_erased (filter : Filter) : filter.erased.combinator = filter.combinator := by
  cases filter <;> simp only [erased, combinator]

end Filter

/-- The search with its term erased. -/
def SearchTerm.erased (term : SearchTerm) : SearchTerm :=
  { term with value := "" }

/-- The query with every scalar of its filters and the term of its search erased. -/
def Query.erased (query : Query) : Query :=
  { query with
    filters := Filter.listErased query.filters
    search := query.search.map SearchTerm.erased }

/-- The queries differ at most in the scalars of their filters and in the term of their
search. -/
def Query.SameShape (first second : Query) : Prop :=
  first.erased = second.erased

end QueryGate
