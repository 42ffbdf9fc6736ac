import QueryGate.Query.Filter

/-!
# Queries

What a list request asks for once its body has been checked: scopes by name,
a filter list, a search term, orders, and which deleted rows it may see. A
query carries no table and no column, only paths that a resource gives a
meaning to.
-/

set_option autoImplicit false

namespace QueryGate

/-- The word for a direction in a request. -/
def Sql.Direction.text : Sql.Direction → String
  | ascending => "asc"
  | descending => "desc"

/-- The directions in the words of a request, in any case. -/
def Sql.Direction.ofText? (word : String) : Option Sql.Direction :=
  match String.ofList (word.toList.map Char.toLower) with
  | "asc" => some .ascending
  | "desc" => some .descending
  | _ => none

/-- An order by one field. -/
structure SortKey where
  field : String
  direction : Sql.Direction
deriving DecidableEq, Repr

/-- A scope with its parameters. -/
structure ScopeCall where
  name : String
  parameters : List Json

/-- A search term, and whether case counts. -/
structure SearchTerm where
  value : String
  caseSensitive : Bool
deriving DecidableEq, Repr

/-- Which deleted rows a query may see. -/
inductive Trashed where
  /-- None. -/
  | excluded
  /-- All, beside the rows that are not deleted. -/
  | included
  /-- All, and no others. -/
  | only
deriving DecidableEq, Repr, Inhabited

/-- The visibility that two flags ask for; the one that includes wins. -/
def Trashed.ofFlags (withTrashed onlyTrashed : Bool) : Trashed :=
  if withTrashed then included else if onlyTrashed then only else excluded

/-- What a list request asks for. -/
structure Query where
  scopes : List ScopeCall := []
  filters : List Filter := []
  search : Option SearchTerm := none
  sorting : List SortKey := []
  trashed : Trashed := .excluded

end QueryGate
