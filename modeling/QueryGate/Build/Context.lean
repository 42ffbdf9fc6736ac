import QueryGate.Model.Path
import QueryGate.Sql.Backend

/-!
# The context of a build

What the conditions and orders of a query are built against: the backend, the
root model with the catalog of the models its relations reach, and the pivot
table when the rows are listed through one.
-/

set_option autoImplicit false

namespace QueryGate

/-- What a query is built against. -/
structure Context where
  backend : Sql.Backend
  root : Model
  catalog : Catalog
  pivot : Option PivotTable := none

/-- The hops along a relation path from the root model. -/
def Context.resolve (context : Context) (path : String) : Except Failure (List Hop) :=
  context.catalog.resolve context.root path

end QueryGate
