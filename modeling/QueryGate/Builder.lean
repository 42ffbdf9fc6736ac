import QueryGate.Build.Filters
import QueryGate.Build.Search
import QueryGate.Build.Sorting
import QueryGate.Operation
import QueryGate.Page
import QueryGate.Request.Body
import QueryGate.Resource

/-!
# Building statements

A builder turns the queries on one resource into restrictions, joins and orders
of the host's own statement. A list goes through every stage in a fixed order:
scopes, filters, search, orders, and last the visibility of deleted rows. The
other operations regard only the last one. Every stage adds to the statement
what it makes as one more conjunct, so no `OR` of a request reaches beyond its
own stage, and the first failure of a stage is the failure of the build.
-/

set_option autoImplicit false

namespace QueryGate

/-- What builds statements for one resource. -/
structure Builder where
  resource : Resource
  backend : Sql.Backend
  pivot : Option PivotTable := none

namespace Builder

/-- The context of a build. -/
def context (builder : Builder) : Context :=
  { backend := builder.backend
    root := builder.resource.model
    catalog := builder.resource.catalog
    pivot := builder.pivot }

/-- The query that a request body asks for. -/
def parse (builder : Builder) (body : Json) : Except Failure Query :=
  Request.parse builder.resource.whitelist builder.resource.config body

/-- The page that a request body asks for. -/
def paginate (builder : Builder) (body : Json) : Page :=
  Page.ofRequest body builder.resource.defaultLimit builder.resource.config.maxLimit

/-- The statement restricted by scopes. -/
def applyScopes (builder : Builder) (calls : List ScopeCall) (select : Sql.Select) :
    Except Failure Sql.Select :=
  (scopeGroup builder.resource.scopes calls).map select.restrict?

/-- The statement restricted by filters. -/
def applyFilters (builder : Builder) (filters : List Filter) (select : Sql.Select) :
    Except Failure Sql.Select :=
  (filterGroup builder.context filters).map select.restrict?

/-- The statement restricted by a search. -/
def applySearch (builder : Builder) (term : SearchTerm) (select : Sql.Select) :
    Outcome Sql.Select := do
  let group ← searchGroup builder.context builder.resource.whitelist.searchable term
  return select.restrict? group

/-- The statement restricted by a search, if one is asked for. -/
def applySearch? (builder : Builder) (term : Option SearchTerm) (select : Sql.Select) :
    Outcome Sql.Select :=
  match term with
  | none => return select
  | some term => builder.applySearch term select

/-- The statement in the orders of a query. -/
def applySorting (builder : Builder) (keys : List SortKey) (select : Sql.Select) :
    Outcome Sql.Select :=
  let (plan, failure) := sortPlan builder.context keys
  ⟨plan.events,
    match failure with
    | none => .ok (plan.apply builder.resource.model.table select)
    | some failure => .error failure⟩

/-- The condition that a visibility puts on the column of deletion. -/
def visibilityCondition? (model : Model) (visibility : Trashed) : Option Sql.Condition :=
  match model.softDelete, visibility with
  | none, _ => none
  | some _, .included => none
  | some column, .excluded => some (.isNull false (.column ⟨model.table, column⟩))
  | some column, .only => some (.isNull true (.column ⟨model.table, column⟩))

/-- The statement restricted to the rows that a visibility allows. -/
def applyVisibility (builder : Builder) (visibility : Trashed) (select : Sql.Select) :
    Sql.Select :=
  match visibilityCondition? builder.resource.model visibility with
  | none => select
  | some condition => select.restrictBy condition

/-- Whether the resource marks deleted rows, so that visibility has a meaning. -/
def hasVisibility (builder : Builder) : Bool :=
  builder.resource.model.softDelete.isSome

/-- The event that a stage is reached. -/
def reach (builder : Builder) (operation : Operation) (milestone : Milestone) : Outcome Unit :=
  .emit (.reached builder.resource.model.table operation.text milestone)

/-- The stages of a list before the visibility of deleted rows. -/
def applyListStages (builder : Builder) (query : Query) (operation : Operation)
    (select : Sql.Select) : Outcome Sql.Select := do
  let restricted ← Outcome.ofResult (builder.applyScopes query.scopes select)
  builder.reach operation .scopesApplied
  let filtered ← Outcome.ofResult (builder.applyFilters query.filters restricted)
  builder.reach operation .filtersApplied
  let searched ← builder.applySearch? query.search filtered
  builder.reach operation .searchApplied
  let sorted ← builder.applySorting query.sorting searched
  builder.reach operation .sortApplied
  return sorted

/-- The statement of the host with everything that a query asks for. -/
def build (builder : Builder) (query : Query) (operation : Operation) (select : Sql.Select) :
    Outcome Sql.Select := do
  builder.reach operation .start
  let listed ←
    if operation.isList then builder.applyListStages query operation select else pure select
  let visible := builder.applyVisibility (operation.trashed query.trashed) listed
  builder.reach operation .softDeleteApplied
  builder.reach operation .done
  return visible

/-- The statement of the host with everything that a request body asks for. -/
def serve (builder : Builder) (body : Json) (operation : Operation) (select : Sql.Select) :
    Outcome Sql.Select := do
  let query ← Outcome.ofResult (builder.parse body)
  builder.build query operation select

end Builder

end QueryGate
